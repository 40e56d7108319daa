import Testbed.Proofs.Blueprint
import Testbed.Proofs.Reachable
import Testbed.Proofs.Renaming
import Testbed.Proofs.Turn.Inject

namespace Testbed

/-!
# What a clone registers

A clone first registers a copy of an instance and then, one by one, copies of its sidecars, and asks
for a cluster name before each of them. Nothing is taken back when a name is refused or taken. So a
clone that fails leaves everything as it was only if it got no further than its first name; after that
the copy stays, with the sidecars that it has got so far.
-/

/-- What a clone makes of a sidecar for a copy of its parent. -/
def Instance.follower (source : Instance) (leader id : InstanceId) (clusterName : String) : Instance :=
  { source.duplicate id source.name clusterName with parent := some leader }

/-- Whether an instance is what a clone makes of a sidecar for a copy of its parent. -/
def Instance.Follows (source : Instance) (leader : InstanceId) (follower : Instance) : Prop :=
  ∃ id clusterName, follower = source.follower leader id clusterName

namespace Registry

variable {registry : Registry} {copy follower workload : Instance} {followers : List Instance}
  {id : InstanceId}

/-- A registry that a copy has joined, and after it the copies of its sidecars. -/
def withCopies (registry : Registry) (copy : Instance) (followers : List Instance) : Registry :=
  ⟨registry.instances ++ { copy with sidecars := followers.map Instance.id } :: followers⟩

theorem get?_withCopies (found : registry.get? id = some workload) :
    (registry.withCopies copy followers).get? id = some workload := by
  have within : id.index < registry.instances.length := lt_of_get? found
  exact (List.getElem?_append_left within).trans found

theorem get?_withCopies_nextId :
    (registry.withCopies copy followers).get? registry.nextId =
      some { copy with sidecars := followers.map Instance.id } := by
  have behind : registry.instances.length ≤ registry.nextId.index := Nat.le_refl _
  rw [withCopies, get?, List.getElem?_append_right behind, nextId, Nat.sub_self]
  rfl

theorem withCopies_ne : registry.withCopies copy followers ≠ registry := by
  intro same
  have found : (registry.withCopies copy followers).get? registry.nextId = some _ :=
    get?_withCopies_nextId
  rw [same, get?_nextId] at found
  cases found

/-- Whoever joins with a copy is the copy or follows it. -/
theorem mem_withCopies (joined : (registry.withCopies copy followers).get? id = some workload)
    (new : registry.get? id = none) :
    workload = { copy with sidecars := followers.map Instance.id } ∨ workload ∈ followers := by
  have behind : registry.instances.length ≤ id.index := List.getElem?_eq_none_iff.mp new
  rw [withCopies, get?, List.getElem?_append_right behind] at joined
  exact List.mem_cons.mp (List.mem_of_getElem? joined)

/-- One more copy of a sidecar joins and is listed. -/
theorem update_add_withCopies {grown : Registry}
    (joined : (registry.withCopies copy followers).add follower = .ok grown) :
    grown.update registry.nextId (fun current =>
      { current with sidecars := current.sidecars ++ [follower.id] }) =
      registry.withCopies copy (followers ++ [follower]) := by
  rcases add_eq_ok_iff.mp joined with ⟨_, rfl⟩
  rw [withCopies, withCopies, update, nextId, List.append_assoc, List.modify_eq_take_drop,
    List.take_left, List.drop_left, List.cons_append, List.modifyHead_cons, List.map_append]
  rfl

/-- What a clone has registered when it ends, be it with a value or with an error. -/
structure Clones (before : Registry) (id : InstanceId) (name : String) (source : Instance)
    (members : List Instance) (copy : Instance) (followers : List Instance) (after : Registry) :
    Prop where
  found : before.get? id = some source
  committed : source.state = .committed
  sidecars : source.sidecars.mapM before.find = .ok members
  copied : ∃ clusterName, copy = source.duplicate before.nextId name clusterName
  /-- The sidecars are copied in their order. -/
  followed : List.Forall₂ (Instance.Follows · before.nextId ·) (members.take followers.length) followers
  after_eq : after = before.withCopies copy followers

theorem Clones.length_members {before after : Registry} {name : String} {source : Instance}
    {members : List Instance} (clones : before.Clones id name source members copy followers after) :
    members.length = source.sidecars.length := by
  have length {ids : List InstanceId} {members : List Instance}
      (collected : ids.mapM before.find = .ok members) : members.length = ids.length := by
    induction ids generalizing members with
    | nil =>
        obtain rfl : [] = members := Except.ok.inj collected
        rfl
    | cons first rest inductionHypothesis =>
        rcases mapM_find_cons.mp collected with ⟨head, tail, _, gathered, rfl⟩
        exact congrArg Nat.succ (inductionHypothesis gathered)
  exact length clones.sidecars

end Registry

namespace Action

variable {setup : Setup} {before after : Registry} {events : List Event} {id : InstanceId}
  {name : String}

/-- How many copies have been made of how many that are wanted, and how many names were asked for. Only
a name that is refused or taken keeps a copy from being made. -/
def CountsCopies (wanted made asked : Nat) (succeeded : Bool) : Prop :=
  succeeded = true ∧ made = wanted ∧ asked = made ∨
    succeeded = false ∧ made < wanted ∧ asked = made + 1

theorem CountsCopies.succ {wanted made asked : Nat} {succeeded : Bool}
    (counts : CountsCopies wanted made asked succeeded) :
    CountsCopies (wanted + 1) (made + 1) (asked + 1) succeeded := by
  rcases counts with ⟨ended, whole, asked⟩ | ⟨failed, short, asked⟩
  · exact Or.inl ⟨ended, congrArg Nat.succ whole, congrArg Nat.succ asked⟩
  · exact Or.inr ⟨failed, Nat.succ_lt_succ short, congrArg Nat.succ asked⟩

/-- An action with another value has the same courses. -/
theorem course_bind_pure {action : Action α} {value : β} {result : Except Error β}
    (course : Course setup (action >>= fun _ => pure value) before events result after) :
    ∃ ended, Course setup action before events ended after ∧ result = ended.map fun _ => value := by
  rcases course_bind.mp course with
    ⟨error, rfl, stopped⟩ | ⟨_, middle, earlier, later, rfl, started, done⟩
  · exact ⟨.error error, stopped, rfl⟩
  · rcases course_pure.mp done with ⟨rfl, rfl, rfl⟩
    rw [List.append_nil]
    exact ⟨_, started, rfl⟩

theorem course_copySidecars {copy : Instance} {followers : List Instance}
    {sources : List InstanceId} {members : List Instance} {result : Except Error Unit}
    (collected : sources.mapM before.find = .ok members)
    (course : Course setup (copySidecars before.nextId sources) (before.withCopies copy followers)
      events result after) :
    ∃ joined, after = before.withCopies copy (followers ++ joined) ∧
      List.Forall₂ (Instance.Follows · before.nextId ·) (members.take joined.length) joined ∧
      CountsCopies members.length joined.length events.length result.isOk := by
  induction sources generalizing members followers events with
  | nil =>
      obtain rfl : [] = members := Except.ok.inj collected
      rcases course_pure.mp course with ⟨rfl, rfl, rfl⟩
      exact ⟨[], by rw [List.append_nil], .nil, Or.inl ⟨rfl, rfl, rfl⟩⟩
  | cons sidecar sources inductionHypothesis =>
      rcases Registry.mapM_find_cons.mp collected with ⟨member, members, there, gathered, rfl⟩
      have located : find sidecar setup (before.withCopies copy followers) =
          .done (.ok member, before.withCopies copy followers) := by
        rw [find_eq, Registry.find_eq_ok_iff.mpr (Registry.get?_withCopies there)]
      rw [copySidecars, Course, bind_of_done located] at course
      rcases course_register_bind (fun id clusterName =>
          member.follower before.nextId id clusterName) course with
        ⟨error, reply, rfl, rfl, same, _⟩ | ⟨clusterName, grown, later, rfl, joined, onward⟩
      · subst same
        exact ⟨[], by rw [List.append_nil], .nil, Or.inr ⟨rfl, Nat.succ_pos _, rfl⟩⟩
      obtain ⟨follower, follows, listed⟩ : ∃ follower, member.Follows before.nextId follower ∧
          Course setup (copySidecars before.nextId sources)
            (before.withCopies copy (followers ++ [follower])) later result after := by
        refine ⟨member.follower before.nextId (before.withCopies copy followers).nextId clusterName,
          ⟨_, clusterName, rfl⟩, ?_⟩
        rw [← Registry.update_add_withCopies joined]
        exact course_update_bind.mp onward
      rcases inductionHypothesis gathered listed with ⟨rest, rfl, followed, counted⟩
      refine ⟨follower :: rest, ?_, .cons follows followed, counted.succ⟩
      rw [List.append_assoc, List.singleton_append]

/-- A clone is refused before anybody has joined, or a copy joins and gets sidecars. -/
theorem course_cloneWithName {result : Except Error InstanceId} (linked : before.WellLinked)
    (course : Course setup (cloneWithName id name) before events result after) :
    ((∃ error, result = .error error) ∧ events.length ≤ 1 ∧ after = before) ∨
      ∃ source members copy followers,
        before.Clones id name source members copy followers after ∧
        CountsCopies (members.length + 1) (followers.length + 1) events.length result.isOk ∧
        ∀ value, result = .ok value → value = before.nextId := by
  rcases course_guarded_bind.mp course with
    ⟨error, _, rfl, rfl, rfl⟩ | ⟨source, ⟨found, permitted⟩, guarding⟩
  · exact Or.inl ⟨⟨error, rfl⟩, Nat.zero_le _, rfl⟩
  have committed : source.state = .committed := List.mem_singleton.mp permitted
  rcases course_bind.mp guarding with
    ⟨error, rfl, stopped⟩ | ⟨_, middle, earlier, later, rfl, passed, copying⟩
  · rcases (course_of_done (guardSidecars_eq _ _)).mp stopped with ⟨rfl, _, rfl⟩
    exact Or.inl ⟨⟨error, rfl⟩, Nat.zero_le _, rfl⟩
  rcases (course_of_done (guardSidecars_eq _ _)).mp passed with ⟨rfl, _, rfl⟩
  rcases course_register_bind (fun id clusterName =>
      { source.duplicate id name clusterName with parent := none }) copying with
    ⟨error, reply, rfl, rfl, rfl, _⟩ | ⟨clusterName, grown, rest, rfl, joined, onward⟩
  · exact Or.inl ⟨⟨error, rfl⟩, Nat.le_refl _, rfl⟩
  rcases (Registry.add_eq_ok_iff.mp joined) with ⟨_, rfl⟩
  have listed : ∀ sidecar ∈ source.sidecars, ∃ member, middle.get? sidecar = some member := by
    intro sidecar member
    rw [← Registry.sidecarsOf_eq found] at member
    rcases linked.registered member with ⟨follower, there, _⟩
    exact ⟨follower, there⟩
  rcases Registry.exists_mapM_find listed with ⟨members, collected⟩
  rcases course_bind_pure onward with ⟨ended, copies, rfl⟩
  have started : Course setup (copySidecars middle.nextId source.sidecars)
      (middle.withCopies (source.duplicate middle.nextId name clusterName) []) rest ended after := copies
  rcases course_copySidecars collected started with ⟨followers, rfl, followed, counted⟩
  refine Or.inr ⟨source, members, source.duplicate middle.nextId name clusterName, followers,
    ⟨found, committed, collected, ⟨clusterName, rfl⟩, followed, rfl⟩, ?_, ?_⟩
  · cases ended with
    | error error => exact counted.succ
    | ok value => exact counted.succ
  · intro value same
    cases ended with
    | error error => cases same
    | ok copied => exact (Except.ok.inj same).symm

/-- A clone under the name of the instance is a clone under some name. -/
theorem course_clone {result : Except Error InstanceId}
    (course : Course setup (clone id) before events result after) :
    ∃ name, Course setup (cloneWithName id name) before events result after := by
  cases found : before.find id with
  | error error =>
      have refused : clone id setup before = .done (.error error, before) :=
        bind_of_failed (by rw [find_eq, found])
      have guarded : before.guarded id .clone = .error error := by
        rw [Registry.guarded, found]
        rfl
      exact ⟨"", course_guarded_bind.mpr (Or.inl ⟨error, guarded, (course_of_done refused).mp course⟩)⟩
  | ok workload =>
      have located : find id setup before = .done (.ok workload, before) := by rw [find_eq, found]
      rw [clone, Course, bind_of_done located] at course
      exact ⟨workload.name, course⟩

end Action

variable {setup : Setup} {history : List Record} {before after : Registry} {call : Call}
  {events : List Event} {id : InstanceId}

open Testbed.Action in
/-- What a call that clones can have registered when it ends. -/
theorem Call.clones {result : Except Error call.Value} (linked : before.WellLinked)
    (cloned : call.cloneOf? = some id) (course : Course setup call.perform before events result after) :
    (result.isOk = false ∧ events.length ≤ 1 ∧ after = before) ∨
      ∃ name source members copy followers,
        before.Clones id name source members copy followers after ∧
        CountsCopies (members.length + 1) (followers.length + 1) events.length result.isOk := by
  have naming {result : Except Error InstanceId} {name : String}
      (course : Course setup (Action.cloneWithName id name) before events result after) :
      (result.isOk = false ∧ events.length ≤ 1 ∧ after = before) ∨
        ∃ name source members copy followers,
          before.Clones id name source members copy followers after ∧
          CountsCopies (members.length + 1) (followers.length + 1) events.length result.isOk := by
    rcases course_cloneWithName linked course with
      ⟨⟨error, rfl⟩, few, same⟩ | ⟨source, members, copy, followers, clones, counts, _⟩
    · exact Or.inl ⟨rfl, few, same⟩
    · exact Or.inr ⟨name, source, members, copy, followers, clones, counts⟩
  cases call with
  | clone =>
      obtain rfl := Option.some.inj cloned
      rcases course_clone course with ⟨name, named⟩
      exact naming named
  | cloneWithName =>
      obtain rfl := Option.some.inj cloned
      exact naming course
  | _ => cases cloned

/-- A clone that fails leaves every instance as it was, and leaves nobody else behind if it got no
further than its first name; so does every failed clone of an instance without sidecars. After the first
name the copy stays behind, with copies of the first sidecars: one for each name that was not refused. -/
theorem remains_of_failed_clone {error : Error} (reached : Reaches setup history before)
    (cloned : call.cloneOf? = some id)
    (course : Action.Course setup call.perform before events (.error error) after) :
    (∀ other workload, before.get? other = some workload → after.get? other = some workload) ∧
    (after = before ↔ events.length ≤ 1) ∧
    (before.sidecarsOf id = [] → after = before) ∧
    (after ≠ before → ∃ name source members copy followers,
      before.Clones id name source members copy followers after ∧
      followers.length < source.sidecars.length ∧ followers.length + 2 = events.length) := by
  rcases Call.clones reached.invariant.1 cloned course with
    ⟨_, few, rfl⟩ | ⟨name, source, members, copy, followers, clones, counts⟩
  · exact ⟨fun _ _ found => found, iff_of_true rfl few, fun _ => rfl, fun changed => absurd rfl changed⟩
  rcases counts with ⟨impossible, _⟩ | ⟨_, short, asked⟩
  · cases impossible
  have stranded : followers.length < source.sidecars.length :=
    Nat.lt_of_succ_lt_succ (clones.length_members ▸ short)
  have changed : after ≠ before := clones.after_eq ▸ Registry.withCopies_ne
  refine ⟨?_, ?_, ?_, fun _ => ⟨name, source, members, copy, followers, clones, stranded, asked.symm⟩⟩
  · intro other workload found
    rw [clones.after_eq]
    exact Registry.get?_withCopies found
  · have several : ¬ events.length ≤ 1 := by omega
    exact iff_of_false changed several
  · intro bare
    rw [Registry.sidecarsOf_eq clones.found] at bare
    rw [bare] at stranded
    cases stranded

/-- A pod with one sidecar that listens is described. -/
def Call.describedPod : List Call :=
  [.create "main", .setImage ⟨0⟩ "busybox", .create "side", .setImage ⟨1⟩ "busybox",
    .edit ⟨1⟩ (.addTcpPort 80), .commit ⟨1⟩, .addSidecar ⟨0⟩ ⟨1⟩, .commit ⟨0⟩]

/-- Collaborators that grant everything but a name in the cluster for one human name. -/
def Replies.anonymous (name : String) : Replies
  | .clusterName asked => if asked = name then .error (.validation asked .emptyName) else .ok (asked ++ "-b")
  | request => agreeable request

/-- A pod is cloned, and no name is found for its sidecar. -/
def strandedClone : List Record × Registry :=
  (Call.clone ⟨0⟩).tried .plain (.anonymous "side") (trial .plain .agreeable Call.describedPod)

theorem course_strandedClone :
    ∃ events error, Action.Course .plain (Call.clone ⟨0⟩).perform
      (trial .plain .agreeable Call.describedPod).2 events (.error error) strandedClone.2 ∧
        events.length = 2 := by
  have failed : (((Call.clone ⟨0⟩).perform .plain (trial .plain .agreeable Call.describedPod).2).follow
      (.anonymous "side")).2.1.isOk = false := by decide +kernel
  have asked : (((Call.clone ⟨0⟩).perform .plain (trial .plain .agreeable Call.describedPod).2).follow
      (.anonymous "side")).1.length = 2 := by decide +kernel
  rcases course_of_failed_trial failed with ⟨error, course⟩
  exact ⟨_, error, course, asked⟩

/-- The clone that finds no name for a sidecar leaves the instances as they were and the copy of the
parent with them, which has nobody to attend to it. -/
theorem remains_of_strandedClone :
    Reaches .plain (trial .plain .agreeable Call.describedPod).1
        (trial .plain .agreeable Call.describedPod).2 ∧
      (∃ events error, Action.Course .plain (Call.clone ⟨0⟩).perform
        (trial .plain .agreeable Call.describedPod).2 events (.error error) strandedClone.2) ∧
      strandedClone.2 ≠ (trial .plain .agreeable Call.describedPod).2 ∧
      strandedClone.2.stateOf ⟨2⟩ = some .committed ∧ strandedClone.2.sidecarsOf ⟨2⟩ = [] := by
  have reached := reaches_trial .plain .agreeable Call.describedPod
  rcases course_strandedClone with ⟨events, error, course, asked⟩
  rcases remains_of_failed_clone reached rfl course with ⟨_, unchanged, _, _⟩
  have several : ¬ events.length ≤ 1 := by omega
  have changed := fun same => several (unchanged.mp same)
  exact ⟨reached, ⟨events, error, course⟩, changed, by decide +kernel, by decide +kernel⟩

/-- A clone that fails is not undone: after an error at the name of a sidecar, the registry is not what
it was. -/
theorem changed_by_failed_clone :
    ¬ ∀ (setup : Setup) (history : List Record) (before after : Registry) (call : Call)
      (id : InstanceId) (events : List Event) (error : Error), Reaches setup history before →
      call.cloneOf? = some id →
      Action.Course setup call.perform before events (.error error) after → after = before := by
  intro claim
  have reached := reaches_trial .plain .agreeable Call.describedPod
  rcases course_strandedClone with ⟨events, error, course, _⟩
  have same := claim _ _ _ _ _ _ _ _ reached rfl course
  have grown : strandedClone.2.instances.length = 3 := by decide +kernel
  have small : (trial .plain .agreeable Call.describedPod).2.instances.length = 2 := by decide +kernel
  rw [same, small] at grown
  cases grown

end Testbed
