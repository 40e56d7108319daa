import Testbed.Proofs.Cloning
import Testbed.Proofs.Heredity

namespace Testbed

/-!
# A clone is deployed as its source

A clone that succeeds has copied the whole pod: the copy has a counterpart of each sidecar, in the same
order, and the members of the two pods differ in their names and in nothing else that a pod is compiled
from. Hence the copy is compiled to the resources of its source, renamed from each member to its
counterpart. The clone leaves the source and everybody else as they were.
-/

/-- The renaming from the members of a pod to their counterparts. -/
def Renaming.between (sources copies : List Instance) (owner : String) : Renaming where
  cluster name :=
    (((sources.map Instance.clusterName).zip (copies.map Instance.clusterName)).lookup name).getD name
  owner := owner

/-- If the members of a pod have different names, each is renamed to its own counterpart. -/
theorem Renaming.cluster_between {sources copies : List Instance} {owner : String}
    {source copy : Instance} (distinct : (sources.map Instance.clusterName).Nodup)
    (paired : (source, copy) ∈ sources.zip copies) :
    (Renaming.between sources copies owner).cluster source.clusterName = copy.clusterName := by
  have found : ((sources.map Instance.clusterName).zip (copies.map Instance.clusterName)).lookup
      source.clusterName = some copy.clusterName := by
    induction sources generalizing copies with
    | nil => cases paired
    | cons first rest inductionHypothesis =>
        cases copies with
        | nil => cases paired
        | cons counterpart others =>
            rw [List.map_cons, List.nodup_cons] at distinct
            rw [List.map_cons, List.map_cons, List.zip_cons_cons, List.lookup_cons]
            rcases List.mem_cons.mp paired with same | later
            · rcases Prod.mk.inj same with ⟨rfl, rfl⟩
              rw [beq_self_eq_true]
            · have member := List.mem_map_of_mem (f := Instance.clusterName) (List.of_mem_zip later).1
              have apart : source.clusterName ≠ first.clusterName := by
                intro same
                exact distinct.1 (same ▸ member)
              rw [beq_false_of_ne apart]
              exact inductionHypothesis distinct.2 later
  simp only [Renaming.between, found, Option.getD_some]

/-- Whether an instance carries nothing that only comes about when it is deployed. -/
def Instance.IsUndeployed (workload : Instance) : Prop :=
  workload.serviceAddress = none ∧ workload.fault.activeMode = none ∧ workload.fault.sidecar = none

theorem Instance.IsCopyOf.isUndeployed {source copy : Instance} {clusterName : String}
    (copied : source.IsCopyOf clusterName copy) : copy.IsUndeployed := by
  rcases copied with ⟨id, name, parent, sidecars, rfl⟩
  exact ⟨rfl, rfl, rfl⟩

theorem Instance.Follows.isCopyOf {source follower : Instance} {leader : InstanceId}
    (follows : source.Follows leader follower) : source.IsCopyOf follower.clusterName follower := by
  rcases follows with ⟨id, clusterName, rfl⟩
  exact ⟨id, source.name, some leader, [], rfl⟩

theorem Instance.Follows.parent_eq {source follower : Instance} {leader : InstanceId}
    (follows : source.Follows leader follower) : follower.parent = some leader := by
  rcases follows with ⟨id, clusterName, rfl⟩
  rfl

namespace Registry

variable {registry before after : Registry} {id : InstanceId} {name : String}
  {source copy workload : Instance} {ids : List InstanceId} {members followers : List Instance}

/-- Instances are found under their own handles. -/
theorem mapM_find_map_id (found : ∀ member ∈ members, registry.get? member.id = some member) :
    (members.map Instance.id).mapM registry.find = .ok members := by
  induction members with
  | nil => rfl
  | cons first rest inductionHypothesis =>
      rcases List.forall_mem_cons.mp found with ⟨head, tail⟩
      exact mapM_find_cons.mpr ⟨first, rest, head, inductionHypothesis tail, rfl⟩

namespace Clones

/-- The copy as it stands when the clone ends. -/
theorem exists_leader (clones : before.Clones id name source members copy followers after) :
    ∃ leader, after.get? before.nextId = some leader ∧
      source.IsCopyOf leader.clusterName leader ∧ leader.name = name ∧ leader.parent = none ∧
      leader.sidecars = followers.map Instance.id := by
  rcases clones.copied with ⟨clusterName, rfl⟩
  rw [clones.after_eq]
  exact ⟨_, get?_withCopies_nextId, ⟨before.nextId, name, none, _, rfl⟩, rfl, rfl, rfl⟩

/-- Followers are found under their own handles. -/
theorem follower_found (clones : before.Clones id name source members copy followers after)
    (linked : after.WellLinked) {follower : Instance} (listed : follower ∈ followers) :
    after.get? follower.id = some follower := by
  have member : follower ∈ after.instances := by
    rw [clones.after_eq]
    exact List.mem_append_right _ (List.mem_cons_of_mem _ listed)
  rcases List.getElem?_of_mem member with ⟨index, found⟩
  have there : after.get? ⟨index⟩ = some follower := found
  rw [linked.handle there]
  exact there

/-- Whoever follows a copy is the copy of a sidecar. -/
theorem follows (clones : before.Clones id name source members copy followers after) :
    ∀ follower ∈ followers, ∃ member : Instance, member.Follows before.nextId follower := by
  have copied {sources copies : List Instance}
      (paired : List.Forall₂ (Instance.Follows · before.nextId ·) sources copies) :
      ∀ follower ∈ copies, ∃ member : Instance, member.Follows before.nextId follower := by
    induction paired with
    | nil => exact fun follower listed => nomatch listed
    | cons first _ inductionHypothesis =>
        exact List.forall_mem_cons.mpr ⟨⟨_, first⟩, inductionHypothesis⟩
  exact copied clones.followed

/-- The sidecars that have been copied are all that there are. -/
theorem paired (clones : before.Clones id name source members copy followers after)
    (whole : followers.length = members.length) :
    List.Forall₂ (Instance.Follows · before.nextId ·) members followers := by
  have followed := clones.followed
  rw [whole, List.take_length] at followed
  exact followed

/-- The members of a pod that is cloned have different names. -/
theorem distinct (clones : before.Clones id name source members copy followers after)
    (linked : before.WellLinked) : ((source :: members).map Instance.clusterName).Nodup :=
  linked.nodup_members clones.found clones.sidecars

/-- A copy with all sidecars is compiled to the resources of its source, renamed. -/
theorem compile_eq {settings : Settings} {compiled : CompiledPod} {leader : Instance}
    (clones : before.Clones id name source members copy followers after)
    (whole : followers.length = members.length) (linked : before.WellLinked)
    (relinked : after.WellLinked) (found : after.get? before.nextId = some leader)
    (made : before.compile settings source = .ok compiled) :
    after.compile settings leader = .ok
      ((Renaming.between (source :: members) (leader :: followers)
        (Naming.labelValue name)).compiledPod compiled) := by
  rcases clones.exists_leader with ⟨known, there, copied, named, _, sidecars⟩
  obtain rfl : known = leader := Option.some.inj (there.symm.trans found)
  have distinct := clones.distinct linked
  have followed := List.forall₂_iff_zip.mp (clones.paired whole)
  have copies : Pod.IsCopyOf
      (Renaming.between (source :: members) (known :: followers) (Naming.labelValue name))
      ⟨source, members, settings.space, settings.initImage⟩
      ⟨known, followers, settings.space, settings.initImage⟩ := by
    refine ⟨?_, congrArg Naming.labelValue named, List.forall₂_iff_zip.mpr ⟨whole.symm, ?_⟩, rfl, rfl⟩
    · rw [Renaming.Copies, Renaming.cluster_between distinct List.mem_cons_self]
      exact copied
    · intro member follower pair
      rw [Renaming.Copies, Renaming.cluster_between distinct (List.mem_cons_of_mem _ pair)]
      exact (followed.2 pair).isCopyOf
  have assembled : before.pod settings source =
      .ok ⟨source, members, settings.space, settings.initImage⟩ :=
    pod_eq_ok_iff.mpr ⟨clones.sidecars, rfl, rfl, rfl⟩
  have reassembled : after.pod settings known =
      .ok ⟨known, followers, settings.space, settings.initImage⟩ := by
    refine pod_eq_ok_iff.mpr ⟨?_, rfl, rfl, rfl⟩
    rw [sidecars]
    exact mapM_find_map_id fun _ => clones.follower_found relinked
  rw [Registry.compile, assembled] at made
  rw [Registry.compile, reassembled]
  exact copies.compile_eq made

/-- Whoever joins in a clone is the copy or one of its sidecars. -/
theorem eq_of_new {leader : Instance} {other : InstanceId}
    (clones : before.Clones id name source members copy followers after)
    (relinked : after.WellLinked) (found : after.get? before.nextId = some leader)
    (new : before.get? other = none) (joined : after.get? other = some workload) :
    other = before.nextId ∨ other ∈ leader.sidecars := by
  rcases clones.exists_leader with ⟨known, there, _, _, _, sidecars⟩
  obtain rfl : known = leader := Option.some.inj (there.symm.trans found)
  have handle := relinked.handle joined
  have whole := joined
  rw [clones.after_eq] at whole there
  rcases mem_withCopies whole new with rfl | listed
  · have same := Option.some.inj (get?_withCopies_nextId.symm.trans there)
    rw [same, relinked.handle found] at handle
    exact Or.inl handle.symm
  · rw [sidecars, ← handle]
    exact Or.inr (List.mem_map_of_mem listed)

end Clones
end Registry

/-- A clone that succeeds is the copy of a committed pod. The copy is committed and stands alone, and has
a counterpart of each sidecar of its source, in their order. Both pods are compiled, and the resources
of the copy are those of the source after every member's name in the cluster has been replaced by its
counterpart's, and the label with the owner's human name by that of the copy. Everybody else is as
before, and no member of the copied pod carries anything that only comes about when it is deployed. -/
theorem compile_of_clone {setup : Setup} {history : List Record} {before after : Registry}
    {events : List Event} {id made : InstanceId} {name : String} {source : Instance}
    (reached : Reaches setup history before) (found : before.get? id = some source)
    (course : Action.Course setup (Call.cloneWithName id name).perform before events (.ok made) after) :
    ∃ leader members followers compiled,
      after.get? made = some leader ∧ leader.state = .committed ∧ leader.parent = none ∧
      source.sidecars.mapM before.find = .ok members ∧
      leader.sidecars.mapM after.find = .ok followers ∧
      leader.sidecars.length = source.sidecars.length ∧
      List.Forall₂ (Instance.Follows · made ·) members followers ∧
      (∀ follower ∈ followers, follower.parent = some made) ∧
      Action.compile source setup before = .done (.ok compiled, before) ∧
      Action.compile leader setup after = .done
        (.ok ((Renaming.between (source :: members) (leader :: followers)
          (Naming.labelValue name)).compiledPod compiled), after) ∧
      (∀ other workload, before.get? other = some workload → after.get? other = some workload) ∧
      (∀ other workload, before.get? other = none → after.get? other = some workload →
        other = made ∨ other ∈ leader.sidecars) ∧
      ∀ member ∈ leader :: followers, member.IsUndeployed := by
  rcases reached.invariant with ⟨linked, lockstep⟩
  have relinked := (reached.call course).invariant.1
  rcases Action.course_cloneWithName linked course with
    ⟨⟨error, impossible⟩, _⟩ | ⟨known, members, copy, followers, clones, counts, same⟩
  · cases impossible
  obtain rfl : known = source := Option.some.inj (clones.found.symm.trans found)
  obtain rfl : made = before.nextId := same made rfl
  have whole : followers.length = members.length := by
    rcases counts with ⟨_, whole, _⟩ | ⟨impossible, _⟩
    · exact Nat.succ.inj whole
    · cases impossible
  rcases clones.exists_leader with ⟨leader, there, copied, _, leads, sidecars⟩
  have imaged := hereditary_image.of_reaches reached
  have late : known.state ≠ .created ∧ known.state ≠ .preparing := by
    rw [clones.committed]
    decide
  rcases Registry.exists_compile linked lockstep imaged found late setup.settings with ⟨compiled, produced⟩
  refine ⟨leader, members, followers, compiled, there, copied.state_eq.trans clones.committed, leads,
    clones.sidecars, ?_, ?_, clones.paired whole, ?_, ?_, ?_, ?_, ?_, ?_⟩
  · rw [sidecars]
    exact Registry.mapM_find_map_id fun _ => clones.follower_found relinked
  · rw [sidecars, List.length_map, whole, clones.length_members]
  · intro follower listed
    rcases clones.follows follower listed with ⟨member, follows⟩
    exact follows.parent_eq
  · rw [Action.compile_eq, produced]
  · rw [Action.compile_eq, clones.compile_eq whole linked relinked there produced]
  · intro other workload known
    rw [clones.after_eq]
    exact Registry.get?_withCopies known
  · exact fun other workload new joined => clones.eq_of_new relinked there new joined
  · intro member listed
    rcases List.mem_cons.mp listed with rfl | listed
    · exact copied.isUndeployed
    · rcases clones.follows member listed with ⟨source, follows⟩
      exact follows.isCopyOf.isUndeployed

/-- A pod that is described is cloned under another name. -/
def clonedPod : List Record × Registry :=
  (Call.cloneWithName ⟨0⟩ "copy").tried .plain (.renaming "-b")
    (trial .plain .agreeable Call.describedPod)

/-- The clone of a pod with one sidecar is compiled to the resources of the pod with two names replaced. -/
theorem compile_of_clonedPod :
    ∃ source leader member follower compiled,
      (trial .plain .agreeable Call.describedPod).2.get? ⟨0⟩ = some source ∧
      clonedPod.2.get? ⟨2⟩ = some leader ∧ leader.parent = none ∧
      member.Follows ⟨2⟩ follower ∧
      Action.compile source .plain (trial .plain .agreeable Call.describedPod).2 =
        .done (.ok compiled, (trial .plain .agreeable Call.describedPod).2) ∧
      Action.compile leader .plain clonedPod.2 = .done
        (.ok ((Renaming.between [source, member] [leader, follower]
          (Naming.labelValue "copy")).compiledPod compiled), clonedPod.2) := by
  have reached := reaches_trial .plain .agreeable Call.describedPod
  have present : ((trial .plain .agreeable Call.describedPod).2.get? ⟨0⟩).isSome = true := by
    decide +kernel
  rcases Option.isSome_iff_exists.mp present with ⟨source, found⟩
  have granted : (((Call.cloneWithName ⟨0⟩ "copy").perform .plain
      (trial .plain .agreeable Call.describedPod).2).follow (.renaming "-b")).2.1.toOption =
      some ⟨2⟩ := by decide +kernel
  have course := course_of_granted_trial granted
  rcases compile_of_clone reached found course with
    ⟨leader, members, followers, compiled, there, _, leads, collected, _, _, paired, _, made, remade, _⟩
  have listed : (trial .plain .agreeable Call.describedPod).2.sidecarsOf ⟨0⟩ = [⟨1⟩] := by
    decide +kernel
  rw [Registry.sidecarsOf_eq found] at listed
  rw [listed] at collected
  rcases Registry.mapM_find_cons.mp collected with ⟨member, none, _, rest, rfl⟩
  obtain rfl : [] = none := Except.ok.inj rest
  cases paired with
  | @cons _ follower _ _ follows rest =>
      cases rest
      exact ⟨source, leader, member, follower, compiled, found, there, leads, follows, made, remade⟩

end Testbed
