import Testbed.Proofs.Cloning
import Testbed.Proofs.Reachable
import Testbed.Proofs.Trial
import Testbed.Proofs.Turn

namespace Testbed

/-!
# The attendants of an instance

A start injects an attendant for its instance: it makes a sidecar, lists it and notes it.  Then the attendant is
enlisted, and it stays so for good: a start enlists nobody where there is a note, and no call takes a note back.
So an instance comes by one attendant at most in each role in this way.

There are two other ways, and both can give it a second one.  A clone takes copies of the attendants along, but not
the notes, so that its first start enlists attendants of its own beside the copies.  And an injection that fails
half-way leaves a sidecar that is neither listed nor noted; somebody may commit it and attach it by hand, and the
start that is tried again enlists another one.
-/

/-- Whether some call of a history, which leaves the registry, has done something. -/
inductive Happened (setup : Setup) (what : Registry → Call → Registry → Prop) :
    List Record → Registry → Prop where
  | now {call : Call} {result : Except Error call.Value} (reached : Reaches setup history before)
      (course : Action.Course setup call.perform before events result after)
      (happens : what before call after) :
      Happened setup what (history ++ [⟨call, events, result⟩]) after
  | earlier {call : Call} {result : Except Error call.Value}
      (happened : Happened setup what history before)
      (course : Action.Course setup call.perform before events result after) :
      Happened setup what (history ++ [⟨call, events, result⟩]) after

namespace Happened

variable {setup : Setup} {what : Registry → Call → Registry → Prop} {history : List Record}
  {registry : Registry} {past : List Record × Registry} {replies : Replies} {call : Call}

theorem reached (happened : Happened setup what history registry) :
    Reaches setup history registry := by
  induction happened with
  | now reached course _ => exact reached.call course
  | earlier _ course inductionHypothesis => exact inductionHypothesis.call course

theorem exists_record (happened : Happened setup what history registry) :
    ∃ record ∈ history, ∃ before after, what before record.call after := by
  induction happened with
  | now _ _ happens =>
      exact ⟨_, List.mem_append_right _ (List.mem_singleton.mpr rfl), _, _, happens⟩
  | earlier _ _ inductionHypothesis =>
      rcases inductionHypothesis with ⟨record, member, happens⟩
      exact ⟨record, List.mem_append_left _ member, happens⟩

theorem mono {weaker : Registry → Call → Registry → Prop} (happened : Happened setup what history registry)
    (implies : ∀ {before call after}, what before call after → weaker before call after) :
    Happened setup weaker history registry := by
  induction happened with
  | now reached course happens => exact .now reached course (implies happens)
  | earlier _ course inductionHypothesis => exact .earlier inductionHypothesis course

/-- What a trial does in its last call has happened, and so has what it did before. -/
theorem now_tried (reached : Reaches setup past.1 past.2)
    (happens : what past.2 call (call.tried setup replies past).2) :
    Happened setup what (call.tried setup replies past).1 (call.tried setup replies past).2 :=
  .now reached (Program.course_follow replies _) happens

theorem earlier_tried (happened : Happened setup what past.1 past.2) :
    Happened setup what (call.tried setup replies past).1 (call.tried setup replies past).2 :=
  .earlier happened (Program.course_follow replies _)

end Happened

/-- The name of a handle's instance, if there is one. -/
def Registry.nameOf (registry : Registry) (id : InstanceId) : Option String :=
  (registry.get? id).map Instance.name

/-- Whether a call starts an instance and injects a sidecar in a role: a start makes instances for no other purpose,
so these are the ones that were not there before, and the name tells the role. -/
def Attendant.IsInjected (role : Attendant) (id handle : InstanceId) (before : Registry) (call : Call)
    (after : Registry) : Prop :=
  call.startOf? = some id ∧ before.get? handle = none ∧ after.nameOf handle ≠ none ∧
    after.nameOf handle = (after.nameOf id).map role.nameFor

/-- Whether a call injects a sidecar in a role and gets as far as to list it. -/
def Attendant.IsEnlisted (role : Attendant) (id handle : InstanceId) (before : Registry) (call : Call)
    (after : Registry) : Prop :=
  role.IsInjected id handle before call after ∧ handle ∈ after.sidecarsOf id

instance (role : Attendant) (id handle : InstanceId) (before : Registry) (call : Call)
    (after : Registry) : Decidable (role.IsInjected id handle before call after) :=
  inferInstanceAs (Decidable (_ ∧ _ ∧ _ ∧ _))

instance (role : Attendant) (id handle : InstanceId) (before : Registry) (call : Call)
    (after : Registry) : Decidable (role.IsEnlisted id handle before call after) :=
  inferInstanceAs (Decidable (_ ∧ _))

/-- Whether a start has injected a sidecar for an instance in a history, and whatever has become of it. -/
abbrev Injected (setup : Setup) (role : Attendant) (id handle : InstanceId) :
    List Record → Registry → Prop :=
  Happened setup (role.IsInjected id handle)

/-- Whether a start has enlisted a sidecar for an instance in a history. -/
abbrev Enlisted (setup : Setup) (role : Attendant) (id handle : InstanceId) :
    List Record → Registry → Prop :=
  Happened setup (role.IsEnlisted id handle)

/-- Whether a call attaches a sidecar by hand. -/
def Call.IsAttached (id handle : InstanceId) (before : Registry) (call : Call) (after : Registry) : Prop :=
  call = .addSidecar id handle ∧ handle ∉ before.sidecarsOf id ∧ handle ∈ after.sidecarsOf id

/-- Whether a sidecar has been attached to an instance by hand in a history. -/
abbrev Attached (setup : Setup) (id handle : InstanceId) : List Record → Registry → Prop :=
  Happened setup (Call.IsAttached id handle)

/-! ## Attendants are noted -/

theorem Attendant.nameFor_injective {first second : Attendant} {name : String}
    (same : first.nameFor name = second.nameFor name) : first = second := by
  have apart (suffix other : String) (equal : name ++ suffix = name ++ other) : suffix = other :=
    String.append_right_inj name |>.mp equal
  cases first with
  | collector =>
      cases second with
      | collector => rfl
      | shaper => exact absurd (apart _ _ same) (by decide)
  | shaper =>
      cases second with
      | collector => exact absurd (apart _ _ same) (by decide)
      | shaper => rfl

namespace Turn

variable {setup : Setup} {before after : Registry} {call : Call} {events : List Event}
  {succeeded : Bool} {role : Attendant} {id handle : InstanceId} {left : Instance}

/-- A start goes by steps. -/
theorem steps_of_start (turn : Turn setup before call events succeeded after)
    (starts : call.startOf? = some id) :
    Steps setup call before events after ∧
      (succeeded = true → ∀ workload, before.get? id = some workload → workload.state = .committed →
        Action.IsAttended workload id after) := by
  cases turn with
  | steps steps _ attends =>
      exact ⟨steps, fun done workload found => attends done id workload starts found⟩
  | shapes asks =>
      cases call with
      | start | startWithoutWait => cases asks
      | _ => cases starts
  | halts stops =>
      subst stops
      cases starts
  | replaces sets =>
      rw [Call.startOf?_eq_none sets] at starts
      cases starts

/-- What a parent notes after a call it has noted before, or the call has enlisted the attendant. -/
theorem noted (turn : Turn setup before call events succeeded after) (there : after.get? id = some left)
    (notes : role.isNoted left = true) :
    (∃ workload, before.get? id = some workload ∧ role.isNoted workload = true) ∨
      call.startOf? = some id ∧ ∃ handle, Enlists setup.settings before events after role id handle := by
  have old {target : InstanceId} {mode : Option ShapingKind}
      (renoted : before.Renoted target mode after) :
      ∃ workload, before.get? id = some workload ∧ role.isNoted workload = true := by
    rcases renoted.source there with ⟨workload, found, bonds⟩
    exact ⟨workload, found, Attendant.isNoted_congr notes (congrArg Bonds.collector bonds)
      (congrArg Bonds.target bonds)⟩
  cases turn with
  | steps steps => exact steps.noted there notes
  | shapes => exact Or.inl (old Registry.renoted_setMode)
  | halts => exact Or.inl (old Registry.renoted_halted)
  | replaces _ found _ replaced => exact Or.inl (old (Registry.renoted_of_replaced found replaced))

/-- What a call adds to the sidecars of an instance has a reason. -/
theorem listed (turn : Turn setup before call events succeeded after) (listed : handle ∈ after.sidecarsOf id) :
    handle ∈ before.sidecarsOf id ∨ Listing setup.settings before call events after id handle := by
  have old {target : InstanceId} {mode : Option ShapingKind}
      (renoted : before.Renoted target mode after) : handle ∈ before.sidecarsOf id := by
    rcases Registry.mem_sidecarsOf_iff.mp listed with ⟨left, there, lists⟩
    rcases renoted.source there with ⟨workload, found, bonds⟩
    have same : left.sidecars = workload.sidecars := congrArg (fun bonds => bonds.links.sidecars) bonds
    exact Registry.mem_sidecarsOf_iff.mpr ⟨workload, found, same ▸ lists⟩
  cases turn with
  | steps steps => exact steps.listed listed
  | shapes => exact Or.inl (old Registry.renoted_setMode)
  | halts => exact Or.inl (old Registry.renoted_halted)
  | replaces _ found _ replaced => exact Or.inl (old (Registry.renoted_of_replaced found replaced))

/-- What a start injects and some instance lists has been enlisted for the instance that is started. -/
theorem enlists {starter : InstanceId} (turn : Turn setup before call events succeeded after)
    (linked : before.WellLinked) (injected : role.IsInjected starter handle before call after)
    (listed : handle ∈ after.sidecarsOf id) :
    id = starter ∧ Enlists setup.settings before events after role id handle := by
  rcases injected with ⟨starts, new, _, named⟩
  rcases turn.listed listed with known | ⟨clones⟩ | ⟨attaches⟩ | ⟨other, starting, enlists⟩
  · rcases linked.registered known with ⟨workload, there, _⟩
    rw [new] at there
    cases there
  · rw [Call.cloneOf?_eq_none_of_start starts] at clones
    cases clones
  · subst attaches
    cases starts
  · rcases Option.some.inj (starting.symm.trans starts) with rfl
    rcases enlists.attendant with ⟨parent, sidecar, found, located, _, _, name⟩
    rw [Registry.nameOf, Registry.nameOf, found, located] at named
    rcases Attendant.nameFor_injective (name.symm.trans (Option.some.inj named)) with rfl
    exact ⟨rfl, enlists⟩

end Turn

namespace Enlists

variable {setup : Setup} {before after : Registry} {call : Call} {events : List Event}
  {role : Attendant} {id handle : InstanceId}

theorem isEnlisted {settings : Settings} (enlists : Enlists settings before events after role id handle)
    (starts : call.startOf? = some id) : role.IsEnlisted id handle before call after := by
  rcases enlists.attendant with ⟨parent, sidecar, found, located, listed, _, named⟩
  refine ⟨⟨starts, enlists.new, ?_, ?_⟩, Registry.mem_sidecarsOf_iff.mpr ⟨parent, found, listed⟩⟩
  · rw [Registry.nameOf, located]
    exact Option.some_ne_none _
  · rw [Registry.nameOf, Registry.nameOf, found, located]
    exact congrArg some named

end Enlists

namespace Enlisted

variable {setup : Setup} {history : List Record} {registry : Registry} {role : Attendant}
  {id handle other : InstanceId} {workload : Instance}

/-- An attendant is listed and noted for good. -/
theorem hasAttendant (enlisted : Enlisted setup role id handle history registry) :
    registry.HasAttendant role id handle := by
  induction enlisted with
  | now reached course enlisting =>
      have linked := reached.invariant.1
      exact ((Call.turn linked course).enlists linked enlisting.1 enlisting.2).2.attendant
  | earlier happened course inductionHypothesis =>
      have linked := happened.reached.invariant.1
      exact inductionHypothesis.lasts (Call.turn linked course).lasts

theorem injected (enlisted : Enlisted setup role id handle history registry) :
    Injected setup role id handle history registry :=
  enlisted.mono And.left

/-- Whatever is noted has been enlisted. -/
theorem exists_of_isNoted (reached : Reaches setup history registry)
    (found : registry.get? id = some workload) (noted : role.isNoted workload = true) :
    ∃ handle, Enlisted setup role id handle history registry := by
  induction reached generalizing workload with
  | empty => cases found
  | call earlier course inductionHypothesis =>
      rcases (Call.turn earlier.invariant.1 course).noted found noted with
        ⟨former, known, noting⟩ | ⟨starts, handle, enlists⟩
      · rcases inductionHypothesis known noting with ⟨handle, enlisted⟩
        exact ⟨handle, .earlier enlisted course⟩
      · exact ⟨handle, .now earlier course (enlists.isEnlisted starts)⟩

end Enlisted

/-- An instance notes one attendant at most in each role. -/
theorem Registry.WellLinked.attendant_unique {registry : Registry} {role : Attendant}
    {id handle other : InstanceId} (linked : registry.WellLinked)
    (has : registry.HasAttendant role id handle) (also : registry.HasAttendant role id other) :
    handle = other := by
  rcases has with ⟨parent, sidecar, found, located, _, notes, _⟩
  rcases also with ⟨same, another, known, there, _, noting, _⟩
  rcases Option.some.inj (found.symm.trans known) with rfl
  cases role with
  | collector => exact Option.some.inj (notes.symm.trans noting)
  | shaper => exact linked.distinct located there (Option.some.inj (notes.symm.trans noting))

/-! ## Copies -/

/-- Whether a call clones, and adds an instance in doing so. -/
def Call.IsCopied (id : InstanceId) (before : Registry) (call : Call) (after : Registry) : Prop :=
  call.cloneOf?.isSome = true ∧ before.get? id = none ∧ ∃ workload, after.get? id = some workload

/-- Whether an instance is a copy that a clone has made in a history. -/
abbrev Copied (setup : Setup) (id : InstanceId) : List Record → Registry → Prop :=
  Happened setup (Call.IsCopied id)

/-- Where nobody has called for a clone, nobody is a copy. -/
theorem not_copied {setup : Setup} {id : InstanceId} {history : List Record} {registry : Registry}
    (unlike : ∀ record ∈ history, record.call.cloneOf?.isSome = false) :
    ¬ Copied setup id history registry := by
  intro copied
  rcases copied.exists_record with ⟨record, member, _, _, clones, _⟩
  rw [unlike record member] at clones
  cases clones

/-- The attendants in a role, whomever they belong to: those that starts have injected, be they enlisted or left
behind, and the copies of attendants that are made with the copies of their parents. -/
inductive Attends (setup : Setup) (role : Attendant) :
    InstanceId → List Record → Registry → Prop where
  | injected {id : InstanceId} (injected : Injected setup role id handle history registry) :
      Attends setup role handle history registry
  /-- The sidecars of a copy are copies of those of the original, in their order. -/
  | copied {call : Call} {result : Except Error call.Value} {id source handle : InstanceId}
      {place : Nat} (attends : Attends setup role source history before)
      (course : Action.Course setup call.perform before events result after)
      (clones : call.cloneOf? = some id) (original : (before.sidecarsOf id)[place]? = some source)
      (copy : (after.sidecarsOf before.nextId)[place]? = some handle) :
      Attends setup role handle (history ++ [⟨call, events, result⟩]) after
  | kept {call : Call} {result : Except Error call.Value}
      (attends : Attends setup role handle history before)
      (course : Action.Course setup call.perform before events result after) :
      Attends setup role handle (history ++ [⟨call, events, result⟩]) after

/-! ## Why an attendant is listed -/

section Explanation

variable {setup : Setup} {history : List Record} {before after registry : Registry} {call : Call}
  {events : List Event} {result : Except Error call.Value} {role : Attendant} {id handle : InstanceId}
  {workload : Instance}

/-- A clone lists nobody with those who were there before. -/
theorem Call.sidecarsOf_of_clones {source : InstanceId} (linked : before.WellLinked)
    (clones : call.cloneOf? = some source)
    (course : Action.Course setup call.perform before events result after)
    (found : before.get? id = some workload) : after.sidecarsOf id = before.sidecarsOf id := by
  rcases Call.clones linked clones course with ⟨_, _, rfl⟩ | ⟨_, _, _, _, _, clones, _⟩
  · rfl
  · rw [clones.after_eq, Registry.sidecarsOf_eq (Registry.get?_withCopies found),
      Registry.sidecarsOf_eq found]

/-- Who is registered stays registered. -/
theorem Reaches.registered (reached : Reaches setup history before)
    (course : Action.Course setup call.perform before events result after)
    (there : ∃ workload, before.get? id = some workload) : ∃ left, after.get? id = some left := by
  rcases there with ⟨workload, found⟩
  rcases (Call.turn reached.invariant.1 course).lasts id workload found with ⟨left, there, _⟩
  exact ⟨left, there⟩

/-- Who is listed stays listed. -/
theorem Reaches.listed (reached : Reaches setup history before)
    (course : Action.Course setup call.perform before events result after)
    (listed : handle ∈ before.sidecarsOf id) : handle ∈ after.sidecarsOf id := by
  rcases Registry.mem_sidecarsOf_iff.mp listed with ⟨workload, found, lists⟩
  rcases (Call.turn reached.invariant.1 course).lasts id workload found with ⟨left, there, later⟩
  exact Registry.mem_sidecarsOf_iff.mpr ⟨left, there, later.listed lists⟩

theorem Injected.registered (injected : Injected setup role id handle history registry) :
    ∃ sidecar, registry.get? handle = some sidecar := by
  induction injected with
  | now _ _ injecting =>
      refine Option.ne_none_iff_exists'.mp fun absent => injecting.2.2.1 ?_
      rw [Registry.nameOf, absent]
      rfl
  | earlier happened course inductionHypothesis => exact happened.reached.registered course inductionHypothesis

/-- Why an attendant is listed as a sidecar: it has been enlisted, or whoever lists it is a copy, or it has been
attached by hand. -/
def IsExplained (setup : Setup) (role : Attendant) (id handle : InstanceId) (history : List Record)
    (registry : Registry) : Prop :=
  registry.HasAttendant role id handle ∨ Copied setup id history registry ∨
    Attached setup id handle history registry

/-- There is a reason for what a call lists, if it lists somebody who was registered before it. -/
theorem isExplained_of_listed (reached : Reaches setup history before)
    (course : Action.Course setup call.perform before events result after)
    (registered : ∃ sidecar, before.get? handle = some sidecar)
    (explained : handle ∈ before.sidecarsOf id → IsExplained setup role id handle history before)
    (listed : handle ∈ after.sidecarsOf id) :
    IsExplained setup role id handle (history ++ [⟨call, events, result⟩]) after := by
  have linked := reached.invariant.1
  have turn := Call.turn linked course
  by_cases known : handle ∈ before.sidecarsOf id
  · rcases explained known with has | copied | attached
    · exact Or.inl (has.lasts turn.lasts)
    · exact Or.inr (Or.inl (.earlier copied course))
    · exact Or.inr (Or.inr (.earlier attached course))
  rcases turn.listed listed with old | ⟨clones⟩ | ⟨attaches⟩ | ⟨other, _, enlists⟩
  · exact absurd old known
  · rcases Registry.mem_sidecarsOf_iff.mp listed with ⟨left, there, _⟩
    cases found : before.get? id with
    | none => exact Or.inr (Or.inl (.now reached course ⟨clones, found, left, there⟩))
    | some workload =>
        rcases Option.isSome_iff_exists.mp clones with ⟨source, clones⟩
        exact absurd (Call.sidecarsOf_of_clones linked clones course found ▸ listed) known
  · exact Or.inr (Or.inr (.now reached course ⟨attaches, known, listed⟩))
  · -- A start enlists only whom it makes itself, and this one was registered before.
    rcases registered with ⟨sidecar, there⟩
    rw [enlists.new] at there
    cases there

theorem Injected.isExplained {starter : InstanceId} (injected : Injected setup role starter handle history registry)
    (listed : handle ∈ registry.sidecarsOf id) : IsExplained setup role id handle history registry := by
  induction injected with
  | now reached course injecting =>
      have linked := reached.invariant.1
      exact Or.inl ((Call.turn linked course).enlists linked injecting listed).2.attendant
  | earlier happened course inductionHypothesis =>
      exact isExplained_of_listed happened.reached course (Injected.registered happened) inductionHypothesis listed

end Explanation

namespace Attends

variable {setup : Setup} {history : List Record} {registry : Registry} {role : Attendant}
  {id handle : InstanceId}

theorem reached (attends : Attends setup role handle history registry) :
    Reaches setup history registry := by
  induction attends with
  | injected injected => exact injected.reached
  | copied _ course _ _ _ inductionHypothesis | kept _ course inductionHypothesis =>
      exact inductionHypothesis.call course

theorem kept_tried {past : List Record × Registry} {replies : Replies} {call : Call}
    (attends : Attends setup role handle past.1 past.2) :
    Attends setup role handle (call.tried setup replies past).1 (call.tried setup replies past).2 :=
  .kept attends (Program.course_follow replies _)

theorem registered (attends : Attends setup role handle history registry) :
    ∃ sidecar, registry.get? handle = some sidecar := by
  induction attends with
  | injected injected => exact Injected.registered injected
  | copied attends course _ _ copy _ =>
      have linked := (attends.reached.call course).invariant.1
      rcases linked.registered (List.mem_of_getElem? copy) with ⟨sidecar, there, _⟩
      exact ⟨sidecar, there⟩
  | kept attends course inductionHypothesis => exact attends.reached.registered course inductionHypothesis

theorem isExplained (attends : Attends setup role handle history registry)
    (listed : handle ∈ registry.sidecarsOf id) : IsExplained setup role id handle history registry := by
  induction attends with
  | injected injected => exact Injected.isExplained injected listed
  | copied attends course clones _ copy _ =>
      have belongs := List.mem_of_getElem? copy
      rcases (attends.reached.call course).invariant.1.parent_unique listed belongs with rfl
      rcases Registry.mem_sidecarsOf_iff.mp belongs with ⟨workload, found, _⟩
      have copying : Call.IsCopied _ _ _ _ :=
        ⟨Option.isSome_iff_exists.mpr ⟨_, clones⟩, Registry.get?_nextId, workload, found⟩
      exact Or.inr (Or.inl (.now attends.reached course copying))
  | kept attends course inductionHypothesis =>
      exact isExplained_of_listed attends.reached course attends.registered inductionHypothesis listed

end Attends

/-- Whatever is done with a testbed, and whatever fails: an instance that is no copy has one attendant at most in
each role, apart from those that have been attached to it by hand. -/
theorem attendants_of_reaches {setup : Setup} {history : List Record} {registry : Registry}
    {role : Attendant} {id first second : InstanceId}
    (attends : Attends setup role first history registry)
    (also : Attends setup role second history registry)
    (listed : first ∈ registry.sidecarsOf id) (alsoListed : second ∈ registry.sidecarsOf id)
    (original : ¬ Copied setup id history registry)
    (unattached : ¬ Attached setup id first history registry)
    (alsoUnattached : ¬ Attached setup id second history registry) : first = second := by
  have enlisted {handle : InstanceId} (attends : Attends setup role handle history registry)
      (listed : handle ∈ registry.sidecarsOf id) (unattached : ¬ Attached setup id handle history registry) :
      registry.HasAttendant role id handle :=
    (attends.isExplained listed).resolve_right fun either => either.elim original unattached
  exact attends.reached.invariant.1.attendant_unique (enlisted attends listed unattached)
    (enlisted also alsoListed alsoUnattached)

/-! ## Sidecars that are attached by hand -/

section Attached

variable {setup : Setup} {history : List Record} {before after registry : Registry} {call : Call}
  {events : List Event} {result : Except Error call.Value} {role : Attendant} {id handle first second : InstanceId}

/-- An attendant has been one before a call, or the call has enlisted it. -/
theorem Registry.HasAttendant.source (has : after.HasAttendant role id handle)
    (reached : Reaches setup history before)
    (course : Action.Course setup call.perform before events result after) :
    before.HasAttendant role id handle ∨ call.startOf? = some id ∧ before.get? handle = none := by
  have turn := Call.turn reached.invariant.1 course
  have linked := (reached.call course).invariant.1
  rcases has with ⟨parent, sidecar, found, located, listed, notes, named⟩
  have has : after.HasAttendant role id handle := ⟨parent, sidecar, found, located, listed, notes, named⟩
  rcases turn.noted found (Attendant.isNoted_of_notes notes) with
    ⟨former, known, noting⟩ | ⟨starts, other, enlists⟩
  · rcases Enlisted.exists_of_isNoted reached known noting with ⟨other, enlisted⟩
    rcases linked.attendant_unique has (enlisted.hasAttendant.lasts turn.lasts) with rfl
    exact Or.inl enlisted.hasAttendant
  · rcases linked.attendant_unique has enlists.attendant with rfl
    exact Or.inr ⟨starts, enlists.new⟩

theorem Attached.listed (attached : Attached setup id handle history registry) :
    handle ∈ registry.sidecarsOf id := by
  induction attached with
  | now _ _ attaching => exact attaching.2.2
  | earlier happened course inductionHypothesis => exact happened.reached.listed course inductionHypothesis

/-- Who has been attached by hand is noted as nobody's attendant, and never will be. -/
theorem Attached.not_hasAttendant (attached : Attached setup id handle history registry) :
    ¬ registry.HasAttendant role id handle := by
  induction attached with
  | now reached course attaching =>
      intro has
      rcases attaching with ⟨rfl, unlisted, _⟩
      rcases has.source reached course with ⟨parent, _, found, _, listed, _⟩ | ⟨starts, _⟩
      · exact unlisted (Registry.mem_sidecarsOf_iff.mpr ⟨parent, found, listed⟩)
      · cases starts
  | earlier happened course inductionHypothesis =>
      intro has
      rcases has.source happened.reached course with early | ⟨_, new⟩
      · exact inductionHypothesis early
      · rcases happened.reached.invariant.1.registered (Attached.listed happened) with ⟨sidecar, there, _⟩
        rw [new] at there
        cases there

/-- So what is attached by hand stands beside what a start enlists; if it was left behind by an injection that
failed, the instance has two attendants. -/
theorem attended_twice_of_attached (attached : Attached setup id first history registry)
    (enlisted : Enlisted setup role id second history registry) :
    first ≠ second ∧ first ∈ registry.sidecarsOf id ∧ second ∈ registry.sidecarsOf id := by
  refine ⟨?_, Attached.listed attached, ?_⟩
  · rintro rfl
    exact Attached.not_hasAttendant attached enlisted.hasAttendant
  · rcases enlisted.hasAttendant with ⟨parent, _, found, _, listed, _⟩
    exact Registry.mem_sidecarsOf_iff.mpr ⟨parent, found, listed⟩

end Attached

/-! ## Trials -/

/-- The first start of an instance has injected a shaping sidecar, though it has failed. -/
theorem enlisted_refusedStart :
    Enlisted .shaping .shaper ⟨0⟩ ⟨1⟩ refusedStart.1 refusedStart.2 := by
  have enlisting : Attendant.shaper.IsEnlisted ⟨0⟩ ⟨1⟩
      (trial .shaping (.refusing "busybox") Call.shapedPod).2 (.startWithoutWait ⟨0⟩)
      refusedStart.2 := by
    decide +kernel
  exact .now_tried (reaches_trial .shaping (.refusing "busybox") Call.shapedPod) enlisting

/-- When the start is tried again, the sidecar that is there remains the only one. -/
theorem attendants_of_retry :
    retriedStart.2.stateOf ⟨0⟩ = some .started ∧
      Attends .shaping .shaper ⟨1⟩ retriedStart.1 retriedStart.2 ∧
      ∀ handle ∈ retriedStart.2.sidecarsOf ⟨0⟩,
        Attends .shaping .shaper handle retriedStart.1 retriedStart.2 → handle = ⟨1⟩ := by
  have enlisted : Enlisted .shaping .shaper ⟨0⟩ ⟨1⟩ retriedStart.1 retriedStart.2 :=
    enlisted_refusedStart.earlier_tried
  have original : ¬ Copied .shaping ⟨0⟩ retriedStart.1 retriedStart.2 := not_copied (by decide +kernel)
  have unattached {handle : InstanceId} : ¬ Attached .shaping ⟨0⟩ handle retriedStart.1 retriedStart.2 := by
    intro attached
    rcases attached.exists_record with ⟨record, member, _, _, attaches, _⟩
    have unlike : ∀ record ∈ retriedStart.1, (record.call matches .addSidecar _ _) = false := by
      decide +kernel
    have impossible := unlike record member
    rw [attaches] at impossible
    cases impossible
  have started : retriedStart.2.stateOf ⟨0⟩ = some .started := by decide +kernel
  have listed : ⟨1⟩ ∈ retriedStart.2.sidecarsOf ⟨0⟩ := by decide +kernel
  refine ⟨started, .injected enlisted.injected, fun handle lists attends => ?_⟩
  exact attendants_of_reaches attends (.injected enlisted.injected) lists listed original unattached unattached

/-- When the image of the sidecar cannot be opened, the sidecar is left behind.  Attached by hand, it stands beside
the one that the start enlists when it is tried again. -/
theorem attended_twice_by_hand :
    ¬ ∀ (setup : Setup) (history : List Record) (registry : Registry) (role : Attendant)
      (id first second : InstanceId), Attends setup role first history registry →
      Attends setup role second history registry → first ∈ registry.sidecarsOf id →
      second ∈ registry.sidecarsOf id → ¬ Copied setup id history registry → first = second := by
  intro claim
  have described := reaches_trial .shaping .agreeable Call.shapedPod
  have injecting : Attendant.shaper.IsInjected ⟨0⟩ ⟨1⟩ (trial .shaping .agreeable Call.shapedPod).2
      (.startWithoutWait ⟨0⟩) unbuiltStart.2 := by
    decide +kernel
  have leftBehind : Injected .shaping .shaper ⟨0⟩ ⟨1⟩ unbuiltStart.1 unbuiltStart.2 :=
    Happened.now_tried described injecting
  have committed : Injected .shaping .shaper ⟨0⟩ ⟨1⟩ salvagedCommit.1 salvagedCommit.2 :=
    leftBehind.earlier_tried.earlier_tried
  have attaching : Call.IsAttached ⟨0⟩ ⟨1⟩ salvagedCommit.2 (.addSidecar ⟨0⟩ ⟨1⟩) salvagedSidecar.2 := by
    refine ⟨rfl, ?_, ?_⟩
    · decide +kernel
    · decide +kernel
  have attached : Attached .shaping ⟨0⟩ ⟨1⟩ salvagedSidecar.1 salvagedSidecar.2 :=
    Happened.now_tried committed.reached attaching
  have enlisting : Attendant.shaper.IsEnlisted ⟨0⟩ ⟨2⟩ salvagedSidecar.2 (.startWithoutWait ⟨0⟩)
      salvagedStart.2 := by
    decide +kernel
  have enlisted : Enlisted .shaping .shaper ⟨0⟩ ⟨2⟩ salvagedStart.1 salvagedStart.2 :=
    Happened.now_tried attached.reached enlisting
  have injected : Injected .shaping .shaper ⟨0⟩ ⟨1⟩ salvagedStart.1 salvagedStart.2 :=
    committed.earlier_tried.earlier_tried
  have original : ¬ Copied .shaping ⟨0⟩ salvagedStart.1 salvagedStart.2 :=
    not_copied (by decide +kernel)
  rcases attended_twice_of_attached attached.earlier_tried enlisted with ⟨apart, listed, alsoListed⟩
  exact apart
    (claim _ _ _ _ _ _ _ (.injected injected) (.injected enlisted.injected) listed alsoListed original)

/-- When the instance is cloned after the failure, the clone has a copy of the sidecar. -/
theorem attends_refusedClone : Attends .shaping .shaper ⟨3⟩ refusedClone.1 refusedClone.2 := by
  have original : (refusedStart.2.sidecarsOf ⟨0⟩)[0]? = some ⟨1⟩ := by decide +kernel
  have copy : (refusedClone.2.sidecarsOf refusedStart.2.nextId)[0]? = some ⟨3⟩ := by decide +kernel
  exact .copied (.injected enlisted_refusedStart.injected) (Program.course_follow _ _) rfl original copy

/-- When the clone is started, it has two: the copy, and one of its own. -/
theorem clone_attended_twice :
    ¬ ∀ (setup : Setup) (history : List Record) (registry : Registry) (role : Attendant)
      (id first second : InstanceId), Attends setup role first history registry →
      Attends setup role second history registry → first ∈ registry.sidecarsOf id →
      second ∈ registry.sidecarsOf id → first = second := by
  intro claim
  have copied : Attends .shaping .shaper ⟨3⟩ clonedStart.1 clonedStart.2 :=
    Attends.kept_tried attends_refusedClone
  have injecting : Attendant.shaper.IsInjected ⟨2⟩ ⟨4⟩ refusedClone.2 (.startWithoutWait ⟨2⟩)
      clonedStart.2 := by
    decide +kernel
  have injected : Injected .shaping .shaper ⟨2⟩ ⟨4⟩ clonedStart.1 clonedStart.2 :=
    Happened.now_tried attends_refusedClone.reached injecting
  have own := Attends.injected injected
  have listed : ⟨3⟩ ∈ clonedStart.2.sidecarsOf ⟨2⟩ ∧ ⟨4⟩ ∈ clonedStart.2.sidecarsOf ⟨2⟩ := by
    decide +kernel
  have same := claim _ _ _ _ _ _ _ copied own listed.1 listed.2
  cases same

end Testbed
