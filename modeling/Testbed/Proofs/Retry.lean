import Testbed.Proofs.Completion
import Testbed.Proofs.Discretion.Writing
import Testbed.Proofs.Heredity
import Testbed.Proofs.Wishes

namespace Testbed

/-!
# Starts that are tried again

A start can fail after it has injected attendants, and can then be tried again.  As long as the builder of
images does not fail, everybody who joins in the course of such starts is an attendant that the instance
wanted, attached and noted, and there is one at most in each role: names that are not given and a cluster
that refuses leave nobody behind.

If the builder fails in the middle of an injection, the instance that was made stays behind alone, and
the next start makes another one.
-/

namespace Registry

variable {before middle after grown : Registry} {wishes : Wishes} {id : InstanceId} {role : Attendant}
  {current : Instance} {call : Call}

/-- Whether everybody who has joined is an attendant that an instance of these wishes wanted. -/
def IsStaffed (before : Registry) (wishes : Wishes) (id : InstanceId) (after : Registry) : Prop :=
  ∀ handle sidecar, before.get? handle = none → after.get? handle = some sidecar →
    ∃ role : Attendant, role.isWanted wishes = true ∧ after.HasAttendant role id handle

/-- Where nobody has joined, everybody who has is an attendant. -/
theorem isStaffed_of_source
    (source : ∀ handle sidecar, after.get? handle = some sidecar →
      ∃ workload, before.get? handle = some workload) : before.IsStaffed wishes id after := by
  intro handle sidecar new joined
  rcases source handle sidecar joined with ⟨workload, found⟩
  rw [new] at found
  cases found

theorem IsStaffed.refl : before.IsStaffed wishes id before :=
  isStaffed_of_source fun _ sidecar found => ⟨sidecar, found⟩

theorem IsStaffed.trans (first : before.IsStaffed wishes id middle)
    (second : middle.IsStaffed wishes id after) (lasts : middle.Lasts call after) :
    before.IsStaffed wishes id after := by
  intro handle sidecar new joined
  cases known : middle.get? handle with
  | none => exact second handle sidecar known joined
  | some workload =>
      rcases first handle workload new known with ⟨role, wanted, has⟩
      exact ⟨role, wanted, has.lasts lasts⟩

/-- Whether a registry has been left alone, or a pod has been moved to its start. -/
def IsLaunched (before : Registry) (id : InstanceId) (after : Registry) : Prop :=
  after = before ∨ after = before.setPodState id .started

theorem IsLaunched.isStaffed (launched : before.IsLaunched id after) :
    before.IsStaffed wishes id after := by
  rcases launched with rfl | rfl
  · exact .refl
  · refine isStaffed_of_source fun handle sidecar joined => ?_
    rcases reworked_setPodState.source joined with ⟨workload, found, _⟩
    exact ⟨workload, found⟩

theorem IsLaunched.lasts (launched : before.IsLaunched id after) : before.Lasts call after := by
  intro other workload found
  rcases launched with rfl | rfl
  · exact ⟨workload, found, .refl⟩
  · refine ⟨_, reworked_setPodState.found found, ?_⟩
    split
    · exact .of_listed rfl (List.Subset.refl _) rfl rfl
    · exact .refl

/-- Whoever joins in an injection is the attendant that is enlisted. -/
theorem isStaffed_of_joins {clusterName : String} (found : before.get? id = some current)
    (wanted : role.isWanted current.wishes = true)
    (joins : Action.Joins role id current clusterName before after) :
    before.IsStaffed current.wishes id after := by
  rcases joins with ⟨grown, image, context, joined, rfl⟩
  intro handle sidecar new there
  have apart : handle ≠ id := by
    rintro rfl
    rw [new] at found
    cases found
  rw [get?_enlist_of_ne apart] at there
  rcases Option.map_eq_some_iff.mp there with ⟨workload, known, _⟩
  rw [get?_add joined] at known
  split at known
  · rename_i last
    exact ⟨role, wanted, last ▸ hasAttendant_enlist found joined⟩
  · rw [new] at known
    cases known

end Registry

namespace Action

variable {setup : Setup} {call : Call} {before after : Registry} {events : List Event} {id : InstanceId}
  {workload current parent : Instance} {result : Except Error Unit}

/-! ## One start -/

/-- What can come of an injection that is made only if it is needed, as long as the builder of images does
not fail. -/
inductive Injection (role : Attendant) (id : InstanceId) (current : Instance) (before : Registry) :
    List Event → Except Error Unit → Registry → Prop where
  | idle : Injection role id current before [] (.ok ()) before
  | nameless {events : List Event} {result : Except Error Unit} (lacks : before.LacksName events) :
      Injection role id current before events result before
  | joined {events : List Event} {after : Registry} {clusterName : String}
      (wanted : role.isWanted current.wishes = true) (names : Event.Names clusterName events)
      (joins : Joins role id current clusterName before after) :
      Injection role id current before events (.ok ()) after

theorem course_injectIf {role : Attendant} {wants : Bool}
    (found : before.get? parent.id = some current) (stands : current.StandsFor parent)
    (needed : wants = (role.isWanted current.wishes && !role.isNoted current))
    (course : Course setup (if wants = true then inject role parent else pure ()) before events result
      after)
    (built : ∀ event ∈ events, event.failsToBuild = false) :
    Injection role parent.id current before events result after := by
  subst needed
  split at course
  · rename_i wanted
    rw [Bool.and_eq_true] at wanted
    rcases course_inject found stands course built with
      ⟨rfl, lacks⟩ | ⟨clusterName, names, ⟨_, rfl⟩, joins⟩
    · exact .nameless lacks
    · exact .joined wanted.1 names joins
  · rcases course_pure.mp course with ⟨rfl, rfl, rfl⟩
    exact .idle

theorem Injection.isStaffed {role : Attendant} (found : before.get? id = some current)
    (injection : Injection role id current before events result after) :
    before.IsStaffed current.wishes id after := by
  cases injection with
  | idle | nameless => exact .refl
  | joined wanted _ joins => exact Registry.isStaffed_of_joins found wanted joins

/-- After an injection the parent is as it was, but for the attendant that it may have got. -/
theorem Injection.stands {role : Attendant} (found : before.get? id = some current)
    (stands : current.StandsFor parent)
    (injection : Injection role id current before events result after) :
    ∃ left, after.get? id = some left ∧ left.StandsFor parent ∧
      ∀ other ≠ role, other.isNoted left = other.isNoted current := by
  cases injection with
  | idle | nameless => exact ⟨current, found, stands, fun _ _ => rfl⟩
  | joined _ _ joins => exact joins.stands found stands

/-- After the first injection of a start, the second one is made only if it is needed. -/
theorem wantsShapingSidecar_of_injection
    (found : before.get? parent.id = some parent) (stands : parent.StandsFor parent)
    (injection : Injection .collector parent.id parent before events result after) :
    ∃ left, after.get? parent.id = some left ∧ left.StandsFor parent ∧
      wantsShapingSidecar parent =
        (Attendant.shaper.isWanted left.wishes && !Attendant.shaper.isNoted left) := by
  rcases injection.stands found stands with ⟨left, there, lasting, unnoted⟩
  refine ⟨left, there, lasting, ?_⟩
  rw [wantsShapingSidecar_eq, lasting.wishes, unnoted .shaper nofun]

/-- Whoever joins in the injections of a start is an attendant that is wanted. -/
theorem isStaffed_of_injectSidecars (starts : call.startOf? = some parent.id)
    (found : before.get? parent.id = some parent) (stands : parent.StandsFor parent)
    (course : Course setup (injectSidecars parent) before events result after)
    (built : ∀ event ∈ events, event.failsToBuild = false) :
    before.IsStaffed parent.wishes parent.id after := by
  rw [injectSidecars_eq] at course
  rcases course_bind.mp course with
    ⟨error, rfl, stopped⟩ | ⟨_, middle, earlier, later, rfl, collected, shaped⟩
  · exact (course_injectIf found stands wantsCollector_eq stopped built).isStaffed found
  rcases List.forall_mem_append.mp built with ⟨early, late⟩
  have first := course_injectIf found stands wantsCollector_eq collected early
  rcases wantsShapingSidecar_of_injection found stands first with ⟨current, there, stands, needed⟩
  have second := (course_injectIf there stands needed shaped late).isStaffed there
  rw [stands.wishes] at second
  have steps : Steps setup call middle later after :=
    (passes_injectIf .shaper starts there stands.name stands.wishes needed _ _ _ shaped).1
  exact (first.isStaffed found).trans second steps.lasts

/-- An action that leaves the registry alone, or moves a pod to its start at its end. -/
def Launches (setup : Setup) (id : InstanceId) (action : Action β) : Prop :=
  ∀ ⦃before events result after⦄, Course setup action before events result after →
    before.IsLaunched id after

theorem Reads.bind_launches {action : Action α} {next : α → Action β} (reads : Reads setup action)
    (rest : ∀ value, Launches setup id (next value)) : Launches setup id (action >>= next) := by
  intro before events result after course
  rcases course_bind.mp course with
    ⟨error, _, failed⟩ | ⟨value, middle, earlier, later, rfl, started, ended⟩
  · exact Or.inl (reads failed).1
  · rcases reads started with ⟨rfl, _⟩
    exact rest value ended

theorem launches_setPodState : Launches setup id (setPodState id .started) := by
  intro before events result after course
  exact Or.inr (course_setPodState.mp course).2.2

/-- What is launched after the injections adds nobody. -/
theorem isStaffed_of_injectSidecars_bind {rest : Unit → Action Unit}
    (starts : call.startOf? = some parent.id) (found : before.get? parent.id = some parent)
    (stands : parent.StandsFor parent) (launches : ∀ injected, Launches setup parent.id (rest injected))
    (course : Course setup (injectSidecars parent >>= rest) before events result after)
    (built : ∀ event ∈ events, event.failsToBuild = false) :
    before.IsStaffed parent.wishes parent.id after := by
  rcases course_bind.mp course with
    ⟨error, rfl, failed⟩ | ⟨_, middle, first, last, rfl, injected, launching⟩
  · exact isStaffed_of_injectSidecars starts found stands failed built
  · have staffed := isStaffed_of_injectSidecars starts found stands injected
      (List.forall_mem_append.mp built).1
    have launched := launches _ launching
    exact staffed.trans launched.isStaffed (launched.lasts : middle.Lasts call after)

theorem isStaffed_of_startWithoutWait (starts : call.startOf? = some id) (linked : before.WellLinked)
    (found : before.get? id = some workload) (port : workload.fault.port ≠ 0)
    (course : Course setup (startWithoutWait id) before events result after)
    (built : ∀ event ∈ events, event.failsToBuild = false) :
    before.IsStaffed workload.wishes id after := by
  rcases course_guarded_bind.mp course with
    ⟨error, _, rfl, rfl, rfl⟩ | ⟨parent, ⟨located, _⟩, leading⟩
  · exact .refl
  rcases Option.some.inj (found.symm.trans located) with rfl
  rcases course_ensureNoSidecar_bind.mp leading with ⟨_, rfl, rfl, rfl⟩ | ⟨leads, guarding⟩
  · exact .refl
  rcases course_bind.mp guarding with
    ⟨error, rfl, stopped⟩ | ⟨_, middle, earlier, later, rfl, passed, rest⟩
  · rcases reads_guardSidecars _ _ stopped with ⟨rfl, _⟩
    exact .refl
  rcases reads_guardSidecars _ _ passed with ⟨rfl, _⟩
  have built := (List.forall_mem_append.mp built).2
  have launch (unit : ReplicaSet) : Launches setup id (do
      cluster workload.name .start (.apply (.replicaSet unit))
      setPodState id .started) :=
    (reads_cluster _ _ _).bind_launches fun _ => launches_setPodState
  dsimp only at rest
  by_cases committed : workload.state = .committed
  · simp only [if_pos committed] at rest
    have stands : workload.StandsFor workload :=
      ⟨rfl, rfl, leads, Operation.mem_descriptive_iff.mpr (Or.inr committed), port⟩
    have handle : workload.id = id := linked.handle found
    subst handle
    refine isStaffed_of_injectSidecars_bind starts found stands (fun _ => ?_) rest built
    refine (reads_find _).bind_launches fun again => ?_
    refine (reads_compile _).bind_launches fun compiled => ?_
    exact (reads_applyAll _).bind_launches fun _ => launch compiled.replicaSet
  · simp only [if_neg committed] at rest
    have launched : middle.IsLaunched id after := by
      refine (reads_find _).bind_launches (fun again => ?_) rest
      exact (reads_compile _).bind_launches fun compiled => launch compiled.replicaSet
    exact launched.isStaffed

end Action

open Testbed.Action in
/-- Whoever joins in a start is an attendant that is wanted, if nothing about images fails. -/
theorem Call.isStaffed_of_start {setup : Setup} {before after : Registry} {call : Call}
    {events : List Event} {result : Except Error call.Value} {id : InstanceId} {workload : Instance}
    (starts : call.startOf? = some id) (linked : before.WellLinked)
    (found : before.get? id = some workload) (port : workload.fault.port ≠ 0)
    (course : Course setup call.perform before events result after)
    (built : ∀ event ∈ events, event.failsToBuild = false) :
    before.IsStaffed workload.wishes id after := by
  cases call with
  | startWithoutWait =>
      obtain rfl := Option.some.inj starts
      exact isStaffed_of_startWithoutWait starts linked found port course built
  | start =>
      obtain rfl := Option.some.inj starts
      rcases course_bind.mp course with
        ⟨error, rfl, failed⟩ | ⟨_, middle, earlier, later, rfl, started, waiting⟩
      · exact isStaffed_of_startWithoutWait starts linked found port failed built
      · rcases reads_waitRunning waiting with ⟨rfl, _⟩
        exact isStaffed_of_startWithoutWait starts linked found port started
          (List.forall_mem_append.mp built).1
  | _ => cases starts

/-! ## One start after another -/

/-- Starts of an instance, one after another, each of which can fail. -/
inductive Retries (setup : Setup) (id : InstanceId) (before : Registry) :
    List Record → Registry → Prop where
  | none : Retries setup id before [] before
  | next {records : List Record} {middle after : Registry} {call : Call} {events : List Event}
      {result : Except Error call.Value} (earlier : Retries setup id before records middle)
      (starts : call.startOf? = some id)
      (course : Action.Course setup call.perform middle events result after) :
      Retries setup id before (records ++ [⟨call, events, result⟩]) after

namespace Retries

variable {setup : Setup} {id : InstanceId} {before after : Registry} {history records : List Record}
  {workload : Instance}

/-- What is tried once more is one more start. -/
theorem tried {past : List Record × Registry} (replies : Replies) (call : Call)
    (earlier : Retries setup id before records past.2) (starts : call.startOf? = some id) :
    ∃ record, Retries setup id before (records ++ [record]) (call.tried setup replies past).2 ∧
      (call.tried setup replies past).1 = past.1 ++ [record] :=
  ⟨_, earlier.next starts (Program.course_follow replies _), rfl⟩

theorem reaches (retries : Retries setup id before records after)
    (reached : Reaches setup history before) : Reaches setup (history ++ records) after := by
  induction retries with
  | none =>
      rw [List.append_nil]
      exact reached
  | next _ _ course inductionHypothesis =>
      rw [← List.append_assoc]
      exact inductionHypothesis.call course

/-- Starts leave an instance with its wishes, and whoever joins in them is an attendant. -/
theorem isStaffed (retries : Retries setup id before records after)
    (reached : Reaches setup history before) (found : before.get? id = some workload)
    (built : ∀ record ∈ records, ∀ event ∈ record.events, event.failsToBuild = false) :
    (∃ left, after.get? id = some left ∧ left.wishes = workload.wishes) ∧
      before.IsStaffed workload.wishes id after := by
  induction retries with
  | none => exact ⟨⟨workload, found, rfl⟩, .refl⟩
  | @next records middle after call events result earlier starts course inductionHypothesis =>
      rcases List.forall_mem_append.mp built with ⟨early, late⟩
      rcases inductionHypothesis early with ⟨⟨current, there, wishes⟩, staffed⟩
      have between := earlier.reaches reached
      have linked := between.invariant.1
      have lasts := (Call.turn linked course).lasts
      rcases lasts id current there with ⟨left, known, later⟩
      have port := hereditary_port.of_reaches between id current there
      have joining := Call.isStaffed_of_start starts linked there port course (late _ (.head _))
      rw [wishes] at joining
      have kept := later.wishes (Call.spares_of_start starts id).2
      exact ⟨⟨left, known, kept.trans wishes⟩, staffed.trans joining lasts⟩

end Retries

/-- Whoever joins in the course of starts of an instance, however many there are and wherever they fail,
is attached to it as an attendant that it wants, the only one in its role: provided that the builder of
images does not fail. -/
theorem staffed_of_retries {setup : Setup} {history records : List Record} {before after : Registry}
    {id : InstanceId} {workload : Instance} (reached : Reaches setup history before)
    (found : before.get? id = some workload) (retries : Retries setup id before records after)
    (built : ∀ record ∈ records, ∀ event ∈ record.events, event.failsToBuild = false) :
    ∀ handle sidecar, before.get? handle = none → after.get? handle = some sidecar →
      after.parentOf handle = some id ∧
      ∃ role : Attendant, role.isWanted workload.wishes = true ∧ after.HasAttendant role id handle ∧
        ∀ other, after.HasAttendant role id other → other = handle := by
  intro handle sidecar new joined
  have linked := (retries.reaches reached).invariant.1
  rcases (retries.isStaffed reached found built).2 handle sidecar new joined with ⟨role, wanted, has⟩
  have attached : after.parentOf handle = some id := by
    rcases has with ⟨parent, _, there, _, listed, _⟩
    exact linked.linked.mpr (Registry.mem_sidecarsOf_iff.mpr ⟨parent, there, listed⟩)
  exact ⟨attached, role, wanted, has, fun other also => linked.attendant_unique also has⟩

/-- The cluster refuses a first start and grants the second one: one sidecar has joined, and it is
attached. -/
theorem staffed_of_retriedStart :
    let described := trial .shaping (.refusing "busybox") Call.shapedPod
    Reaches .shaping described.1 described.2 ∧
      (∃ records, Retries .shaping ⟨0⟩ described.2 records retriedStart.2 ∧
        retriedStart.1 = described.1 ++ records ∧
        records.map (fun record => record.result.isOk) = [false, true]) ∧
      described.2.get? ⟨1⟩ = none ∧ retriedStart.2.parentOf ⟨1⟩ = some ⟨0⟩ ∧
      ∃ role : Attendant, retriedStart.2.HasAttendant role ⟨0⟩ ⟨1⟩ ∧
        ∀ other, retriedStart.2.HasAttendant role ⟨0⟩ other → other = ⟨1⟩ := by
  intro described
  have reached : Reaches .shaping described.1 described.2 := reaches_trial _ _ _
  have state : described.2.stateOf ⟨0⟩ = some .committed := by decide +kernel
  rcases Option.map_eq_some_iff.mp state with ⟨workload, found, _⟩
  have new : described.2.get? ⟨1⟩ = none := by decide +kernel
  have joined : (retriedStart.2.get? ⟨1⟩).isSome = true := by decide +kernel
  rcases Option.isSome_iff_exists.mp joined with ⟨sidecar, there⟩
  rcases Retries.none.tried (.refusing "busybox") (.startWithoutWait ⟨0⟩) rfl with
    ⟨first, refused, begun⟩
  rcases refused.tried .agreeable (.startWithoutWait ⟨0⟩) rfl with ⟨second, granted, whole⟩
  have whole : retriedStart.1 = described.1 ++ [first, second] := by
    rw [← List.singleton_append, ← List.append_assoc, ← begun]
    exact whole
  have kinds : (retriedStart.1.drop 4).map (fun record => record.result.isOk) = [false, true] := by
    decide +kernel
  have built : ∀ record ∈ retriedStart.1.drop 4, ∀ event ∈ record.events,
      event.failsToBuild = false := by decide +kernel
  have records : retriedStart.1.drop 4 = [first, second] := by
    rw [whole]
    exact List.drop_left' rfl
  rw [records] at kinds built
  rcases staffed_of_retries reached found granted built ⟨1⟩ sidecar new there with
    ⟨attached, role, _, has, only⟩
  exact ⟨reached, ⟨_, granted, whole, kinds⟩, new, attached, role, has, only⟩

/-- The start is tried again, and everything is granted. -/
def rebuiltStart : List Record × Registry :=
  (Call.startWithoutWait ⟨0⟩).tried .shaping (.renaming "-b") unbuiltStart

/-- When the builder fails in the middle of an injection, the start that is tried again makes a second
sidecar, and the first one stays behind alone. -/
theorem unstaffed_after_rebuilding :
    (¬ ∀ (setup : Setup) (history records : List Record) (before after : Registry)
      (id handle : InstanceId) (workload sidecar : Instance), Reaches setup history before →
      before.get? id = some workload → workload.state = .committed → workload.parent = none →
      Retries setup id before records after → before.get? handle = none →
      after.get? handle = some sidecar → after.parentOf handle = some id) ∧
    ¬ ∀ (setup : Setup) (history records : List Record) (before after : Registry) (role : Attendant)
      (id first second : InstanceId) (workload : Instance), Reaches setup history before →
      before.get? id = some workload → workload.state = .committed → workload.parent = none →
      Retries setup id before records after → before.get? first = none → before.get? second = none →
      after.nameOf first = some (role.nameFor workload.name) →
      after.nameOf second = some (role.nameFor workload.name) → first = second := by
  have reached := reaches_trial .shaping .agreeable Call.shapedPod
  have shape : ((trial .shaping .agreeable Call.shapedPod).2.get? ⟨0⟩).map
      (fun workload => (workload.name, workload.state, workload.parent)) =
      some ("main", .committed, none) := by decide +kernel
  rcases Option.map_eq_some_iff.mp shape with ⟨workload, found, same⟩
  rcases Prod.mk.inj same with ⟨name, same⟩
  rcases Prod.mk.inj same with ⟨committed, leads⟩
  have first : (trial .shaping .agreeable Call.shapedPod).2.get? ⟨1⟩ = none := by decide +kernel
  have second : (trial .shaping .agreeable Call.shapedPod).2.get? ⟨2⟩ = none := by decide +kernel
  rcases Retries.none.tried (.withholding Setup.shaping.settings.faultInjectionImage)
    (.startWithoutWait ⟨0⟩) rfl with ⟨_, failed, _⟩
  rcases failed.tried (.renaming "-b") (.startWithoutWait ⟨0⟩) rfl with ⟨_, retries, _⟩
  constructor
  · intro claim
    have joined : (rebuiltStart.2.get? ⟨1⟩).isSome = true := by decide +kernel
    rcases Option.isSome_iff_exists.mp joined with ⟨sidecar, there⟩
    have attached := claim _ _ _ _ _ _ _ _ _ reached found committed leads retries first there
    have alone : rebuiltStart.2.parentOf ⟨1⟩ = none := by decide +kernel
    rw [rebuiltStart, unbuiltStart] at alone
    rw [alone] at attached
    cases attached
  · intro claim
    have named : rebuiltStart.2.nameOf ⟨1⟩ = some (Attendant.shaper.nameFor "main") := by
      decide +kernel
    have alike : rebuiltStart.2.nameOf ⟨2⟩ = some (Attendant.shaper.nameFor "main") := by
      decide +kernel
    have same := claim _ _ _ _ _ .shaper _ _ _ _ reached found committed leads retries first second
      (name ▸ named) (name ▸ alike)
    cases same

end Testbed
