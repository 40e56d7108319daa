import Testbed.Proofs.Promptness
import Testbed.Proofs.Retry

namespace Testbed

/-!
# Starts that succeed

A start goes through a whole pipeline: it may create two more instances, give them images, commit,
describe and attach them, and then it compiles the pod. Each of these steps has rules of its own and can
refuse. None of them does: if the collaborators grant what they are asked for, and names in the cluster
are given once each, then a committed instance that is no sidecar is started, and so are its sidecars and
all those that the start has injected.

What carries the proof is that the first injection takes the names that it is given and no others, so the
second one finds its own name free; and that a registry in which injections have been made is in order
like any other, so that its pods can be compiled.
-/

/-- Whether an event is that something has failed. -/
def Event.fails : Event → Bool
  | asked (.cluster _) (.error _) | asked (.image _) (.error _) => true
  | asked (.shape _ _ _ _) (.error _) | asked (.unshape _ _ _) (.error _) => true
  | asked (.expose _ _ _) (.error _) | asked (.exposedAddress _) (.error _) => true
  | asked (.clusterName _) (.error _) | asked .localPort (.error _) => true
  | asked (.sourceFile _) (.error _) | asked (.sourceFolder _) (.error _) => true
  | asked _ _ => false
  | awaited _ .met | connected _ _ _ (.succeeded _) => false
  | awaited _ _ | connected _ _ _ _ => true

/-- The name in the cluster that an event gives. -/
def Event.given? : Event → Option String
  | asked (.clusterName _) (.ok clusterName) => some clusterName
  | _ => none

/-- The names in the cluster that have been given, in their order. -/
def givenNames (events : List Event) : List String :=
  events.filterMap Event.given?

theorem givenNames_append {earlier later : List Event} :
    givenNames (earlier ++ later) = givenNames earlier ++ givenNames later :=
  List.filterMap_append

theorem Event.failsToBuild_of_fails {event : Event} (granted : event.fails = false) :
    event.failsToBuild = false := by
  apply Bool.of_not_eq_true
  intro failed
  unfold failsToBuild at failed
  split at failed
  · cases granted
  · cases failed

namespace Registry

variable {before middle after grown : Registry} {events earlier later : List Event}
  {id other : InstanceId} {workload : Instance}

/-- Whether everything is granted, and the names that are given are new and different. -/
structure IsObliged (registry : Registry) (events : List Event) : Prop where
  granted : ∀ event ∈ events, event.fails = false
  distinct : (givenNames events).Nodup
  unused : ∀ name ∈ givenNames events, registry.hasClusterName name = false

theorem IsObliged.built (obliged : before.IsObliged events) :
    ∀ event ∈ events, event.failsToBuild = false :=
  fun event member => Event.failsToBuild_of_fails (obliged.granted event member)

theorem IsObliged.of_append (obliged : before.IsObliged (earlier ++ later)) :
    before.IsObliged earlier := by
  rcases obliged with ⟨granted, distinct, unused⟩
  rw [givenNames_append] at distinct unused
  exact ⟨(List.forall_mem_append.mp granted).1, (List.nodup_append.mp distinct).1,
    (List.forall_mem_append.mp unused).1⟩

/-- Whether the names in a registry are those of before and those that have been given. -/
def NamesWithin (before : Registry) (events : List Event) (after : Registry) : Prop :=
  ∀ id workload, after.get? id = some workload →
    before.hasClusterName workload.clusterName = true ∨ workload.clusterName ∈ givenNames events

theorem hasClusterName_of_found (found : before.get? id = some workload) :
    before.hasClusterName workload.clusterName = true := by
  apply Bool.of_not_eq_false
  intro free
  exact hasClusterName_eq_false_iff.mp free id workload found rfl

theorem NamesWithin.refl : before.NamesWithin events before :=
  fun _ _ found => Or.inl (hasClusterName_of_found found)

/-- What is still to be granted after some events does not depend on what was given in them. -/
theorem IsObliged.onward (obliged : before.IsObliged (earlier ++ later))
    (within : before.NamesWithin earlier middle) : middle.IsObliged later := by
  rcases obliged with ⟨granted, distinct, unused⟩
  rw [givenNames_append] at distinct unused
  rcases List.nodup_append.mp distinct with ⟨_, distinctLater, apart⟩
  refine ⟨(List.forall_mem_append.mp granted).2, distinctLater, fun name given => ?_⟩
  refine hasClusterName_eq_false_iff.mpr fun id workload found same => ?_
  rcases within id workload found with taken | known
  · rw [same, (List.forall_mem_append.mp unused).2 name given] at taken
    cases taken
  · exact apart _ known _ given same

end Registry

namespace Action

variable {setup : Setup} {before after : Registry} {events : List Event} {id : InstanceId}
  {workload current parent : Instance} {result : Except Error Unit} {role : Attendant}

/-! ## Injections -/

/-- Whoever joins in an injection has the name that was given. -/
theorem Joins.namesWithin {clusterName : String} (names : Event.Names clusterName events)
    (found : before.get? id = some current) (joins : Joins role id current clusterName before after) :
    before.NamesWithin events after := by
  rcases joins with ⟨grown, image, context, joined, rfl⟩
  rcases names with ⟨name, later, rfl⟩
  have given : clusterName ∈ givenNames (.asked (.clusterName name) (.ok clusterName) :: later) :=
    List.mem_cons_self
  intro other left there
  by_cases here : other = id
  · subst here
    rw [Registry.get?_enlist_self (Registry.found_add joined found) (Registry.ne_nextId found)] at there
    obtain rfl := Option.some.inj there
    have kept (sidecars : List InstanceId) :
        (role.note before.nextId clusterName { current with sidecars }).clusterName =
          current.clusterName := by
      cases role with
      | collector | shaper => rfl
    rw [kept]
    exact Or.inl (Registry.hasClusterName_of_found found)
  · rw [Registry.get?_enlist_of_ne here] at there
    rcases Option.map_eq_some_iff.mp there with ⟨member, known, rfl⟩
    rw [Registry.get?_add joined] at known
    split at known
    · obtain rfl := Option.some.inj known
      have named : (role.made current before.nextId clusterName image context).clusterName =
          clusterName :=
        congrArg (fun bonds => bonds.links.clusterName) Attendant.bonds_made
      refine Or.inr ?_
      change (role.made current before.nextId clusterName image context).clusterName ∈ _
      rw [named]
      exact given
    · refine Or.inl ?_
      have taken := Registry.hasClusterName_of_found known
      exact taken

/-- An injection that is granted everything succeeds, and takes no name but the one it is given. -/
theorem Injection.granted (found : before.get? id = some current) (obliged : before.IsObliged events)
    (injection : Injection role id current before events result after) :
    result = .ok () ∧ before.NamesWithin events after := by
  cases injection with
  | idle => exact ⟨rfl, .refl⟩
  | nameless lacks =>
      rcases lacks with ⟨name, reply, rfl, taken⟩
      cases reply with
      | error error => cases obliged.granted _ List.mem_cons_self
      | ok clusterName =>
          have free := obliged.unused clusterName List.mem_cons_self
          rw [taken clusterName rfl] at free
          cases free
  | joined _ names joins => exact ⟨rfl, joins.namesWithin names found⟩

theorem granted_injectSidecars (found : before.get? parent.id = some parent)
    (stands : parent.StandsFor parent)
    (course : Course setup (injectSidecars parent) before events result after)
    (obliged : before.IsObliged events) : result = .ok () := by
  rw [injectSidecars_eq] at course
  rcases course_bind.mp course with
    ⟨error, rfl, stopped⟩ | ⟨_, middle, earlier, later, rfl, collected, shaped⟩
  · have injection := course_injectIf found stands wantsCollector_eq stopped obliged.built
    cases (injection.granted found obliged).1
  have first := course_injectIf found stands wantsCollector_eq collected obliged.of_append.built
  have within := (first.granted found obliged.of_append).2
  have obliging := obliged.onward within
  rcases wantsShapingSidecar_of_injection found stands first with ⟨current, there, stands, needed⟩
  have second := course_injectIf there stands needed shaped obliging.built
  exact (second.granted there obliging).1

/-! ## Starts -/

theorem granted_applyAll {name : String} {operation : Operation} {resources : List Resource}
    (course : Course setup (applyAll name operation resources) before events result after)
    (granted : ∀ event ∈ events, event.fails = false) : result = .ok () := by
  induction resources generalizing events with
  | nil => exact (course_pure.mp course).2.1
  | cons first rest inductionHypothesis =>
      rcases course_cluster_bind.mp course with ⟨error, rfl, _, _⟩ | ⟨_, later, rfl, onward⟩
      · cases granted _ List.mem_cons_self
      · exact inductionHypothesis onward (List.forall_mem_cons.mp granted).2

/-- Applies a compiled pod with all that supports it, and moves it to its start. -/
def launch (id : InstanceId) (name : String) (compiled : CompiledPod) : Action Unit := do
  applyAll name .start compiled.supporting
  cluster name .start (.apply (.replicaSet compiled.replicaSet))
  setPodState id .started

theorem granted_launch {compiled : CompiledPod} {name : String}
    (course : Course setup (launch id name compiled) before events result after)
    (granted : ∀ event ∈ events, event.fails = false) :
    result = .ok () ∧ after = before.setPodState id .started := by
  rcases course_bind.mp course with
    ⟨error, rfl, stopped⟩ | ⟨_, middle, earlier, later, rfl, applied, onward⟩
  · cases granted_applyAll stopped granted
  rcases reads_applyAll _ applied with ⟨rfl, _⟩
  rcases course_cluster_bind.mp onward with ⟨error, rfl, _, _⟩ | ⟨_, last, rfl, moving⟩
  · cases granted _ (List.mem_append_right _ List.mem_cons_self)
  · exact (course_setPodState.mp moving).2

/-- A start of a committed pod passes all its guards.  It injects what is wanted, and launches the pod
with what has been injected. -/
theorem startWithoutWait_eq (lockstep : before.InLockstep) (found : before.get? id = some workload)
    (committed : workload.state = .committed) (leads : workload.parent = none) :
    startWithoutWait id setup before =
      (injectSidecars workload >>= fun _ => find id >>= fun again =>
        compile again >>= launch id workload.name) setup before := by
  have permitted : workload.state ∈ Operation.start.allowedStates := by
    rw [committed]
    exact List.mem_cons_self
  have located : guarded id .start setup before = .done (.ok workload, before) := by
    rw [guarded_eq, Registry.guarded_eq_ok_iff.mpr ⟨found, permitted⟩]
  have leading : ensureNoSidecar workload .start setup before = .done (.ok (), before) := by
    rw [ensureNoSidecar, Instance.isSidecar, leads]
    rfl
  have passed : guardSidecars .start workload.sidecars setup before = .done (.ok (), before) := by
    rw [guardSidecars_eq, lockstep.permits found List.mem_cons_self permitted]
  rw [startWithoutWait, bind_of_done located, bind_of_done leading, bind_of_done passed]
  dsimp only
  simp only [if_pos committed]
  rfl

/-- A start of a committed pod that is granted everything moves a registry that is in order. -/
theorem granted_startWithoutWait (linked : before.WellLinked) (lockstep : before.InLockstep)
    (imaged : before.All Instance.IsImaged) (found : before.get? id = some workload)
    (committed : workload.state = .committed) (leads : workload.parent = none)
    (port : workload.fault.port ≠ 0)
    (course : Course setup (startWithoutWait id) before events result after)
    (obliged : before.IsObliged events) :
    result = .ok () ∧ ∃ (middle : Registry) (left : Instance), middle.WellLinked ∧
      middle.get? id = some left ∧ after = middle.setPodState id .started := by
  rw [Course, startWithoutWait_eq lockstep found committed leads] at course
  have handle : workload.id = id := linked.handle found
  subst handle
  have stands : workload.StandsFor workload :=
    ⟨rfl, rfl, leads, Operation.mem_descriptive_iff.mpr (Or.inr committed), port⟩
  rcases course_bind.mp course with
    ⟨error, rfl, stopped⟩ | ⟨_, middle, earlier, later, rfl, injected, onward⟩
  · cases granted_injectSidecars found stands stopped obliged
  -- The injections are moves that leave the parent where it was, so the pod can still be compiled.
  have old := Registry.lt_of_get? found
  have known := (Registry.stateOf_eq found).trans (congrArg some committed)
  rcases proceeds_injectSidecars (Nat.le_refl _) old known _ _ _ injected with ⟨count, within, moves, _⟩
  obtain rfl := Nat.le_zero.mp within
  rcases moves.kept old found with ⟨left, there, _, state, _⟩
  have linkedThen := moves.wellLinked linked
  have late : left.state ≠ .created ∧ left.state ≠ .preparing := by
    rw [state, committed]
    decide
  rcases Registry.exists_compile linkedThen (moves.inLockstep linked lockstep)
    (hereditary_image.moves moves linked lockstep imaged) there late setup.settings with ⟨compiled, made⟩
  have finding : find workload.id setup middle = .done (.ok left, middle) := by
    rw [find_eq, Registry.find_eq_ok_iff.mpr there]
  have compiling : compile left setup middle = .done (.ok compiled, middle) := by
    rw [compile_eq, made]
  rw [Course, bind_of_done finding, bind_of_done compiling] at onward
  have granted := (List.forall_mem_append.mp obliged.granted).2
  rcases granted_launch onward granted with ⟨done, moved⟩
  exact ⟨done, middle, left, linkedThen, there, moved⟩

end Action

/-- Whether an instance and all its sidecars are started. -/
def Registry.IsUp (registry : Registry) (id : InstanceId) : Prop :=
  ∀ handle ∈ registry.podHandles id, registry.stateOf handle = some .started

theorem Registry.WellLinked.isUp_setPodState {registry : Registry} {id : InstanceId} {left : Instance}
    (linked : registry.WellLinked) (found : registry.get? id = some left) :
    (registry.setPodState id .started).IsUp id := by
  intro handle member
  rw [mem_podHandles_iff, sidecarsOf_of_linksOf_eq linksOf_setPodState, ← mem_podHandles_iff] at member
  rw [stateOf_setPodState, if_pos member]
  rcases mem_podHandles_iff.mp member with rfl | listed
  · rw [stateOf_eq found]
    rfl
  · rcases linked.registered listed with ⟨sidecar, there, _⟩
    rw [stateOf_eq there]
    rfl

/-- No call takes a sidecar from a pod. -/
theorem Registry.podHandles_subset {before after : Registry} {call : Call} {id : InstanceId}
    {workload : Instance} (lasts : before.Lasts call after) (found : before.get? id = some workload) :
    before.podHandles id ⊆ after.podHandles id := by
  intro handle member
  rcases mem_podHandles_iff.mp member with rfl | listed
  · exact mem_podHandles_iff.mpr (Or.inl rfl)
  · rcases lasts id workload found with ⟨left, known, later⟩
    rw [sidecarsOf_eq found] at listed
    refine mem_podHandles_iff.mpr (Or.inr ?_)
    rw [sidecarsOf_eq known]
    exact later.listed listed

open Testbed.Action in
/-- A start of a committed instance that is no sidecar cannot fail on its own account.  If everything is
granted, it succeeds: the instance is started, and so are its sidecars, those that it had and all those
that have joined.  And if all requests are answered, it ends. -/
theorem isUp_of_startWithoutWait {setup : Setup} {history : List Record} {before : Registry}
    {id : InstanceId} {workload : Instance} (reached : Reaches setup history before)
    (found : before.get? id = some workload) (committed : workload.state = .committed)
    (leads : workload.parent = none) :
    (∀ events result after,
      Course setup (Call.startWithoutWait id).perform before events result after →
      before.IsObliged events →
      result = .ok () ∧ after.IsUp id ∧ before.podHandles id ⊆ after.podHandles id ∧
        ∀ handle sidecar, before.get? handle = none → after.get? handle = some sidecar →
          handle ∈ after.podHandles id) ∧
    ∀ (σ : Type) (others : Collaborators σ) (looks now : Nat) (state : σ), others.Responsive →
      ∃ ending events,
        ((Call.startWithoutWait id).perform setup before).run others looks now state = some ending ∧
        Course setup (Call.startWithoutWait id).perform before events ending.value.1 ending.value.2 := by
  rcases reached.invariant with ⟨linked, lockstep⟩
  have port := hereditary_port.of_reaches reached id workload found
  constructor
  · intro events result after course obliged
    have imaged := hereditary_image.of_reaches reached
    rcases granted_startWithoutWait linked lockstep imaged found committed leads port course obliged with
      ⟨done, middle, left, linkedThen, there, rfl⟩
    have turn := Call.turn linked course
    have staffed := Call.isStaffed_of_start rfl linked found port course obliged.built
    have kept := Registry.podHandles_subset turn.lasts found
    refine ⟨done, linkedThen.isUp_setPodState there, kept, fun handle sidecar new joined => ?_⟩
    rcases staffed handle sidecar new joined with ⟨role, _, parent, _, known, _, listed, _⟩
    refine Registry.mem_podHandles_iff.mpr (Or.inr ?_)
    exact Registry.mem_sidecarsOf_iff.mpr ⟨parent, known, listed⟩
  · intro σ others looks now state responsive
    refine Program.exists_run responsive looks (fun events value course => ?_) now state
    exact prompt_startWithoutWait course

/-- An instance whose traffic can be shaped is described, and receives telemetry of two kinds through one
port. -/
def Call.observedPod : List Call :=
  Call.shapedPod ++ [.edit ⟨0⟩ (.setOtlpEndpoint 4318),
    .edit ⟨0⟩ (.setJaegerEndpoint { grpc := 4318, thriftCompact := 0, thriftHttp := 4318 })]

/-- Two sidecars join in the start of an instance that is observed and shaped. -/
theorem isUp_of_observedStart :
    let described := trial .shaping .agreeable Call.observedPod
    let started := (Call.startWithoutWait ⟨0⟩).tried .shaping .agreeable described
    Reaches .shaping described.1 described.2 ∧ described.2.podHandles ⟨0⟩ = [⟨0⟩] ∧
      (∃ events, Action.Course .shaping (Call.startWithoutWait ⟨0⟩).perform described.2 events (.ok ())
        started.2 ∧ described.2.IsObliged events) ∧
      started.2.IsUp ⟨0⟩ ∧ started.2.podHandles ⟨0⟩ = [⟨1⟩, ⟨2⟩, ⟨0⟩] := by
  intro described started
  have reached : Reaches .shaping described.1 described.2 := reaches_trial _ _ _
  have alone : described.2.podHandles ⟨0⟩ = [⟨0⟩] := by decide +kernel
  have shape : (described.2.get? ⟨0⟩).map (fun workload => (workload.state, workload.parent)) =
      some (.committed, none) := by decide +kernel
  rcases Option.map_eq_some_iff.mp shape with ⟨workload, found, same⟩
  rcases Prod.mk.inj same with ⟨committed, leads⟩
  have granted : (((Call.startWithoutWait ⟨0⟩).perform .shaping described.2).follow
      .agreeable).2.1.toOption = some () := by decide +kernel
  have course := course_of_granted_trial granted
  have obliged : described.2.IsObliged
      (((Call.startWithoutWait ⟨0⟩).perform .shaping described.2).follow .agreeable).1 := by
    constructor
    · decide +kernel
    · decide +kernel
    · decide +kernel
  have joined : started.2.podHandles ⟨0⟩ = [⟨1⟩, ⟨2⟩, ⟨0⟩] := by decide +kernel
  rcases isUp_of_startWithoutWait reached found committed leads with ⟨succeeds, _⟩
  rcases succeeds _ _ _ course obliged with ⟨_, up, _⟩
  exact ⟨reached, alone, ⟨_, course, obliged⟩, up, joined⟩

end Testbed
