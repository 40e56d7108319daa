import Testbed.Proofs.Blueprint
import Testbed.Proofs.Reachable

namespace Testbed

/-!
# Hereditary properties

Some properties are about one instance at a time and hold of all that there are.  Such a property holds
of an instance as it is created, and whatever becomes of an instance keeps it: copies, attachments,
amendments, and the changes that take it along its life.  `Hereditary` lists them, each with what is
sure of the instance when it happens, so that it can be seen without a look at any call that a property
holds of every instance at all times.
-/

/-- A property that every new instance has, and that every instance keeps. -/
structure Hereditary (holds : Instance → Prop) : Prop where
  blank {id : InstanceId} {name clusterName : String} : holds { id, name, clusterName }
  copied {source : Instance} {id : InstanceId} {name clusterName : String} (held : holds source)
    (committed : source.state = .committed) : holds (source.duplicate id name clusterName)
  linked {workload : Instance} {parent : Option InstanceId} {sidecars : List InstanceId}
    (held : holds workload) : holds { workload with parent, sidecars }
  amended {workload amended : Instance} (held : holds workload)
    (amendment : Amendment workload amended) : holds amended
  resolved {workload : Instance} {address : String} (held : holds workload) :
    holds { workload with serviceAddress := some address }
  prepared {workload : Instance} {context : ContextId} (held : holds workload)
    (created : workload.state = .created) :
    holds { workload with context := some context, state := .preparing }
  committed {workload : Instance} {reference : String} (held : holds workload)
    (preparing : workload.state = .preparing) :
    holds { workload with image := some reference, state := .committed }
  /-- A pod is started or stopped. -/
  moved {workload : Instance} {state : State} (held : holds workload) (settled : state.IsSettled)
    (leads : workload.state.Leads state) : holds { workload with state }
  replaced {workload : Instance} {reference : String} (held : holds workload)
    (started : workload.state = .started) : holds { workload with image := some reference }

/-- Whether a property holds of every instance. -/
def Registry.All (holds : Instance → Prop) (registry : Registry) : Prop :=
  ∀ id workload, registry.get? id = some workload → holds workload

namespace Hereditary

variable {holds : Instance → Prop} {before after grown : Registry} {added workload : Instance}
  {id : InstanceId}

private theorem all_add (joined : before.add added = .ok grown) (held : holds added)
    (all : before.All holds) : grown.All holds := by
  intro other left there
  rw [Registry.get?_add joined] at there
  split at there
  · exact Option.some.inj there ▸ held
  · exact all other left there

private theorem all_update {change : Instance → Instance}
    (kept : ∀ workload, before.get? id = some workload → holds (change workload))
    (all : before.All holds) : (before.update id change).All holds := by
  intro other left there
  rcases Registry.reworked_update.source there with ⟨workload, found, rfl⟩
  split
  · rename_i here
    exact kept workload (here ▸ found)
  · exact all other workload found

private theorem all_attach {sidecar : InstanceId} (hereditary : Hereditary holds)
    (all : before.All holds) : (before.attach id sidecar).All holds := by
  intro other left there
  rcases Registry.reworked_attach.source there with ⟨workload, found, rfl⟩
  exact hereditary.linked (all other workload found)

/-- A pod that moves as a whole was in one state. -/
private theorem all_setPodState {state : State} (hereditary : Hereditary holds)
    (lockstep : before.InLockstep) (found : before.get? id = some workload)
    (united : ∀ driven, workload.state.Accords driven → driven = workload.state)
    (settled : state.IsSettled) (leads : workload.state.Leads state) (all : before.All holds) :
    (before.setPodState id state).All holds := by
  intro other left there
  rcases Registry.reworked_setPodState.source there with ⟨member, known, rfl⟩
  split
  · rename_i listed
    have together := lockstep.stateOf_of_mem_podHandles found listed united
    rw [Registry.stateOf_eq known] at together
    have same : member.state = workload.state := Option.some.inj together
    exact hereditary.moved (all other member known) settled (same ▸ leads)
  · exact all other member known

theorem move {setup : Setup} {touched : List InstanceId} {events : List Event}
    (hereditary : Hereditary holds) (move : Move setup touched before events after)
    (lockstep : before.InLockstep) (all : before.All holds) : after.All holds := by
  cases move with
  | talk | support | serve | isolate | rejoin => exact all
  | create joined => exact all_add joined hereditary.blank all
  | copy found committed joined =>
      exact all_add joined (hereditary.copied (all _ _ found) committed) all
  | copySidecar found committed led leads frozen joined =>
      exact all_attach hereditary (all_add joined (hereditary.copied (all _ _ found) committed) all)
  | attach => exact all_attach hereditary all
  | amend amends =>
      exact all_update (fun workload found => hereditary.amended (all _ _ found) (amends workload found)) all
  | resolve => exact all_update (fun workload found => hereditary.resolved (all _ _ found)) all
  | prepare context created =>
      refine all_update (fun workload found => hereditary.prepared (all _ _ found) ?_) all
      rw [Registry.stateOf_eq found] at created
      exact Option.some.inj created
  | commit reference preparing =>
      refine all_update (fun workload found => hereditary.committed (all _ _ found) ?_) all
      rw [Registry.stateOf_eq found] at preparing
      exact Option.some.inj preparing
  | launch found _ committed =>
      refine all_setPodState hereditary lockstep found ?_ trivial ?_ all
      · rw [committed]
        exact fun _ accord => accord
      · rw [committed]
        exact .launch
  | relaunch found _ stopped =>
      refine all_setPodState hereditary lockstep found ?_ trivial ?_ all
      · rw [stopped]
        exact fun _ accord => accord
      · rw [stopped]
        exact .relaunch
  | @halt _ _ id found _ started =>
      have halted : (before.setPodState id .stopped).All holds := by
        refine all_setPodState hereditary lockstep found ?_ trivial ?_ all
        · rw [started]
          exact fun _ accord => accord
        · rw [started]
          exact .halt
      exact all_update (fun workload found => hereditary.amended (halted _ _ found) (.switched none)) halted

theorem moves {setup : Setup} {floor count : Nat} {events : List Event} (hereditary : Hereditary holds)
    (moves : Moves setup floor count before events after) (linked : before.WellLinked)
    (lockstep : before.InLockstep) (all : before.All holds) : after.All holds := by
  induction moves with
  | none => exact all
  | free move _ _ inductionHypothesis | counted move _ inductionHypothesis =>
      have moved := hereditary.move move lockstep all
      exact inductionHypothesis (move.wellLinked linked) (move.inLockstep linked lockstep) moved

/-- A hereditary property holds of every instance, whatever is done and whatever fails. -/
theorem of_reaches {setup : Setup} {history : List Record} {registry : Registry}
    (hereditary : Hereditary holds) (reached : Reaches setup history registry) :
    registry.All holds := by
  induction reached with
  | empty => exact fun id workload impossible => nomatch impossible
  | @call history before events after call result earlier course inductionHypothesis =>
      rcases earlier.invariant with ⟨linked, lockstep⟩
      have conduct := Call.conduct linked course
      generalize result.isOk = succeeded at conduct
      cases conduct with
      | moves moves => exact hereditary.moves moves linked lockstep inductionHypothesis
      | strands => exact inductionHypothesis
      | replaces _ found _ started =>
          refine all_update (fun workload known => ?_) inductionHypothesis
          rcases Option.some.inj (found.symm.trans known) with rfl
          exact hereditary.replaced (inductionHypothesis _ _ found) started

end Hereditary

/-- The port that a shaping sidecar is to listen on is one at all times. -/
theorem hereditary_port : Hereditary fun workload => workload.fault.port ≠ 0 where
  blank {_ _ _} := (by decide : (9007 : UInt16) ≠ 0)
  copied held _ := held
  linked held := held
  amended held amendment := by
    cases amendment with
    | @edited change _ edited =>
        rcases Instance.edit_eq_ok_iff.mp edited with ⟨_, sound, rfl⟩
        cases change with
        | setFaultPort port =>
            intro zero
            obtain rfl : port = 0 := zero
            cases sound
        | setProbe role probe => cases role <;> exact held
        | _ => exact held
    | _ => exact held
  resolved held := held
  prepared held _ := held
  committed held _ := held
  moved held _ _ := held
  replaced held _ := held

/-- Whether an instance that has no image is one that is still to be committed. -/
def Instance.IsImaged (workload : Instance) : Prop :=
  workload.image = none → workload.state = .created ∨ workload.state = .preparing

theorem Instance.IsImaged.of_eq {workload left : Instance} (imaged : workload.IsImaged)
    (image : left.image = workload.image) (state : left.state = workload.state) : left.IsImaged := by
  rw [IsImaged, image, state]
  exact imaged

theorem Edit.image_change (edit : Edit) (workload : Instance) :
    (edit.change workload).image = workload.image := by
  cases edit with
  | setProbe role probe => cases role <;> rfl
  | _ => rfl

/-- What is committed has an image at all times. -/
theorem hereditary_image : Hereditary Instance.IsImaged where
  blank {_ _ _} _ := Or.inl rfl
  copied held _ := held
  linked held := held
  amended held amendment := by
    refine held.of_eq ?_ amendment.keeps.1
    cases amendment with
    | @edited change _ edited =>
        rcases Instance.edit_eq_ok_iff.mp edited with ⟨_, _, rfl⟩
        exact change.image_change _
    | _ => rfl
  resolved held := held
  prepared _ _ _ := Or.inr rfl
  committed _ _ bare := nomatch bare
  moved held _ leads bare := by
    rcases held bare with created | preparing
    · rw [created] at leads
      cases leads
      exact Or.inr rfl
    · rw [preparing] at leads
      cases leads
      contradiction
  replaced _ _ bare := nomatch bare

/-! ## Pods that can be compiled -/

theorem Pod.exists_compile {pod : Pod} (imaged : ∀ member ∈ pod.members, member.image ≠ none) :
    ∃ compiled, pod.compile = .ok compiled := by
  have containers {members : List Instance} (imaged : ∀ member ∈ members, member.image ≠ none) :
      ∃ containers, members.mapM Instance.container = .ok containers := by
    induction members with
    | nil => exact ⟨[], rfl⟩
    | cons first rest inductionHypothesis =>
        rcases List.forall_mem_cons.mp imaged with ⟨head, tail⟩
        rcases inductionHypothesis tail with ⟨others, made⟩
        rcases Option.ne_none_iff_exists'.mp head with ⟨image, known⟩
        rw [List.mapM_cons, made, Instance.container, known]
        exact ⟨_, rfl⟩
  rcases containers imaged with ⟨made, listed⟩
  rw [Pod.compile, Pod.replicaSet, listed]
  exact ⟨_, rfl⟩

/-- A pod whose instance has been committed can be compiled, also when its instance is to get another
image first. -/
theorem Registry.exists_compile_as {registry : Registry} {id : InstanceId} {workload : Instance}
    (linked : registry.WellLinked) (lockstep : registry.InLockstep)
    (imaged : registry.All Instance.IsImaged) (found : registry.get? id = some workload)
    (parent : Instance) (late : workload.state ≠ .created ∧ workload.state ≠ .preparing)
    (same : parent.sidecars = workload.sidecars) (own : parent.image ≠ none) (settings : Settings) :
    ∃ compiled, registry.compile settings parent = .ok compiled := by
  have united : ∀ driven, workload.state.Accords driven → driven = workload.state := by
    cases current : workload.state with
    | created => exact absurd current late.1
    | preparing => exact absurd current late.2
    | committed | started | stopped => exact fun _ accord => accord
  rcases exists_pod linked found settings with ⟨assembled, known⟩
  rcases pod_eq_ok_iff.mp known with ⟨collected, _⟩
  have ready : ∀ member ∈ parent :: assembled.sidecars, member.image ≠ none := by
    refine List.forall_mem_cons.mpr ⟨own, fun member follows bare => ?_⟩
    rcases (mem_of_mapM_find collected).mp follows with ⟨handle, listed, there⟩
    rw [← sidecarsOf_eq found] at listed
    have together := lockstep.stateOf_of_mem_podHandles found (mem_podHandles_iff.mpr (Or.inr listed)) united
    rw [stateOf_eq there, Option.some.injEq] at together
    rcases imaged handle member there bare with created | preparing
    · exact late.1 (together.symm.trans created)
    · exact late.2 (together.symm.trans preparing)
  have made : registry.pod settings parent = .ok
      { parent, sidecars := assembled.sidecars, space := settings.space, initImage := settings.initImage } := by
    rw [pod, same, collected]
    rfl
  rw [compile, made]
  exact Pod.exists_compile ready

/-- A pod whose instance has been committed can be compiled. -/
theorem Registry.exists_compile {registry : Registry} {id : InstanceId} {workload : Instance}
    (linked : registry.WellLinked) (lockstep : registry.InLockstep)
    (imaged : registry.All Instance.IsImaged) (found : registry.get? id = some workload)
    (late : workload.state ≠ .created ∧ workload.state ≠ .preparing) (settings : Settings) :
    ∃ compiled, registry.compile settings workload = .ok compiled := by
  have own : workload.image ≠ none := fun bare =>
    (imaged id workload found bare).elim late.1 late.2
  exact exists_compile_as linked lockstep imaged found workload late rfl own settings

end Testbed
