import Testbed.Action.Deploy
import Testbed.Proofs.Conduct.Attach
import Testbed.Proofs.Forest

namespace Testbed
namespace Action

/-!
# How pods are started and stopped

A start that fails has applied some of what supports the pod and perhaps injected sidecars, but has
not touched the compute unit.  A start that succeeds ends with the one move that deploys the pod.
-/

open Proceeds

variable {setup : Setup} {floor budget : Nat} {before after : Registry} {events : List Event}
  {id : InstanceId} {workload : Instance}

theorem course_setPodState {state : State} {result : Except Error Unit} :
    Course setup (setPodState id state) before events result after ↔
      events = [] ∧ result = .ok () ∧ after = before.setPodState id state :=
  course_of_done rfl

/-- Resources are applied in order, up to the first that the cluster refuses. -/
theorem course_applyAll {name : String} {operation : Operation} {resources : List Resource}
    {result : Except Error Unit}
    (course : Course setup (applyAll name operation resources) before events result after) :
    after = before ∧
      (result = .ok () ∧ events = resources.map Event.applied ∨
        (∃ error, result = .error error) ∧ ∃ applied refused cause,
          applied ++ [refused] <+: resources ∧
          events = applied.map Event.applied ++ [.asked (.cluster (.apply refused)) (.error cause)]) := by
  induction resources generalizing events with
  | nil =>
      rcases course_pure.mp course with ⟨rfl, rfl, rfl⟩
      exact ⟨rfl, Or.inl ⟨rfl, rfl⟩⟩
  | cons first rest inductionHypothesis =>
      rcases course_cluster_bind.mp course with ⟨error, rfl, rfl, rfl⟩ | ⟨_, later, rfl, onward⟩
      · exact ⟨rfl, Or.inr ⟨⟨_, rfl⟩, [], first, error, List.prefix_append [first] rest, rfl⟩⟩
      · rcases inductionHypothesis onward with
            ⟨rfl, ⟨rfl, rfl⟩ | ⟨failed, applied, refused, cause, leads, rfl⟩⟩
        · exact ⟨rfl, Or.inl ⟨rfl, rfl⟩⟩
        · exact ⟨rfl, Or.inr ⟨failed, first :: applied, refused, cause,
            List.cons_prefix_cons.mpr ⟨rfl, leads⟩, rfl⟩⟩

/-- What is applied of a committed pod before its compute unit counts for nothing. -/
theorem moves_support {pod : Pod} {resources : List Resource} (found : before.get? id = some workload)
    (leads : workload.parent = none) (committed : workload.state = .committed)
    (assembled : before.pod setup.settings workload = .ok pod) (listed : resources ⊆ pod.supporting) :
    Moves setup floor 0 before (resources.map Event.applied) before := by
  induction resources with
  | nil => exact .none
  | cons first rest inductionHypothesis =>
      have onward := inductionHypothesis fun resource member =>
        listed (List.mem_cons_of_mem first member)
      exact .free (.support found leads committed assembled (listed List.mem_cons_self))
        (fun _ member => nomatch member) onward

/-- The end of a first start. -/
theorem proceeds_launch {compiled : CompiledPod} (found : before.get? id = some workload)
    (leads : workload.parent = none) (committed : workload.state = .committed)
    (compiles : before.compile setup.settings workload = .ok compiled) {name : String} :
    Proceeds setup floor 1
      (applyAll name .start compiled.supporting >>= fun _ =>
        cluster name .start (.apply (.replicaSet compiled.replicaSet)) >>= fun _ =>
          setPodState id .started)
      before fun _ after => after.HasStarted id := by
  rcases Registry.compile_eq_ok_iff.mp compiles with ⟨pod, assembled, _, supporting⟩
  have supports {resources : List Resource} (listed : resources ⊆ compiled.supporting) :
      Moves setup floor 0 before (resources.map Event.applied) before :=
    moves_support found leads committed assembled (supporting ▸ listed)
  have refusal {event : Event} (quiet : event.IsQuiet) : Moves setup floor 0 before [event] before :=
    .talk fun _ member => List.mem_singleton.mp member ▸ quiet
  intro events result after course
  rcases course_bind.mp course with
    ⟨error, rfl, stopped⟩ | ⟨_, middle, earlier, later, rfl, applied, ended⟩
  · rcases course_applyAll stopped with
        ⟨rfl, ⟨impossible, _⟩ | ⟨_, applied, refused, cause, leads, rfl⟩⟩
    · cases impossible
    · have listed : applied ⊆ compiled.supporting :=
        fun _ member => leads.subset (List.mem_append_left _ member)
      exact ⟨0, Nat.zero_le 1, (supports listed).trans (refusal Event.isQuiet_of_error),
        fun _ impossible => nomatch impossible⟩
  · rcases course_applyAll applied with ⟨rfl, ⟨_, rfl⟩ | ⟨⟨_, impossible⟩, _⟩⟩
    · rcases course_cluster_bind.mp ended with ⟨error, rfl, rfl, rfl⟩ | ⟨_, last, rfl, moved⟩
      · exact ⟨0, Nat.zero_le 1, (supports (List.Subset.refl _)).trans (refusal Event.isQuiet_of_error),
          fun _ impossible => nomatch impossible⟩
      · rcases course_setPodState.mp moved with ⟨rfl, rfl, rfl⟩
        exact ⟨1, Nat.le_refl 1, .counted_single (.launch found leads committed compiles),
          fun _ _ => Registry.hasStarted_setPodState found leads⟩
    · cases impossible

theorem proceeds_startWithoutWait (linked : before.WellLinked) :
    Proceeds setup before.instances.length 1 (startWithoutWait id) before fun _ after =>
      before.stateOf id ≠ some .started ∧ after.HasStarted id := by
  refine guarded_bind fun {workload} found permitted => ?_
  refine ensureNoSidecar_bind fun leads => ?_
  refine done_bind (guardSidecars_eq .start workload.sidecars) fun passed => ?_
  have handle := linked.handle found
  have old := Registry.lt_of_get? found
  have idle {state : State} (current : workload.state = state) (apart : state ≠ .started) :
      before.stateOf id ≠ some .started := by
    rw [Registry.stateOf_eq found, current]
    exact fun same => apart (Option.some.inj same)
  dsimp only
  by_cases committed : workload.state = .committed
  · simp only [if_pos committed]
    have known := (Registry.stateOf_eq found).trans (congrArg some committed)
    rw [← handle] at known
    refine (proceeds_injectSidecars (Nat.le_refl _) (handle ▸ old) known).bind_free fun moves _ => ?_
    -- The injection leaves the parent where it was, with more sidecars perhaps.
    rcases moves.kept old found with ⟨current, there, _, state, parent⟩
    refine find_bind fun {again} located => ?_
    rcases Option.some.inj (located.symm.trans there) with rfl
    refine done_bind (compile_eq again) fun compiles => ?_
    exact (proceeds_launch located (parent.trans leads) (state.trans committed) compiles).mono
      (Nat.le_refl 1) fun _ _ started => ⟨idle committed nofun, started⟩
  · simp only [if_neg committed]
    have stopped : workload.state = .stopped :=
      List.mem_singleton.mp ((List.mem_cons.mp permitted).resolve_left committed)
    refine find_bind fun {again} located => ?_
    rcases Option.some.inj (located.symm.trans found) with rfl
    refine done_bind (compile_eq again) fun {compiled} compiles => ?_
    intro events result after course
    rcases course_cluster_bind.mp course with ⟨error, rfl, rfl, rfl⟩ | ⟨_, last, rfl, moved⟩
    · exact ⟨0, Nat.zero_le 1, .talk fun _ member => List.mem_singleton.mp member ▸ Event.isQuiet_of_error,
        fun _ impossible => nomatch impossible⟩
    · rcases course_setPodState.mp moved with ⟨rfl, rfl, rfl⟩
      exact ⟨1, Nat.le_refl 1, .counted_single (.relaunch found leads stopped compiles),
        fun _ _ => ⟨idle stopped nofun, Registry.hasStarted_setPodState found leads⟩⟩

theorem proceeds_waitRunning :
    Proceeds setup floor budget (waitRunning id) before fun _ after => after = before := by
  refine guarded_bind fun {workload} _ _ => ?_
  refine settings_bind ?_
  refine done_bind (podOwner_eq workload) fun _ => ?_
  exact of_bind_pure (await_bind fun _ => of_pure rfl)

theorem proceeds_start (linked : before.WellLinked) :
    Proceeds setup before.instances.length 1 (start id) before fun _ after =>
      before.stateOf id ≠ some .started ∧ after.HasStarted id := by
  refine (proceeds_startWithoutWait linked).bind (fun _ _ holds => ?_) (Nat.le_of_eq (Nat.add_zero 1))
  exact proceeds_waitRunning.mono (Nat.le_refl 0) fun _ _ same => same ▸ holds

theorem proceeds_stop : Proceeds setup floor 1 (stop id) before fun _ _ => True := by
  refine guarded_bind fun {workload} found permitted => ?_
  refine ensureNoSidecar_bind fun leads => ?_
  refine done_bind (guardSidecars_eq .stop workload.sidecars) fun _ => ?_
  intro events result after course
  rcases course_cluster_bind.mp course with ⟨error, rfl, rfl, rfl⟩ | ⟨_, last, rfl, moved⟩
  · exact ⟨0, Nat.zero_le 1, .talk fun _ member => List.mem_singleton.mp member ▸ Event.isQuiet_of_error,
      fun _ impossible => nomatch impossible⟩
  · rcases course_bind.mp moved with
      ⟨error, _, impossible⟩ | ⟨_, middle, earlier, later, rfl, halted, cleared⟩
    · rcases course_setPodState.mp impossible with ⟨_, impossible, _⟩
      cases impossible
    · rcases course_setPodState.mp halted with ⟨rfl, _, rfl⟩
      rcases course_update.mp cleared with ⟨rfl, rfl, rfl⟩
      exact ⟨1, Nat.le_refl 1,
        .counted_single (.halt found leads (List.mem_singleton.mp permitted)), fun _ _ => trivial⟩

theorem proceeds_isRunning :
    Proceeds setup floor budget (isRunning id) before fun _ _ => True := by
  refine guarded_bind fun {workload} _ _ => ?_
  refine done_bind (podOwner_eq workload) fun _ => ?_
  exact of_bind_pure (cluster_bind (fun _ => .talk trivial) fun _ => of_pure trivial)

theorem proceeds_waitStopped :
    Proceeds setup floor budget (waitStopped id) before fun _ _ => True := by
  refine guarded_bind fun {workload} _ _ => ?_
  refine done_bind (podOwner_eq workload) fun _ => ?_
  exact of_bind_pure (await_bind fun _ => of_pure trivial)

end Action
end Testbed
