import Testbed.Instance.Edit
import Testbed.Instance.Files
import Testbed.Proofs.Registry

namespace Testbed

/-!
# Amendments of instances

Most operations leave the state and the relations of an instance alone and change what else is known
of it.  An amendment is such a change, with the condition under which an operation makes it.

Two abstractions of an instance carry the later invariants.  Its links say who it is and how it is
related to others; no amendment changes them.  Its blueprint is what its pod is compiled from; once
the instance is settled, that is started or stopped, no amendment changes the blueprint either.
-/

namespace State

/-- Whether a pod in this state has been deployed before. -/
def IsSettled : State → Prop
  | started | stopped => True
  | created | preparing | committed => False

instance (state : State) : Decidable state.IsSettled := by
  cases state <;> unfold IsSettled <;> infer_instance

theorem isSettled_iff {state : State} : state.IsSettled ↔ state = .started ∨ state = .stopped := by
  cases state <;> simp [IsSettled]

/-- Whoever has been deployed is past its preparation. -/
theorem IsSettled.late {state : State} (settled : state.IsSettled) :
    state ≠ created ∧ state ≠ preparing := by
  rcases isSettled_iff.mp settled with rfl | rfl
  · decide
  · decide

theorem not_isSettled_of_mem {state : State}
    (describable : state ∈ [created, preparing, committed]) : ¬ state.IsSettled := by
  revert state
  decide

end State

theorem Operation.mem_descriptive_iff {state : State} :
    state ∈ descriptive ↔ state = .preparing ∨ state = .committed := by
  simp only [descriptive, List.mem_cons, List.not_mem_nil, or_false]

namespace Instance

/-- What the pod of an instance is compiled from, apart from who is in it. -/
def blueprint (workload : Instance) : Instance :=
  { workload with state := .created, fault := {}, serviceAddress := none }

theorem links_of_blueprint_eq {workload other : Instance}
    (same : workload.blueprint = other.blueprint) : workload.links = other.links := by
  have links := congrArg links same
  exact links

end Instance

/-- An edit of a description changes neither the state nor the links. -/
theorem Edit.change_keeps (edit : Edit) (workload : Instance) :
    (edit.change workload).state = workload.state ∧
      (edit.change workload).links = workload.links := by
  cases edit with
  | setProbe role probe => cases role <;> exact ⟨rfl, rfl⟩
  | _ => exact ⟨rfl, rfl⟩

theorem Edit.serviceAddress_change (edit : Edit) (workload : Instance) :
    (edit.change workload).serviceAddress = workload.serviceAddress := by
  cases edit with
  | setProbe role probe => cases role <;> rfl
  | _ => rfl

theorem Edit.allowedStates_operation (edit : Edit) :
    edit.operation.allowedStates ⊆ [.created, .preparing, .committed] := by
  cases edit with
  | setKind kind => exact List.Subset.refl _
  | _ => exact List.subset_cons_self _ _

theorem Instance.edit_eq_ok_iff {workload edited : Instance} {edit : Edit} :
    workload.edit edit = .ok edited ↔
      workload.state ∈ edit.operation.allowedStates ∧ edit.fault? workload = none ∧
        edited = edit.change workload := by
  rw [← Registry.guard_eq_ok_iff, Instance.edit]
  cases workload.guard edit.operation with
  | error error => simp only [bind, Except.bind, reduceCtorEq, false_and]
  | ok value =>
      simp only [bind, Except.bind, true_and]
      cases edit.fault? workload with
      | some reason => simp only [reduceCtorEq, false_and]
      | none =>
          simp only [Except.ok.injEq, true_and]
          exact eq_comm

/-- A change of an instance on its own, and when it is made. -/
inductive Amendment (workload : Instance) : Instance → Prop where
  | edited (edited : workload.edit edit = .ok amended) : Amendment workload amended
  | baked (preparing : workload.state = .preparing)
      (checked : workload.checkFile destination owner = .ok group) :
      Amendment workload (workload.withBakedFile contents destination group)
  | deployed (committed : workload.state = .committed)
      (checked : workload.checkFile destination owner = .ok group) :
      Amendment workload (workload.withDeployedFile contents destination group)
  | collected (collector : InstanceId) (committed : workload.state = .committed) :
      Amendment workload { workload with collector := some collector }
  | shaped (target : String) (committed : workload.state = .committed) :
      Amendment workload { workload with fault := { workload.fault with sidecar := some target } }
  | switched (mode : Option ShapingKind) :
      Amendment workload { workload with fault := { workload.fault with activeMode := mode } }

namespace Amendment

variable {workload amended : Instance}

theorem keeps (amendment : Amendment workload amended) :
    amended.state = workload.state ∧ amended.links = workload.links := by
  cases amendment with
  | edited edited =>
      rcases Instance.edit_eq_ok_iff.mp edited with ⟨_, _, rfl⟩
      exact Edit.change_keeps _ workload
  | _ => exact ⟨rfl, rfl⟩

theorem serviceAddress_eq (amendment : Amendment workload amended) :
    amended.serviceAddress = workload.serviceAddress := by
  cases amendment with
  | edited edited =>
      rcases Instance.edit_eq_ok_iff.mp edited with ⟨_, _, rfl⟩
      exact Edit.serviceAddress_change _ workload
  | _ => rfl

theorem blueprint_eq (amendment : Amendment workload amended) (settled : workload.state.IsSettled) :
    amended.blueprint = workload.blueprint := by
  cases amendment with
  | edited edited =>
      rcases Instance.edit_eq_ok_iff.mp edited with ⟨permitted, _, _⟩
      exact absurd settled (State.not_isSettled_of_mem (Edit.allowedStates_operation _ permitted))
  | baked preparing _ => exact absurd settled (by rw [preparing]; exact id)
  | deployed committed _ => exact absurd settled (by rw [committed]; exact id)
  | collected _ committed => exact absurd settled (by rw [committed]; exact id)
  | shaped _ _ => rfl
  | switched _ => rfl

end Amendment
end Testbed
