import Testbed.Action.Sidecar
import Testbed.Proofs.Proceeds

namespace Testbed
namespace Action

/-!
# How instances are made and described

Creation, the choice of a first image, the commit, edits and files.  Each of these operations ends
with the one change it makes, if it makes any, so what can fail comes before it.
-/

open Proceeds

variable {setup : Setup} {floor budget : Nat} {before : Registry} {id : InstanceId}

/-- A counted move is affordable on a young instance, or with a budget. -/
private theorem affordable_singleton (affordable : floor ≤ id.index ∨ 0 < budget) :
    (∀ touched ∈ [id], floor ≤ touched.index) ∨ 0 < budget :=
  affordable.imp_left fun young _ member => List.mem_singleton.mp member ▸ young

/-! ## Images -/

theorem proceeds_create {name : String} :
    Proceeds setup floor budget (create name) before fun made after =>
      made = before.nextId ∧ after.stateOf made = some .created := by
  refine ask_bind (fun _ => trivial) fun reply => ?_
  refine ofExcept_bind fun named => ?_
  refine registry_bind ?_
  refine ofExcept_bind fun joined => ?_
  refine setRegistry_bind (.create joined) ?_
  have known := (Registry.get?_add joined).trans (if_pos rfl)
  exact of_pure ⟨rfl, Registry.stateOf_eq known⟩

/-- A new instance can get its first image. -/
theorem proceeds_setImage (created : before.stateOf id = some .created)
    (affordable : floor ≤ id.index ∨ 0 < budget) {reference : String} :
    Proceeds setup floor budget (setImage id reference) before fun _ _ => True := by
  refine guarded_bind fun found _ => ?_
  have unstarted := created
  rw [Registry.stateOf_eq found, Option.some.injEq] at unstarted
  rw [if_neg (by rw [unstarted]; decide)]
  refine image_bind fun context => ?_
  exact of_update (.prepare context created) (affordable_singleton affordable) trivial

theorem proceeds_setGitRepo (affordable : floor ≤ id.index ∨ 0 < budget) {source : GitSource} :
    Proceeds setup floor budget (setGitRepo id source) before fun _ _ => True := by
  refine guarded_bind fun found permitted => ?_
  have created := (Registry.stateOf_eq found).trans (congrArg some (List.mem_singleton.mp permitted))
  refine settings_bind ?_
  refine image_bind fun context => ?_
  exact of_update (.prepare context created) (affordable_singleton affordable) trivial

/-- Looking for a changed context's image, or pushing it, leaves the registry alone. -/
theorem proceeds_pushedImage {name : String} {context : ContextId} :
    Proceeds setup floor budget (pushedImage name context) before fun _ after => after = before := by
  refine image_bind fun hash => ?_
  refine ask_bind (fun _ => trivial) fun recorded => ?_
  cases recorded with
  | some recorded => exact of_pure rfl
  | none =>
      refine settings_bind ?_
      refine ask_bind (fun _ => trivial) fun tag => ?_
      refine image_bind fun pushed => ?_
      exact of_bind_pure (ask_bind (fun _ => trivial) fun _ => of_pure rfl)

theorem proceeds_commit (affordable : floor ≤ id.index ∨ 0 < budget) :
    Proceeds setup floor budget (commit id) before fun _ _ => True := by
  refine guarded_bind fun {workload} found permitted => ?_
  have preparing := (Registry.stateOf_eq found).trans (congrArg some (List.mem_singleton.mp permitted))
  cases workload.context with
  | none => exact of_fail
  | some context =>
      have ending {reference : String} : Proceeds setup floor budget
          (update id fun current => { current with image := some reference, state := .committed })
          before fun _ _ => True :=
        of_update (.commit reference preparing) (affordable_singleton affordable) trivial
      refine ask_bind (fun _ => trivial) fun isChanged => ?_
      cases isChanged with
      | true => exact proceeds_pushedImage.bind_free fun _ same => same ▸ ending
      | false => exact ask_bind (fun _ => trivial) fun base => ending

/-! ## Descriptions -/

theorem proceeds_edit {change : Edit} :
    Proceeds setup floor budget (edit id change) before fun _ _ => True := by
  refine find_bind fun found => ?_
  refine ofExcept_bind fun edited => ?_
  refine of_bind_pure (amend_bind (fun workload known => ?_) (of_pure trivial))
  rcases Option.some.inj (found.symm.trans known) with rfl
  exact .edited edited

theorem proceeds_editAll (changes : List Edit) :
    Proceeds setup floor budget (editAll id changes) before fun _ _ => True := by
  induction changes generalizing before with
  | nil => exact of_pure trivial
  | cons first rest inductionHypothesis =>
      exact proceeds_edit.bind_free fun _ _ => inductionHypothesis

/-! ## Files -/

private theorem describable_of_guarded {workload : Instance}
    (found : before.get? id = some workload) (permitted : workload.state ∈ Operation.descriptive)
    (state : State) (known : before.stateOf id = some state) : state ∈ Operation.descriptive := by
  rw [Registry.stateOf_eq found, Option.some.injEq] at known
  exact known ▸ permitted

/-- A file is recorded while its instance can be described, and leaves it so. -/
theorem proceeds_insertFile {contents : List UInt8} {destination owner : String}
    (describable : ∀ state, before.stateOf id = some state → state ∈ Operation.descriptive) :
    Proceeds setup floor budget (insertFile id contents destination owner) before
      fun _ after => after.stateOf id = before.stateOf id := by
  refine find_bind fun {workload} found => ?_
  refine ofExcept_bind fun {group} checked => ?_
  -- Whichever way the file is recorded, the change is an amendment, which keeps the state.
  have ending {change : Instance → Instance} (amendment : Amendment workload (change workload)) :
      Proceeds setup floor budget (update id change) before
        fun _ after => after.stateOf id = before.stateOf id := by
    have amends : ∀ known, before.get? id = some known → Amendment known (change known) := by
      intro known there
      rcases Option.some.inj (found.symm.trans there) with rfl
      exact amendment
    refine of_update (.amend amends) (Or.inl fun _ member => nomatch member) ?_
    rw [Registry.stateOf_eq (Registry.reworked_update.found found), Registry.stateOf_eq found,
      if_pos rfl, amendment.keeps.1]
  have describable := describable workload.state (Registry.stateOf_eq found)
  by_cases preparing : workload.state = .preparing
  · rw [if_pos preparing]
    cases workload.context with
    | none => exact of_fail
    | some context => exact image_bind fun _ => ending (.baked preparing checked)
  · rw [if_neg preparing]
    have committed := (Operation.mem_descriptive_iff.mp describable).resolve_left preparing
    exact ending (.deployed committed checked)

theorem proceeds_insertFiles {owner : String} (files : List (String × List UInt8))
    (describable : ∀ state, before.stateOf id = some state → state ∈ Operation.descriptive) :
    Proceeds setup floor budget (insertFiles id owner files) before fun _ _ => True := by
  induction files generalizing before with
  | nil => exact of_pure trivial
  | cons file rest inductionHypothesis =>
      refine (proceeds_insertFile describable).bind_free fun _ same => ?_
      exact inductionHypothesis (same ▸ describable)

theorem proceeds_addFileBytes {contents : List UInt8} {destination owner : String} :
    Proceeds setup floor budget (addFileBytes id contents destination owner) before
      fun _ _ => True := by
  refine guarded_bind fun found permitted => ?_
  exact (proceeds_insertFile (describable_of_guarded found permitted)).mono (Nat.le_refl budget)
    fun _ _ _ => trivial

theorem proceeds_addFile {path destination owner : String} :
    Proceeds setup floor budget (addFile id path destination owner) before fun _ _ => True := by
  refine guarded_bind fun found permitted => ?_
  refine ask_bind (fun _ => trivial) fun contents => ?_
  cases contents with
  | error cause => exact of_fail
  | ok contents =>
      exact (proceeds_insertFile (describable_of_guarded found permitted)).mono (Nat.le_refl budget)
        fun _ _ _ => trivial

theorem proceeds_addFolder {path destination owner : String} :
    Proceeds setup floor budget (addFolder id path destination owner) before fun _ _ => True := by
  refine guarded_bind fun found permitted => ?_
  refine ask_bind (fun _ => trivial) fun entries => ?_
  cases entries with
  | error cause => exact of_fail
  | ok entries =>
      dsimp only
      split
      · exact of_fail
      · refine ofExcept_bind fun files => ?_
        exact proceeds_insertFiles _ (describable_of_guarded found permitted)

theorem proceeds_setUser {user : String} :
    Proceeds setup floor budget (setUser id user) before fun _ _ => True := by
  refine guarded_bind fun {workload} found permitted => ?_
  cases workload.context with
  | none => exact of_fail
  | some context => exact of_bind_pure (image_bind fun _ => of_pure trivial)

end Action
end Testbed
