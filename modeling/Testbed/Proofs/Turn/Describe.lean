import Testbed.Action.Sidecar
import Testbed.Proofs.Passes

namespace Testbed
namespace Action

/-!
# How instances are made and described, step by step

Each of these operations revises the instance that it is about, and no other; a creation adds one.
-/

open Passes

variable {setup : Setup} {call : Call} {before : Registry} {id : InstanceId}

theorem isFresh_blank {id : InstanceId} {name clusterName : String} :
    ({ id, name, clusterName } : Instance).IsFresh where
  leads := rfl
  single := rfl
  unnoted role := by cases role <;> rfl
  unshaped := rfl

/-! ## Images -/

theorem passes_create {name : String} :
    Passes setup call (create name) before fun _ _ => True := by
  refine ask_bind (fun _ => ⟨rfl, nofun⟩) fun reply => ?_
  refine ofExcept_bind fun named => ?_
  refine registry_bind ?_
  refine ofExcept_bind fun joined => ?_
  exact setRegistry_bind (.join isFresh_blank joined) (of_pure trivial)

theorem passes_prepare {workload : Instance} {context : ContextId}
    (describes : call.describes? = some id) (found : before.get? id = some workload) :
    Passes setup call (prepare id context) before fun _ _ => True :=
  of_revision found (.prepared describes context) trivial

theorem passes_setGitRepo {source : GitSource} (describes : call.describes? = some id) :
    Passes setup call (setGitRepo id source) before fun _ _ => True := by
  refine guarded_bind fun found _ => ?_
  refine settings_bind ?_
  exact image_bind fun context => passes_prepare describes found

/-- Looking for a changed context's image, or pushing it, leaves the registry alone. -/
theorem passes_pushedImage {name : String} {context : ContextId} :
    Passes setup call (pushedImage name context) before fun _ after => after = before := by
  refine image_bind fun hash => ?_
  refine ask_bind (fun _ => ⟨rfl, nofun⟩) fun recorded => ?_
  cases recorded with
  | some recorded => exact of_pure rfl
  | none =>
      refine settings_bind ?_
      refine ask_bind (fun _ => ⟨rfl, nofun⟩) fun tag => ?_
      refine image_bind fun pushed => ?_
      exact of_bind_pure (ask_bind (fun _ => ⟨rfl, nofun⟩) fun _ => of_pure rfl)

theorem passes_commit (describes : call.describes? = some id) :
    Passes setup call (commit id) before fun _ _ => True := by
  refine guarded_bind fun {workload} found _ => ?_
  cases workload.context with
  | none => exact of_fail
  | some context =>
      have ending {reference : String} : Passes setup call
          (update id fun current => { current with image := some reference, state := .committed })
          before fun _ _ => True :=
        of_revision found (.committed describes reference) trivial
      refine ask_bind (fun _ => ⟨rfl, nofun⟩) fun isChanged => ?_
      cases isChanged with
      | true => exact passes_pushedImage.bind fun _ same => same ▸ ending
      | false => exact ask_bind (fun _ => ⟨rfl, nofun⟩) fun base => ending

/-! ## Descriptions -/

theorem passes_edit {change : Edit} :
    Passes setup (.edit id change) (edit id change) before fun _ _ => True := by
  refine find_bind fun found => ?_
  exact ofExcept_bind fun edited => of_revision found (.edited rfl edited) trivial

/-! ## Files -/

/-- A file is recorded, and the instance is there for the next one. -/
theorem passes_insertFile {contents : List UInt8} {destination owner : String}
    (describes : call.describes? = some id) :
    Passes setup call (insertFile id contents destination owner) before fun _ _ => True := by
  refine find_bind fun {workload} found => ?_
  refine ofExcept_bind fun {group} _ => ?_
  split
  · cases workload.context with
    | none => exact of_fail
    | some context =>
        refine image_bind fun _ => ?_
        exact of_revision found (.filed describes _ workload.fsGroup) trivial
  · exact of_revision found (.filed describes _ (some group)) trivial

theorem passes_insertFiles {owner : String} (files : List (String × List UInt8))
    (describes : call.describes? = some id) :
    Passes setup call (insertFiles id owner files) before fun _ _ => True := by
  induction files generalizing before with
  | nil => exact of_pure trivial
  | cons file rest inductionHypothesis =>
      exact (passes_insertFile describes).bind fun _ _ => inductionHypothesis

theorem passes_addFileBytes {contents : List UInt8} {destination owner : String}
    (describes : call.describes? = some id) :
    Passes setup call (addFileBytes id contents destination owner) before fun _ _ => True :=
  guarded_bind fun _ _ => passes_insertFile describes

theorem passes_addFile {path destination owner : String} (describes : call.describes? = some id) :
    Passes setup call (addFile id path destination owner) before fun _ _ => True := by
  refine guarded_bind fun _ _ => ?_
  refine ask_bind (fun _ => ⟨rfl, nofun⟩) fun contents => ?_
  cases contents with
  | error cause => exact of_fail
  | ok contents => exact passes_insertFile describes

theorem passes_addFolder {path destination owner : String} (describes : call.describes? = some id) :
    Passes setup call (addFolder id path destination owner) before fun _ _ => True := by
  refine guarded_bind fun _ _ => ?_
  refine ask_bind (fun _ => ⟨rfl, nofun⟩) fun entries => ?_
  cases entries with
  | error cause => exact of_fail
  | ok entries =>
      dsimp only
      split
      · exact of_fail
      · exact ofExcept_bind fun files => passes_insertFiles _ describes

theorem passes_setUser {user : String} :
    Passes setup call (setUser id user) before fun _ _ => True := by
  refine guarded_bind fun {workload} _ _ => ?_
  cases workload.context with
  | none => exact of_fail
  | some context => exact of_bind_pure (image_bind fun _ => of_pure trivial)

end Action
end Testbed
