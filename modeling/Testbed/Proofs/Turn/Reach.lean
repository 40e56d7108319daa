import Testbed.Action.Deploy
import Testbed.Action.Reach
import Testbed.Action.Shape
import Testbed.Proofs.Passes

namespace Testbed
namespace Action

/-!
# How instances are reached and awaited, step by step

All of this is talk, except that an address is noted once it is known.
-/

open Passes

variable {setup : Setup} {call : Call} {before : Registry} {id : InstanceId} {workload : Instance}

/-! ## Reaching -/

theorem passes_createCustomResource {type : CustomType} {object : Json} :
    Passes setup call (createCustomResource id type object) before fun _ _ => True := by
  refine guarded_bind fun _ _ => ?_
  refine cluster_bind (fun _ => ⟨rfl, nofun⟩) fun isDeclared => ?_
  split
  · exact of_cluster (fun _ => ⟨rfl, nofun⟩) fun _ => trivial
  · exact of_fail

theorem passes_address : Passes setup call (address id) before fun _ _ => True := by
  intro events result after course
  refine ⟨?_, fun _ _ => trivial⟩
  rcases course_address course with
    ⟨error, _, rfl, rfl, rfl⟩ | ⟨workload, _, ⟨_, _, rfl, _, rfl⟩ | ⟨_, lookup, noted⟩⟩
  · exact .none
  · exact .none
  have talk : Steps setup call before events before := by
    refine .talk fun event happened => ?_
    rcases lookup.asksCluster event happened with ⟨request, reply, rfl, kept⟩
    refine ⟨rfl, fun name grace same => ?_⟩
    cases same
    exact kept _ _ _ rfl
  rcases noted with ⟨_, rfl⟩ | ⟨address, _, rfl⟩
  · exact talk
  · have noting : Steps setup call before [] (before.noteAddress workload.id address) :=
      .single (.revise fun _ _ => .resolved address)
    have whole := talk.trans noting
    rw [List.append_nil] at whole
    exact whole

theorem passes_addHost {port : UInt16} :
    Passes setup call (addHost id port) before fun _ _ => True := by
  refine guarded_bind fun _ _ => ?_
  refine setup_bind ?_
  split
  · refine ask_bind (fun _ => ⟨rfl, nofun⟩) fun _ => ?_
    refine ofExcept_bind fun _ => ?_
    refine ask_bind (fun _ => ⟨rfl, nofun⟩) fun _ => ?_
    exact of_done (ofExcept_eq _) fun _ _ => trivial
  · exact of_fail

theorem passes_runInContainer {command : List String} :
    Passes setup call (runInContainer workload command) before fun _ _ => True := by
  refine done_bind (podOwner_eq workload) fun _ => ?_
  refine cluster_bind (fun _ => ⟨rfl, nofun⟩) fun _ => ?_
  exact of_cluster (fun _ => ⟨rfl, nofun⟩) fun _ => trivial

theorem passes_executeCommand {command : List String} :
    Passes setup call (executeCommand id command) before fun _ _ => True := by
  refine guarded_bind fun _ _ => ?_
  split
  · refine ofExcept_bind fun _ => ?_
    exact of_bind_pure (image_bind fun _ => of_pure trivial)
  · exact passes_runInContainer

theorem passes_fetchFile {path : String} :
    Passes setup call (fetchFile id path) before fun _ _ => True := by
  refine guarded_bind fun _ _ => ?_
  split
  · exact passes_runInContainer.bind fun _ _ => of_pure trivial
  · refine ofExcept_bind fun _ => ?_
    exact of_bind_pure (image_bind fun _ => of_pure trivial)

theorem passes_forwardPort {port : UInt16} :
    Passes setup call (forwardPort id port) before fun _ _ => True := by
  refine guarded_bind fun {workload} _ _ => ?_
  dsimp only
  split
  · refine settings_bind ?_
    refine ask_bind (fun _ => ⟨rfl, nofun⟩) fun _ => ?_
    refine ofExcept_bind fun _ => ?_
    refine done_bind (podOwner_eq workload) fun _ => ?_
    refine cluster_bind (fun _ => ⟨rfl, nofun⟩) fun _ => ?_
    refine talk_bind (fun course => ?_) fun ended => ?_
    · rcases Program.course_bind.mp course with ⟨_, earlier, later, rfl, tried, rest⟩
      rcases Program.course_done.mp rest with ⟨rfl, same⟩
      cases same
      cases tried with
      | connect outcome elapsed rest =>
          rcases Program.course_done.mp rest with ⟨rfl, _⟩
          exact ⟨rfl, fun event member => List.mem_singleton.mp member ▸ ⟨rfl, nofun⟩⟩
    · rcases ended with ⟨outcome, elapsed⟩
      cases outcome with
      | succeeded _ => exact of_pure trivial
      | exhausted error => exact of_fail
      | cancelled => exact of_fail
  · exact of_fail

/-! ## Awaiting -/

theorem passes_waitRunning :
    Passes setup call (waitRunning id) before fun _ after => after = before := by
  refine guarded_bind fun {workload} _ _ => ?_
  refine settings_bind ?_
  refine done_bind (podOwner_eq workload) fun _ => ?_
  exact of_bind_pure (await_bind fun _ => of_pure rfl)

theorem passes_isRunning : Passes setup call (isRunning id) before fun _ _ => True := by
  refine guarded_bind fun {workload} _ _ => ?_
  refine done_bind (podOwner_eq workload) fun _ => ?_
  exact of_cluster (fun _ => ⟨rfl, nofun⟩) fun _ => trivial

theorem passes_waitStopped : Passes setup call (waitStopped id) before fun _ _ => True := by
  refine guarded_bind fun {workload} _ _ => ?_
  refine done_bind (podOwner_eq workload) fun _ => ?_
  exact of_bind_pure (await_bind fun _ => of_pure trivial)

/-! ## Isolating -/

theorem passes_disableNetwork :
    Passes setup call (disableNetwork id) before fun _ _ => True := by
  refine guarded_bind fun {workload} _ _ => ?_
  refine settings_bind ?_
  refine done_bind (podOwner_eq workload) fun _ => ?_
  exact of_cluster (fun _ => ⟨rfl, nofun⟩) fun _ => trivial

theorem passes_enableNetwork :
    Passes setup call (enableNetwork id) before fun _ _ => True := by
  refine guarded_bind fun {workload} _ _ => ?_
  refine done_bind (podOwner_eq workload) fun _ => ?_
  exact of_cluster (fun _ => ⟨rfl, nofun⟩) fun _ => trivial

theorem passes_networkIsDisabled :
    Passes setup call (networkIsDisabled id) before fun _ _ => True := by
  refine guarded_bind fun {workload} _ _ => ?_
  refine done_bind (podOwner_eq workload) fun _ => ?_
  exact of_cluster (fun _ => ⟨rfl, nofun⟩) fun _ => trivial

end Action
end Testbed
