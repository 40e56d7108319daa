import Testbed.Action.Deploy
import Testbed.Action.Reach
import Testbed.Action.Shape
import Testbed.Proofs.Discretion

namespace Testbed
namespace Action

/-!
# Actions that only read

To reach an instance, to wait for it and to isolate it is talk: whatever comes of it, the registry
stays as it is, and no image is published.  The one exception, an address that is noted once it is
known, is not among them.
-/

variable {setup : Setup} {id : InstanceId} {workload : Instance}

/-! ## Reaching -/

theorem reads_createCustomResource {type : CustomType} {object : Json} :
    Reads setup (createCustomResource id type object) := by
  refine (reads_guarded _ _).bind fun workload => ?_
  refine (reads_cluster _ _ _).bind fun isDeclared => ?_
  split
  · exact reads_cluster _ _ _
  · exact reads_fail _

theorem reads_addHost {port : UInt16} : Reads setup (addHost id port) := by
  refine (reads_guarded _ _).bind fun workload => ?_
  refine reads_setup.bind fun setup => ?_
  split
  · refine Reads.bind (reads_ask fun _ => not_false) fun exposed => ?_
    refine (reads_ofExcept _).bind fun _ => ?_
    exact Reads.bind (reads_ask fun _ => not_false) fun address => reads_ofExcept _
  · exact reads_fail _

theorem reads_runInContainer {command : List String} :
    Reads setup (runInContainer workload command) := by
  refine (reads_podOwner _).bind fun owner => ?_
  exact (reads_cluster _ _ _).bind fun pod => reads_cluster _ _ _

theorem reads_executeCommand {command : List String} : Reads setup (executeCommand id command) := by
  refine (reads_guarded _ _).bind fun workload => ?_
  split
  · exact (reads_ofExcept _).bind fun context => reads_image fun _ => not_false
  · exact reads_runInContainer

theorem reads_fetchFile {path : String} : Reads setup (fetchFile id path) := by
  refine (reads_guarded _ _).bind fun workload => ?_
  split
  · exact reads_runInContainer.bind fun contents => reads_pure _
  · exact (reads_ofExcept _).bind fun context => reads_image fun _ => not_false

theorem reads_connect {pod : String} {localPort remotePort : UInt16} {policy : RetryPolicy}
    {value : RetryOutcome Error Unit → Duration → α} :
    Reads setup (lift (.connect pod localPort remotePort policy fun outcome elapsed =>
      .done (value outcome elapsed))) := by
  intro before events result after course
  rcases Program.course_bind.mp course with ⟨ended, earlier, later, rfl, tried, rest⟩
  rcases Program.course_done.mp rest with ⟨rfl, same⟩
  cases same
  cases tried with
  | connect outcome elapsed rest =>
      rcases Program.course_done.mp rest with ⟨rfl, _⟩
      exact ⟨rfl, .singleton not_false⟩

theorem reads_forwardPort {port : UInt16} : Reads setup (forwardPort id port) := by
  refine (reads_guarded _ _).bind fun workload => ?_
  dsimp only
  split
  · refine reads_settings.bind fun settings => ?_
    refine Reads.bind (reads_ask fun _ => not_false) fun localPort => ?_
    refine (reads_ofExcept _).bind fun localPort => ?_
    refine (reads_podOwner _).bind fun owner => ?_
    refine (reads_cluster _ _ _).bind fun pod => ?_
    refine reads_connect.bind fun ended => ?_
    rcases ended with ⟨outcome, elapsed⟩
    cases outcome with
    | succeeded _ => exact reads_pure _
    | exhausted error => exact reads_fail _
    | cancelled => exact reads_fail _
  · exact reads_fail _

/-! ## Awaiting -/

theorem reads_waitRunning : Reads setup (waitRunning id) := by
  refine (reads_guarded _ _).bind fun workload => ?_
  refine reads_settings.bind fun settings => ?_
  exact (reads_podOwner _).bind fun owner => reads_await _ _ _ _

theorem reads_isRunning : Reads setup (isRunning id) := by
  refine (reads_guarded _ _).bind fun workload => ?_
  exact (reads_podOwner _).bind fun owner => reads_cluster _ _ _

theorem reads_waitStopped : Reads setup (waitStopped id) := by
  refine (reads_guarded _ _).bind fun workload => ?_
  exact (reads_podOwner _).bind fun owner => reads_await _ _ _ _

/-! ## Isolating -/

theorem reads_disableNetwork : Reads setup (disableNetwork id) := by
  refine (reads_guarded _ _).bind fun workload => ?_
  refine reads_settings.bind fun settings => ?_
  exact (reads_podOwner _).bind fun owner => reads_cluster _ _ _

theorem reads_enableNetwork : Reads setup (enableNetwork id) := by
  refine (reads_guarded _ _).bind fun workload => ?_
  exact (reads_podOwner _).bind fun owner => reads_cluster _ _ _

theorem reads_networkIsDisabled : Reads setup (networkIsDisabled id) := by
  refine (reads_guarded _ _).bind fun workload => ?_
  exact (reads_podOwner _).bind fun owner => reads_cluster _ _ _

end Action
end Testbed
