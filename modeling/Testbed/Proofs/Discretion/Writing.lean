import Testbed.Proofs.Call
import Testbed.Proofs.Course.Address
import Testbed.Proofs.Course.Replacement
import Testbed.Proofs.Discretion.Reading

namespace Testbed
namespace Action

/-!
# Actions that change a registry

Most actions that change a registry first do everything that can fail, and only then make their changes:
these are atomic.  So is the replacement of an image, which takes back what it has written if it fails.  A folder of files, the copies of a clone and the parts of a change of shaping are
recorded one after another, with something that can fail in between; of these it is only shown that they
publish nothing.
-/

variable {setup : Setup} {id : InstanceId} {workload : Instance}

/-! ## Making and preparing -/

theorem atomic_create {name : String} : Atomic setup (create name) := by
  refine Reads.bind_atomic (reads_ask fun _ => not_false) fun given => ?_
  refine (reads_ofExcept _).bind_atomic fun clusterName => ?_
  refine reads_registry.bind_atomic fun registry => ?_
  refine (reads_ofExcept _).bind_atomic fun grown => ?_
  exact ((sure_setRegistry _).bind fun _ => sure_pure _).atomic

theorem reads_exchange {unit : ReplicaSet} {grace : Option UInt32} :
    Reads setup (exchange workload unit grace) := by
  refine reads_settings.bind fun settings => (reads_cluster _ _ _).bind fun _ => ?_
  exact (reads_await _ _ _ _).bind fun _ => reads_cluster _ _ _

/-- What is deleted and applied is the cluster's; what is written into the instance is taken back on failure. -/
theorem atomic_replace {reference : String} {grace : Option UInt32} :
    Atomic setup (replace id reference grace) := by
  intro before events result after course
  cases located : before.find id with
  | error error =>
      have refused : replace id reference grace setup before = .done (.error error, before) :=
        bind_of_failed (by rw [find_eq, located])
      rcases (course_of_done refused).mp course with ⟨rfl, _, rfl⟩
      exact ⟨fun _ => rfl, .nil⟩
  | ok workload =>
      rcases (course_replace_iff (Registry.find_eq_ok_iff.mp located)).mp course with
        ⟨_, _, rfl, _, rfl⟩ | ⟨compiled, _, exchanged, rfl⟩
      · exact ⟨fun _ => rfl, .nil⟩
      · refine ⟨?_, (reads_exchange exchanged).2⟩
        rintro ⟨error, rfl⟩
        rfl

theorem atomic_setImage {reference : String} : Atomic setup (setImage id reference) := by
  refine (reads_guarded _ _).bind_atomic fun workload => ?_
  split
  · exact (reads_ensureNoSidecar _ _).bind_atomic fun _ => atomic_replace
  · exact Reads.bind_atomic (reads_image fun _ => not_false) fun context => (sure_update _ _).atomic

theorem atomic_setImageInstant {reference : String} :
    Atomic setup (setImageInstant id reference) := by
  refine (reads_guarded _ _).bind_atomic fun workload => ?_
  exact (reads_ensureNoSidecar _ _).bind_atomic fun _ => atomic_replace

theorem atomic_setGitRepo {source : GitSource} : Atomic setup (setGitRepo id source) := by
  refine (reads_guarded _ _).bind_atomic fun workload => ?_
  refine reads_settings.bind_atomic fun settings => ?_
  exact Reads.bind_atomic (reads_image fun _ => not_false) fun context => (sure_update _ _).atomic

/-! ## Describing -/

theorem atomic_edit {change : Edit} : Atomic setup (edit id change) := by
  refine (reads_find _).bind_atomic fun workload => ?_
  exact (reads_ofExcept _).bind_atomic fun edited => (sure_update _ _).atomic

theorem discreet_editAll (changes : List Edit) : Discreet setup (editAll id changes) := by
  induction changes with
  | nil => exact (reads_pure ()).discreet
  | cons first rest inductionHypothesis =>
      exact atomic_edit.discreet.bind fun _ => inductionHypothesis

theorem atomic_insertFile {contents : List UInt8} {destination owner : String} :
    Atomic setup (insertFile id contents destination owner) := by
  refine (reads_find _).bind_atomic fun workload => ?_
  refine (reads_ofExcept _).bind_atomic fun group => ?_
  split
  · cases workload.context with
    | none => exact (reads_fail _).atomic
    | some context =>
        exact Reads.bind_atomic (reads_image fun _ => not_false) fun _ => (sure_update _ _).atomic
  · exact (sure_update _ _).atomic

theorem discreet_insertFiles {owner : String} (files : List (String × List UInt8)) :
    Discreet setup (insertFiles id owner files) := by
  induction files with
  | nil => exact (reads_pure ()).discreet
  | cons file rest inductionHypothesis =>
      exact atomic_insertFile.discreet.bind fun _ => inductionHypothesis

theorem atomic_addFileBytes {contents : List UInt8} {destination owner : String} :
    Atomic setup (addFileBytes id contents destination owner) :=
  (reads_guarded _ _).bind_atomic fun _ => atomic_insertFile

theorem atomic_addFile {path destination owner : String} :
    Atomic setup (addFile id path destination owner) := by
  refine (reads_guarded _ _).bind_atomic fun workload => ?_
  refine Reads.bind_atomic (reads_ask fun _ => not_false) fun contents => ?_
  cases contents with
  | error cause => exact (reads_fail _).atomic
  | ok contents => exact atomic_insertFile

theorem discreet_addFolder {path destination owner : String} :
    Discreet setup (addFolder id path destination owner) := by
  refine (reads_guarded _ _).discreet.bind fun workload => ?_
  refine Discreet.bind (Reads.discreet (reads_ask fun _ => not_false)) fun entries => ?_
  cases entries with
  | error cause => exact (reads_fail _).discreet
  | ok entries =>
      dsimp only
      split
      · exact (reads_fail _).discreet
      · exact (reads_ofExcept _).discreet.bind fun files => discreet_insertFiles _

theorem reads_setUser {user : String} : Reads setup (setUser id user) := by
  refine (reads_guarded _ _).bind fun workload => ?_
  cases workload.context with
  | none => exact reads_fail _
  | some context => exact reads_image fun _ => not_false

/-! ## Attaching and copying -/

theorem atomic_addSidecar {sidecar : InstanceId} : Atomic setup (addSidecar id sidecar) := by
  refine (reads_guarded _ _).bind_atomic fun parent => ?_
  refine reads_registry.bind_atomic fun registry => ?_
  cases registry.get? sidecar with
  | none => exact (reads_fail _).atomic
  | some candidate =>
      dsimp only
      split
      · exact (reads_fail _).atomic
      · cases attachmentFault? parent candidate with
        | some error => exact (reads_fail _).atomic
        | none => exact ((sure_update _ _).bind fun _ => sure_update _ _).atomic

theorem discreet_addCopy {source : Instance} {name : String} {parent : Option InstanceId} :
    Discreet setup (addCopy source name parent) := by
  refine Discreet.bind (Reads.discreet (reads_ask fun _ => not_false)) fun given => ?_
  refine (reads_ofExcept _).discreet.bind fun clusterName => ?_
  refine reads_registry.discreet.bind fun registry => ?_
  refine (reads_ofExcept _).discreet.bind fun grown => ?_
  exact ((sure_setRegistry _).bind fun _ => sure_pure _).atomic.discreet

theorem discreet_copySidecars {parent : InstanceId} (ids : List InstanceId) :
    Discreet setup (copySidecars parent ids) := by
  induction ids with
  | nil => exact (reads_pure ()).discreet
  | cons first rest inductionHypothesis =>
      refine (reads_find _).discreet.bind fun source => ?_
      refine discreet_addCopy.bind fun copy => ?_
      exact (sure_update _ _).atomic.discreet.bind fun _ => inductionHypothesis

theorem discreet_cloneWithName {name : String} : Discreet setup (cloneWithName id name) := by
  refine (reads_guarded _ _).discreet.bind fun workload => ?_
  refine (reads_guardSidecars _ _).discreet.bind fun _ => ?_
  refine discreet_addCopy.bind fun copy => ?_
  exact (discreet_copySidecars _).bind fun _ => (reads_pure _).discreet

theorem discreet_clone : Discreet setup (clone id) :=
  (reads_find _).discreet.bind fun _ => discreet_cloneWithName

/-! ## Deploying and stopping -/

theorem sure_setPodState (state : State) : Sure setup (setPodState id state) :=
  fun _ => ⟨_, _, rfl⟩

theorem reads_applyAll {name : String} {operation : Operation} (resources : List Resource) :
    Reads setup (applyAll name operation resources) := by
  induction resources with
  | nil => exact reads_pure ()
  | cons first rest inductionHypothesis =>
      exact (reads_cluster _ _ _).bind fun _ => inductionHypothesis

theorem atomic_stop : Atomic setup (stop id) := by
  refine (reads_guarded _ _).bind_atomic fun workload => ?_
  refine (reads_ensureNoSidecar _ _).bind_atomic fun _ => ?_
  refine (reads_guardSidecars _ _).bind_atomic fun _ => ?_
  refine (reads_cluster _ _ _).bind_atomic fun _ => ?_
  exact ((sure_setPodState _).bind fun _ => sure_update _ _).atomic

/-! ## Addresses -/

/-- Only an address that is answered is noted, and nothing can fail after that. -/
theorem atomic_address : Atomic setup (address id) := by
  intro before events result after course
  rcases course_address course with
    ⟨error, _, rfl, rfl, rfl⟩ | ⟨workload, _, ⟨known, _, rfl, rfl, rfl⟩ | ⟨_, lookup, noted⟩⟩
  · exact ⟨fun _ => rfl, .nil⟩
  · exact ⟨fun _ => rfl, .nil⟩
  · refine ⟨?_, fun event happened => ?_⟩
    · rintro ⟨error, rfl⟩
      rcases noted with ⟨_, same⟩ | ⟨_, impossible, _⟩
      · exact same
      · cases impossible
    · rcases lookup.asksCluster event happened with ⟨request, reply, rfl, _⟩
      exact not_false

/-! ## Shaping -/

theorem reads_stopShaping {name : String} {operation : Operation} {target : String}
    {port : UInt16} (kinds : List ShapingKind) :
    Reads setup (stopShaping name operation target port kinds) := by
  induction kinds with
  | nil => exact reads_pure ()
  | cons first rest inductionHypothesis =>
      refine Reads.bind (reads_ask fun _ => not_false) fun reply => ?_
      cases reply with
      | ok _ => exact inductionHypothesis
      | error failure =>
          dsimp only
          split
          · exact inductionHypothesis
          · exact reads_fail _

theorem discreet_shape {operation : Operation} {shaping : Option Shaping} :
    Discreet setup (shape id operation shaping) := by
  refine (reads_guarded _ _).discreet.bind fun workload => ?_
  dsimp only
  split
  · exact (reads_fail _).discreet
  cases workload.fault.sidecar with
  | none => exact (reads_fail _).discreet
  | some target =>
      refine reads_setup.discreet.bind fun setup => ?_
      split
      · exact (reads_fail _).discreet
      refine (reads_stopShaping _).discreet.bind fun _ => ?_
      refine (sure_update _ _).atomic.discreet.bind fun _ => ?_
      cases shaping with
      | none => exact (reads_pure ()).discreet
      | some shaping =>
          refine Discreet.bind (Reads.discreet (reads_ask fun _ => not_false)) fun reply => ?_
          cases reply with
          | error failure => exact (reads_fail _).discreet
          | ok _ => exact (sure_update _ _).atomic.discreet

theorem discreet_setPacketLoss {percent : UInt8} : Discreet setup (setPacketLoss id percent) := by
  unfold setPacketLoss
  split
  · exact (reads_find _).discreet.bind fun workload => (reads_fail _).discreet
  · exact discreet_shape

end Action

/-! ## Calls -/

namespace Call

/-- Whether a call does everything that can fail before it changes anything, or takes back what it has
changed when it fails. -/
def isAtomic : Call → Bool
  | create _ | setImage _ _ | setImageInstant _ _ | setGitRepo _ _ | commit _ => true
  | edit _ _ | addFileBytes _ _ _ _ | addFile _ _ _ _ | setUser _ _ | addSidecar _ _ => true
  | stop _ | isRunning _ | waitRunning _ | waitStopped _ | address _ | addHost _ _ => true
  | createCustomResource _ _ _ | executeCommand _ _ | fetchFile _ _ | forwardPort _ _ => true
  | disableNetwork _ | enableNetwork _ | networkIsDisabled _ => true
  | addFolder _ _ _ _ | clone _ | cloneWithName _ _ | start _ | startWithoutWait _ => false
  | setBandwidthLimit _ _ | setLatencyAndJitter _ _ _ | setPacketLoss _ _ | clearShaping _ => false

variable {setup : Setup}

open Testbed.Action in
/-- A call that is atomic and no commit is an atomic action. -/
theorem atomic_perform {call : Call} (atomic : call.isAtomic = true) (other : ∀ id, call ≠ .commit id) :
    Atomic setup call.perform := by
  cases call with
  | commit id => exact absurd rfl (other id)
  | create => exact atomic_create
  | setImage => exact atomic_setImage
  | setImageInstant => exact atomic_setImageInstant
  | setGitRepo => exact atomic_setGitRepo
  | edit => exact atomic_edit
  | addFileBytes => exact atomic_addFileBytes
  | addFile => exact atomic_addFile
  | setUser => exact reads_setUser.atomic
  | addSidecar => exact atomic_addSidecar
  | stop => exact atomic_stop
  | isRunning => exact reads_isRunning.atomic
  | waitRunning => exact reads_waitRunning.atomic
  | waitStopped => exact reads_waitStopped.atomic
  | createCustomResource => exact reads_createCustomResource.atomic
  | address => exact atomic_address
  | addHost => exact reads_addHost.atomic
  | executeCommand => exact reads_executeCommand.atomic
  | fetchFile => exact reads_fetchFile.atomic
  | forwardPort => exact reads_forwardPort.atomic
  | disableNetwork => exact reads_disableNetwork.atomic
  | enableNetwork => exact reads_enableNetwork.atomic
  | networkIsDisabled => exact reads_networkIsDisabled.atomic
  | _ => cases atomic

end Call

end Testbed
