import Testbed.Proofs.Call
import Testbed.Proofs.Conduct.Deploy
import Testbed.Proofs.Conduct.Reach
import Testbed.Proofs.Course.Replacement

namespace Testbed

/-!
# How calls go

Every call is a series of moves, with one exception: once the replacement of a compute unit has
deleted the old one, nothing brings it back if the rest fails, while the registry still has the
instance as started.  `Conduct` keeps the three ways apart in which a call can go, so that an argument
about all calls is one about moves and two special cases.
-/

/-- The instance whose image a call sets, perhaps by replacing a compute unit. -/
def Call.imageOf? : Call → Option InstanceId
  | setImage id _ | setImageInstant id _ => some id
  | _ => none

/-- The instance that a call starts. -/
def Call.startOf? : Call → Option InstanceId
  | start id | startWithoutWait id => some id
  | _ => none

/-- No call is of both kinds. -/
theorem Call.startOf?_eq_none {call : Call} {id : InstanceId} (sets : call.imageOf? = some id) :
    call.startOf? = none := by
  cases call with
  | start | startWithoutWait => cases sets
  | _ => rfl

/-- No call starts and clones. -/
theorem Call.cloneOf?_eq_none_of_start {call : Call} {id : InstanceId} (starts : call.startOf? = some id) :
    call.cloneOf? = none := by
  cases call with
  | start | startWithoutWait => rfl
  | _ => cases starts

/-- What a call does to a registry and to the cluster, and whether it succeeds. -/
inductive Conduct (setup : Setup) (before : Registry) (call : Call) :
    List Event → Bool → Registry → Prop where
  /-- A series of moves.  An image that is set in this way is a first one, and a start starts an
  instance that was not. -/
  | moves (moves : Moves setup before.instances.length count before events after) (few : count ≤ 1)
      (ends : succeeded = true → ∀ id,
        (call.imageOf? = some id → before.stateOf id = some .created) ∧
        (call.startOf? = some id → before.stateOf id ≠ some .started ∧ after.HasStarted id)) :
      Conduct setup before call events succeeded after
  /-- A compute unit has been deleted, and no other has been applied in its place. -/
  | strands {id : InstanceId} (sets : call.imageOf? = some id) (found : before.get? id = some workload)
      (leads : workload.parent = none) (started : workload.state = .started)
      (quiet : ∀ event ∈ talk, event.IsQuiet) :
      Conduct setup before call (.deleted .replicaSet workload.clusterName grace :: talk) false before
  /-- A compute unit has been deleted, and one with another image has been applied in its place. -/
  | replaces {id : InstanceId} (sets : call.imageOf? = some id) (found : before.get? id = some workload)
      (leads : workload.parent = none) (started : workload.state = .started)
      (compiles : before.compile setup.settings { workload with image := some reference } = .ok compiled)
      (quiet : ∀ event ∈ talk, event.IsQuiet) :
      Conduct setup before call
        (.deleted .replicaSet workload.clusterName grace ::
          (talk ++ [.applied (.replicaSet compiled.replicaSet)]))
        true (before.setImage id reference)

/-- A start that succeeds leaves its instance started. -/
theorem Conduct.hasStarted {setup : Setup} {before after : Registry} {call : Call} {events : List Event}
    {succeeded : Bool} (conduct : Conduct setup before call events succeeded after)
    (done : succeeded = true) {id : InstanceId} (starts : call.startOf? = some id) :
    after.HasStarted id := by
  cases conduct with
  | moves _ _ ends => exact ((ends done id).2 starts).2
  | strands => cases done
  | replaces sets =>
      rw [Call.startOf?_eq_none sets] at starts
      cases starts

namespace Call

variable {setup : Setup} {before after : Registry} {events : List Event}

open Testbed.Action in
/-- A call that sets no image proceeds by moves. -/
theorem proceeds_perform (linked : before.WellLinked) {call : Call} (plain : call.imageOf? = none) :
    Proceeds setup before.instances.length 1 call.perform before fun _ _ => True := by
  have paid {id : InstanceId} : before.instances.length ≤ id.index ∨ 0 < 1 := Or.inr Nat.zero_lt_one
  cases call with
  | setImage | setImageInstant => cases plain
  | create => exact proceeds_create.mono (Nat.le_refl 1) fun _ _ _ => trivial
  | setGitRepo => exact proceeds_setGitRepo paid
  | commit => exact proceeds_commit paid
  | edit => exact proceeds_edit
  | addFileBytes => exact proceeds_addFileBytes
  | addFile => exact proceeds_addFile
  | addFolder => exact proceeds_addFolder
  | setUser => exact proceeds_setUser
  | addSidecar => exact proceeds_addSidecar paid
  | clone => exact proceeds_clone
  | cloneWithName => exact proceeds_cloneWithName
  | start => exact (proceeds_start linked).mono (Nat.le_refl 1) fun _ _ _ => trivial
  | startWithoutWait =>
      exact (proceeds_startWithoutWait linked).mono (Nat.le_refl 1) fun _ _ _ => trivial
  | stop => exact proceeds_stop
  | isRunning => exact proceeds_isRunning
  | waitRunning => exact proceeds_waitRunning.mono (Nat.zero_le 1) fun _ _ _ => trivial
  | waitStopped => exact proceeds_waitStopped
  | createCustomResource => exact proceeds_createCustomResource
  | address => exact proceeds_address linked
  | addHost => exact proceeds_addHost
  | executeCommand => exact proceeds_executeCommand
  | fetchFile => exact proceeds_fetchFile
  | forwardPort => exact proceeds_forwardPort
  | setBandwidthLimit | setLatencyAndJitter | clearShaping => exact proceeds_shape
  | setPacketLoss => exact proceeds_setPacketLoss
  | disableNetwork => exact proceeds_disableNetwork
  | enableNetwork => exact proceeds_enableNetwork
  | networkIsDisabled => exact proceeds_networkIsDisabled

open Testbed.Action in
/-- A start that succeeds starts an instance that was not started. -/
theorem proceeds_perform_start (linked : before.WellLinked) {call : Call} {id : InstanceId}
    (starts : call.startOf? = some id) :
    Proceeds setup before.instances.length 1 call.perform before fun _ after =>
      before.stateOf id ≠ some .started ∧ after.HasStarted id := by
  cases call with
  | start target =>
      obtain rfl : target = id := Option.some.inj starts
      exact proceeds_start linked
  | startWithoutWait target =>
      obtain rfl : target = id := Option.some.inj starts
      exact proceeds_startWithoutWait linked
  | _ => cases starts

private theorem conduct_of_replace {call : Call} {id : InstanceId} {workload : Instance}
    {reference : String} {grace : Option UInt32} {result : Except Error Unit}
    (sets : call.imageOf? = some id) (linked : before.WellLinked)
    (found : before.get? id = some workload) (leads : workload.parent = none)
    (started : workload.state = .started)
    (course : Action.Course setup (Action.replace id reference grace) before events result after) :
    Conduct setup before call events result.isOk after := by
  have single {event : Event} (quiet : event.IsQuiet) : ∀ other ∈ [event], other.IsQuiet :=
    fun _ member => List.mem_singleton.mp member ▸ quiet
  have outside : id ∉ workload.sidecars := Registry.sidecarsOf_eq found ▸ linked.not_mem_own
  rcases (Action.course_replace_iff_of_outside found outside).mp course with
    ⟨error, _, rfl, rfl, rfl⟩ | ⟨compiled, compiles, exchanged, rfl⟩
  · exact .moves .none (Nat.zero_le 1) fun impossible => nomatch impossible
  have exchanges := (Action.course_exchange exchanged).2
  cases succeeded : result.isOk with
  | false =>
      rw [succeeded] at exchanges
      cases exchanges with
      | refused error =>
          exact .moves (.talk (single Event.isQuiet_of_error)) (Nat.zero_le 1) fun impossible => nomatch impossible
      | lingering outcome => exact .strands sets found leads started (single trivial)
      | unapplied outcome error =>
          refine .strands sets found leads started ?_
          exact List.forall_mem_cons.mpr ⟨trivial, single Event.isQuiet_of_error⟩
  | true =>
      rw [succeeded] at exchanges
      cases exchanges with
      | applied outcome =>
          have waited : (Event.awaited (.gone workload.clusterName) outcome).IsQuiet := trivial
          exact .replaces sets found leads started compiles (single waited)

private theorem conduct_of_setImage {id : InstanceId} {reference : String} {result : Except Error Unit}
    (linked : before.WellLinked)
    (course : Action.Course setup (Action.setImage id reference) before events result after) :
    Conduct setup before (.setImage id reference) events result.isOk after := by
  rcases Action.course_guarded_bind.mp course with
    ⟨error, _, rfl, rfl, rfl⟩ | ⟨workload, ⟨found, permitted⟩, rest⟩
  · exact .moves .none (Nat.zero_le 1) fun impossible => nomatch impossible
  by_cases started : workload.state = .started
  · rw [if_pos started] at rest
    rcases Action.course_ensureNoSidecar_bind.mp rest with ⟨_, rfl, rfl, rfl⟩ | ⟨leads, replacing⟩
    · exact .moves .none (Nat.zero_le 1) fun impossible => nomatch impossible
    · exact conduct_of_replace rfl linked found leads started replacing
  · have created : before.stateOf id = some .created := by
      have other := (List.mem_cons.mp permitted).resolve_right fun last =>
        started (List.mem_singleton.mp last)
      exact (Registry.stateOf_eq found).trans (congrArg some other)
    rcases Action.proceeds_setImage created (Or.inr Nat.zero_lt_one) _ _ _ course with
        ⟨count, few, moves, _⟩
    refine .moves moves few fun _ other => ⟨fun same => Option.some.inj same ▸ created, nofun⟩

private theorem conduct_of_setImageInstant {id : InstanceId} {reference : String}
    {result : Except Error Unit} (linked : before.WellLinked)
    (course : Action.Course setup (Action.setImageInstant id reference) before events result after) :
    Conduct setup before (.setImageInstant id reference) events result.isOk after := by
  rcases Action.course_guarded_bind.mp course with
    ⟨error, _, rfl, rfl, rfl⟩ | ⟨workload, ⟨found, permitted⟩, rest⟩
  · exact .moves .none (Nat.zero_le 1) fun impossible => nomatch impossible
  rcases Action.course_ensureNoSidecar_bind.mp rest with ⟨_, rfl, rfl, rfl⟩ | ⟨leads, replacing⟩
  · exact .moves .none (Nat.zero_le 1) fun impossible => nomatch impossible
  · exact conduct_of_replace rfl linked found leads (List.mem_singleton.mp permitted) replacing

/-- A call goes in one of the three ways. -/
theorem conduct {call : Call} {result : Except Error call.Value} (linked : before.WellLinked)
    (course : Action.Course setup call.perform before events result after) :
    Conduct setup before call events result.isOk after := by
  cases sets : call.imageOf? with
  | none =>
      have plain {id : InstanceId} : call.imageOf? ≠ some id := by
        rw [sets]
        exact nofun
      cases starts : call.startOf? with
      | none =>
          rcases proceeds_perform linked sets _ _ _ course with ⟨count, few, moves, _⟩
          refine .moves moves few fun _ id => ⟨fun impossible => absurd impossible plain, ?_⟩
          rw [starts]
          exact nofun
      | some target =>
          rcases proceeds_perform_start linked starts _ _ _ course with ⟨count, few, moves, started⟩
          refine .moves moves few fun succeeded id => ⟨fun impossible => absurd impossible plain, ?_⟩
          rw [starts]
          intro same
          cases result with
          | error error => cases succeeded
          | ok value => exact Option.some.inj same ▸ started value rfl
  | some id =>
      cases call with
      | setImage => exact conduct_of_setImage linked course
      | setImageInstant => exact conduct_of_setImageInstant linked course
      | _ => cases sets

end Call
end Testbed
