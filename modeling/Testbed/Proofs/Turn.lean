import Testbed.Proofs.Enlistment
import Testbed.Proofs.Turn.Attach
import Testbed.Proofs.Turn.Shape

namespace Testbed

/-!
# The turns that calls take

A call is a series of steps, or it shapes traffic, or it removes a compute unit.  The last happens in
two ways: a stop removes the unit and does nothing else with the cluster, and an image is replaced by
removing the unit and applying another, which may fail.  An argument about attendants and shaping
therefore has four cases.
-/

/-- The instance whose traffic a call shapes, and how. -/
def Call.shapingOf? : Call → Option (InstanceId × Option Shaping)
  | setBandwidthLimit id bitsPerSecond => some (id, some (.bandwidth bitsPerSecond))
  | setLatencyAndJitter id milliseconds jitter => some (id, some (.latency milliseconds jitter))
  | setPacketLoss id percent => some (id, some (.packetLoss percent))
  | clearShaping id => some (id, none)
  | _ => none

/-- What a call does, and whether it succeeds. -/
inductive Turn (setup : Setup) (before : Registry) (call : Call) :
    List Event → Bool → Registry → Prop where
  /-- A start that succeeds in this way has looked after its instance. -/
  | steps (steps : Steps setup call before events after)
      (idle : succeeded = true → call.shapingOf? = none)
      (attends : succeeded = true → ∀ id workload, call.startOf? = some id →
        before.get? id = some workload → workload.state = .committed →
          Action.IsAttended workload id after) :
      Turn setup before call events succeeded after
  | shapes {id : InstanceId} (asks : call.shapingOf? = some (id, shaping))
      (found : before.get? id = some workload) (hosted : workload.fault.sidecar = some target)
      (shapes : Shapes target workload.fault.port workload.fault.activeMode shaping events succeeded mode) :
      Turn setup before call events succeeded (before.setMode id mode)
  | halts {id : InstanceId} (stops : call = .stop id) (found : before.get? id = some workload) :
      Turn setup before call [.removed workload.clusterName none] true
        ((before.setPodState id .stopped).setMode id none)
  | replaces {id : InstanceId} (sets : call.imageOf? = some id) (found : before.get? id = some workload)
      (plain : ∀ event ∈ talk, event.IsPlain)
      (left : after = before ∨ ∃ reference, after = before.setImage id reference) :
      Turn setup before call (.removed workload.clusterName grace :: talk) succeeded after

namespace Call

variable {setup : Setup} {before after : Registry} {events : List Event} {id : InstanceId}

/-- A call that neither shapes traffic nor removes a compute unit goes by steps. -/
private theorem turn_of_passes {call : Call} {result : Except Error call.Value}
    {reached : call.Value → Registry → Prop}
    (course : Action.Course setup call.perform before events result after)
    (idle : call.shapingOf? = none) (unstarted : call.startOf? = none)
    (passes : Action.Passes setup call call.perform before reached) :
    Turn setup before call events result.isOk after := by
  refine .steps (passes _ _ _ course).1 (fun _ => idle) fun _ id workload starts => ?_
  rw [unstarted] at starts
  cases starts

private theorem turn_of_start {call : Call} {result : Except Error call.Value}
    (course : Action.Course setup call.perform before events result after)
    (starts : call.startOf? = some id) (idle : call.shapingOf? = none)
    (passes : Action.Passes setup call call.perform before fun _ after =>
      ∀ workload, before.get? id = some workload → workload.state = .committed →
        Action.IsAttended workload id after) :
    Turn setup before call events result.isOk after := by
  rcases passes _ _ _ course with ⟨steps, attended⟩
  refine .steps steps (fun _ => idle) fun succeeded other workload same => ?_
  rcases Option.some.inj (starts.symm.trans same) with rfl
  cases result with
  | error error => cases succeeded
  | ok value => exact attended value rfl workload

/-- Steps that end in a failure have neither to be idle nor to attend to anybody. -/
private theorem turn_of_failure {call : Call} (steps : Steps setup call before events after) :
    Turn setup before call events false after := by
  refine .steps steps (fun succeeded => ?_) fun succeeded => ?_
  · cases succeeded
  · cases succeeded

private theorem turn_of_refusal {call : Call} : Turn setup before call [] false before :=
  turn_of_failure .none

/-- A call that shapes traffic is refused before anything is said, or goes as `Shapes` has it. -/
theorem course_of_shapingOf? {call : Call} {shaping : Option Shaping}
    {result : Except Error call.Value} (asks : call.shapingOf? = some (id, shaping))
    (course : Action.Course setup call.perform before events result after) :
    (∃ error, result = .error error) ∧ events = [] ∧ after = before ∨
      ∃ workload target mode, before.get? id = some workload ∧
        workload.fault.sidecar = some target ∧
        Shapes target workload.fault.port workload.fault.activeMode shaping events result.isOk mode ∧
        after = before.setMode id mode := by
  cases call with
  | setBandwidthLimit | setLatencyAndJitter | clearShaping =>
      cases asks
      exact Action.course_shape course
  | setPacketLoss =>
      cases asks
      rcases Action.course_setPacketLoss course with refused | course
      · exact Or.inl refused
      · exact Action.course_shape course
  | _ => cases asks

private theorem turn_of_shapingOf? {call : Call} {shaping : Option Shaping}
    {result : Except Error call.Value} (asks : call.shapingOf? = some (id, shaping))
    (course : Action.Course setup call.perform before events result after) :
    Turn setup before call events result.isOk after := by
  rcases course_of_shapingOf? asks course with
    ⟨⟨error, rfl⟩, rfl, rfl⟩ | ⟨workload, target, mode, found, hosted, shapes, rfl⟩
  · exact turn_of_refusal
  · exact .shapes asks found hosted shapes

private theorem turn_of_stop {result : Except Error Unit}
    (course : Action.Course setup (Action.stop id) before events result after) :
    Turn setup before (.stop id) events result.isOk after := by
  rcases Action.course_guarded_bind.mp course with
    ⟨error, _, rfl, rfl, rfl⟩ | ⟨workload, ⟨found, _⟩, rest⟩
  · exact turn_of_refusal
  rcases Action.course_ensureNoSidecar_bind.mp rest with ⟨_, rfl, rfl, rfl⟩ | ⟨_, guarding⟩
  · exact turn_of_refusal
  rcases Action.course_bind.mp guarding with
    ⟨error, rfl, stopped⟩ | ⟨_, middle, earlier, later, rfl, passed, deleting⟩
  · rcases (Action.course_of_done (Action.guardSidecars_eq _ _)).mp stopped with ⟨rfl, _, rfl⟩
    exact turn_of_refusal
  rcases (Action.course_of_done (Action.guardSidecars_eq _ _)).mp passed with ⟨rfl, _, rfl⟩
  rcases Action.course_cluster_bind.mp deleting with ⟨error, rfl, rfl, rfl⟩ | ⟨_, last, rfl, halting⟩
  · exact turn_of_failure
      (.talk fun _ member => List.mem_singleton.mp member ▸ Event.isPlain_of_error)
  rcases Action.course_bind.mp halting with
    ⟨error, _, impossible⟩ | ⟨_, halted, earlier, later, rfl, moved, cleared⟩
  · rcases Action.course_setPodState.mp impossible with ⟨_, impossible, _⟩
    cases impossible
  rcases Action.course_setPodState.mp moved with ⟨rfl, _, rfl⟩
  rcases Action.course_update.mp cleared with ⟨rfl, rfl, rfl⟩
  exact .halts rfl found

/-- A replacement is refused before anything is removed, or goes on from there. -/
private theorem turn_of_replace {call : Call} {workload : Instance} {reference : String}
    {grace : Option UInt32} {result : Except Error Unit} (sets : call.imageOf? = some id)
    (idle : call.shapingOf? = none) (found : before.get? id = some workload)
    (course : Action.Course setup (Action.replace id reference grace) before events result after) :
    Turn setup before call events result.isOk after := by
  have starts := startOf?_eq_none sets
  have single {event : Event} (plain : event.IsPlain) : ∀ other ∈ [event], other.IsPlain :=
    fun _ member => List.mem_singleton.mp member ▸ plain
  have refused {talk : List Event} (plain : ∀ event ∈ talk, event.IsPlain) {succeeded : Bool} :
      Turn setup before call talk succeeded before := by
    refine .steps (.talk plain) (fun _ => idle) fun _ other known same => ?_
    rw [starts] at same
    cases same
  rcases (Action.course_replace_iff found).mp course with
    ⟨error, _, rfl, rfl, rfl⟩ | ⟨compiled, _, exchanged, rfl⟩
  · exact refused fun _ impossible => absurd impossible List.not_mem_nil
  have exchanges := (Action.course_exchange exchanged).2
  cases succeeded : result.isOk with
  | false =>
      rw [succeeded] at exchanges
      cases exchanges with
      | refused error => exact refused (single Event.isPlain_of_error)
      | lingering outcome => exact .replaces sets found (single Event.isPlain_of_awaited) (Or.inl rfl)
      | unapplied outcome error =>
          refine .replaces sets found ?_ (Or.inl rfl)
          exact List.forall_mem_cons.mpr ⟨Event.isPlain_of_awaited, single Event.isPlain_of_error⟩
  | true =>
      rw [succeeded] at exchanges
      cases exchanges with
      | applied outcome =>
          refine .replaces sets found ?_ (Or.inr ⟨reference, rfl⟩)
          exact List.forall_mem_cons.mpr ⟨Event.isPlain_of_awaited, single Event.isPlain_of_applied⟩

private theorem turn_of_setImage {reference : String} {result : Except Error Unit}
    (linked : before.WellLinked)
    (course : Action.Course setup (Action.setImage id reference) before events result after) :
    Turn setup before (.setImage id reference) events result.isOk after := by
  rcases Action.course_guarded_bind.mp course with
    ⟨error, _, rfl, rfl, rfl⟩ | ⟨workload, ⟨found, _⟩, rest⟩
  · exact turn_of_refusal
  by_cases started : workload.state = .started
  · rw [if_pos started] at rest
    rcases Action.course_ensureNoSidecar_bind.mp rest with ⟨_, rfl, rfl, rfl⟩ | ⟨_, replacing⟩
    · exact turn_of_refusal
    · exact turn_of_replace rfl rfl found replacing
  · rw [if_neg started] at rest
    have opening : Action.Passes setup (.setImage id reference)
        (Action.image workload.name .setImage (.open reference) >>= Action.prepare id) before
        fun _ _ => True := .image_bind fun context => Action.passes_prepare rfl found
    exact .steps (opening _ _ _ rest).1 (fun _ => rfl) fun _ _ _ impossible => nomatch impossible

private theorem turn_of_setImageInstant {reference : String} {result : Except Error Unit}
    (linked : before.WellLinked)
    (course : Action.Course setup (Action.setImageInstant id reference) before events result after) :
    Turn setup before (.setImageInstant id reference) events result.isOk after := by
  rcases Action.course_guarded_bind.mp course with
    ⟨error, _, rfl, rfl, rfl⟩ | ⟨workload, ⟨found, _⟩, rest⟩
  · exact turn_of_refusal
  rcases Action.course_ensureNoSidecar_bind.mp rest with ⟨_, rfl, rfl, rfl⟩ | ⟨_, replacing⟩
  · exact turn_of_refusal
  · exact turn_of_replace rfl rfl found replacing

open Testbed.Action in
/-- Every call takes one of the four turns. -/
theorem turn {call : Call} {result : Except Error call.Value} (linked : before.WellLinked)
    (course : Course setup call.perform before events result after) :
    Turn setup before call events result.isOk after := by
  cases call with
  | create => exact turn_of_passes course rfl rfl passes_create
  | setImage => exact turn_of_setImage linked course
  | setImageInstant => exact turn_of_setImageInstant linked course
  | setGitRepo => exact turn_of_passes course rfl rfl (passes_setGitRepo rfl)
  | commit => exact turn_of_passes course rfl rfl (passes_commit rfl)
  | edit => exact turn_of_passes course rfl rfl passes_edit
  | addFileBytes => exact turn_of_passes course rfl rfl (passes_addFileBytes rfl)
  | addFile => exact turn_of_passes course rfl rfl (passes_addFile rfl)
  | addFolder => exact turn_of_passes course rfl rfl (passes_addFolder rfl)
  | setUser => exact turn_of_passes course rfl rfl passes_setUser
  | addSidecar => exact turn_of_passes course rfl rfl passes_addSidecar
  | clone => exact turn_of_passes course rfl rfl (passes_clone rfl)
  | cloneWithName => exact turn_of_passes course rfl rfl (passes_cloneWithName rfl)
  | start => exact turn_of_start course rfl rfl (passes_start linked rfl)
  | startWithoutWait => exact turn_of_start course rfl rfl (passes_startWithoutWait linked rfl)
  | stop => exact turn_of_stop course
  | isRunning => exact turn_of_passes course rfl rfl passes_isRunning
  | waitRunning => exact turn_of_passes course rfl rfl passes_waitRunning
  | waitStopped => exact turn_of_passes course rfl rfl passes_waitStopped
  | createCustomResource => exact turn_of_passes course rfl rfl passes_createCustomResource
  | address => exact turn_of_passes course rfl rfl passes_address
  | addHost => exact turn_of_passes course rfl rfl passes_addHost
  | executeCommand => exact turn_of_passes course rfl rfl passes_executeCommand
  | fetchFile => exact turn_of_passes course rfl rfl passes_fetchFile
  | forwardPort => exact turn_of_passes course rfl rfl passes_forwardPort
  | setBandwidthLimit | setLatencyAndJitter | setPacketLoss | clearShaping =>
      exact turn_of_shapingOf? rfl course
  | disableNetwork => exact turn_of_passes course rfl rfl passes_disableNetwork
  | enableNetwork => exact turn_of_passes course rfl rfl passes_enableNetwork
  | networkIsDisabled => exact turn_of_passes course rfl rfl passes_networkIsDisabled

end Call

/-! ## What a turn leaves alone -/

/-- Whether a registry has the instances of another with the same bonds, but for the shaping that is
noted of one of them. -/
def Registry.Renoted (before : Registry) (id : InstanceId) (mode : Option ShapingKind)
    (after : Registry) : Prop :=
  ∃ rework, before.Reworked after rework ∧ ∀ other workload, before.get? other = some workload →
    (rework other workload).bonds =
      { workload.bonds with mode := if other = id then mode else workload.fault.activeMode }

namespace Registry

variable {before after : Registry} {id other : InstanceId} {mode : Option ShapingKind}
  {workload left : Instance}

theorem renoted_setMode : before.Renoted id mode (before.setMode id mode) := by
  refine ⟨_, reworked_update, fun other workload _ => ?_⟩
  by_cases here : other = id
  · simp only [if_pos here]
    rfl
  · simp only [if_neg here]
    rfl

theorem renoted_halted {state : State} :
    before.Renoted id mode ((before.setPodState id state).setMode id mode) := by
  refine ⟨_, reworked_setPodState.trans reworked_update, fun other workload _ => ?_⟩
  by_cases here : other = id
  · simp only [if_pos here]
    split
    · rfl
    · rfl
  · simp only [if_neg here]
    split
    · rfl
    · rfl

private theorem renoted_self (found : before.get? id = some workload) :
    before.Renoted id workload.fault.activeMode before := by
  refine ⟨fun _ workload => workload, fun other => Option.map_id'.symm, fun other member known => ?_⟩
  by_cases here : other = id
  · rcases Option.some.inj (found.symm.trans (here ▸ known)) with rfl
    simp only [if_pos here]
    rfl
  · simp only [if_neg here]
    rfl

private theorem renoted_setImage {reference : String} (found : before.get? id = some workload) :
    before.Renoted id workload.fault.activeMode (before.setImage id reference) := by
  refine ⟨_, reworked_update, fun other member known => ?_⟩
  by_cases here : other = id
  · rcases Option.some.inj (found.symm.trans (here ▸ known)) with rfl
    simp only [if_pos here]
    rfl
  · simp only [if_neg here]
    rfl

theorem renoted_of_replaced (found : before.get? id = some workload)
    (left : after = before ∨ ∃ reference, after = before.setImage id reference) :
    before.Renoted id workload.fault.activeMode after := by
  rcases left with rfl | ⟨reference, rfl⟩
  · exact renoted_self found
  · exact renoted_setImage found

namespace Renoted

theorem found (renoted : before.Renoted id mode after) (found : before.get? other = some workload) :
    ∃ left, after.get? other = some left ∧ left.bonds =
      { workload.bonds with mode := if other = id then mode else workload.fault.activeMode } := by
  rcases renoted with ⟨rework, reworked, bonds⟩
  exact ⟨rework other workload, reworked.found found, bonds other workload found⟩

theorem source (renoted : before.Renoted id mode after) (there : after.get? other = some left) :
    ∃ workload, before.get? other = some workload ∧ left.bonds =
      { workload.bonds with mode := if other = id then mode else workload.fault.activeMode } := by
  rcases renoted with ⟨rework, reworked, bonds⟩
  rcases reworked.source there with ⟨workload, found, rfl⟩
  exact ⟨workload, found, bonds other workload found⟩

end Renoted
end Registry

/-- A turn keeps every instance, whatever is shaped or removed. -/
theorem Turn.lasts {setup : Setup} {before after : Registry} {call : Call} {events : List Event}
    {succeeded : Bool} (turn : Turn setup before call events succeeded after) :
    before.Lasts call after := by
  intro other workload found
  cases turn with
  | steps steps => exact steps.lasts other workload found
  | shapes =>
      refine ⟨_, Registry.reworked_update.found found, ?_⟩
      split
      · exact .of_listed rfl (List.Subset.refl _) rfl rfl
      · exact .refl
  | halts =>
      refine ⟨_, (Registry.reworked_setPodState.trans Registry.reworked_update).found found, ?_⟩
      split
      · split
        · exact .of_listed rfl (List.Subset.refl _) rfl rfl
        · exact .of_listed rfl (List.Subset.refl _) rfl rfl
      · split
        · exact .of_listed rfl (List.Subset.refl _) rfl rfl
        · exact .refl
  | replaces sets _ _ left =>
      rcases left with rfl | ⟨reference, rfl⟩
      · exact ⟨workload, found, .refl⟩
      · refine ⟨_, Registry.reworked_update.found found, ?_⟩
        split
        · rename_i here
          have describes : call.describes? = some other := by
            cases call with
            | setImage | setImageInstant => exact here ▸ sets
            | _ => cases sets
          exact .of_bonds rfl (fun apart => absurd describes apart) fun _ => rfl
        · exact .refl

end Testbed
