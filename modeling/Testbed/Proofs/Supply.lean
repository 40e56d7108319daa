import Testbed.Proofs.Conduct.Deploy
import Testbed.Proofs.Reachable
import Testbed.Proofs.Supply.Describe

namespace Testbed

/-!
# Contexts and images at all times

Whatever is done with a testbed, and whatever fails, an instance has a context in every state but the first,
and an image in the three states from its commit on.  This goes for copies as well, for sidecars that a
start has injected, and for those that an interrupted start has made and not attached.  So nothing that a
call asks of an instance is ever missing when it is permitted.
-/

namespace Action

open LacksNothing

variable {setup : Setup} {before : Registry} {id : InstanceId} {workload : Instance} {name : String}
  {operation : Operation}

/-! ## Starts and stops -/

theorem lacksNothing_applyAll {resources : List Resource} :
    LacksNothing setup before (applyAll name operation resources) := by
  induction resources with
  | nil => exact of_pure
  | cons first rest inductionHypothesis => exact cluster_bind fun _ => inductionHypothesis

theorem lacksNothing_setPodState {state : State} : LacksNothing setup before (setPodState id state) :=
  of_done rfl fun _ => nofun

/-- A pod that is started for the first time has been committed as a whole, with the sidecars that this
start has attached; one that is started again has been started before. -/
theorem lacksNothing_startWithoutWait (supplied : before.IsSupplied) :
    LacksNothing setup before (startWithoutWait id) := by
  refine guarded_bind fun workload found permitted => ?_
  refine ensureNoSidecar_bind (guardSidecars_bind ?_)
  have handle : workload.id = id := supplied.linked.handle found
  subst handle
  have launching {unit : ReplicaSet} {middle : Registry} :
      LacksNothing setup middle (do
        cluster workload.name .start (.apply (.replicaSet unit))
        setPodState workload.id .started) :=
    cluster_bind fun _ => lacksNothing_setPodState
  have compiling {middle : Registry} {left : Instance} (supplied : middle.IsSupplied)
      (there : middle.get? workload.id = some left) (same : left.state = workload.state) :
      ∃ compiled, middle.compile setup.settings left = .ok compiled := by
    have late : left.state ≠ .created ∧ left.state ≠ .preparing := by
      rw [same]
      revert permitted
      cases workload.state <;> decide
    exact Registry.exists_compile supplied.linked supplied.lockstep supplied.imaged there late _
  dsimp only
  by_cases committed : workload.state = .committed
  · simp only [if_pos committed]
    have state := (Registry.stateOf_eq found).trans (congrArg some committed)
    refine (lacksNothing_injectSidecars supplied found committed).bind fun injected => ?_
    have injects : Proceeds setup before.instances.length 0 (injectSidecars workload) before
        fun _ _ => True :=
      proceeds_injectSidecars (Nat.le_refl _) (Registry.lt_of_get? found) state
    rcases injects _ _ _ injected with ⟨_, within, moves, _⟩
    obtain rfl := Nat.le_zero.mp within
    -- The injection leaves the instance committed, whatever it has attached to it.
    rcases moves.kept (Registry.lt_of_get? found) found with ⟨left, there, _, same, _⟩
    have suppliedThen := supplied.moves moves
    refine find_bind fun again known => ?_
    rcases Option.some.inj (there.symm.trans known) with rfl
    refine compile_bind (compiling suppliedThen there same) fun compiled => ?_
    exact lacksNothing_applyAll.bind fun _ => launching
  · simp only [if_neg committed]
    refine find_bind fun again known => ?_
    rcases Option.some.inj (found.symm.trans known) with rfl
    exact compile_bind (compiling supplied found rfl) fun compiled => launching

theorem lacksNothing_waitRunning : LacksNothing setup before (waitRunning id) :=
  guarded_bind fun _ _ _ => settings_bind (podOwner_bind fun _ => of_await)

theorem lacksNothing_start (supplied : before.IsSupplied) : LacksNothing setup before (start id) :=
  (lacksNothing_startWithoutWait supplied).bind fun _ => lacksNothing_waitRunning

theorem lacksNothing_stop : LacksNothing setup before (stop id) := by
  refine guarded_bind fun _ _ _ => ensureNoSidecar_bind (guardSidecars_bind ?_)
  exact cluster_bind fun _ => lacksNothing_setPodState.bind fun _ => of_update

theorem lacksNothing_isRunning : LacksNothing setup before (isRunning id) :=
  guarded_bind fun _ _ _ => podOwner_bind fun _ => of_cluster

theorem lacksNothing_waitStopped : LacksNothing setup before (waitStopped id) :=
  guarded_bind fun _ _ _ => podOwner_bind fun _ => of_await

/-! ## Reaching -/

theorem lacksNothing_createCustomResource {type : CustomType} {object : Json} :
    LacksNothing setup before (createCustomResource id type object) := by
  refine guarded_bind fun _ _ _ => cluster_bind fun isDeclared => ?_
  split
  · exact of_cluster
  · exact of_fail rfl

theorem lacksNothing_deployService : LacksNothing setup before (deployService workload) := by
  refine settings_bind (podOwner_bind fun owner => ?_)
  cases workload.service owner setup.settings.space with
  | none => exact of_fail rfl
  | some service => exact cluster_bind fun _ => of_cluster

theorem lacksNothing_address : LacksNothing setup before (address id) := by
  refine guarded_bind fun workload _ _ => ?_
  cases workload.serviceAddress with
  | some noted => exact of_pure
  | none =>
      refine cluster_bind fun answer => ?_
      extract_lets note
      have noting {middle : Registry} (answer : Option String) :
          LacksNothing setup middle (note answer) := by
        cases answer with
        | none => exact of_fail rfl
        | some address =>
            dsimp only [note]
            split
            · exact of_fail rfl
            · exact bind of_update fun _ => of_pure
      split
      · exact lacksNothing_deployService.bind fun _ => noting _
      · exact noting answer

theorem lacksNothing_addHost {port : UInt16} : LacksNothing setup before (addHost id port) := by
  refine guarded_bind fun workload _ _ => setup_bind ?_
  split
  · have told {β : Type} {reply : Except Failure β} {error : Error} (failed : reply.mapError
        (fun failure => failure.during workload.name Operation.addHost.text) = .error error) :
        error.reportsLack = false :=
      Error.reportsLack_of_mapError (fun _ => Failure.reportsLack_during) failed
    refine ask_bind fun exposed => ofExcept_bind (fun _ => told) fun _ _ => ?_
    exact ask_bind fun answer => of_done (ofExcept_eq _) fun _ => told
  · exact of_fail rfl

theorem lacksNothing_runInContainer {command : List String} :
    LacksNothing setup before (runInContainer workload command) :=
  podOwner_bind fun _ => cluster_bind fun _ => of_cluster

/-- Whoever is asked for the context of an instance that has been prepared has it. -/
theorem contextOf_bind {next : ContextId → Action β} (supplied : before.IsSupplied)
    (found : before.get? id = some workload) (begun : workload.state ≠ .created)
    (rest : ∀ context, LacksNothing setup before (next context)) :
    LacksNothing setup before (ofExcept (contextOf workload) >>= next) := by
  rcases supplied.exists_context found begun with ⟨context, known⟩
  have given : contextOf workload = .ok context := by
    rw [contextOf, known]
  refine ofExcept_bind (fun _ failed => ?_) fun other _ => rest other
  rw [given] at failed
  cases failed

theorem lacksNothing_executeCommand {command : List String} (supplied : before.IsSupplied) :
    LacksNothing setup before (executeCommand id command) := by
  refine guarded_bind fun workload found _ => ?_
  split
  · rename_i preparing
    have begun : workload.state ≠ .created := by
      rw [preparing]
      exact nofun
    exact contextOf_bind supplied found begun fun context => of_image
  · exact lacksNothing_runInContainer

theorem lacksNothing_fetchFile {path : String} (supplied : before.IsSupplied) :
    LacksNothing setup before (fetchFile id path) := by
  refine guarded_bind fun workload found permitted => ?_
  have begun : workload.state ≠ .created := by
    revert permitted
    cases workload.state <;> decide
  split
  · exact lacksNothing_runInContainer.bind fun _ => of_pure
  · exact contextOf_bind supplied found begun fun context => of_image

theorem lacksNothing_forwardPort {port : UInt16} : LacksNothing setup before (forwardPort id port) := by
  refine guarded_bind fun workload _ _ => ?_
  dsimp only
  split
  · refine settings_bind (ask_bind fun reply => ?_)
    refine ofExcept_bind (fun _ => Error.reportsLack_of_mapError fun _ => rfl) fun localPort _ => ?_
    refine podOwner_bind fun owner => cluster_bind fun pod => of_connect.bind fun _ => ?_
    split
    · exact of_pure
    · exact of_fail rfl
    · exact of_fail rfl
  · exact of_fail rfl

/-! ## Faults -/

theorem lacksNothing_stopShaping {target : String} {port : UInt16} {kinds : List ShapingKind} :
    LacksNothing setup before (stopShaping name operation target port kinds) := by
  induction kinds with
  | nil => exact of_pure
  | cons first rest inductionHypothesis =>
      refine ask_bind fun reply => ?_
      cases reply with
      | ok _ => exact inductionHypothesis
      | error failure =>
          dsimp only
          split
          · exact inductionHypothesis
          · exact of_fail rfl

theorem lacksNothing_shape {shaping : Option Shaping} :
    LacksNothing setup before (shape id operation shaping) := by
  refine guarded_bind fun workload _ _ => ?_
  dsimp only
  split
  · exact of_fail rfl
  cases workload.fault.sidecar with
  | none => exact of_fail rfl
  | some target =>
      refine setup_bind ?_
      split
      · exact of_fail rfl
      refine lacksNothing_stopShaping.bind fun _ => bind of_update fun _ => ?_
      cases shaping with
      | none => exact of_pure
      | some shaping =>
          refine ask_bind fun reply => ?_
          cases reply with
          | error failure => exact of_fail rfl
          | ok _ => exact of_update

theorem lacksNothing_setPacketLoss {percent : UInt8} :
    LacksNothing setup before (setPacketLoss id percent) := by
  unfold setPacketLoss
  split
  · exact find_bind fun _ _ => of_fail rfl
  · exact lacksNothing_shape

theorem lacksNothing_disableNetwork : LacksNothing setup before (disableNetwork id) :=
  guarded_bind fun _ _ _ => settings_bind (podOwner_bind fun _ => of_cluster)

theorem lacksNothing_enableNetwork : LacksNothing setup before (enableNetwork id) :=
  guarded_bind fun _ _ _ => podOwner_bind fun _ => of_cluster

theorem lacksNothing_networkIsDisabled : LacksNothing setup before (networkIsDisabled id) :=
  guarded_bind fun _ _ _ => podOwner_bind fun _ => of_cluster

end Action

open Testbed.Action in
/-- No call finds that an instance lacks what its state calls for. -/
theorem Call.lacksNothing {setup : Setup} {before : Registry} (supplied : before.IsSupplied)
    (call : Call) : LacksNothing setup before call.perform := by
  cases call with
  | create => exact lacksNothing_create
  | setImage => exact lacksNothing_setImage supplied
  | setImageInstant => exact lacksNothing_setImageInstant supplied
  | setGitRepo => exact lacksNothing_setGitRepo
  | commit => exact lacksNothing_commit supplied
  | edit => exact lacksNothing_edit
  | addFileBytes => exact lacksNothing_addFileBytes supplied
  | addFile => exact lacksNothing_addFile supplied
  | addFolder => exact lacksNothing_addFolder supplied
  | setUser => exact lacksNothing_setUser supplied
  | addSidecar => exact lacksNothing_addSidecar
  | clone => exact lacksNothing_clone
  | cloneWithName => exact lacksNothing_cloneWithName
  | start => exact lacksNothing_start supplied
  | startWithoutWait => exact lacksNothing_startWithoutWait supplied
  | stop => exact lacksNothing_stop
  | isRunning => exact lacksNothing_isRunning
  | waitRunning => exact lacksNothing_waitRunning
  | waitStopped => exact lacksNothing_waitStopped
  | createCustomResource => exact lacksNothing_createCustomResource
  | address => exact lacksNothing_address
  | addHost => exact lacksNothing_addHost
  | executeCommand => exact lacksNothing_executeCommand supplied
  | fetchFile => exact lacksNothing_fetchFile supplied
  | forwardPort => exact lacksNothing_forwardPort
  | setBandwidthLimit | setLatencyAndJitter | clearShaping => exact lacksNothing_shape
  | setPacketLoss => exact lacksNothing_setPacketLoss
  | disableNetwork => exact lacksNothing_disableNetwork
  | enableNetwork => exact lacksNothing_enableNetwork
  | networkIsDisabled => exact lacksNothing_networkIsDisabled

/-- Whatever is done with a testbed, and whatever fails: an instance has a context if it is not merely
created, an image from its commit on, and neither at any other time.  No call fails because one of them
is missing, unless a collaborator that it asks fails in these very words. -/
theorem supplied_of_reaches {setup : Setup} {history : List Record} {registry : Registry}
    (reached : Reaches setup history registry) :
    (∀ id workload, registry.get? id = some workload →
      (workload.context.isSome ↔ workload.state ≠ .created) ∧
      (workload.image.isSome ↔
        workload.state = .committed ∨ workload.state = .started ∨ workload.state = .stopped)) ∧
    ∀ (call : Call) events error after,
      Action.Course setup call.perform registry events (.error error) after →
      error.reportsLack = true → ∃ event ∈ events, event.Hands error := by
  have supplied := Registry.IsSupplied.of_reaches reached
  refine ⟨fun id workload found => ?_, fun call => Call.lacksNothing supplied call⟩
  exact ⟨(supplied.prepared id workload found).context, supplied.image_isSome_iff found⟩

/-- After a start that has injected a sidecar, the sidecar is started, so it has a context and an image. -/
theorem supplied_of_shapedPod :
    let started := trial .shaping .agreeable (Call.shapedPod ++ [.startWithoutWait ⟨0⟩])
    Reaches .shaping started.1 started.2 ∧ ∃ sidecar, started.2.get? ⟨1⟩ = some sidecar ∧
      sidecar.state = .started ∧ sidecar.context.isSome ∧ sidecar.image.isSome := by
  have reached := reaches_trial .shaping .agreeable (Call.shapedPod ++ [.startWithoutWait ⟨0⟩])
  have shape : ((trial .shaping .agreeable (Call.shapedPod ++ [.startWithoutWait ⟨0⟩])).2.get? ⟨1⟩).map
      Instance.state = some .started := by decide +kernel
  rcases Option.map_eq_some_iff.mp shape with ⟨sidecar, found, started⟩
  rcases (supplied_of_reaches reached).1 ⟨1⟩ sidecar found with ⟨context, image⟩
  have begun : sidecar.state ≠ .created := by
    rw [started]
    exact nofun
  exact ⟨reached, sidecar, found, started, context.mpr begun, image.mpr (Or.inr (Or.inl started))⟩

end Testbed
