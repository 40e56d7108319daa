import Testbed.Proofs.Attribution.Describe
import Testbed.Proofs.Conduct.Deploy
import Testbed.Proofs.Launch
import Testbed.Proofs.Reachable

namespace Testbed

/-!
# Errors of calls

Every error of a call on an instance names an instance that is registered, with two exceptions: the look
that ends a wait hands its own failure on, and a call that registers somebody may be refused the name.
So a failure of a collaborator is told under the name of the instance that it concerns wherever it is met
by a request; but if the cluster fails while it is looked at in a wait, the error is the cluster's own, and
need not name anybody.
-/

namespace Action

open Attributes

variable {setup : Setup} {before : Registry} {id : InstanceId} {workload : Instance} {name : String}
  {operation : Operation}

/-! ## Starts and stops -/

theorem attributes_applyAll {resources : List Resource} (known : before.Knows name) :
    Attributes setup before (applyAll name operation resources) := by
  induction resources with
  | nil => exact of_pure
  | cons first rest inductionHypothesis => exact cluster_bind known fun _ => inductionHypothesis

theorem attributes_setPodState {state : State} : Attributes setup before (setPodState id state) :=
  of_sure rfl .setPodState

theorem attributes_startWithoutWait (linked : before.WellLinked)
    (found : before.get? id = some workload) : Attributes setup before (startWithoutWait id) := by
  have known := Registry.knows_of_found found
  have handle : workload.id = id := linked.handle found
  subst handle
  refine guarded_bind found (ensureNoSidecar_bind known ?_)
  refine guardSidecars_bind (linked.hasKin found).2 ?_
  have launching {middle : Registry} {unit : ReplicaSet} (known : middle.Knows workload.name) :
      Attributes setup middle (do
        cluster workload.name .start (.apply (.replicaSet unit))
        setPodState workload.id .started) :=
    cluster_bind known fun _ => attributes_setPodState
  dsimp only
  by_cases committed : workload.state = .committed
  · simp only [if_pos committed]
    refine (attributes_injectSidecars ⟨workload, found⟩).bind fun {_ middle _} injected keeps => ?_
    have state := (Registry.stateOf_eq found).trans (congrArg some committed)
    have proceeds : Proceeds setup before.instances.length 0 (injectSidecars workload) before
        fun _ _ => True :=
      proceeds_injectSidecars (Nat.le_refl _) (Registry.lt_of_get? found) state
    -- The injection moves the registry, so the sidecars are in it when the pod is compiled.
    rcases proceeds _ _ _ injected with ⟨_, _, moves, _⟩
    rcases keeps _ _ found with ⟨left, there, same⟩
    have knownThen := keeps.knows known
    have kin := (moves.wellLinked linked).hasKin there
    refine find_bind there (compile_bind (same ▸ knownThen) kin fun compiled => ?_)
    refine (attributes_applyAll knownThen).bind fun _ keeping => ?_
    exact launching (keeping.knows knownThen)
  · simp only [if_neg committed]
    refine find_bind found (compile_bind known (linked.hasKin found) fun compiled => ?_)
    exact launching known

theorem attributes_waitRunning (found : before.get? id = some workload)
    (kin : before.HasKin workload) : Attributes setup before (waitRunning id) := by
  refine guarded_bind found (settings_bind (podOwner_bind kin fun owner => ?_))
  exact of_await (Registry.knows_of_found found)

theorem attributes_start (linked : before.WellLinked) (found : before.get? id = some workload) :
    Attributes setup before (start id) := by
  refine (attributes_startWithoutWait linked found).bind fun course keeps => ?_
  rcases proceeds_startWithoutWait linked _ _ _ course with ⟨_, _, moves, _⟩
  rcases keeps _ _ found with ⟨left, there, _⟩
  exact attributes_waitRunning there ((moves.wellLinked linked).hasKin there)

theorem attributes_stop (found : before.get? id = some workload) (kin : before.HasKin workload) :
    Attributes setup before (stop id) := by
  have known := Registry.knows_of_found found
  refine guarded_bind found (ensureNoSidecar_bind known (guardSidecars_bind kin.2 ?_))
  refine cluster_bind known fun _ => attributes_setPodState.bind fun _ _ => ?_
  exact of_update fun _ _ => rfl

theorem attributes_isRunning (found : before.get? id = some workload) (kin : before.HasKin workload) :
    Attributes setup before (isRunning id) := by
  refine guarded_bind found (podOwner_bind kin fun owner => ?_)
  exact of_cluster (Registry.knows_of_found found)

theorem attributes_waitStopped (found : before.get? id = some workload)
    (kin : before.HasKin workload) : Attributes setup before (waitStopped id) := by
  refine guarded_bind found (podOwner_bind kin fun owner => ?_)
  exact of_await (Registry.knows_of_found found)

/-! ## Reaching -/

theorem attributes_createCustomResource {type : CustomType} {object : Json}
    (found : before.get? id = some workload) :
    Attributes setup before (createCustomResource id type object) := by
  have known := Registry.knows_of_found found
  refine guarded_bind found (cluster_bind known fun isDeclared => ?_)
  split
  · exact of_cluster known
  · exact of_fail known rfl

theorem attributes_deployService (known : before.Knows workload.name)
    (kin : before.HasKin workload) : Attributes setup before (deployService workload) := by
  refine settings_bind (podOwner_bind kin fun owner => ?_)
  cases workload.service owner setup.settings.space with
  | none => exact of_fail known rfl
  | some service => exact cluster_bind known fun _ => of_cluster known

theorem attributes_address (found : before.get? id = some workload) (kin : before.HasKin workload) :
    Attributes setup before (address id) := by
  have known := Registry.knows_of_found found
  refine guarded_bind found ?_
  cases workload.serviceAddress with
  | some noted => exact of_pure
  | none =>
      refine cluster_bind known fun answer => ?_
      extract_lets note
      have noting {middle : Registry} (known : middle.Knows workload.name) (answer : Option String) :
          Attributes setup middle (note answer) := by
        cases answer with
        | none => exact of_fail known rfl
        | some address =>
            dsimp only [note]
            split
            · exact of_fail known rfl
            · exact bind (of_update fun _ _ => rfl) fun _ _ => of_pure
      split
      · exact (attributes_deployService known kin).bind fun _ keeps => noting (keeps.knows known) _
      · exact noting known answer

theorem attributes_addHost {port : UInt16} (found : before.get? id = some workload) :
    Attributes setup before (addHost id port) := by
  have known := Registry.knows_of_found found
  refine guarded_bind found (setup_bind ?_)
  split
  · have told {β : Type} {reply : Except Failure β} {error : Error} (failed : reply.mapError
        (fun failure => failure.during workload.name Operation.addHost.text) = .error error) :
        error.instance? = some workload.name :=
      Error.instance?_of_mapError (fun _ => Failure.instance?_of_during) failed
    refine ask_bind fun exposed => ofExcept_bind known (fun _ => told) fun _ _ => ?_
    exact ask_bind fun answer => of_done (ofExcept_eq _) fun _ failed => ⟨_, told failed, known⟩
  · exact of_fail known rfl

theorem attributes_runInContainer {command : List String} (known : before.Knows workload.name)
    (kin : before.HasKin workload) : Attributes setup before (runInContainer workload command) :=
  podOwner_bind kin fun _ => cluster_bind known fun _ => of_cluster known

theorem instance?_of_contextOf {error : Error} (failed : contextOf workload = .error error) :
    error.instance? = some workload.name := by
  rw [contextOf] at failed
  split at failed
  · cases failed
  · obtain rfl := Except.error.inj failed
    rfl

theorem attributes_executeCommand {command : List String} (found : before.get? id = some workload)
    (kin : before.HasKin workload) : Attributes setup before (executeCommand id command) := by
  have known := Registry.knows_of_found found
  refine guarded_bind found ?_
  split
  · exact ofExcept_bind known (fun _ => instance?_of_contextOf) fun context _ => of_image known
  · exact attributes_runInContainer known kin

theorem attributes_fetchFile {path : String} (found : before.get? id = some workload)
    (kin : before.HasKin workload) : Attributes setup before (fetchFile id path) := by
  have known := Registry.knows_of_found found
  refine guarded_bind found ?_
  split
  · exact (attributes_runInContainer known kin).bind fun _ _ => of_pure
  · exact ofExcept_bind known (fun _ => instance?_of_contextOf) fun context _ => of_image known

theorem attributes_forwardPort {port : UInt16} (found : before.get? id = some workload)
    (kin : before.HasKin workload) : Attributes setup before (forwardPort id port) := by
  have known := Registry.knows_of_found found
  refine guarded_bind found ?_
  dsimp only
  split
  · refine settings_bind (ask_bind fun reply => ?_)
    refine ofExcept_bind known (fun _ => Error.instance?_of_mapError fun _ => rfl) fun localPort _ => ?_
    refine podOwner_bind kin fun owner => cluster_bind known fun pod => ?_
    refine of_connect.bind fun tried keeps => ?_
    have known := keeps.knows known
    split
    · exact of_pure
    · exact of_fail known rfl
    · exact of_fail known rfl
  · exact of_fail known rfl

/-! ## Faults -/

theorem attributes_stopShaping {target : String} {port : UInt16} {kinds : List ShapingKind}
    (known : before.Knows name) :
    Attributes setup before (stopShaping name operation target port kinds) := by
  induction kinds with
  | nil => exact of_pure
  | cons first rest inductionHypothesis =>
      refine ask_bind fun reply => ?_
      cases reply with
      | ok _ => exact inductionHypothesis
      | error failure =>
          dsimp only
          split
          · exact inductionHypothesis
          · exact of_fail known rfl

theorem attributes_shape {shaping : Option Shaping} (found : before.get? id = some workload) :
    Attributes setup before (shape id operation shaping) := by
  have known := Registry.knows_of_found found
  refine guarded_bind found ?_
  dsimp only
  split
  · exact of_fail known rfl
  cases workload.fault.sidecar with
  | none => exact of_fail known rfl
  | some target =>
      refine setup_bind ?_
      split
      · exact of_fail known rfl
      refine (attributes_stopShaping known).bind fun _ keeps => ?_
      refine bind (of_update fun _ _ => rfl) fun _ keeping => ?_
      have known := keeping.knows (keeps.knows known)
      cases shaping with
      | none => exact of_pure
      | some shaping =>
          refine ask_bind fun reply => ?_
          cases reply with
          | error failure => exact of_fail known rfl
          | ok _ => exact of_update fun _ _ => rfl

theorem attributes_setPacketLoss {percent : UInt8} (found : before.get? id = some workload) :
    Attributes setup before (setPacketLoss id percent) := by
  unfold setPacketLoss
  split
  · exact find_bind found (of_fail (Registry.knows_of_found found) rfl)
  · exact attributes_shape found

theorem attributes_disableNetwork (found : before.get? id = some workload)
    (kin : before.HasKin workload) : Attributes setup before (disableNetwork id) := by
  refine guarded_bind found (settings_bind (podOwner_bind kin fun owner => ?_))
  exact of_cluster (Registry.knows_of_found found)

theorem attributes_enableNetwork (found : before.get? id = some workload)
    (kin : before.HasKin workload) : Attributes setup before (enableNetwork id) := by
  refine guarded_bind found (podOwner_bind kin fun owner => ?_)
  exact of_cluster (Registry.knows_of_found found)

theorem attributes_networkIsDisabled (found : before.get? id = some workload)
    (kin : before.HasKin workload) : Attributes setup before (networkIsDisabled id) := by
  refine guarded_bind found (podOwner_bind kin fun owner => ?_)
  exact of_cluster (Registry.knows_of_found found)

/-- Whatever a look fails with, the wait fails with it. -/
theorem course_waitRunning_of_failed {owner : String} {cause : Error}
    (found : before.get? id = some workload)
    (permitted : workload.state ∈ Operation.waitRunning.allowedStates)
    (hosted : before.podOwner workload = .ok owner) :
    Course setup (waitRunning id) before [.awaited (.ready owner) (.failed cause)] (.error cause)
      before := by
  refine course_guarded_bind.mpr (Or.inr ⟨workload, ⟨found, permitted⟩, ?_⟩)
  have owning : podOwner workload setup before = .done (.ok owner, before) := by
    rw [podOwner_eq, hosted]
  refine course_settings_bind.mpr ?_
  rw [Course, bind_of_done owning]
  exact course_await.mpr ⟨.failed cause, ⟨0⟩, rfl, rfl, rfl⟩

end Action

open Testbed.Action in
/-- Every call on an instance that is registered keeps everybody and accounts for its errors. -/
theorem Call.attributes {setup : Setup} {before : Registry} {call : Call} {id : InstanceId}
    {operation : Operation} {workload : Instance} (linked : before.WellLinked)
    (guarded : call.guard? = some (id, operation)) (found : before.get? id = some workload) :
    Attributes setup before call.perform := by
  have kin := linked.hasKin found
  cases call <;> cases guarded
  case setImage => exact attributes_setImage found kin
  case setImageInstant => exact attributes_setImageInstant found kin
  case setGitRepo => exact attributes_setGitRepo found
  case commit => exact attributes_commit found
  case edit => exact attributes_edit found
  case addFileBytes => exact attributes_addFileBytes ⟨workload, found⟩
  case addFile => exact attributes_addFile found
  case addFolder => exact attributes_addFolder found
  case setUser => exact attributes_setUser found
  case addSidecar => exact attributes_addSidecar ⟨workload, found⟩
  case clone => exact attributes_clone found kin
  case cloneWithName => exact attributes_cloneWithName found kin
  case start => exact attributes_start linked found
  case startWithoutWait => exact attributes_startWithoutWait linked found
  case stop => exact attributes_stop found kin
  case isRunning => exact attributes_isRunning found kin
  case waitRunning => exact attributes_waitRunning found kin
  case waitStopped => exact attributes_waitStopped found kin
  case createCustomResource => exact attributes_createCustomResource found
  case address => exact attributes_address found kin
  case addHost => exact attributes_addHost found
  case executeCommand => exact attributes_executeCommand found kin
  case fetchFile => exact attributes_fetchFile found kin
  case forwardPort => exact attributes_forwardPort found kin
  case setBandwidthLimit => exact attributes_shape found
  case setLatencyAndJitter => exact attributes_shape found
  case clearShaping => exact attributes_shape found
  case setPacketLoss => exact attributes_setPacketLoss found
  case disableNetwork => exact attributes_disableNetwork found kin
  case enableNetwork => exact attributes_enableNetwork found kin
  case networkIsDisabled => exact attributes_networkIsDisabled found kin

/-- An error of a call on an instance names an instance that is registered, unless it is the failure of
the look that has ended a wait, or the call has asked last for a name in the cluster. -/
theorem attributed_of_error {setup : Setup} {history : List Record} {before after : Registry}
    {call : Call} {id : InstanceId} {operation : Operation} {workload : Instance} {events : List Event}
    {error : Error} (reached : Reaches setup history before)
    (guarded : call.guard? = some (id, operation)) (found : before.get? id = some workload)
    (course : Action.Course setup call.perform before events (.error error) after) :
    (∃ handle member, after.get? handle = some member ∧ error.instance? = some member.name) ∨
      (∃ earlier condition, events = earlier ++ [.awaited condition (.failed error)]) ∨
      ∃ earlier last, events = earlier ++ [last] ∧ last.asksName = true := by
  have linked := reached.invariant.1
  rcases Call.attributes linked guarded found _ _ _ course with ⟨_, accounts⟩
  rcases accounts error rfl with
    ⟨name, about, handle, member, there, rfl⟩ | ⟨earlier, last, rfl, asks | ⟨condition, rfl⟩⟩
  · exact Or.inl ⟨handle, member, there, about⟩
  · exact Or.inr (Or.inr ⟨earlier, last, rfl, asks⟩)
  · exact Or.inr (Or.inl ⟨earlier, condition, rfl⟩)

/-- The cluster refuses the compute unit of a start, and the error names an instance. -/
theorem attributed_of_refusedStart :
    let described := trial .shaping (.refusing "busybox") Call.shapedPod
    Reaches .shaping described.1 described.2 ∧
      ∃ events error,
        Action.Course .shaping (Call.startWithoutWait ⟨0⟩).perform described.2 events (.error error)
          refusedStart.2 ∧
        ∃ handle member, refusedStart.2.get? handle = some member ∧
          error.instance? = some member.name := by
  intro described
  have reached : Reaches .shaping described.1 described.2 := reaches_trial _ _ _
  have registered : (described.2.get? ⟨0⟩).isSome = true := by decide +kernel
  rcases Option.isSome_iff_exists.mp registered with ⟨workload, found⟩
  have failed : (((Call.startWithoutWait ⟨0⟩).perform .shaping described.2).follow
      (.refusing "busybox")).2.1.isOk = false := by decide +kernel
  rcases course_of_failed_trial failed with ⟨error, course⟩
  have requested : (((Call.startWithoutWait ⟨0⟩).perform .shaping described.2).follow
      (.refusing "busybox")).1.getLast?.map Event.isRequest = some true := by decide +kernel
  have unasked : (((Call.startWithoutWait ⟨0⟩).perform .shaping described.2).follow
      (.refusing "busybox")).1.getLast?.map Event.asksName = some false := by decide +kernel
  refine ⟨reached, _, error, course, ?_⟩
  rcases attributed_of_error reached rfl found course with
    names | ⟨earlier, condition, whole⟩ | ⟨earlier, last, whole, asks⟩
  · exact names
  · rw [whole, List.getLast?_concat] at requested
    cases requested
  · rw [whole, List.getLast?_concat, Option.map_some, asks] at unasked
    cases unasked

/-- The failure of a look is told as it is, and names nobody. -/
theorem unattributed_of_failedLook :
    ¬ ∀ (setup : Setup) (history : List Record) (before after : Registry) (call : Call)
      (id : InstanceId) (operation : Operation) (workload : Instance) (events : List Event)
      (error : Error), Reaches setup history before → call.guard? = some (id, operation) →
      before.get? id = some workload →
      Action.Course setup call.perform before events (.error error) after →
      (∃ earlier last, events = earlier ++ [last] ∧ last.fails = true) →
      (∀ event ∈ events, event.asksName = false) →
      ∃ handle member, after.get? handle = some member ∧ error.instance? = some member.name := by
  intro claim
  have reached := reaches_trial .plain .agreeable Call.podStart
  have shape : ((trial .plain .agreeable Call.podStart).2.get? ⟨0⟩).map
      (fun workload => (workload.state, workload.parent)) = some (.started, none) := by decide +kernel
  rcases Option.map_eq_some_iff.mp shape with ⟨workload, found, same⟩
  rcases Prod.mk.inj same with ⟨started, leads⟩
  have permitted : workload.state ∈ Operation.waitRunning.allowedStates := by
    rw [started]
    decide
  have hosted : (trial .plain .agreeable Call.podStart).2.podOwner workload =
      .ok workload.clusterName := by
    rw [Registry.podOwner, leads]
  have course : Action.Course .plain (Call.waitRunning ⟨0⟩).perform _ _ (.error .unusableAnswer) _ :=
    Action.course_waitRunning_of_failed found permitted hosted
  have fails : (Event.awaited (.ready workload.clusterName) (.failed .unusableAnswer)).fails = true := rfl
  have unasked : ∀ event ∈ [Event.awaited (.ready workload.clusterName) (.failed .unusableAnswer)],
      event.asksName = false := by
    intro event listed
    rw [List.mem_singleton.mp listed]
    rfl
  rcases claim _ _ _ _ _ _ _ _ _ _ reached rfl found course ⟨[], _, rfl, fails⟩ unasked with
    ⟨handle, member, _, impossible⟩
  cases impossible

end Testbed
