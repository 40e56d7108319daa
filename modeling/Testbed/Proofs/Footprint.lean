import Testbed.Proofs.Blueprint
import Testbed.Proofs.Call
import Testbed.Proofs.Cluster
import Testbed.Proofs.Course.Replacement
import Testbed.Proofs.Supporting
import Testbed.Proofs.Turn.Inject

namespace Testbed

/-!
# What calls touch of a cluster

Few calls change what a cluster holds, and each of them changes resources of some kinds only.  A start
applies everything but network policies, an image that is replaced and a stop are about the compute unit,
and an address may need a service.  Only two calls touch a network policy, and they touch nothing else.

`ActsOn` says of an action that whatever it touches is of one of some kinds.  The cluster holds what it
held of every other kind, however the action ends.
-/

/-- The kind of the resource that a request to the cluster is to change. -/
def ClusterRequest.changes? : ClusterRequest → Option ResourceKind
  | apply resource => some resource.resourceKind
  | delete kind _ _ => some kind
  | _ => none

/-- What a request to the cluster touches is of the kind that it is to change. -/
theorem Event.Touches.changes?_eq {request : ClusterRequest} {reply : (Request.cluster request).Reply}
    {kind : ResourceKind} {name : String}
    (touches : (Event.asked (.cluster request) reply).Touches kind name) :
    request.changes? = some kind := by
  cases request with
  | apply resource =>
      cases reply with
      | ok _ => exact congrArg some touches.1
      | error _ => exact touches.elim
  | delete other otherName grace =>
      cases reply with
      | ok _ => exact congrArg some touches.1
      | error _ => exact touches.elim
  | _ => exact touches.elim

namespace Action

variable {setup : Setup} {kinds : List ResourceKind} {action : Action α} {next : α → Action β}
  {id : InstanceId} {workload : Instance} {name : String} {operation : Operation}

/-- Whatever an action touches of the cluster is of one of some kinds. -/
def ActsOn (setup : Setup) (kinds : List ResourceKind) (action : Action α) : Prop :=
  ∀ ⦃before events result after⦄, Course setup action before events result after →
    ∀ event ∈ events, ∀ kind name, event.Touches kind name → kind ∈ kinds

theorem ActsOn.bind (first : ActsOn setup kinds action) (rest : ∀ value, ActsOn setup kinds (next value)) :
    ActsOn setup kinds (action >>= next) := by
  intro before events result after course
  rcases course_bind.mp course with
    ⟨error, _, failed⟩ | ⟨value, middle, earlier, later, rfl, started, ended⟩
  · exact first failed
  · exact List.forall_mem_append.mpr ⟨first started, rest value ended⟩

/-! ## What is done at once -/

theorem actsOn_of_done (ended : ∀ before, ∃ result left, action setup before = .done (result, left)) :
    ActsOn setup kinds action := by
  intro before events result after course
  rcases ended before with ⟨found, left, done⟩
  rcases (course_of_done done).mp course with ⟨rfl, _, _⟩
  exact fun _ impossible => nomatch impossible

theorem actsOn_pure (value : α) : ActsOn setup kinds (pure value) :=
  actsOn_of_done fun _ => ⟨_, _, rfl⟩

theorem actsOn_fail (error : Error) : ActsOn setup kinds (fail error : Action α) :=
  actsOn_of_done fun _ => ⟨_, _, rfl⟩

theorem actsOn_ofExcept (found : Except Error α) : ActsOn setup kinds (ofExcept found) :=
  actsOn_of_done fun _ => ⟨_, _, ofExcept_eq found⟩

theorem actsOn_registry : ActsOn setup kinds registry :=
  actsOn_of_done fun _ => ⟨_, _, rfl⟩

theorem actsOn_setup : ActsOn setup kinds Action.setup :=
  actsOn_of_done fun _ => ⟨_, _, rfl⟩

theorem actsOn_settings : ActsOn setup kinds settings :=
  actsOn_of_done fun _ => ⟨_, _, rfl⟩

theorem actsOn_update (id : InstanceId) (change : Instance → Instance) :
    ActsOn setup kinds (update id change) :=
  actsOn_of_done fun _ => ⟨_, _, rfl⟩

theorem actsOn_setRegistry (changed : Registry) : ActsOn setup kinds (setRegistry changed) :=
  actsOn_of_done fun _ => ⟨_, _, rfl⟩

theorem actsOn_setPodState (id : InstanceId) (state : State) : ActsOn setup kinds (setPodState id state) :=
  actsOn_of_done fun _ => ⟨_, _, rfl⟩

theorem actsOn_find (id : InstanceId) : ActsOn setup kinds (find id) :=
  actsOn_of_done fun _ => ⟨_, _, find_eq id⟩

theorem actsOn_guarded (id : InstanceId) (operation : Operation) :
    ActsOn setup kinds (guarded id operation) :=
  actsOn_of_done fun _ => ⟨_, _, guarded_eq id operation⟩

theorem actsOn_ensureNoSidecar (workload : Instance) (operation : Operation) :
    ActsOn setup kinds (ensureNoSidecar workload operation) := by
  unfold ensureNoSidecar
  split
  · exact actsOn_fail _
  · exact actsOn_pure ()

theorem actsOn_guardSidecars (operation : Operation) (ids : List InstanceId) :
    ActsOn setup kinds (guardSidecars operation ids) :=
  actsOn_of_done fun _ => ⟨_, _, guardSidecars_eq operation ids⟩

theorem actsOn_podOwner (workload : Instance) : ActsOn setup kinds (podOwner workload) :=
  actsOn_of_done fun _ => ⟨_, _, podOwner_eq workload⟩

/-- What supports a compiled pod is not its isolation. -/
theorem actsOn_compile_bind {next : CompiledPod → Action β}
    (rest : ∀ compiled : CompiledPod,
      (∀ resource ∈ compiled.supporting, resource.resourceKind ≠ .networkPolicy) →
      ActsOn setup kinds (next compiled)) :
    ActsOn setup kinds (compile workload >>= next) := by
  intro before events result after course
  rcases course_bind.mp course with
    ⟨error, _, failed⟩ | ⟨compiled, middle, earlier, later, rfl, made, ended⟩
  · rcases (course_of_done (compile_eq workload)).mp failed with ⟨rfl, _, _⟩
    exact fun _ impossible => nomatch impossible
  rcases (course_of_done (compile_eq workload)).mp made with ⟨rfl, compiles, rfl⟩
  rcases Registry.compile_eq_ok_iff.mp compiles.symm with ⟨pod, _, _, supporting⟩
  refine rest compiled (fun resource listed => ?_) ended
  rw [supporting] at listed
  rcases Pod.supports_of_mem listed with ⟨_, _, supports⟩
  exact supports.resourceKind_ne.2

/-! ## Requests and waits -/

theorem actsOn_ask {request : Request} (quiet : ∀ reply, (Event.asked request reply).IsQuiet) :
    ActsOn setup kinds (ask request) := by
  intro before events result after course
  rcases course_ask.mp course with ⟨reply, rfl, _, _⟩
  exact List.forall_mem_singleton.mpr fun _ _ touches => absurd touches (quiet reply).not_touches

theorem actsOn_cluster {request : ClusterRequest}
    (within : ∀ kind, request.changes? = some kind → kind ∈ kinds) :
    ActsOn setup kinds (cluster name operation request) := by
  intro before events result after course
  rcases course_cluster.mp course with ⟨reply, rfl, _, _⟩
  exact List.forall_mem_singleton.mpr fun _ _ touches => within _ touches.changes?_eq

/-- A request to the cluster that is to change nothing. -/
theorem actsOn_query {request : ClusterRequest} (changes : request.changes? = none) :
    ActsOn setup kinds (cluster name operation request) := by
  refine actsOn_cluster fun kind same => ?_
  rw [changes] at same
  cases same

theorem actsOn_apply {resource : Resource} (within : resource.resourceKind ∈ kinds) :
    ActsOn setup kinds (cluster name operation (.apply resource)) :=
  actsOn_cluster fun _ same => Option.some.inj same ▸ within

theorem actsOn_delete {kind : ResourceKind} {target : String} {grace : Option UInt32}
    (within : kind ∈ kinds) : ActsOn setup kinds (cluster name operation (.delete kind target grace)) :=
  actsOn_cluster fun _ same => Option.some.inj same ▸ within

theorem actsOn_image {request : ImageRequest} : ActsOn setup kinds (image name operation request) := by
  intro before events result after course
  rcases course_image.mp course with ⟨reply, rfl, _, _⟩
  exact List.forall_mem_singleton.mpr fun _ _ => False.elim

theorem actsOn_await {condition : Condition} {timeout : Option Duration} :
    ActsOn setup kinds (await name operation condition timeout) := by
  intro before events result after course
  rcases course_await.mp course with ⟨outcome, elapsed, rfl, _, _⟩
  exact List.forall_mem_singleton.mpr fun _ _ => False.elim

theorem actsOn_connect {pod : String} {localPort remotePort : UInt16} {policy : RetryPolicy}
    {value : RetryOutcome Error Unit → Duration → α} :
    ActsOn setup kinds (lift (.connect pod localPort remotePort policy fun outcome elapsed =>
      .done (value outcome elapsed))) := by
  intro before events result after course
  rcases Program.course_bind.mp course with ⟨ended, earlier, later, rfl, tried, rest⟩
  rcases Program.course_done.mp rest with ⟨rfl, _⟩
  cases tried with
  | connect outcome elapsed rest =>
      rcases Program.course_done.mp rest with ⟨rfl, _⟩
      exact List.forall_mem_singleton.mpr fun _ _ => False.elim

/-! ## Making and preparing -/

theorem actsOn_create : ActsOn setup kinds (create name) := by
  refine ActsOn.bind (actsOn_ask fun _ => trivial) fun given => ?_
  refine (actsOn_ofExcept _).bind fun clusterName => ?_
  refine actsOn_registry.bind fun registry => (actsOn_ofExcept _).bind fun grown => ?_
  exact (actsOn_setRegistry _).bind fun _ => actsOn_pure _

theorem actsOn_redeploy {grace : Option UInt32} (units : .replicaSet ∈ kinds) :
    ActsOn setup kinds (redeploy id grace) := by
  refine (actsOn_find _).bind fun workload => actsOn_compile_bind fun compiled _ => ?_
  refine actsOn_settings.bind fun settings => (actsOn_delete units).bind fun _ => ?_
  exact actsOn_await.bind fun _ => actsOn_apply units

theorem actsOn_replace {reference : String} {grace : Option UInt32} (units : .replicaSet ∈ kinds) :
    ActsOn setup kinds (replace id reference grace) := by
  refine (actsOn_find _).bind fun previous => (actsOn_update _ _).bind fun _ => ?_
  intro before events result after course
  rcases course_undoing.mp course with ⟨middle, redeployed, _⟩
  exact actsOn_redeploy units redeployed

theorem actsOn_setImage {reference : String} (units : .replicaSet ∈ kinds) :
    ActsOn setup kinds (setImage id reference) := by
  refine (actsOn_guarded _ _).bind fun workload => ?_
  split
  · exact (actsOn_ensureNoSidecar _ _).bind fun _ => actsOn_replace units
  · exact actsOn_image.bind fun context => actsOn_update _ _

theorem actsOn_setImageInstant {reference : String} (units : .replicaSet ∈ kinds) :
    ActsOn setup kinds (setImageInstant id reference) := by
  refine (actsOn_guarded _ _).bind fun workload => ?_
  exact (actsOn_ensureNoSidecar _ _).bind fun _ => actsOn_replace units

theorem actsOn_setGitRepo {source : GitSource} : ActsOn setup kinds (setGitRepo id source) := by
  refine (actsOn_guarded _ _).bind fun workload => actsOn_settings.bind fun settings => ?_
  exact actsOn_image.bind fun context => actsOn_update _ _

theorem actsOn_pushedImage {context : ContextId} : ActsOn setup kinds (pushedImage name context) := by
  refine actsOn_image.bind fun hash => ?_
  refine ActsOn.bind (actsOn_ask fun _ => trivial) fun recorded => ?_
  cases recorded with
  | some recorded => exact actsOn_pure _
  | none =>
      refine actsOn_settings.bind fun settings => ?_
      refine ActsOn.bind (actsOn_ask fun _ => trivial) fun tag => ?_
      exact actsOn_image.bind fun _ => actsOn_ask fun _ => trivial

theorem actsOn_commit : ActsOn setup kinds (commit id) := by
  refine (actsOn_guarded _ _).bind fun workload => ?_
  cases workload.context with
  | none => exact actsOn_fail _
  | some context =>
      refine ActsOn.bind (actsOn_ask fun _ => trivial) fun isChanged => ?_
      dsimp only
      split
      · exact actsOn_pushedImage.bind fun _ => actsOn_update _ _
      · exact ActsOn.bind (actsOn_ask fun _ => trivial) fun _ => actsOn_update _ _

/-! ## Describing -/

theorem actsOn_edit {change : Edit} : ActsOn setup kinds (edit id change) := by
  refine (actsOn_find _).bind fun workload => ?_
  exact (actsOn_ofExcept _).bind fun edited => actsOn_update _ _

theorem actsOn_editAll (changes : List Edit) : ActsOn setup kinds (editAll id changes) := by
  induction changes with
  | nil => exact actsOn_pure ()
  | cons first rest inductionHypothesis => exact actsOn_edit.bind fun _ => inductionHypothesis

theorem actsOn_insertFile {contents : List UInt8} {destination owner : String} :
    ActsOn setup kinds (insertFile id contents destination owner) := by
  refine (actsOn_find _).bind fun workload => (actsOn_ofExcept _).bind fun group => ?_
  split
  · cases workload.context with
    | none => exact actsOn_fail _
    | some context => exact actsOn_image.bind fun _ => actsOn_update _ _
  · exact actsOn_update _ _

theorem actsOn_insertFiles {owner : String} (files : List (String × List UInt8)) :
    ActsOn setup kinds (insertFiles id owner files) := by
  induction files with
  | nil => exact actsOn_pure ()
  | cons file rest inductionHypothesis => exact actsOn_insertFile.bind fun _ => inductionHypothesis

theorem actsOn_addFileBytes {contents : List UInt8} {destination owner : String} :
    ActsOn setup kinds (addFileBytes id contents destination owner) :=
  (actsOn_guarded _ _).bind fun _ => actsOn_insertFile

theorem actsOn_addFile {path destination owner : String} :
    ActsOn setup kinds (addFile id path destination owner) := by
  refine (actsOn_guarded _ _).bind fun workload => ?_
  refine ActsOn.bind (actsOn_ask fun _ => trivial) fun contents => ?_
  cases contents with
  | error cause => exact actsOn_fail _
  | ok contents => exact actsOn_insertFile

theorem actsOn_addFolder {path destination owner : String} :
    ActsOn setup kinds (addFolder id path destination owner) := by
  refine (actsOn_guarded _ _).bind fun workload => ?_
  refine ActsOn.bind (actsOn_ask fun _ => trivial) fun entries => ?_
  cases entries with
  | error cause => exact actsOn_fail _
  | ok entries =>
      dsimp only
      split
      · exact actsOn_fail _
      · exact (actsOn_ofExcept _).bind fun files => actsOn_insertFiles _

theorem actsOn_setUser {user : String} : ActsOn setup kinds (setUser id user) := by
  refine (actsOn_guarded _ _).bind fun workload => ?_
  cases workload.context with
  | none => exact actsOn_fail _
  | some context => exact actsOn_image

/-! ## Attaching and copying -/

theorem actsOn_addSidecar {sidecar : InstanceId} : ActsOn setup kinds (addSidecar id sidecar) := by
  refine (actsOn_guarded _ _).bind fun parent => actsOn_registry.bind fun registry => ?_
  cases registry.get? sidecar with
  | none => exact actsOn_fail _
  | some candidate =>
      dsimp only
      split
      · exact actsOn_fail _
      · cases attachmentFault? parent candidate with
        | some error => exact actsOn_fail _
        | none => exact (actsOn_update _ _).bind fun _ => actsOn_update _ _

theorem actsOn_addCopy {source : Instance} {parent : Option InstanceId} :
    ActsOn setup kinds (addCopy source name parent) := by
  refine ActsOn.bind (actsOn_ask fun _ => trivial) fun given => ?_
  refine (actsOn_ofExcept _).bind fun clusterName => ?_
  refine actsOn_registry.bind fun registry => (actsOn_ofExcept _).bind fun grown => ?_
  exact (actsOn_setRegistry _).bind fun _ => actsOn_pure _

theorem actsOn_copySidecars {parent : InstanceId} (ids : List InstanceId) :
    ActsOn setup kinds (copySidecars parent ids) := by
  induction ids with
  | nil => exact actsOn_pure ()
  | cons first rest inductionHypothesis =>
      refine (actsOn_find _).bind fun source => actsOn_addCopy.bind fun copy => ?_
      exact (actsOn_update _ _).bind fun _ => inductionHypothesis

theorem actsOn_cloneWithName : ActsOn setup kinds (cloneWithName id name) := by
  refine (actsOn_guarded _ _).bind fun workload => (actsOn_guardSidecars _ _).bind fun _ => ?_
  exact actsOn_addCopy.bind fun copy => (actsOn_copySidecars _).bind fun _ => actsOn_pure _

theorem actsOn_clone : ActsOn setup kinds (clone id) :=
  (actsOn_find _).bind fun _ => actsOn_cloneWithName

/-- An instance that has just been created has no compute unit that another image could replace. -/
theorem actsOn_createCommitted {reference : String} :
    ActsOn setup kinds (createCommitted name reference) := by
  intro before events result after course
  rcases course_register_bind (fun id clusterName => { id, name, clusterName }) course with
    ⟨error, reply, _, rfl, _⟩ | ⟨clusterName, grown, later, rfl, joined, making⟩
  · exact List.forall_mem_singleton.mpr fun _ _ => False.elim
  refine List.forall_mem_cons.mpr ⟨fun _ _ => False.elim, ?_⟩
  have opened : ∀ ⦃events result after⦄, Course setup (setImage before.nextId reference) grown events
      result after → ∀ event ∈ events, ∀ kind name, event.Touches kind name → kind ∈ kinds := by
    intro events result after course
    rcases course_guarded_bind.mp course with ⟨error, _, rfl, _⟩ | ⟨created, ⟨found, _⟩, opening⟩
    · exact fun _ impossible => nomatch impossible
    rcases Option.some.inj ((found_last joined).symm.trans found) with rfl
    rw [if_neg nofun] at opening
    exact actsOn_image.bind (fun context => actsOn_update _ _) opening
  rcases course_bind.mp making with ⟨error, _, failed⟩ | ⟨_, middle, talk, later, rfl, set, committing⟩
  · exact opened failed
  · exact List.forall_mem_append.mpr
      ⟨opened set, actsOn_commit.bind (fun _ => actsOn_pure _) committing⟩

theorem actsOn_inject {role : Attendant} {parent : Instance} :
    ActsOn setup kinds (inject role parent) := by
  cases role with
  | collector =>
      refine actsOn_settings.bind fun settings => actsOn_createCommitted.bind fun collector => ?_
      refine actsOn_addFileBytes.bind fun _ => (actsOn_editAll _).bind fun _ => ?_
      exact actsOn_addSidecar.bind fun _ => actsOn_update _ _
  | shaper =>
      refine actsOn_settings.bind fun settings => actsOn_createCommitted.bind fun made => ?_
      refine (actsOn_editAll _).bind fun _ => (actsOn_find _).bind fun sidecar => ?_
      exact actsOn_addSidecar.bind fun _ => actsOn_update _ _

theorem actsOn_injectSidecars {parent : Instance} : ActsOn setup kinds (injectSidecars parent) := by
  have ifWanted {role : Attendant} {wants : Bool} :
      ActsOn setup kinds (if wants = true then inject role parent else pure ()) := by
    split
    · exact actsOn_inject
    · exact actsOn_pure ()
  rw [injectSidecars_eq]
  exact ifWanted.bind fun _ => ifWanted

/-! ## Deploying and stopping -/

theorem actsOn_applyAll {resources : List Resource}
    (within : ∀ resource ∈ resources, resource.resourceKind ∈ kinds) :
    ActsOn setup kinds (applyAll name operation resources) := by
  induction resources with
  | nil => exact actsOn_pure ()
  | cons first rest inductionHypothesis =>
      rcases List.forall_mem_cons.mp within with ⟨here, others⟩
      exact (actsOn_apply here).bind fun _ => inductionHypothesis others

theorem actsOn_startWithoutWait (deployed : ∀ kind, kind ≠ .networkPolicy → kind ∈ kinds) :
    ActsOn setup kinds (startWithoutWait id) := by
  have units : .replicaSet ∈ kinds := deployed _ nofun
  refine (actsOn_guarded _ _).bind fun workload => (actsOn_ensureNoSidecar _ _).bind fun _ => ?_
  refine (actsOn_guardSidecars _ _).bind fun _ => ?_
  have launching {unit : ReplicaSet} : ActsOn setup kinds (do
      cluster workload.name .start (.apply (.replicaSet unit))
      setPodState id .started) :=
    (actsOn_apply units).bind fun _ => actsOn_setPodState _ _
  dsimp only
  by_cases committed : workload.state = .committed
  · simp only [if_pos committed]
    refine actsOn_injectSidecars.bind fun _ => (actsOn_find _).bind fun current => ?_
    refine actsOn_compile_bind fun compiled apart => ?_
    exact (actsOn_applyAll fun resource listed => deployed _ (apart resource listed)).bind fun _ =>
      launching
  · simp only [if_neg committed]
    exact (actsOn_find _).bind fun current => actsOn_compile_bind fun compiled _ => launching

theorem actsOn_waitRunning : ActsOn setup kinds (waitRunning id) := by
  refine (actsOn_guarded _ _).bind fun workload => actsOn_settings.bind fun settings => ?_
  exact (actsOn_podOwner _).bind fun owner => actsOn_await

theorem actsOn_start (deployed : ∀ kind, kind ≠ .networkPolicy → kind ∈ kinds) :
    ActsOn setup kinds (start id) :=
  (actsOn_startWithoutWait deployed).bind fun _ => actsOn_waitRunning

theorem actsOn_stop (units : .replicaSet ∈ kinds) : ActsOn setup kinds (stop id) := by
  refine (actsOn_guarded _ _).bind fun workload => (actsOn_ensureNoSidecar _ _).bind fun _ => ?_
  refine (actsOn_guardSidecars _ _).bind fun _ => (actsOn_delete units).bind fun _ => ?_
  exact (actsOn_setPodState _ _).bind fun _ => actsOn_update _ _

theorem actsOn_isRunning : ActsOn setup kinds (isRunning id) := by
  refine (actsOn_guarded _ _).bind fun workload => ?_
  exact (actsOn_podOwner _).bind fun owner => actsOn_query rfl

theorem actsOn_waitStopped : ActsOn setup kinds (waitStopped id) := by
  refine (actsOn_guarded _ _).bind fun workload => ?_
  exact (actsOn_podOwner _).bind fun owner => actsOn_await

/-! ## Reaching -/

theorem actsOn_createCustomResource {type : CustomType} {object : Json} :
    ActsOn setup kinds (createCustomResource id type object) := by
  refine (actsOn_guarded _ _).bind fun workload => (actsOn_query rfl).bind fun isDeclared => ?_
  split
  · exact actsOn_query rfl
  · exact actsOn_fail _

theorem actsOn_deployService (services : .service ∈ kinds) :
    ActsOn setup kinds (deployService workload) := by
  refine actsOn_settings.bind fun settings => (actsOn_podOwner _).bind fun owner => ?_
  cases workload.service owner settings.space with
  | none => exact actsOn_fail _
  | some service => exact (actsOn_apply services).bind fun _ => actsOn_query rfl

theorem actsOn_address (services : .service ∈ kinds) : ActsOn setup kinds (address id) := by
  refine (actsOn_guarded _ _).bind fun workload => ?_
  cases workload.serviceAddress with
  | some known => exact actsOn_pure known
  | none =>
      refine (actsOn_query rfl).bind fun known => ?_
      extract_lets note
      have noting (address : Option String) : ActsOn setup kinds (note address) := by
        cases address with
        | none => exact actsOn_fail _
        | some address =>
            dsimp only [note]
            split
            · exact actsOn_fail _
            · exact (actsOn_update _ _).bind fun _ => actsOn_pure address
      split
      · exact (actsOn_deployService services).bind noting
      · exact noting known

theorem actsOn_addHost {port : UInt16} : ActsOn setup kinds (addHost id port) := by
  refine (actsOn_guarded _ _).bind fun workload => actsOn_setup.bind fun setup => ?_
  split
  · refine ActsOn.bind (actsOn_ask fun _ => trivial) fun exposed => ?_
    refine (actsOn_ofExcept _).bind fun _ => ?_
    exact ActsOn.bind (actsOn_ask fun _ => trivial) fun address => actsOn_ofExcept _
  · exact actsOn_fail _

theorem actsOn_runInContainer {command : List String} :
    ActsOn setup kinds (runInContainer workload command) := by
  refine (actsOn_podOwner _).bind fun owner => ?_
  exact (actsOn_query rfl).bind fun pod => actsOn_query rfl

theorem actsOn_executeCommand {command : List String} :
    ActsOn setup kinds (executeCommand id command) := by
  refine (actsOn_guarded _ _).bind fun workload => ?_
  split
  · exact (actsOn_ofExcept _).bind fun context => actsOn_image
  · exact actsOn_runInContainer

theorem actsOn_fetchFile {path : String} : ActsOn setup kinds (fetchFile id path) := by
  refine (actsOn_guarded _ _).bind fun workload => ?_
  split
  · exact actsOn_runInContainer.bind fun contents => actsOn_pure _
  · exact (actsOn_ofExcept _).bind fun context => actsOn_image

theorem actsOn_forwardPort {port : UInt16} : ActsOn setup kinds (forwardPort id port) := by
  refine (actsOn_guarded _ _).bind fun workload => ?_
  dsimp only
  split
  · refine actsOn_settings.bind fun settings => ?_
    refine ActsOn.bind (actsOn_ask fun _ => trivial) fun given => ?_
    refine (actsOn_ofExcept _).bind fun localPort => (actsOn_podOwner _).bind fun owner => ?_
    refine (actsOn_query rfl).bind fun pod => actsOn_connect.bind fun tried => ?_
    split
    · exact actsOn_pure _
    · exact actsOn_fail _
    · exact actsOn_fail _
  · exact actsOn_fail _

/-! ## Faults -/

theorem actsOn_stopShaping {target : String} {port : UInt16} (stopped : List ShapingKind) :
    ActsOn setup kinds (stopShaping name operation target port stopped) := by
  induction stopped with
  | nil => exact actsOn_pure ()
  | cons first rest inductionHypothesis =>
      refine ActsOn.bind (actsOn_ask fun _ => trivial) fun reply => ?_
      cases reply with
      | ok _ => exact inductionHypothesis
      | error failure =>
          dsimp only
          split
          · exact inductionHypothesis
          · exact actsOn_fail _

theorem actsOn_shape {shaping : Option Shaping} : ActsOn setup kinds (shape id operation shaping) := by
  refine (actsOn_guarded _ _).bind fun workload => ?_
  dsimp only
  split
  · exact actsOn_fail _
  cases workload.fault.sidecar with
  | none => exact actsOn_fail _
  | some target =>
      refine actsOn_setup.bind fun setup => ?_
      split
      · exact actsOn_fail _
      refine (actsOn_stopShaping _).bind fun _ => (actsOn_update _ _).bind fun _ => ?_
      cases shaping with
      | none => exact actsOn_pure ()
      | some shaping =>
          refine ActsOn.bind (actsOn_ask fun _ => trivial) fun reply => ?_
          cases reply with
          | error failure => exact actsOn_fail _
          | ok _ => exact actsOn_update _ _

theorem actsOn_setPacketLoss {percent : UInt8} : ActsOn setup kinds (setPacketLoss id percent) := by
  unfold setPacketLoss
  split
  · exact (actsOn_find _).bind fun workload => actsOn_fail _
  · exact actsOn_shape

theorem actsOn_disableNetwork (policies : .networkPolicy ∈ kinds) :
    ActsOn setup kinds (disableNetwork id) := by
  refine (actsOn_guarded _ _).bind fun workload => actsOn_settings.bind fun settings => ?_
  exact (actsOn_podOwner _).bind fun owner => actsOn_apply policies

theorem actsOn_enableNetwork (policies : .networkPolicy ∈ kinds) :
    ActsOn setup kinds (enableNetwork id) := by
  refine (actsOn_guarded _ _).bind fun workload => ?_
  exact (actsOn_podOwner _).bind fun owner => actsOn_delete policies

theorem actsOn_networkIsDisabled : ActsOn setup kinds (networkIsDisabled id) := by
  refine (actsOn_guarded _ _).bind fun workload => ?_
  exact (actsOn_podOwner _).bind fun owner => actsOn_query rfl

end Action

namespace Call

/-- The kinds of the resources that a call may touch. -/
def touchedKinds : Call → List ResourceKind
  | start _ | startWithoutWait _ => ResourceKind.all.erase .networkPolicy
  | stop _ | setImage _ _ | setImageInstant _ _ => [.replicaSet]
  | address _ => [.service]
  | disableNetwork _ | enableNetwork _ => [.networkPolicy]
  | _ => []

open Testbed.Action in
/-- A call touches resources of the kinds that it may touch only. -/
theorem actsOn_perform {setup : Setup} (call : Call) : ActsOn setup call.touchedKinds call.perform := by
  have deployed (kind : ResourceKind) (other : kind ≠ .networkPolicy) :
      kind ∈ ResourceKind.all.erase .networkPolicy := by
    revert other
    cases kind <;> decide
  have own {kind : ResourceKind} : kind ∈ [kind] := List.mem_singleton_self kind
  cases call with
  | create => exact actsOn_create
  | setImage => exact actsOn_setImage own
  | setImageInstant => exact actsOn_setImageInstant own
  | setGitRepo => exact actsOn_setGitRepo
  | commit => exact actsOn_commit
  | edit => exact actsOn_edit
  | addFileBytes => exact actsOn_addFileBytes
  | addFile => exact actsOn_addFile
  | addFolder => exact actsOn_addFolder
  | setUser => exact actsOn_setUser
  | addSidecar => exact actsOn_addSidecar
  | clone => exact actsOn_clone
  | cloneWithName => exact actsOn_cloneWithName
  | start => exact actsOn_start deployed
  | startWithoutWait => exact actsOn_startWithoutWait deployed
  | stop => exact actsOn_stop own
  | isRunning => exact actsOn_isRunning
  | waitRunning => exact actsOn_waitRunning
  | waitStopped => exact actsOn_waitStopped
  | createCustomResource => exact actsOn_createCustomResource
  | address => exact actsOn_address own
  | addHost => exact actsOn_addHost
  | executeCommand => exact actsOn_executeCommand
  | fetchFile => exact actsOn_fetchFile
  | forwardPort => exact actsOn_forwardPort
  | setBandwidthLimit | setLatencyAndJitter | clearShaping => exact actsOn_shape
  | setPacketLoss => exact actsOn_setPacketLoss
  | disableNetwork => exact actsOn_disableNetwork own
  | enableNetwork => exact actsOn_enableNetwork own
  | networkIsDisabled => exact actsOn_networkIsDisabled

/-- Of every kind that a call may not touch, the cluster holds what it held before, however the call ends. -/
theorem cluster_after_eq {setup : Setup} {before after : Registry} {call : Call} {events : List Event}
    {result : Except Error call.Value} {kind : ResourceKind} {name : String}
    (course : Action.Course setup call.perform before events result after)
    (other : kind ∉ call.touchedKinds) (cluster : Cluster) :
    cluster.after events kind name = cluster kind name :=
  Cluster.after_of_not_touches fun event member touches =>
    other (call.actsOn_perform course event member kind name touches)

end Call
end Testbed
