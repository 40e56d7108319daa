import Testbed.Proofs.Attribution.Basic
import Testbed.Proofs.Heredity

namespace Testbed

/-!
# Instances and what they are made from

An instance has a context from its first image on, and an image from its commit on.  Operations that need
the one or the other check for it all the same, each with an error of its own.  None of these errors is
ever raised, because the states in which the operations are permitted are those in which it is there.

`LacksNothing` says this of an action, in a registry.  A wait, and the registration of an instance, pass on
the failure of a collaborator as it is, whatever it says; so the errors in question can still be met, but
only if somebody else has made them up.
-/

/-- Whether an instance has a context from its preparation on, and no image before it is committed. -/
structure Instance.IsPrepared (workload : Instance) : Prop where
  context : workload.context.isSome ↔ workload.state ≠ .created
  bare : workload.state = .created ∨ workload.state = .preparing → workload.image = none

theorem Instance.IsPrepared.of_eq {workload left : Instance} (prepared : workload.IsPrepared)
    (context : left.context = workload.context) (image : left.image = workload.image)
    (state : left.state = workload.state) : left.IsPrepared := by
  constructor
  · rw [context, state]
    exact prepared.context
  · rw [image, state]
    exact prepared.bare

theorem Edit.context_change (edit : Edit) (workload : Instance) :
    (edit.change workload).context = workload.context := by
  cases edit with
  | setProbe role probe => cases role <;> rfl
  | _ => rfl

theorem State.Leads.not_created {state next : State} (leads : state.Leads next)
    (settled : next.IsSettled) : state ≠ .created := by
  rintro rfl
  cases leads
  exact settled

/-- What is prepared or later has a context at all times, and what is not committed has no image. -/
theorem hereditary_preparation : Hereditary Instance.IsPrepared where
  blank {_ _ _} := ⟨⟨nofun, fun late => absurd rfl late⟩, fun _ => rfl⟩
  copied held _ := held.of_eq rfl rfl rfl
  linked held := held.of_eq rfl rfl rfl
  amended held amendment := by
    have state := amendment.keeps.1
    cases amendment with
    | @edited change _ edited =>
        rcases Instance.edit_eq_ok_iff.mp edited with ⟨_, _, rfl⟩
        exact held.of_eq (change.context_change _) (change.image_change _) state
    | _ => exact held.of_eq rfl rfl state
  resolved held := held.of_eq rfl rfl rfl
  prepared held created :=
    ⟨⟨fun _ => nofun, fun _ => rfl⟩, fun _ => held.bare (Or.inl created)⟩
  committed held preparing := by
    refine ⟨⟨fun _ => nofun, fun _ => held.context.mpr fun created => ?_⟩, ?_⟩
    · cases preparing.symm.trans created
    · rintro (impossible | impossible) <;> cases impossible
  moved {workload state} held settled leads := by
    have late {early : State} (unsettled : ¬ early.IsSettled) : state ≠ early :=
      fun same => unsettled (same ▸ settled)
    refine ⟨⟨fun _ => late id, fun _ => held.context.mpr (leads.not_created settled)⟩, ?_⟩
    rintro (created | preparing)
    · exact absurd created (late id)
    · exact absurd preparing (late id)
  replaced held started := by
    refine ⟨held.context, ?_⟩
    rintro (created | preparing)
    · cases started.symm.trans created
    · cases started.symm.trans preparing

/-- Whether a registry is in order, and every instance in it has what its state calls for. -/
structure Registry.IsSupplied (registry : Registry) : Prop where
  linked : registry.WellLinked
  lockstep : registry.InLockstep
  imaged : registry.All Instance.IsImaged
  prepared : registry.All Instance.IsPrepared

namespace Registry.IsSupplied

variable {setup : Setup} {history : List Record} {before after registry : Registry} {events : List Event}
  {floor count : Nat} {id : InstanceId} {workload parent : Instance} {settings : Settings}

theorem of_reaches (reached : Reaches setup history registry) : registry.IsSupplied where
  linked := reached.invariant.1
  lockstep := reached.invariant.2
  imaged := hereditary_image.of_reaches reached
  prepared := hereditary_preparation.of_reaches reached

theorem moves (supplied : before.IsSupplied) (moves : Moves setup floor count before events after) :
    after.IsSupplied where
  linked := moves.wellLinked supplied.linked
  lockstep := moves.inLockstep supplied.linked supplied.lockstep
  imaged := hereditary_image.moves moves supplied.linked supplied.lockstep supplied.imaged
  prepared := hereditary_preparation.moves moves supplied.linked supplied.lockstep supplied.prepared

theorem exists_context (supplied : registry.IsSupplied) (found : registry.get? id = some workload)
    (begun : workload.state ≠ .created) : ∃ context, workload.context = some context :=
  Option.isSome_iff_exists.mp ((supplied.prepared id workload found).context.mpr begun)

/-- An image is there in the states from the commit on, and only in those. -/
theorem image_isSome_iff (supplied : registry.IsSupplied) (found : registry.get? id = some workload) :
    workload.image.isSome ↔
      workload.state = .committed ∨ workload.state = .started ∨ workload.state = .stopped := by
  have early := (supplied.prepared id workload found).bare
  have late := supplied.imaged id workload found
  constructor
  · intro imaged
    cases current : workload.state with
    | created => simp [early (Or.inl current)] at imaged
    | preparing => simp [early (Or.inr current)] at imaged
    | committed => exact Or.inl rfl
    | started => exact Or.inr (Or.inl rfl)
    | stopped => exact Or.inr (Or.inr rfl)
  · intro committed
    refine Option.isSome_iff_ne_none.mpr fun bare => ?_
    rcases late bare with created | preparing
    · rw [created] at committed
      rcases committed with impossible | impossible | impossible <;> cases impossible
    · rw [preparing] at committed
      rcases committed with impossible | impossible | impossible <;> cases impossible

end Registry.IsSupplied

/-! ## The errors -/

/-- Whether a reason is that an instance has no context or no image where one has to be. -/
def Reason.isLack : Reason → Bool
  | preparingWithoutContext | withoutContext | withoutImage => true
  | _ => false

/-- Whether an error is that an instance has no context or no image where one has to be. -/
def Error.reportsLack : Error → Bool
  | invariant _ reason => reason.isLack
  | _ => false

/-- Whether an event is that a collaborator fails with an error that whoever has asked passes on as it
is: a look that ends a wait, or a name that is not given. -/
def Event.Hands (error : Error) : Event → Prop
  | awaited _ (.failed cause) => cause = error
  | asked (.clusterName _) (.error cause) => cause = error
  | _ => False

variable {workload : Instance} {error : Error}

theorem Failure.reportsLack_during {failure : Failure} {name operation : String} :
    (failure.during name operation).reportsLack = false := by
  cases failure with
  | words _ | error _ => rfl

/-- An error that is told in other words is none of those that report a lack. -/
theorem Error.reportsLack_of_mapError {relay : ε → Error} {reply : Except ε α}
    (tells : ∀ cause, (relay cause).reportsLack = false) (failed : reply.mapError relay = .error error) :
    error.reportsLack = false := by
  cases reply with
  | error cause =>
      obtain rfl : relay cause = error := Except.error.inj failed
      exact tells cause
  | ok value => cases failed

namespace Registry

variable {registry : Registry} {id : InstanceId} {operation : Operation}

theorem reportsLack_of_find (failed : registry.find id = .error error) :
    error.reportsLack = false := by
  rw [find] at failed
  split at failed
  · cases failed
  · obtain rfl := Except.error.inj failed
    rfl

theorem reportsLack_of_guarded (failed : registry.guarded id operation = .error error) :
    error.reportsLack = false := by
  rcases bind_eq_error_iff.mp failed with unknown | ⟨workload, _, onward⟩
  · exact reportsLack_of_find unknown
  rcases bind_eq_error_iff.mp onward with forbidden | ⟨_, _, impossible⟩
  · by_cases permitted : workload.state ∈ operation.allowedStates
    · rw [guard_eq_ok_iff.mpr permitted] at forbidden
      cases forbidden
    · rw [Instance.guard_of_forbidden permitted] at forbidden
      obtain rfl := Except.error.inj forbidden
      rfl
  · cases impossible

theorem reportsLack_of_permits {ids : List InstanceId}
    (failed : registry.permits operation ids = .error error) : error.reportsLack = false := by
  induction ids with
  | nil => cases failed
  | cons first rest inductionHypothesis =>
      rcases bind_eq_error_iff.mp failed with refused | ⟨_, _, others⟩
      · exact reportsLack_of_guarded refused
      · exact inductionHypothesis others

theorem reportsLack_of_podOwner (failed : registry.podOwner workload = .error error) :
    error.reportsLack = false := by
  rw [podOwner] at failed
  split at failed
  · rename_i parent _
    cases found : registry.find parent with
    | error cause =>
        rw [found] at failed
        obtain rfl : cause = error := Except.error.inj failed
        exact reportsLack_of_find found
    | ok leader =>
        rw [found] at failed
        cases failed
  · cases failed

theorem reportsLack_of_add {added : Instance} (failed : registry.add added = .error error) :
    error.reportsLack = false := by
  rw [add] at failed
  split at failed
  · obtain rfl := Except.error.inj failed
    rfl
  · cases failed

end Registry

namespace Action

variable {setup : Setup} {before middle : Registry} {id : InstanceId} {operation : Operation}
  {name : String}

/-- Every course of an action that ends with the report of a lack has been handed this report. -/
def LacksNothing (setup : Setup) (before : Registry) (action : Action α) : Prop :=
  ∀ events error after, Course setup action before events (.error error) after →
    error.reportsLack = true → ∃ event ∈ events, event.Hands error

namespace LacksNothing

/-! ## Ends -/

theorem of_done {action : Action α} {value : Except Error α} {left : Registry}
    (ended : action setup before = .done (value, left))
    (other : ∀ error, value = .error error → error.reportsLack = false) :
    LacksNothing setup before action := by
  intro events error after course lacks
  rcases (course_of_done ended).mp course with ⟨_, same, _⟩
  rw [other error same.symm] at lacks
  cases lacks

theorem of_pure {value : α} : LacksNothing setup before (pure value) :=
  of_done rfl fun _ impossible => nomatch impossible

theorem of_fail (other : error.reportsLack = false) :
    LacksNothing setup before (fail error : Action α) := by
  refine of_done rfl fun _ same => ?_
  obtain rfl := Except.error.inj same
  exact other

theorem of_update {change : Instance → Instance} : LacksNothing setup before (update id change) :=
  of_done rfl fun _ impossible => nomatch impossible

/-! ## Sequences -/

variable {next : α → Action β}

theorem bind {action : Action α} (first : LacksNothing setup before action)
    (rest : ∀ {value middle events}, Course setup action before events (.ok value) middle →
      LacksNothing setup middle (next value)) :
    LacksNothing setup before (action >>= next) := by
  intro events error after course lacks
  rcases course_bind.mp course with
    ⟨cause, same, stopped⟩ | ⟨value, middle, earlier, later, rfl, started, ended⟩
  · obtain rfl := Except.error.inj same
    exact first _ _ _ stopped lacks
  · rcases rest started _ _ _ ended lacks with ⟨event, listed, hands⟩
    exact ⟨event, List.mem_append_right earlier listed, hands⟩

/-- What proceeds by moves leaves every instance with what its state calls for. -/
theorem bind_moves {action : Action α} {floor budget : Nat} {between : α → Registry → Prop}
    (supplied : before.IsSupplied) (first : LacksNothing setup before action)
    (proceeds : Proceeds setup floor budget action before between)
    (rest : ∀ {value middle}, middle.IsSupplied → between value middle →
      LacksNothing setup middle (next value)) :
    LacksNothing setup before (action >>= next) := by
  refine first.bind fun course => ?_
  rcases proceeds _ _ _ course with ⟨_, _, moves, holds⟩
  exact rest (supplied.moves moves) (holds _ rfl)

/-- An action that is done at once and changes nothing leaves the rest. -/
theorem done_bind {action : Action α} {value : Except Error α}
    (ended : action setup before = .done (value, before))
    (other : ∀ error, value = .error error → error.reportsLack = false)
    (rest : ∀ found, value = .ok found → LacksNothing setup before (next found)) :
    LacksNothing setup before (action >>= next) := by
  refine (of_done ended other).bind fun {found middle events} course => ?_
  rcases (course_of_done ended).mp course with ⟨_, same, rfl⟩
  exact rest found same.symm

theorem ofExcept_bind {found : Except Error α}
    (other : ∀ error, found = .error error → error.reportsLack = false)
    (rest : ∀ value, found = .ok value → LacksNothing setup before (next value)) :
    LacksNothing setup before (ofExcept found >>= next) :=
  done_bind (ofExcept_eq found) other rest

theorem find_bind {next : Instance → Action β}
    (rest : ∀ workload, before.get? id = some workload → LacksNothing setup before (next workload)) :
    LacksNothing setup before (find id >>= next) :=
  done_bind (find_eq id) (fun _ => Registry.reportsLack_of_find)
    fun workload known => rest workload (Registry.find_eq_ok_iff.mp known)

theorem guarded_bind {next : Instance → Action β}
    (rest : ∀ workload, before.get? id = some workload → workload.state ∈ operation.allowedStates →
      LacksNothing setup before (next workload)) :
    LacksNothing setup before (guarded id operation >>= next) :=
  done_bind (guarded_eq id operation) (fun _ => Registry.reportsLack_of_guarded) fun workload passed =>
    rest workload (Registry.guarded_eq_ok_iff.mp passed).1 (Registry.guarded_eq_ok_iff.mp passed).2

theorem ensureNoSidecar_bind {next : Unit → Action β} (rest : LacksNothing setup before (next ())) :
    LacksNothing setup before (ensureNoSidecar workload operation >>= next) := by
  intro events error after course lacks
  rcases course_ensureNoSidecar_bind.mp course with ⟨_, _, same, _⟩ | ⟨_, onward⟩
  · obtain rfl := Except.error.inj same
    cases lacks
  · exact rest _ _ _ onward lacks

theorem guardSidecars_bind {next : Unit → Action β} {ids : List InstanceId}
    (rest : LacksNothing setup before (next ())) :
    LacksNothing setup before (guardSidecars operation ids >>= next) :=
  done_bind (guardSidecars_eq operation ids) (fun _ => Registry.reportsLack_of_permits) fun _ _ => rest

theorem podOwner_bind {next : String → Action β}
    (rest : ∀ owner, LacksNothing setup before (next owner)) :
    LacksNothing setup before (podOwner workload >>= next) :=
  done_bind (podOwner_eq workload) (fun _ => Registry.reportsLack_of_podOwner) fun owner _ => rest owner

/-- A pod that can be compiled is. -/
theorem compile_bind {next : CompiledPod → Action β}
    (compiles : ∃ compiled, before.compile setup.settings workload = .ok compiled)
    (rest : ∀ compiled, LacksNothing setup before (next compiled)) :
    LacksNothing setup before (compile workload >>= next) := by
  rcases compiles with ⟨compiled, made⟩
  refine done_bind (compile_eq workload) (fun _ failed => ?_) fun other _ => rest other
  rw [made] at failed
  cases failed

theorem settings_bind {next : Settings → Action β}
    (rest : LacksNothing setup before (next setup.settings)) :
    LacksNothing setup before (settings >>= next) :=
  rest

theorem registry_bind {next : Registry → Action β} (rest : LacksNothing setup before (next before)) :
    LacksNothing setup before (registry >>= next) :=
  rest

theorem setup_bind {next : Setup → Action β} (rest : LacksNothing setup before (next setup)) :
    LacksNothing setup before (Action.setup >>= next) :=
  rest

/-! ## Requests and waits -/

theorem of_ask {request : Request} : LacksNothing setup before (ask request) := by
  intro events error after course
  rcases course_ask.mp course with ⟨_, _, impossible, _⟩
  cases impossible

theorem ask_bind {request : Request} {next : request.Reply → Action β}
    (rest : ∀ reply, LacksNothing setup before (next reply)) :
    LacksNothing setup before (ask request >>= next) := by
  refine of_ask.bind fun course => ?_
  rcases course_ask.mp course with ⟨reply, _, _, rfl⟩
  exact rest _

/-- A name in the cluster is given, or whoever is asked for one says why not. -/
theorem named_bind {next : String → Action β}
    (rest : ∀ clusterName, LacksNothing setup before (next clusterName)) :
    LacksNothing setup before (ask (.clusterName name) >>= fun reply => ofExcept reply >>= next) := by
  intro events error after course lacks
  rcases course_ask_bind.mp course with ⟨reply, later, rfl, named⟩
  rcases course_ofExcept_bind.mp named with ⟨cause, rfl, rfl, same, rfl⟩ | ⟨clusterName, rfl, onward⟩
  · obtain rfl := Except.error.inj same
    exact ⟨_, List.mem_cons_self, rfl⟩
  · rcases rest clusterName _ _ _ onward lacks with ⟨event, listed, hands⟩
    exact ⟨event, List.mem_cons_of_mem _ listed, hands⟩

theorem of_cluster {request : ClusterRequest} :
    LacksNothing setup before (cluster name operation request) :=
  ask_bind fun _ => of_done (ofExcept_eq _) fun _ => Error.reportsLack_of_mapError fun _ => rfl

theorem cluster_bind {request : ClusterRequest} {next : request.Value → Action β}
    (rest : ∀ value, LacksNothing setup before (next value)) :
    LacksNothing setup before (cluster name operation request >>= next) := by
  refine of_cluster.bind fun course => ?_
  rcases course_cluster.mp course with ⟨reply, _, _, rfl⟩
  exact rest _

theorem of_image {request : ImageRequest} :
    LacksNothing setup before (image name operation request) :=
  ask_bind fun _ => of_done (ofExcept_eq _) fun _ =>
    Error.reportsLack_of_mapError fun _ => Failure.reportsLack_during

theorem image_bind {request : ImageRequest} {next : request.Value → Action β}
    (rest : ∀ value, LacksNothing setup before (next value)) :
    LacksNothing setup before (image name operation request >>= next) := by
  refine of_image.bind fun course => ?_
  rcases course_image.mp course with ⟨reply, _, _, rfl⟩
  exact rest _

/-- A wait that fails has been handed the failure of a look. -/
theorem of_await {condition : Condition} {timeout : Option Duration} :
    LacksNothing setup before (await name operation condition timeout) := by
  intro events error after course lacks
  rcases course_await.mp course with ⟨outcome, elapsed, rfl, same, _⟩
  cases outcome with
  | met => cases same
  | expired =>
      obtain rfl := Except.error.inj same
      cases lacks
  | failed cause =>
      obtain rfl := Except.error.inj same
      exact ⟨_, List.mem_singleton_self _, rfl⟩

theorem await_bind {condition : Condition} {timeout : Option Duration} {next : Unit → Action β}
    (rest : ∀ value, LacksNothing setup before (next value)) :
    LacksNothing setup before (await name operation condition timeout >>= next) := by
  refine of_await.bind fun course => ?_
  rcases course_await.mp course with ⟨_, _, _, _, rfl⟩
  exact rest _

theorem of_connect {pod : String} {localPort remotePort : UInt16} {policy : RetryPolicy}
    {value : RetryOutcome Error Unit → Duration → α} :
    LacksNothing setup before (lift (.connect pod localPort remotePort policy fun outcome elapsed =>
      .done (value outcome elapsed))) := by
  intro events error after course
  rcases Program.course_bind.mp course with ⟨ended, earlier, later, rfl, tried, rest⟩
  rcases Program.course_done.mp rest with ⟨rfl, same⟩
  cases same

end LacksNothing
end Action
end Testbed
