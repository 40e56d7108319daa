import Testbed.Proofs.Step

namespace Testbed
namespace Action

/-!
# Actions that go by steps

`Passes` says of an action, on behalf of a call and in a registry, that every course of it is a series
of steps of that call, and that what it reaches when it succeeds has a property.  As for series of
moves, there is one rule for each way in which actions are put together, and none of them asks for a
proof about an error.
-/

/-- Every course of an action is a series of steps of a call, and a success has a property. -/
def Passes (setup : Setup) (call : Call) (action : Action α) (before : Registry)
    (reached : α → Registry → Prop) : Prop :=
  ∀ events result after, Course setup action before events result after →
    Steps setup call before events after ∧ ∀ value, result = .ok value → reached value after

namespace Passes

variable {setup : Setup} {call : Call} {before : Registry} {reached : β → Registry → Prop}

/-! ## Ends -/

theorem of_done {action : Action β} {value : Except Error β}
    (ended : action setup before = .done (value, before))
    (holds : ∀ found, value = .ok found → reached found before) :
    Passes setup call action before reached := by
  intro events result after course
  rcases (course_of_done ended).mp course with ⟨rfl, rfl, rfl⟩
  exact ⟨.none, holds⟩

theorem of_pure {value : β} (holds : reached value before) :
    Passes setup call (pure value) before reached :=
  of_done rfl fun _ same => Except.ok.inj same ▸ holds

theorem of_fail {error : Error} : Passes setup call (fail error : Action β) before reached :=
  of_done rfl fun _ impossible => nomatch impossible

theorem mono {action : Action β} {stronger : β → Registry → Prop}
    (passes : Passes setup call action before stronger)
    (implies : ∀ value after, stronger value after → reached value after) :
    Passes setup call action before reached := by
  intro events result after course
  rcases passes _ _ _ course with ⟨steps, holds⟩
  exact ⟨steps, fun value same => implies value after (holds value same)⟩

/-! ## Sequences -/

variable {next : α → Action β} {between : α → Registry → Prop}

theorem bind {action : Action α} (start : Passes setup call action before between)
    (rest : ∀ {value middle events}, Steps setup call before events middle → between value middle →
      Passes setup call (next value) middle reached) :
    Passes setup call (action >>= next) before reached := by
  intro events result after course
  rcases course_bind.mp course with
    ⟨error, rfl, stopped⟩ | ⟨value, middle, earlier, later, rfl, started, ended⟩
  · exact ⟨(start _ _ _ stopped).1, fun _ impossible => nomatch impossible⟩
  · rcases start _ _ _ started with ⟨steps, holds⟩
    rcases rest steps (holds value rfl) _ _ _ ended with ⟨onward, reaches⟩
    exact ⟨steps.trans onward, reaches⟩

theorem of_bind_pure {action : Action β}
    (passes : Passes setup call (action >>= Pure.pure) before reached) :
    Passes setup call action before reached := by
  intro events result after course
  cases result with
  | error error => exact passes _ _ _ (course_bind.mpr (Or.inl ⟨error, rfl, course⟩))
  | ok value =>
      refine passes _ _ _ (course_bind.mpr (Or.inr ⟨value, after, events, [], ?_, course, ?_⟩))
      · rw [List.append_nil]
      · exact course_pure.mpr ⟨rfl, rfl, rfl⟩

/-- An action that is done at once and changes nothing leaves the rest. -/
theorem done_bind {action : Action α} {value : Except Error α}
    (ended : action setup before = .done (value, before))
    (rest : ∀ {found}, value = .ok found → Passes setup call (next found) before reached) :
    Passes setup call (action >>= next) before reached := by
  cases value with
  | error error => exact of_done (bind_of_failed ended) fun _ impossible => nomatch impossible
  | ok found =>
      intro events result after course
      rw [Course, bind_of_done ended] at course
      exact rest rfl _ _ _ course

theorem ofExcept_bind {found : Except Error α}
    (rest : ∀ {value}, found = .ok value → Passes setup call (next value) before reached) :
    Passes setup call (ofExcept found >>= next) before reached :=
  done_bind (ofExcept_eq found) rest

theorem find_bind {next : Instance → Action β} {id : InstanceId}
    (rest : ∀ {workload}, before.get? id = some workload →
      Passes setup call (next workload) before reached) :
    Passes setup call (find id >>= next) before reached :=
  done_bind (find_eq id) fun known => rest (Registry.find_eq_ok_iff.mp known)

theorem guarded_bind {next : Instance → Action β} {id : InstanceId} {operation : Operation}
    (rest : ∀ {workload}, before.get? id = some workload →
      workload.state ∈ operation.allowedStates → Passes setup call (next workload) before reached) :
    Passes setup call (guarded id operation >>= next) before reached :=
  done_bind (guarded_eq id operation) fun passed =>
    rest (Registry.guarded_eq_ok_iff.mp passed).1 (Registry.guarded_eq_ok_iff.mp passed).2

theorem ensureNoSidecar_bind {next : Unit → Action β} {workload : Instance} {operation : Operation}
    (rest : workload.parent = none → Passes setup call (next ()) before reached) :
    Passes setup call (ensureNoSidecar workload operation >>= next) before reached := by
  intro events result after course
  rcases course_ensureNoSidecar_bind.mp course with ⟨_, rfl, rfl, rfl⟩ | ⟨leads, onward⟩
  · exact ⟨.none, fun _ impossible => nomatch impossible⟩
  · exact rest leads _ _ _ onward

theorem registry_bind {next : Registry → Action β}
    (rest : Passes setup call (next before) before reached) :
    Passes setup call (registry >>= next) before reached :=
  rest

theorem setup_bind {next : Setup → Action β}
    (rest : Passes setup call (next setup) before reached) :
    Passes setup call (Action.setup >>= next) before reached :=
  rest

theorem settings_bind {next : Settings → Action β}
    (rest : Passes setup call (next setup.settings) before reached) :
    Passes setup call (settings >>= next) before reached :=
  rest

/-! ## Changes -/

theorem setRegistry_bind {next : Unit → Action β} {changed : Registry}
    (step : Step setup call before [] changed)
    (rest : Passes setup call (next ()) changed reached) :
    Passes setup call (setRegistry changed >>= next) before reached := by
  intro events result after course
  rcases rest _ _ _ (course_setRegistry_bind.mp course) with ⟨steps, holds⟩
  exact ⟨.next step steps, holds⟩

theorem of_setRegistry {changed : Registry} {reached : Unit → Registry → Prop}
    (step : Step setup call before [] changed) (holds : reached () changed) :
    Passes setup call (setRegistry changed) before reached :=
  of_bind_pure (setRegistry_bind step (of_pure holds))

theorem update_bind {next : Unit → Action β} {id : InstanceId} {change : Instance → Instance}
    (step : Step setup call before [] (before.update id change))
    (rest : Passes setup call (next ()) (before.update id change) reached) :
    Passes setup call (update id change >>= next) before reached := by
  intro events result after course
  rcases rest _ _ _ (course_update_bind.mp course) with ⟨steps, holds⟩
  exact ⟨.next step steps, holds⟩

/-- A call revises an instance that it has found. -/
theorem of_revision {id : InstanceId} {workload : Instance} {change : Instance → Instance}
    {reached : Unit → Registry → Prop} (found : before.get? id = some workload)
    (revision : Revision call id workload (change workload))
    (holds : reached () (before.update id change)) :
    Passes setup call (update id change) before reached := by
  refine of_bind_pure (update_bind (.revise fun known there => ?_) (of_pure holds))
  rcases Option.some.inj (found.symm.trans there) with rfl
  exact revision

/-! ## Requests -/

/-- An action in which nothing happens that is not plain, and which changes nothing, leaves the rest. -/
theorem talk_bind {action : Action α}
    (talks : ∀ {events result after}, Course setup action before events result after →
      after = before ∧ ∀ event ∈ events, event.IsPlain)
    (rest : ∀ value, Passes setup call (next value) before reached) :
    Passes setup call (action >>= next) before reached := by
  have start : Passes setup call action before fun _ middle => middle = before := by
    intro events result after course
    rcases talks course with ⟨rfl, plain⟩
    exact ⟨.talk plain, fun _ _ => rfl⟩
  exact start.bind fun _ same => same ▸ rest _

theorem ask_bind {request : Request} {next : request.Reply → Action β}
    (plain : ∀ reply, (Event.asked request reply).IsPlain)
    (rest : ∀ reply, Passes setup call (next reply) before reached) :
    Passes setup call (ask request >>= next) before reached := by
  refine talk_bind (fun course => ?_) rest
  rcases course_ask.mp course with ⟨reply, rfl, _, same⟩
  exact ⟨same, fun event member => List.mem_singleton.mp member ▸ plain reply⟩

theorem image_bind {name : String} {operation : Operation} {request : ImageRequest}
    {next : request.Value → Action β}
    (rest : ∀ value, Passes setup call (next value) before reached) :
    Passes setup call (image name operation request >>= next) before reached := by
  refine talk_bind (fun course => ?_) rest
  rcases course_image.mp course with ⟨reply, rfl, _, same⟩
  exact ⟨same, fun event member => List.mem_singleton.mp member ▸ Event.isPlain_of_image⟩

theorem await_bind {name : String} {operation : Operation} {condition : Condition}
    {timeout : Option Duration} {next : Unit → Action β}
    (rest : ∀ value, Passes setup call (next value) before reached) :
    Passes setup call (await name operation condition timeout >>= next) before reached := by
  refine talk_bind (fun course => ?_) rest
  rcases course_await.mp course with ⟨outcome, elapsed, rfl, _, same⟩
  exact ⟨same, fun event member => List.mem_singleton.mp member ▸ Event.isPlain_of_awaited⟩

theorem cluster_bind {name : String} {operation : Operation} {request : ClusterRequest}
    {next : request.Value → Action β}
    (plain : ∀ reply, (Event.asked (.cluster request) reply).IsPlain)
    (rest : ∀ value, Passes setup call (next value) before reached) :
    Passes setup call (cluster name operation request >>= next) before reached := by
  refine talk_bind (fun course => ?_) rest
  rcases course_cluster.mp course with ⟨reply, rfl, _, same⟩
  exact ⟨same, fun event member => List.mem_singleton.mp member ▸ plain reply⟩

/-- A request to the cluster, after which nothing is done. -/
theorem of_cluster {name : String} {operation : Operation} {request : ClusterRequest}
    {reached : request.Value → Registry → Prop}
    (plain : ∀ reply, (Event.asked (.cluster request) reply).IsPlain)
    (holds : ∀ value, reached value before) :
    Passes setup call (cluster name operation request) before reached :=
  of_bind_pure (cluster_bind plain fun value => of_pure (holds value))

end Passes
end Action
end Testbed
