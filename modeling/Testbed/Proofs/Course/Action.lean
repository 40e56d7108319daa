import Testbed.Action.Basic
import Testbed.Proofs.Course.Program
import Testbed.Proofs.Registry

namespace Testbed
namespace Action

/-!
# Courses of actions

An action is a program that reads and changes a registry.  A course of it starts from a registry, and
ends with a result and the registry that is left, whether the result is a value or an error.  The
lemmas here take the course of a composed action apart, one for each way in which the actions of this
library are put together, so that nothing later has to look into a program tree.

An action that makes no request has one course only.  For these the lemmas give the program itself.
-/

/-- What can happen in an action, its result, and the registry it leaves. -/
def Course (setup : Setup) (action : Action α) (before : Registry) (events : List Event)
    (result : Except Error α) (after : Registry) : Prop :=
  (action setup before).Course events (result, after)

variable {setup : Setup} {before after : Registry} {events : List Event}

/-! ## Actions without requests -/

/-- An action that is done at once has one course, on which nothing happens. -/
theorem course_of_done {action : Action α} {value : Except Error α} {left : Registry}
    (ended : action setup before = .done (value, left)) {result : Except Error α} :
    Course setup action before events result after ↔
      events = [] ∧ result = value ∧ after = left := by
  rw [Course, ended, Program.course_done, Prod.mk.injEq]

theorem course_pure {value : α} {result : Except Error α} :
    Course setup (pure value) before events result after ↔
      events = [] ∧ result = .ok value ∧ after = before :=
  course_of_done rfl

theorem ofExcept_eq (found : Except Error α) :
    ofExcept found setup before = .done (found, before) := by
  cases found <;> rfl

theorem course_ofExcept {found result : Except Error α} :
    Course setup (ofExcept found) before events result after ↔
      events = [] ∧ result = found ∧ after = before :=
  course_of_done (ofExcept_eq found)

/-- A result that is lifted into an action is the action that yields it. -/
theorem liftM_eq (found : Except Error α) : (liftM found : Action α) = ofExcept found :=
  rfl

theorem course_update {id : InstanceId} {change : Instance → Instance}
    {result : Except Error Unit} :
    Course setup (update id change) before events result after ↔
      events = [] ∧ result = .ok () ∧ after = before.update id change :=
  course_of_done rfl

theorem find_eq (id : InstanceId) : find id setup before = .done (before.find id, before) :=
  ofExcept_eq (before.find id)

/-! ## Actions after each other -/

/-- A course of one action after another ends where the first fails, or goes on with its value. -/
theorem course_bind {first : Action α} {next : α → Action β} {result : Except Error β} :
    Course setup (first >>= next) before events result after ↔
      (∃ error, result = .error error ∧ Course setup first before events (.error error) after) ∨
      ∃ value middle earlier later, events = earlier ++ later ∧
        Course setup first before earlier (.ok value) middle ∧
        Course setup (next value) middle later result after := by
  constructor
  · intro course
    rcases Program.course_bind.mp course with ⟨⟨reached, middle⟩, earlier, later, rfl, start, rest⟩
    cases reached with
    | error error =>
        rcases Program.course_done.mp rest with ⟨rfl, ended⟩
        cases ended
        exact Or.inl ⟨error, rfl, by rw [List.append_nil]; exact start⟩
    | ok value => exact Or.inr ⟨value, middle, earlier, later, rfl, start, rest⟩
  · rintro (⟨error, rfl, start⟩ | ⟨value, middle, earlier, later, rfl, start, rest⟩)
    · exact Program.course_bind.mpr
        ⟨_, events, [], (List.append_nil events).symm, start, .done _⟩
    · exact Program.course_bind.mpr ⟨_, earlier, later, rfl, start, rest⟩

/-- Three actions after each other, whichever two are taken together. -/
theorem bind_assoc (first : Action α) (second : α → Action β) (third : β → Action γ) :
    (first >>= second) >>= third = first >>= fun value => second value >>= third := by
  funext setup registry
  refine (Program.bind_assoc _ _ _).trans (congrArg _ (funext fun ended => ?_))
  rcases ended with ⟨error | value, after⟩
  · rfl
  · rfl

/-- After an action that is done at once with a value, only the rest can happen. -/
theorem bind_of_done {first : Action α} {next : α → Action β} {value : α} {left : Registry}
    (ended : first setup before = .done (.ok value, left)) :
    (first >>= next) setup before = next value setup left := by
  change (first setup before).bind _ = _
  rw [ended]
  rfl

/-- After an action that is done at once with an error, nothing happens. -/
theorem bind_of_failed {first : Action α} {next : α → Action β} {error : Error} {left : Registry}
    (ended : first setup before = .done (.error error, left)) :
    (first >>= next) setup before = .done (.error error, left) := by
  change (first setup before).bind _ = _
  rw [ended]
  rfl

theorem course_pure_bind {value : α} {next : α → Action β} {result : Except Error β} :
    Course setup (pure value >>= next) before events result after ↔
      Course setup (next value) before events result after :=
  Iff.rfl

theorem course_fail_bind {error : Error} {next : α → Action β} {result : Except Error β} :
    Course setup (fail error >>= next) before events result after ↔
      events = [] ∧ result = .error error ∧ after = before :=
  course_of_done rfl

theorem course_settings_bind {next : Settings → Action β} {result : Except Error β} :
    Course setup (settings >>= next) before events result after ↔
      Course setup (next setup.settings) before events result after :=
  Iff.rfl

theorem course_registry_bind {next : Registry → Action β} {result : Except Error β} :
    Course setup (registry >>= next) before events result after ↔
      Course setup (next before) before events result after :=
  Iff.rfl

theorem course_setRegistry_bind {changed : Registry} {next : Unit → Action β}
    {result : Except Error β} :
    Course setup (setRegistry changed >>= next) before events result after ↔
      Course setup (next ()) changed events result after :=
  Iff.rfl

theorem course_update_bind {id : InstanceId} {change : Instance → Instance}
    {next : Unit → Action β} {result : Except Error β} :
    Course setup (update id change >>= next) before events result after ↔
      Course setup (next ()) (before.update id change) events result after :=
  Iff.rfl

theorem course_ofExcept_bind {found : Except Error α} {next : α → Action β}
    {result : Except Error β} :
    Course setup (ofExcept found >>= next) before events result after ↔
      (∃ error, found = .error error ∧ events = [] ∧ result = .error error ∧ after = before) ∨
      ∃ value, found = .ok value ∧ Course setup (next value) before events result after := by
  cases found with
  | error error =>
      have ended : ofExcept (.error error : Except Error α) setup before =
          .done (.error error, before) := rfl
      rw [course_of_done (bind_of_failed ended)]
      simp only [Except.error.injEq, exists_eq_left', reduceCtorEq, false_and, exists_false, or_false]
  | ok value =>
      simp only [reduceCtorEq, false_and, exists_false, false_or, Except.ok.injEq, exists_eq_left']
      exact Iff.rfl

/-! ## Requests -/

theorem course_ask {request : Request} {result : Except Error request.Reply} :
    Course setup (ask request) before events result after ↔
      ∃ reply, events = [.asked request reply] ∧ result = .ok reply ∧ after = before := by
  constructor
  · intro course
    rcases Program.course_bind.mp course with ⟨reply, earlier, later, rfl, asked, rest⟩
    rcases Program.course_done.mp rest with ⟨rfl, ended⟩
    cases ended
    cases asked with
    | ask reply rest =>
        rcases Program.course_done.mp rest with ⟨rfl, rfl⟩
        exact ⟨_, rfl, rfl, rfl⟩
  · rintro ⟨reply, rfl, rfl, rfl⟩
    exact .ask reply (.done _)

theorem course_ask_bind {request : Request} {next : request.Reply → Action β}
    {result : Except Error β} :
    Course setup (ask request >>= next) before events result after ↔
      ∃ reply later, events = .asked request reply :: later ∧
        Course setup (next reply) before later result after := by
  rw [course_bind]
  constructor
  · rintro (⟨error, _, asked⟩ | ⟨value, middle, earlier, later, rfl, asked, rest⟩)
    · rcases course_ask.mp asked with ⟨_, _, impossible, _⟩
      cases impossible
    · rcases course_ask.mp asked with ⟨reply, rfl, same, rfl⟩
      cases same
      exact ⟨value, later, rfl, rest⟩
  · rintro ⟨reply, later, rfl, rest⟩
    exact Or.inr ⟨reply, before, [_], later, rfl, course_ask.mpr ⟨reply, rfl, rfl, rfl⟩, rest⟩

theorem course_cluster {name : String} {operation : Operation} {request : ClusterRequest}
    {result : Except Error request.Value} :
    Course setup (cluster name operation request) before events result after ↔
      ∃ reply, events = [.asked (.cluster request) reply] ∧
        result = reply.mapError (Error.relayed name operation.text) ∧ after = before := by
  rw [cluster, course_ask_bind]
  constructor
  · rintro ⟨reply, later, rfl, rest⟩
    rcases course_ofExcept.mp rest with ⟨rfl, same, rfl⟩
    exact ⟨reply, rfl, same, rfl⟩
  · rintro ⟨reply, rfl, same, rfl⟩
    exact ⟨reply, [], rfl, course_ofExcept.mpr ⟨rfl, same, rfl⟩⟩

/-- After a request to the cluster, an error ends the action and a value lets it go on. -/
theorem course_cluster_bind {name : String} {operation : Operation} {request : ClusterRequest}
    {next : request.Value → Action β} {result : Except Error β} :
    Course setup (cluster name operation request >>= next) before events result after ↔
      (∃ error, events = [.asked (.cluster request) (.error error)] ∧
        result = .error (error.relayed name operation.text) ∧ after = before) ∨
      ∃ value later, events = .asked (.cluster request) (.ok value) :: later ∧
        Course setup (next value) before later result after := by
  rw [course_bind]
  constructor
  · rintro (⟨error, rfl, asked⟩ | ⟨value, middle, earlier, later, rfl, asked, rest⟩)
    · rcases course_cluster.mp asked with ⟨reply, rfl, same, rfl⟩
      cases reply with
      | error cause =>
          cases same
          exact Or.inl ⟨cause, rfl, rfl, rfl⟩
      | ok value => cases same
    · rcases course_cluster.mp asked with ⟨reply, rfl, same, rfl⟩
      cases reply with
      | error cause => cases same
      | ok value =>
          cases same
          exact Or.inr ⟨value, later, rfl, rest⟩
  · rintro (⟨error, rfl, rfl, rfl⟩ | ⟨value, later, rfl, rest⟩)
    · exact Or.inl ⟨_, rfl, course_cluster.mpr ⟨.error error, rfl, rfl, rfl⟩⟩
    · exact Or.inr ⟨value, before, [_], later, rfl,
        course_cluster.mpr ⟨.ok value, rfl, rfl, rfl⟩, rest⟩

theorem course_image {name : String} {operation : Operation} {request : ImageRequest}
    {result : Except Error request.Value} :
    Course setup (image name operation request) before events result after ↔
      ∃ reply, events = [.asked (.image request) reply] ∧
        result = reply.mapError (fun failure => failure.during name operation.text) ∧
        after = before := by
  rw [image, course_ask_bind]
  constructor
  · rintro ⟨reply, later, rfl, rest⟩
    rcases course_ofExcept.mp rest with ⟨rfl, same, rfl⟩
    exact ⟨reply, rfl, same, rfl⟩
  · rintro ⟨reply, rfl, same, rfl⟩
    exact ⟨reply, [], rfl, course_ofExcept.mpr ⟨rfl, same, rfl⟩⟩

/-- After a request about an image, a failure ends the action and a value lets it go on. -/
theorem course_image_bind {name : String} {operation : Operation} {request : ImageRequest}
    {next : request.Value → Action β} {result : Except Error β} :
    Course setup (image name operation request >>= next) before events result after ↔
      (∃ failure, events = [.asked (.image request) (.error failure)] ∧
        result = .error (failure.during name operation.text) ∧ after = before) ∨
      ∃ value later, events = .asked (.image request) (.ok value) :: later ∧
        Course setup (next value) before later result after := by
  rw [course_bind]
  constructor
  · rintro (⟨error, rfl, asked⟩ | ⟨value, middle, earlier, later, rfl, asked, rest⟩)
    · rcases course_image.mp asked with ⟨reply, rfl, same, rfl⟩
      cases reply with
      | error failure =>
          cases same
          exact Or.inl ⟨failure, rfl, rfl, rfl⟩
      | ok value => cases same
    · rcases course_image.mp asked with ⟨reply, rfl, same, rfl⟩
      cases reply with
      | error failure => cases same
      | ok value =>
          cases same
          exact Or.inr ⟨value, later, rfl, rest⟩
  · rintro (⟨failure, rfl, rfl, rfl⟩ | ⟨value, later, rfl, rest⟩)
    · exact Or.inl ⟨_, rfl, course_image.mpr ⟨.error failure, rfl, rfl, rfl⟩⟩
    · exact Or.inr ⟨value, before, [_], later, rfl,
        course_image.mpr ⟨.ok value, rfl, rfl, rfl⟩, rest⟩

theorem course_await {name : String} {operation : Operation} {condition : Condition}
    {timeout : Option Duration} {result : Except Error Unit} :
    Course setup (await name operation condition timeout) before events result after ↔
      ∃ outcome elapsed, events = [.awaited condition outcome] ∧
        result = Wait.settle name operation.text elapsed outcome ∧ after = before := by
  rw [await, course_settings_bind]
  constructor
  · intro course
    rcases course_bind.mp course with
      ⟨error, rfl, waited⟩ | ⟨value, middle, earlier, later, rfl, waited, rest⟩
    · cases waited with
      | await outcome elapsed ended =>
          rcases Program.course_done.mp ended with ⟨_, impossible⟩
          cases impossible
    · cases waited with
      | await outcome elapsed ended =>
          rcases Program.course_done.mp ended with ⟨rfl, same⟩
          cases same
          rcases course_ofExcept.mp rest with ⟨rfl, same, rfl⟩
          exact ⟨outcome, elapsed, rfl, same, rfl⟩
  · rintro ⟨outcome, elapsed, rfl, rfl, rfl⟩
    refine course_bind.mpr (Or.inr ⟨_, after, [_], [], rfl, .await outcome elapsed (.done _), ?_⟩)
    exact course_ofExcept.mpr ⟨rfl, rfl, rfl⟩

/-! ## Guards -/

theorem guarded_eq (id : InstanceId) (operation : Operation) :
    guarded id operation setup before = .done (before.guarded id operation, before) := by
  rw [guarded, Registry.guarded]
  cases found : before.find id with
  | error error => exact bind_of_failed (by rw [find_eq, found])
  | ok workload =>
      have ended : find id setup before = .done (.ok workload, before) := by rw [find_eq, found]
      rw [bind_of_done ended, liftM_eq]
      change _ = Program.done ((do workload.guard operation; .ok workload), before)
      cases workload.guard operation with
      | error error => rfl
      | ok value => rfl

/-- A guarded action is refused at once, or goes on with an instance in a permitted state. -/
theorem course_guarded_bind {id : InstanceId} {operation : Operation} {next : Instance → Action β}
    {result : Except Error β} :
    Course setup (guarded id operation >>= next) before events result after ↔
      (∃ error, before.guarded id operation = .error error ∧
        events = [] ∧ result = .error error ∧ after = before) ∨
      ∃ workload, (before.get? id = some workload ∧ workload.state ∈ operation.allowedStates) ∧
        Course setup (next workload) before events result after := by
  have ended : guarded id operation setup before =
      .done (before.guarded id operation, before) := guarded_eq id operation
  cases checked : before.guarded id operation with
  | error error =>
      rw [checked] at ended
      rw [course_of_done (bind_of_failed ended)]
      constructor
      · exact fun refused => Or.inl ⟨error, rfl, refused⟩
      · rintro (⟨_, same, refused⟩ | ⟨workload, found, _⟩)
        · cases same
          exact refused
        · rw [Registry.guarded_eq_ok_iff.mpr found] at checked
          cases checked
  | ok workload =>
      rw [checked] at ended
      have found := Registry.guarded_eq_ok_iff.mp checked
      rw [Course, bind_of_done ended]
      constructor
      · exact fun course => Or.inr ⟨workload, found, course⟩
      · rintro (⟨_, impossible, _⟩ | ⟨other, permitted, course⟩)
        · cases impossible
        · rcases Option.some.inj (found.1.symm.trans permitted.1) with rfl
          exact course

theorem course_ensureNoSidecar_bind {workload : Instance} {operation : Operation}
    {next : Unit → Action β} {result : Except Error β} :
    Course setup (ensureNoSidecar workload operation >>= next) before events result after ↔
      (workload.parent ≠ none ∧ events = [] ∧
        result = .error (workload.violate (.drivenByParent operation)) ∧ after = before) ∨
      workload.parent = none ∧ Course setup (next ()) before events result after := by
  rw [ensureNoSidecar, Instance.isSidecar]
  cases workload.parent with
  | none =>
      simp only [Option.isSome_none, Bool.false_eq_true, if_false, ne_eq, not_true_eq_false,
        false_and, true_and, false_or]
      exact course_pure_bind
  | some parent =>
      simp only [Option.isSome_some, if_true, ne_eq, reduceCtorEq, not_false_eq_true, true_and,
        false_and, or_false]
      exact course_fail_bind

theorem guardSidecars_eq (operation : Operation) (ids : List InstanceId) :
    guardSidecars operation ids setup before = .done (before.permits operation ids, before) := by
  induction ids with
  | nil => rfl
  | cons first rest inductionHypothesis =>
      rw [guardSidecars, Registry.permits]
      cases checked : before.guarded first operation with
      | error error => exact bind_of_failed (by rw [guarded_eq, checked])
      | ok workload =>
          have ended : guarded first operation setup before = .done (.ok workload, before) := by
            rw [guarded_eq, checked]
          rw [bind_of_done ended]
          exact inductionHypothesis

/-! ## What an action reads off the registry -/

theorem podOwner_eq (workload : Instance) :
    podOwner workload setup before = .done (before.podOwner workload, before) :=
  ofExcept_eq (before.podOwner workload)

theorem compile_eq (parent : Instance) :
    compile parent setup before = .done (before.compile setup.settings parent, before) := by
  change (ofExcept (before.pod setup.settings parent) >>= fun pod => ofExcept pod.compile : Action _)
    setup before = _
  rw [Registry.compile]
  cases before.pod setup.settings parent with
  | error error => rfl
  | ok pod =>
      have ended : ofExcept (.ok pod : Except Error Pod) setup before = .done (.ok pod, before) := rfl
      rw [bind_of_done ended]
      exact ofExcept_eq pod.compile

end Action
end Testbed
