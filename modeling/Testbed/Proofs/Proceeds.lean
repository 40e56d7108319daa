import Testbed.Proofs.Course.Action
import Testbed.Proofs.Move

namespace Testbed
namespace Action

/-!
# Actions that proceed by moves

`Proceeds` says of an action, in a registry, that every course of it is a series of moves, of which no
more than a budget count, and that what it reaches when it succeeds has a property.  Nothing is said
of what a failing course reaches, except that it got there by moves; so the rules below never ask for
a proof about an error.

There is one rule for each way in which actions are put together.  An action that makes no request is
handled by the program that it is.
-/

/-- Every course of an action is a series of moves within a budget, and a success has a property. -/
def Proceeds (setup : Setup) (floor budget : Nat) (action : Action α) (before : Registry)
    (reached : α → Registry → Prop) : Prop :=
  ∀ events result after, Course setup action before events result after →
    ∃ count, count ≤ budget ∧ Moves setup floor count before events after ∧
      ∀ value, result = .ok value → reached value after

namespace Proceeds

variable {setup : Setup} {floor budget : Nat} {before : Registry} {reached : β → Registry → Prop}

/-! ## Ends -/

theorem of_done {action : Action β} {value : Except Error β}
    (ended : action setup before = .done (value, before))
    (holds : ∀ found, value = .ok found → reached found before) :
    Proceeds setup floor budget action before reached := by
  intro events result after course
  rcases (course_of_done ended).mp course with ⟨rfl, rfl, rfl⟩
  exact ⟨0, Nat.zero_le _, .none, holds⟩

theorem of_pure {value : β} (holds : reached value before) :
    Proceeds setup floor budget (pure value) before reached :=
  of_done rfl fun _ same => Except.ok.inj same ▸ holds

theorem of_fail {error : Error} : Proceeds setup floor budget (fail error : Action β) before reached :=
  of_done rfl fun _ impossible => nomatch impossible

/-- One change of the registry, for which the budget has to suffice if it counts. -/
theorem of_update {touched : List InstanceId} {id : InstanceId} {change : Instance → Instance}
    {reached : Unit → Registry → Prop}
    (move : Move setup touched before [] (before.update id change))
    (affordable : (∀ id ∈ touched, floor ≤ id.index) ∨ 0 < budget)
    (holds : reached () (before.update id change)) :
    Proceeds setup floor budget (update id change) before reached := by
  intro events result after course
  rcases course_update.mp course with ⟨rfl, rfl, rfl⟩
  rcases affordable with young | paid
  · exact ⟨0, Nat.zero_le _, .free_single move young, fun _ _ => holds⟩
  · exact ⟨1, paid, .counted_single move, fun _ _ => holds⟩

theorem mono {action : Action β} {smaller : Nat} {stronger : β → Registry → Prop}
    (proceeds : Proceeds setup floor smaller action before stronger) (enough : smaller ≤ budget)
    (implies : ∀ value after, stronger value after → reached value after) :
    Proceeds setup floor budget action before reached := by
  intro events result after course
  rcases proceeds _ _ _ course with ⟨count, within, moves, holds⟩
  exact ⟨count, Nat.le_trans within enough, moves, fun value same => implies value after (holds value same)⟩

/-! ## Sequences -/

variable {next : α → Action β} {between : α → Registry → Prop}

theorem bind {action : Action α} {first second : Nat}
    (start : Proceeds setup floor first action before between)
    (rest : ∀ {value middle count events}, count ≤ first →
      Moves setup floor count before events middle → between value middle →
      Proceeds setup floor second (next value) middle reached)
    (enough : first + second ≤ budget) :
    Proceeds setup floor budget (action >>= next) before reached := by
  intro events result after course
  rcases course_bind.mp course with
    ⟨error, rfl, stopped⟩ | ⟨value, middle, earlier, later, rfl, started, ended⟩
  · rcases start _ _ _ stopped with ⟨count, within, moves, _⟩
    exact ⟨count, by omega, moves, fun _ impossible => nomatch impossible⟩
  · rcases start _ _ _ started with ⟨count, within, moves, holds⟩
    rcases rest within moves (holds value rfl) _ _ _ ended with
        ⟨further, withinToo, onward, reaches⟩
    exact ⟨count + further, by omega, moves.trans onward, reaches⟩

/-- What precedes may not count, and the rest has the budget to itself. -/
theorem bind_free {action : Action α} (start : Proceeds setup floor 0 action before between)
    (rest : ∀ {value middle events}, Moves setup floor 0 before events middle → between value middle →
      Proceeds setup floor budget (next value) middle reached) :
    Proceeds setup floor budget (action >>= next) before reached :=
  bind start (fun within moves holds => rest (Nat.le_zero.mp within ▸ moves) holds)
    (Nat.le_of_eq (Nat.zero_add budget))

theorem of_bind_pure {action : Action β}
    (proceeds : Proceeds setup floor budget (action >>= Pure.pure) before reached) :
    Proceeds setup floor budget action before reached := by
  intro events result after course
  cases result with
  | error error =>
      exact proceeds _ _ _ (course_bind.mpr (Or.inl ⟨error, rfl, course⟩))
  | ok value =>
      refine proceeds _ _ _ (course_bind.mpr (Or.inr ⟨value, after, events, [], ?_, course, ?_⟩))
      · rw [List.append_nil]
      · exact course_pure.mpr ⟨rfl, rfl, rfl⟩

/-- An action that is done at once and changes nothing leaves the rest. -/
theorem done_bind {action : Action α} {value : Except Error α}
    (ended : action setup before = .done (value, before))
    (rest : ∀ {found}, value = .ok found → Proceeds setup floor budget (next found) before reached) :
    Proceeds setup floor budget (action >>= next) before reached := by
  cases value with
  | error error =>
      exact of_done (bind_of_failed ended) fun _ impossible => nomatch impossible
  | ok found =>
      intro events result after course
      rw [Course, bind_of_done ended] at course
      exact rest rfl _ _ _ course

theorem ofExcept_bind {found : Except Error α}
    (rest : ∀ {value}, found = .ok value → Proceeds setup floor budget (next value) before reached) :
    Proceeds setup floor budget (ofExcept found >>= next) before reached :=
  done_bind (ofExcept_eq found) rest

theorem find_bind {next : Instance → Action β} {id : InstanceId}
    (rest : ∀ {workload}, before.get? id = some workload →
      Proceeds setup floor budget (next workload) before reached) :
    Proceeds setup floor budget (find id >>= next) before reached :=
  done_bind (find_eq id) fun known => rest (Registry.find_eq_ok_iff.mp known)

theorem guarded_bind {next : Instance → Action β} {id : InstanceId} {operation : Operation}
    (rest : ∀ {workload}, before.get? id = some workload →
      workload.state ∈ operation.allowedStates →
      Proceeds setup floor budget (next workload) before reached) :
    Proceeds setup floor budget (guarded id operation >>= next) before reached :=
  done_bind (guarded_eq id operation) fun passed =>
    rest (Registry.guarded_eq_ok_iff.mp passed).1 (Registry.guarded_eq_ok_iff.mp passed).2

theorem ensureNoSidecar_bind {next : Unit → Action β} {workload : Instance} {operation : Operation}
    (rest : workload.parent = none → Proceeds setup floor budget (next ()) before reached) :
    Proceeds setup floor budget (ensureNoSidecar workload operation >>= next) before reached := by
  intro events result after course
  rcases course_ensureNoSidecar_bind.mp course with ⟨_, rfl, rfl, rfl⟩ | ⟨leads, onward⟩
  · exact ⟨0, Nat.zero_le _, .none, fun _ impossible => nomatch impossible⟩
  · exact rest leads _ _ _ onward

theorem registry_bind {next : Registry → Action β}
    (rest : Proceeds setup floor budget (next before) before reached) :
    Proceeds setup floor budget (registry >>= next) before reached :=
  rest

theorem setup_bind {next : Setup → Action β}
    (rest : Proceeds setup floor budget (next setup) before reached) :
    Proceeds setup floor budget (Action.setup >>= next) before reached :=
  rest

theorem settings_bind {next : Settings → Action β}
    (rest : Proceeds setup floor budget (next setup.settings) before reached) :
    Proceeds setup floor budget (settings >>= next) before reached :=
  rest

theorem setRegistry_bind {next : Unit → Action β} {changed : Registry}
    (move : Move setup [] before [] changed)
    (rest : Proceeds setup floor budget (next ()) changed reached) :
    Proceeds setup floor budget (setRegistry changed >>= next) before reached := by
  intro events result after course
  rcases rest _ _ _ (course_setRegistry_bind.mp course) with ⟨count, within, moves, holds⟩
  exact ⟨count, within, .free move (fun _ member => nomatch member) moves, holds⟩

/-- An instance is changed on its own. -/
theorem amend_bind {next : Unit → Action β} {id : InstanceId} {change : Instance → Instance}
    (amends : ∀ workload, before.get? id = some workload → Amendment workload (change workload))
    (rest : Proceeds setup floor budget (next ()) (before.update id change) reached) :
    Proceeds setup floor budget (update id change >>= next) before reached := by
  intro events result after course
  rcases rest _ _ _ (course_update_bind.mp course) with ⟨count, within, moves, holds⟩
  exact ⟨count, within, .free (.amend amends) (fun _ member => nomatch member) moves, holds⟩

/-! ## Requests -/

/-- An action on which nothing happens but talk, and which changes nothing, leaves the rest. -/
theorem talk_bind {action : Action α}
    (talks : ∀ {events result after}, Course setup action before events result after →
      after = before ∧ ∀ event ∈ events, event.IsQuiet)
    (rest : ∀ value, Proceeds setup floor budget (next value) before reached) :
    Proceeds setup floor budget (action >>= next) before reached := by
  have start : Proceeds setup floor 0 action before fun _ middle => middle = before := by
    intro events result after course
    rcases talks course with ⟨rfl, quiet⟩
    exact ⟨0, Nat.le_refl 0, .talk quiet, fun _ _ => rfl⟩
  exact start.bind_free fun _ same => same ▸ rest _

theorem ask_bind {request : Request} {next : request.Reply → Action β}
    (quiet : ∀ reply, (Event.asked request reply).IsQuiet)
    (rest : ∀ reply, Proceeds setup floor budget (next reply) before reached) :
    Proceeds setup floor budget (ask request >>= next) before reached := by
  refine talk_bind (fun course => ?_) rest
  rcases course_ask.mp course with ⟨reply, rfl, _, same⟩
  exact ⟨same, fun event member => List.mem_singleton.mp member ▸ quiet reply⟩

theorem image_bind {name : String} {operation : Operation} {request : ImageRequest}
    {next : request.Value → Action β}
    (rest : ∀ value, Proceeds setup floor budget (next value) before reached) :
    Proceeds setup floor budget (image name operation request >>= next) before reached := by
  refine talk_bind (fun course => ?_) rest
  rcases course_image.mp course with ⟨reply, rfl, _, same⟩
  exact ⟨same, fun event member => List.mem_singleton.mp member ▸ trivial⟩

theorem await_bind {name : String} {operation : Operation} {condition : Condition}
    {timeout : Option Duration} {next : Unit → Action β}
    (rest : ∀ value, Proceeds setup floor budget (next value) before reached) :
    Proceeds setup floor budget (await name operation condition timeout >>= next) before reached := by
  refine talk_bind (fun course => ?_) rest
  rcases course_await.mp course with ⟨outcome, elapsed, rfl, _, same⟩
  exact ⟨same, fun event member => List.mem_singleton.mp member ▸ trivial⟩

end Proceeds
end Action

/-- A request to the cluster that fails changes nothing. -/
theorem Event.isQuiet_of_error {request : ClusterRequest} {error : Error} :
    (asked (.cluster request) (.error error)).IsQuiet := by
  cases request with
  | apply | delete => exact ⟨error, rfl⟩
  | _ => trivial

namespace Action
namespace Proceeds

variable {setup : Setup} {floor budget : Nat} {before : Registry} {reached : β → Registry → Prop}

/-- A request to the cluster of which the success is a move of its own. -/
theorem cluster_bind {name : String} {operation : Operation} {request : ClusterRequest}
    {next : request.Value → Action β}
    (move : ∀ value, Move setup [] before [.asked (.cluster request) (.ok value)] before)
    (rest : ∀ value, Proceeds setup floor budget (next value) before reached) :
    Proceeds setup floor budget (cluster name operation request >>= next) before reached := by
  intro events result after course
  rcases course_cluster_bind.mp course with ⟨error, rfl, rfl, rfl⟩ | ⟨value, later, rfl, onward⟩
  · have talked : Moves setup floor 0 after [.asked (.cluster request) (.error error)] after :=
      .free_single (.talk Event.isQuiet_of_error) fun _ member => nomatch member
    exact ⟨0, Nat.zero_le _, talked, fun _ impossible => nomatch impossible⟩
  · rcases rest value _ _ _ onward with ⟨count, within, moves, holds⟩
    have asked : Moves setup floor count before ([.asked (.cluster request) (.ok value)] ++ later) after :=
      .free (move value) (fun _ member => nomatch member) moves
    exact ⟨count, within, asked, holds⟩

end Proceeds
end Action
end Testbed
