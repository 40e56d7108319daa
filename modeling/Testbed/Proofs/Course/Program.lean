import Testbed.Program

namespace Testbed

/-!
# Courses of programs

A program is a tree, and a course is a way from its root to one of its ends.  What happens on the way
is kept as a list of events: every request with its reply, every wait and every series of tries with
its outcome.  No reply and no outcome is ruled out, so a statement about all courses of a program is
a statement about all collaborators, however they answer and however often they fail.

`Program.course_of_run` is the obligation behind this reading: whatever a program does against actual
collaborators, in virtual time, is one of its courses.  The converse is not claimed, because a course
may assume a wait that no clock produces; statements about all courses only gain by that.
-/

/-- Something that happens while a program runs. -/
inductive Event where
  /-- A request is made and answered. -/
  | asked (request : Request) (reply : request.Reply)
  /-- A wait for a condition ends. -/
  | awaited (condition : Condition) (outcome : WaitOutcome Error)
  /-- A series of tries to open a tunnel ends. -/
  | connected (pod : String) (localPort remotePort : UInt16) (outcome : RetryOutcome Error Unit)

namespace Program

/-- What can happen in a program, and the value it then ends with. -/
inductive Course : Program α → List Event → α → Prop where
  | done (value : α) : Course (.done value) [] value
  | ask {request : Request} {next : request.Reply → Program α} (reply : request.Reply)
      (rest : Course (next reply) events value) :
      Course (.ask request next) (.asked request reply :: events) value
  | await {next : WaitOutcome Error → Duration → Program α} (outcome : WaitOutcome Error)
      (elapsed : Duration) (rest : Course (next outcome elapsed) events value) :
      Course (.await condition interval timeout next) (.awaited condition outcome :: events) value
  | connect {next : RetryOutcome Error Unit → Duration → Program α}
      (outcome : RetryOutcome Error Unit) (elapsed : Duration)
      (rest : Course (next outcome elapsed) events value) :
      Course (.connect pod localPort remotePort policy next)
        (.connected pod localPort remotePort outcome :: events) value

/-! ## Courses of composed programs -/

theorem course_done {value result : α} {events : List Event} :
    (done value).Course events result ↔ events = [] ∧ result = value := by
  constructor
  · intro course
    cases course
    exact ⟨rfl, rfl⟩
  · rintro ⟨rfl, rfl⟩
    exact .done result

theorem Course.append {program : Program α} {next : α → Program β} {earlier later : List Event}
    {middle : α} {result : β} (first : program.Course earlier middle)
    (second : (next middle).Course later result) :
    (program.bind next).Course (earlier ++ later) result := by
  induction first with
  | done value => exact second
  | ask reply rest inductionHypothesis => exact .ask reply (inductionHypothesis second)
  | await outcome elapsed rest inductionHypothesis =>
      exact .await outcome elapsed (inductionHypothesis second)
  | connect outcome elapsed rest inductionHypothesis =>
      exact .connect outcome elapsed (inductionHypothesis second)

/-- A course of one program after another comes apart at the value of the first. -/
theorem Course.split {program : Program α} {next : α → Program β} {events : List Event} {result : β}
    (course : (program.bind next).Course events result) :
    ∃ middle earlier later, events = earlier ++ later ∧ program.Course earlier middle ∧
      (next middle).Course later result := by
  induction program generalizing events with
  | done value => exact ⟨value, [], events, rfl, .done value, course⟩
  | ask request further inductionHypothesis =>
      cases course with
      | ask reply rest =>
          rcases inductionHypothesis reply rest with ⟨middle, earlier, later, rfl, first, second⟩
          exact ⟨middle, .asked request reply :: earlier, later, rfl, .ask reply first, second⟩
  | await condition interval timeout further inductionHypothesis =>
      cases course with
      | await outcome elapsed rest =>
          rcases inductionHypothesis outcome elapsed rest with
              ⟨middle, earlier, later, rfl, first, second⟩
          exact ⟨middle, .awaited condition outcome :: earlier, later, rfl,
            .await outcome elapsed first, second⟩
  | connect pod localPort remotePort policy further inductionHypothesis =>
      cases course with
      | connect outcome elapsed rest =>
          rcases inductionHypothesis outcome elapsed rest with
              ⟨middle, earlier, later, rfl, first, second⟩
          exact ⟨middle, .connected pod localPort remotePort outcome :: earlier, later, rfl,
            .connect outcome elapsed first, second⟩

theorem course_bind {program : Program α} {next : α → Program β} {events : List Event} {result : β} :
    (program.bind next).Course events result ↔
      ∃ middle earlier later, events = earlier ++ later ∧ program.Course earlier middle ∧
        (next middle).Course later result := by
  constructor
  · exact Course.split
  · rintro ⟨middle, earlier, later, rfl, first, second⟩
    exact first.append second

/-! ## Runs against collaborators -/

end Program

/-- Collaborators of which an account can be kept: what an event does to a view of their state is a
function of the event.  Looking at a condition and trying to open a tunnel do nothing to the view. -/
structure Collaborators.Accountable (others : Collaborators σ) (view : σ → γ)
    (effect : γ → Event → γ) : Prop where
  answer : ∀ request now state,
    view (others.answer request now state).2 =
      effect (view state) (.asked request (others.answer request now state).1.value)
  look : ∀ condition now state, view (others.look condition now state).2 = view state
  attempt : ∀ pod localPort remotePort now state,
    view (others.answer (.cluster (.tunnel pod localPort remotePort)) now state).2 = view state
  awaited : ∀ seen condition outcome, effect seen (.awaited condition outcome) = seen
  connected : ∀ seen pod localPort remotePort outcome,
    effect seen (.connected pod localPort remotePort outcome) = seen

/-- Of any collaborators the empty account can be kept. -/
theorem Collaborators.accountable_unit (others : Collaborators σ) :
    others.Accountable (fun _ => ()) (fun _ _ => ()) :=
  ⟨fun _ _ _ => rfl, fun _ _ _ => rfl, fun _ _ _ _ _ => rfl, fun _ _ _ => rfl,
    fun _ _ _ _ _ => rfl⟩

/-- A wait leaves a view alone that every look leaves alone. -/
theorem Wait.view_of_run {look : Nat → σ → Delayed (Except ε Bool) × σ} {view : σ → γ}
    (kept : ∀ now state, view (look now state).2 = view state) {interval : Nat} {limit : Option Nat} :
    ∀ {looks now : Nat} {state : σ} {outcome : WaitOutcome ε} {finish : Nat} {after : σ},
      Wait.run look interval limit looks now state = some (outcome, finish, after) →
        view after = view state
  | 0, _, _, _, _, _, ran => by cases ran
  | looks + 1, now, state, outcome, finish, after, ran => by
      have seen := kept now state
      rw [Wait.run] at ran
      dsimp only at ran
      split at ran
      · rcases Option.map_eq_some_iff.mp ran with ⟨_, _, ended⟩
        cases ended
        exact seen
      · split at ran
        · cases ran
          exact seen
        · split at ran
          · cases ran
            exact seen
          · cases ran
            exact seen
          · split at ran
            · cases ran
              exact seen
            · exact (Wait.view_of_run kept ran).trans seen

/-- A series of tries leaves a view alone that every try leaves alone. -/
theorem Retry.view_of_run {policy : RetryPolicy} {spread : Nat → Duration → Duration}
    {attempt : Nat → σ → Delayed (Except ε α) × σ} {view : σ → γ}
    (kept : ∀ now state, view (attempt now state).2 = view state) {limit : Option Nat} :
    ∀ {attempts number now : Nat} {pause : Duration} {state : σ} {outcome : RetryOutcome ε α}
      {finish : Nat} {after : σ},
      Retry.run policy spread attempt limit attempts number now pause state =
          some (outcome, finish, after) →
        view after = view state
  | 0, _, _, _, _, _, _, _, ran => by cases ran
  | attempts + 1, number, now, pause, state, outcome, finish, after, ran => by
      have seen := kept now state
      rw [Retry.run] at ran
      dsimp only at ran
      split at ran
      · rcases Option.map_eq_some_iff.mp ran with ⟨_, _, ended⟩
        cases ended
        exact seen
      · split at ran
        · cases ran
          exact seen
        · split at ran
          · cases ran
            exact seen
          · split at ran
            · cases ran
              exact seen
            · split at ran
              · cases ran
                exact seen
              · exact (Retry.view_of_run kept ran).trans seen

/-- Whatever a program does against collaborators is one of its courses, and the events of that course
account for what has become of the collaborators. -/
theorem Program.course_of_run {others : Collaborators σ} {view : σ → γ} {effect : γ → Event → γ}
    (accountable : others.Accountable view effect) {looks : Nat} {program : Program α} {now : Nat}
    {state : σ} {ending : Ending σ α}
    (ran : program.run others looks now state = some ending) :
    ∃ events, program.Course events ending.value ∧
      view ending.state = events.foldl effect (view state) := by
  induction program generalizing now state with
  | done value =>
      rcases Option.some.inj ran with rfl
      exact ⟨[], .done value, rfl⟩
  | ask request next inductionHypothesis =>
      rcases Option.bind_eq_some_iff.mp ran with ⟨delay, _, rest⟩
      rcases inductionHypothesis _ rest with ⟨events, course, seen⟩
      refine ⟨_, .ask _ course, ?_⟩
      rw [List.foldl_cons, ← accountable.answer request now state]
      exact seen
  | await condition interval timeout next inductionHypothesis =>
      rcases Option.bind_eq_some_iff.mp ran with ⟨⟨outcome, finish, after⟩, waited, rest⟩
      rcases inductionHypothesis outcome _ rest with ⟨events, course, seen⟩
      refine ⟨_, .await outcome _ course, ?_⟩
      rw [List.foldl_cons, accountable.awaited,
        ← Wait.view_of_run (accountable.look condition) waited]
      exact seen
  | connect pod localPort remotePort policy next inductionHypothesis =>
      rcases Option.bind_eq_some_iff.mp ran with ⟨⟨outcome, finish, after⟩, tried, rest⟩
      rcases inductionHypothesis outcome _ rest with ⟨events, course, seen⟩
      refine ⟨_, .connect outcome _ course, ?_⟩
      rw [List.foldl_cons, accountable.connected,
        ← Retry.view_of_run (accountable.attempt pod localPort remotePort) tried]
      exact seen

/-- Whatever a program does against collaborators, of whatever kind, is one of its courses. -/
theorem Program.exists_course_of_run {others : Collaborators σ} {looks : Nat} {program : Program α}
    {now : Nat} {state : σ} {ending : Ending σ α}
    (ran : program.run others looks now state = some ending) :
    ∃ events, program.Course events ending.value := by
  rcases course_of_run others.accountable_unit ran with ⟨events, course, _⟩
  exact ⟨events, course⟩

end Testbed
