import Testbed.Request
import Testbed.Time.Retry

namespace Testbed

/-!
Programs over requests. A program is a tree: it is done, or it makes a request and goes on according to the
reply, or it waits. Nothing is assumed of the replies, so a statement about every program tree is a
statement about all that collaborators may do. `Program.run` is what happens when collaborators
answer, each in its own time, with instants in milliseconds.
-/

/-- What a wait is for. -/
inductive Condition where
  /-- A replica set has a ready replica. -/
  | ready (name : String)
  /-- A replica set is no longer there. -/
  | gone (name : String)
  deriving DecidableEq, Repr

/-- A course of requests that ends with a value. -/
inductive Program (α : Type) : Type where
  | done (value : α)
  /-- Makes a request. -/
  | ask (request : Request) (next : request.Reply → Program α)
  /-- Waits for a condition, looking at it once per interval, and learns how long that took. -/
  | await (condition : Condition) (interval : Duration) (timeout : Option Duration)
    (next : WaitOutcome Error → Duration → Program α)
  /-- Tries to open a tunnel until it is there, and learns how long that took. -/
  | connect (pod : String) (localPort remotePort : UInt16) (policy : RetryPolicy)
    (next : RetryOutcome Error Unit → Duration → Program α)

namespace Program

/-- One program after another. -/
def bind : Program α → (α → Program β) → Program β
  | done value, rest => rest value
  | ask request next, rest => ask request fun reply => (next reply).bind rest
  | await condition interval timeout next, rest =>
    await condition interval timeout fun outcome elapsed => (next outcome elapsed).bind rest
  | connect pod localPort remotePort policy next, rest =>
    connect pod localPort remotePort policy fun outcome elapsed => (next outcome elapsed).bind rest

instance : Monad Program where
  pure := done
  bind := bind

theorem bind_done (program : Program α) : program.bind done = program := by
  induction program with
  | done value => rfl
  | ask request next ih => simp only [bind, ih]
  | await condition interval timeout next ih => simp only [bind, ih]
  | connect pod localPort remotePort policy next ih => simp only [bind, ih]

theorem bind_assoc (program : Program α) (first : α → Program β) (second : β → Program γ) :
    (program.bind first).bind second = program.bind fun value => (first value).bind second := by
  induction program with
  | done value => rfl
  | ask request next ih => simp only [bind, ih]
  | await condition interval timeout next ih => simp only [bind, ih]
  | connect pod localPort remotePort policy next ih => simp only [bind, ih]

/-- A single request. -/
def request (asked : Request) : Program asked.Reply :=
  ask asked done

end Program

/-- Those that answer requests, with a state of their own. -/
structure Collaborators (σ : Type) where
  /-- The answer to a request that is made at an instant. -/
  answer : (request : Request) → Nat → σ → Delayed request.Reply × σ
  /-- The instant from which waits are called off. -/
  cancellation : σ → Option Nat

namespace Collaborators

/-- One look at a condition. -/
def look (others : Collaborators σ) (condition : Condition) (now : Nat) (state : σ) :
    Delayed (Except Error Bool) × σ :=
  match condition with
  | .ready name => others.answer (.cluster (.ready name)) now state
  | .gone name =>
    let (answer, after) := others.answer (.cluster (.present .replicaSet name)) now state
    (⟨answer.delay, answer.value.map (!·)⟩, after)

end Collaborators

/-- How a program ended: its value, the instant, and the state of the collaborators. -/
structure Ending (σ α : Type) where
  value : α
  instant : Nat
  state : σ

namespace Program

/-- What happens when a program starts at an instant. There is no result if a request is never
answered, or if a wait takes more than the given number of looks. -/
def run (others : Collaborators σ) (looks : Nat) : Program α → Nat → σ → Option (Ending σ α)
  | done value, now, state => some ⟨value, now, state⟩
  | ask request next, now, state =>
    let (answer, after) := others.answer request now state
    answer.delay.bind fun delay => (next answer.value).run others looks (now + delay) after
  | await condition interval timeout next, now, state =>
    let deadline := timeout.map fun span => now + span.milliseconds
    let limit := earlier deadline (others.cancellation state)
    (Wait.run (others.look condition) interval.milliseconds limit looks now state).bind
      fun (outcome, finish, after) =>
        (next outcome (.ofMilliseconds (finish - now))).run others looks finish after
  | connect pod localPort remotePort policy next, now, state =>
    let attempt := others.answer (.cluster (.tunnel pod localPort remotePort))
    (Retry.run policy (fun _ pause => pause) attempt (others.cancellation state) looks 1 now
        policy.initialDelay state).bind
      fun (outcome, finish, after) =>
        (next outcome (.ofMilliseconds (finish - now))).run others looks finish after

end Program
end Testbed
