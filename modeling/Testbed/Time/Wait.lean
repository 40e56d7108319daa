import Testbed.Error
import Testbed.Time.Duration

namespace Testbed

/-!
Waiting for a condition. The condition is looked at again and again, with a pause after every look that
found it unmet. A wait ends when a look finds it met, when a look fails, or when the limit is reached:
a deadline or a cancellation, whichever is first, even in the middle of a look. Instants are whole
milliseconds.
-/

/-- An answer that takes its time, or never comes. -/
structure Delayed (α : Type) where
  /-- After how many milliseconds the answer comes, if ever. -/
  delay : Option Nat
  value : α

/-- How a wait ended. -/
inductive WaitOutcome (ε : Type) where
  | met
  | failed (error : ε)
  | expired
  deriving DecidableEq

/-- The earlier of two limits. -/
def earlier : Option Nat → Option Nat → Option Nat
  | none, second => second
  | first, none => first
  | some first, some second => some (min first second)

namespace Wait

/-- Whether an instant lies beyond the limit. -/
def isBeyond (limit : Option Nat) (instant : Nat) : Bool :=
  limit.any (· < instant)

/-- Whether the limit is reached at an instant. -/
def isReached (limit : Option Nat) (instant : Nat) : Bool :=
  limit.any (· ≤ instant)

/-- The instant at which a wait that is under way at `now` meets its limit. -/
def expiry (limit : Option Nat) (now : Nat) : Nat :=
  max now (limit.getD now)

/-- A wait from an instant on: its outcome, the instant of its end, and the state that looking at the
condition has left. There is no result when the wait does not end within the given number of looks. -/
def run (look : Nat → σ → Delayed (Except ε Bool) × σ) (interval : Nat) (limit : Option Nat) :
    Nat → Nat → σ → Option (WaitOutcome ε × Nat × σ)
  | 0, _, _ => none
  | looks + 1, now, state =>
    let (answer, after) := look now state
    match answer.delay with
    | none => limit.map fun _ => (.expired, expiry limit now, after)
    | some delay =>
      if isBeyond limit (now + delay) then some (.expired, expiry limit now, after)
      else
        match answer.value with
        | .error error => some (.failed error, now + delay, after)
        | .ok true => some (.met, now + delay, after)
        | .ok false =>
          let next := now + delay + interval
          if isReached limit next then some (.expired, expiry limit (now + delay), after)
          else run look interval limit looks next after

/-- The result of a wait for an operation on an instance that took the given time. -/
def settle (name operation : String) (elapsed : Duration) :
    WaitOutcome Error → Except Error Unit
  | .met => .ok ()
  | .failed error => .error error
  | .expired => .error (.timeout name operation elapsed)

end Wait
end Testbed
