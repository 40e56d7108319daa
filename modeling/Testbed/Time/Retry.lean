import Testbed.Time.Wait

namespace Testbed

/-!
Trying again. A policy bounds the number of attempts and lays down the pauses between them: the first
pause is given, and every further one grows from the one before it, up to a bound. A success ends the
tries at once; so does the failure of the last attempt that the policy allows.
-/

/-- How often and how patiently something is tried. -/
structure RetryPolicy where
  /-- How many attempts are made; without bound if zero. -/
  maxAttempts : Nat
  initialDelay : Duration
  maxDelay : Duration
  /-- What a pause becomes before the bound is applied. -/
  growth : Duration → Duration
  /-- Whether pauses are spread at random. -/
  jitter : Bool

namespace RetryPolicy

/-- Pauses that double from a tenth of a second to half a minute, spread at random, without end. -/
def patient : RetryPolicy :=
  { maxAttempts := 0
    initialDelay := .ofMilliseconds 100
    maxDelay := .ofSeconds 30
    growth := fun pause => pause.scale 2.0
    jitter := true }

/-- The same pause between all attempts. -/
def fixed (attempts : Nat) (delay : Duration) : RetryPolicy :=
  { maxAttempts := attempts, initialDelay := delay, maxDelay := delay, growth := id, jitter := false }

/-- Whether no attempt may follow the one of this number. -/
def isExhausted (policy : RetryPolicy) (attempt : Nat) : Bool :=
  policy.maxAttempts != 0 && policy.maxAttempts ≤ attempt

/-- The pause after a pause. -/
def nextDelay (policy : RetryPolicy) (pause : Duration) : Duration :=
  ⟨min (policy.growth pause).nanoseconds policy.maxDelay.nanoseconds⟩

/-- A pause as it is taken after an attempt, given how pauses are spread. -/
def spreadDelay (policy : RetryPolicy) (spread : Nat → Duration → Duration) (attempt : Nat)
    (pause : Duration) : Duration :=
  if policy.jitter then spread attempt pause else pause

end RetryPolicy

/-- How tries ended. -/
inductive RetryOutcome (ε α : Type) where
  | succeeded (value : α)
  | exhausted (error : ε)
  | cancelled
  deriving DecidableEq

namespace Retry

/-- Attempts from a number on, the first of them at the instant `now`, with the pause that follows it.
There is no result when the tries do not end within the given number of attempts. -/
def run (policy : RetryPolicy) (spread : Nat → Duration → Duration)
    (attempt : Nat → σ → Delayed (Except ε α) × σ) (limit : Option Nat) :
    Nat → Nat → Nat → Duration → σ → Option (RetryOutcome ε α × Nat × σ)
  | 0, _, _, _, _ => none
  | attempts + 1, number, now, pause, state =>
    let (answer, after) := attempt now state
    match answer.delay with
    | none => limit.map fun _ => (.cancelled, Wait.expiry limit now, after)
    | some delay =>
      if Wait.isBeyond limit (now + delay) then some (.cancelled, Wait.expiry limit now, after)
      else
        match answer.value with
        | .ok value => some (.succeeded value, now + delay, after)
        | .error error =>
          if policy.isExhausted number then some (.exhausted error, now + delay, after)
          else
            let next := now + delay + (policy.spreadDelay spread number pause).milliseconds
            if Wait.isReached limit next then
              some (.cancelled, Wait.expiry limit (now + delay), after)
            else run policy spread attempt limit attempts (number + 1) next (policy.nextDelay pause) after

end Retry
end Testbed
