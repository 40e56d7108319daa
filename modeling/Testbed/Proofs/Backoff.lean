import Testbed.Proofs.Timetable
import Testbed.Time.Retry

namespace Testbed

/-!
# How tries end, and how they are paced

Something is attempted until it succeeds or the policy allows no more attempts.  Given how long every
attempt takes and what comes of it, the tries are determined: the first success within the bound ends them,
or else the failure of the last attempt within the bound.  Between two attempts there is the pause of the
policy, and none after the last.

A pause stays within the bound of the policy because it is cut when it has grown.  The first one has not
grown, and spreading comes after the cut, so both may go beyond the bound.
-/

namespace RetryPolicy

/-- The pause that is due behind an attempt, before it is spread. -/
def delay (policy : RetryPolicy) : Nat → Duration
  | 0 => policy.initialDelay
  | turn + 1 => policy.nextDelay (policy.delay turn)

variable {policy : RetryPolicy}

theorem delay_succ_le (turn : Nat) :
    (policy.delay (turn + 1)).nanoseconds ≤ policy.maxDelay.nanoseconds :=
  Nat.min_le_right _ _

theorem delay_fixed (attempts : Nat) (delay : Duration) (turn : Nat) :
    (fixed attempts delay).delay turn = delay := by
  induction turn with
  | zero => rfl
  | succ turn inductionHypothesis =>
      rw [RetryPolicy.delay, inductionHypothesis, nextDelay]
      exact congrArg Duration.mk (Nat.min_self _)

theorem isExhausted_eq_false_iff {number : Nat} :
    policy.isExhausted number = false ↔ policy.maxAttempts = 0 ∨ number < policy.maxAttempts := by
  rw [isExhausted, Bool.and_eq_false_iff, bne_eq_false_iff_eq, decide_eq_false_iff_not, Nat.not_le]

end RetryPolicy

/-- A timer fires when its time is over, and at the first whole millisecond. -/
theorem Duration.milliseconds_bounds (span : Duration) :
    span.nanoseconds ≤ span.milliseconds * 1000000 ∧
      span.milliseconds * 1000000 < span.nanoseconds + 1000000 := by
  rw [milliseconds]
  omega

/-- A longer span of time is not shorter in milliseconds. -/
theorem Duration.milliseconds_mono {short long : Duration} (within : short.nanoseconds ≤ long.nanoseconds) :
    short.milliseconds ≤ long.milliseconds :=
  Nat.div_le_div_right (Nat.add_le_add_right within _)

/-- All that decides how tries end. -/
structure Trying (ε α : Type) where
  policy : RetryPolicy
  /-- How pauses are spread, if they are. -/
  spread : Nat → Duration → Duration
  start : Nat
  /-- How many milliseconds each attempt takes. -/
  length : Nat → Nat
  /-- What comes of each attempt. -/
  result : Nat → Except ε α

namespace Trying

/-- The pause that is taken behind an attempt, if another one follows. -/
def pause (trying : Trying ε α) (turn : Nat) : Duration :=
  trying.policy.spreadDelay trying.spread (turn + 1) (trying.policy.delay turn)

/-- When the attempts begin and end, as long as there are any. -/
def table (trying : Trying ε α) : Timetable where
  start := trying.start
  length := trying.length
  pause turn := (trying.pause turn).milliseconds

/-- The attempts with what comes of them. -/
def attempts (trying : Trying ε α) (turn : Nat) : Delayed (Except ε α) :=
  ⟨some (trying.length turn), trying.result turn⟩

/-- What comes of tries: how they end, when, and when the attempts have begun.  Nothing comes of them while
they go on for more than so many attempts. -/
def outcome (trying : Trying ε α) (patience : Nat) : Option (RetryOutcome ε α × Nat × List Nat) :=
  Retry.run trying.policy trying.spread (recorded trying.attempts) none patience 1 trying.start
    trying.policy.initialDelay []

/-- Whether so many attempts all fail. -/
def Fails (trying : Trying ε α) (count : Nat) : Prop :=
  ∀ turn < count, ∃ error, trying.result turn = .error error

/-- Whether the policy allows an attempt. -/
def Allows (trying : Trying ε α) (turn : Nat) : Prop :=
  trying.policy.maxAttempts = 0 ∨ turn < trying.policy.maxAttempts

variable {trying : Trying ε α} {turn patience : Nat} {value : α} {error : ε}

/-- The rest of tries, from an attempt on. -/
def rest (trying : Trying ε α) (turn patience : Nat) : Option (RetryOutcome ε α × Nat × List Nat) :=
  Retry.run trying.policy trying.spread (recorded trying.attempts) none patience (turn + 1)
    (trying.table.begins turn) (trying.policy.delay turn) (trying.table.beginnings turn)

theorem outcome_eq (trying : Trying ε α) (patience : Nat) : trying.outcome patience = trying.rest 0 patience :=
  rfl

/-! ## Single attempts -/

/-- What an attempt is followed by. -/
theorem rest_succ (trying : Trying ε α) (turn patience : Nat) :
    trying.rest turn (patience + 1) =
      match trying.result turn with
      | .ok value =>
        some (.succeeded value, trying.table.ends turn, trying.table.beginnings (turn + 1))
      | .error error =>
        if trying.policy.isExhausted (turn + 1) then
          some (.exhausted error, trying.table.ends turn, trying.table.beginnings (turn + 1))
        else trying.rest (turn + 1) patience := by
  rw [rest, Retry.run, recorded_beginnings]
  rfl

theorem rest_of_ok (succeeds : trying.result turn = .ok value) :
    trying.rest turn (patience + 1) =
      some (.succeeded value, trying.table.ends turn, trying.table.beginnings (turn + 1)) := by
  rw [rest_succ, succeeds]

theorem rest_of_error (fails : trying.result turn = .error error) (onward : trying.Allows (turn + 1)) :
    trying.rest turn (patience + 1) = trying.rest (turn + 1) patience := by
  have unbounded := RetryPolicy.isExhausted_eq_false_iff.mpr onward
  rw [rest_succ, fails]
  dsimp only
  rw [unbounded, if_neg Bool.false_ne_true]

theorem rest_of_last (fails : trying.result turn = .error error) (final : ¬ trying.Allows (turn + 1)) :
    trying.rest turn (patience + 1) =
      some (.exhausted error, trying.table.ends turn, trying.table.beginnings (turn + 1)) := by
  have exhausted : trying.policy.isExhausted (turn + 1) = true :=
    eq_true_of_ne_false fun more => final (RetryPolicy.isExhausted_eq_false_iff.mp more)
  rw [rest_succ, fails]
  dsimp only
  rw [exhausted, if_pos rfl]

/-! ## Series of attempts -/

theorem Allows.of_le {before : Nat} (allows : trying.Allows turn) (earlier : before ≤ turn) :
    trying.Allows before :=
  allows.imp_right fun within => Nat.lt_of_le_of_lt earlier within

/-- As long as attempts fail and others are allowed, tries go on. -/
theorem rest_of_fails (fails : trying.Fails turn) (allows : trying.Allows turn) :
    trying.rest 0 (turn + patience) = trying.rest turn patience := by
  induction turn generalizing patience with
  | zero => rw [Nat.zero_add]
  | succ turn inductionHypothesis =>
      have earlier : trying.rest 0 (turn + (patience + 1)) = trying.rest turn (patience + 1) :=
        inductionHypothesis (fun before sooner => fails before (Nat.lt_succ_of_lt sooner))
          (allows.of_le (Nat.le_succ turn))
      rcases fails turn (Nat.lt_succ_self turn) with ⟨error, failed⟩
      rw [Nat.add_assoc, Nat.add_comm 1 patience, earlier, rest_of_error failed allows]

/-- How tries end with an attempt, if they do. -/
inductive EndsWith (trying : Trying ε α) (turn : Nat) : RetryOutcome ε α → Prop where
  | success {value : α} (succeeds : trying.result turn = .ok value) : EndsWith trying turn (.succeeded value)
  | exhaustion {error : ε} (fails : trying.result turn = .error error)
      (final : ¬ trying.Allows (turn + 1)) : EndsWith trying turn (.exhausted error)

theorem rest_of_endsWith {ending : RetryOutcome ε α} (ends : trying.EndsWith turn ending) :
    trying.rest turn (patience + 1) =
      some (ending, trying.table.ends turn, trying.table.beginnings (turn + 1)) := by
  cases ends with
  | success succeeds => exact rest_of_ok succeeds
  | exhaustion fails final => exact rest_of_last fails final

/-- If tries come to an end, it is with some attempt that the policy allows after others that failed. -/
theorem exists_endsWith {ending : RetryOutcome ε α} {finish : Nat} {begun : List Nat}
    (failed : trying.Fails turn) (allowed : trying.Allows turn)
    (ended : trying.rest turn patience = some (ending, finish, begun)) :
    ∃ last, last < turn + patience ∧ trying.Fails last ∧ trying.Allows last ∧
      trying.EndsWith last ending ∧ finish = trying.table.ends last ∧
      begun = trying.table.beginnings (last + 1) := by
  induction patience generalizing turn with
  | zero => cases ended
  | succ patience inductionHypothesis =>
      have now : turn < turn + (patience + 1) := Nat.lt_add_of_pos_right (Nat.succ_pos _)
      cases came : trying.result turn with
      | ok value =>
          rw [rest_of_ok came] at ended
          cases ended
          exact ⟨turn, now, failed, allowed, .success came, rfl, rfl⟩
      | error error =>
          by_cases onward : trying.Allows (turn + 1)
          · rw [rest_of_error came onward] at ended
            have again : trying.Fails (turn + 1) := fun before sooner =>
              (Nat.lt_succ_iff_lt_or_eq.mp sooner).elim (failed before) (fun here => here ▸ ⟨error, came⟩)
            rcases inductionHypothesis again onward ended with ⟨last, within, rest⟩
            exact ⟨last, by omega, rest⟩
          · rw [rest_of_last came onward] at ended
            cases ended
            exact ⟨turn, now, failed, allowed, .exhaustion came onward, rfl, rfl⟩

/-! ## Whole tries -/

/-- Tries come to an end just with the attempt that ends them, and when the timetable says. -/
theorem outcome_eq_some_iff {ending : RetryOutcome ε α} {finish : Nat} {begun : List Nat} :
    trying.outcome patience = some (ending, finish, begun) ↔
      ∃ turn < patience, trying.Fails turn ∧ trying.Allows turn ∧ trying.EndsWith turn ending ∧
        finish = trying.table.ends turn ∧ begun = trying.table.beginnings (turn + 1) := by
  have unfailed : trying.Fails 0 := fun _ none => absurd none (Nat.not_lt_zero _)
  have allowed : trying.Allows 0 := (Nat.eq_zero_or_pos _)
  rw [outcome_eq]
  constructor
  · intro ended
    rcases exists_endsWith unfailed allowed ended with ⟨turn, within, rest⟩
    rw [Nat.zero_add] at within
    exact ⟨turn, within, rest⟩
  · rintro ⟨turn, within, failed, allows, ends, rfl, rfl⟩
    obtain ⟨more, rfl⟩ := Nat.exists_eq_add_of_lt within
    rw [Nat.add_assoc, rest_of_fails failed allows, rest_of_endsWith ends]

/-- Of so many attempts either all fail, or one is the first to succeed. -/
theorem fails_or_exists_ok (trying : Trying ε α) (count : Nat) :
    trying.Fails count ∨
      ∃ turn < count, trying.Fails turn ∧ ∃ value, trying.result turn = .ok value := by
  induction count with
  | zero => exact Or.inl fun _ none => absurd none (Nat.not_lt_zero _)
  | succ count inductionHypothesis =>
      rcases inductionHypothesis with failed | ⟨turn, within, first⟩
      · cases came : trying.result count with
        | ok value => exact Or.inr ⟨count, Nat.lt_succ_self count, failed, value, came⟩
        | error error =>
            refine Or.inl fun turn within => ?_
            rcases Nat.lt_succ_iff_lt_or_eq.mp within with earlier | rfl
            · exact failed turn earlier
            · exact ⟨error, came⟩
      · exact Or.inr ⟨turn, Nat.lt_succ_of_lt within, first⟩

/-- Among the attempts that a policy allows there is one that ends the tries. -/
theorem exists_ending (bounded : trying.policy.maxAttempts ≠ 0) :
    ∃ turn < trying.policy.maxAttempts, trying.Fails turn ∧ ∃ ending, trying.EndsWith turn ending := by
  rcases trying.fails_or_exists_ok trying.policy.maxAttempts with
    failed | ⟨turn, within, failed, value, succeeds⟩
  · obtain ⟨last, count⟩ := Nat.exists_eq_succ_of_ne_zero bounded
    have within : last < trying.policy.maxAttempts := count ▸ Nat.lt_succ_self last
    rcases failed last within with ⟨error, came⟩
    have final : ¬ trying.Allows (last + 1) := fun allowed =>
      allowed.elim bounded fun more => Nat.lt_irrefl _ (count ▸ more)
    exact ⟨last, within, fun turn sooner => failed turn (Nat.lt_trans sooner within), _,
      .exhaustion came final⟩
  · exact ⟨turn, within, failed, _, .success succeeds⟩

/-- How tries without jitter end.  The first success that the policy allows ends them, and so does the failure
of the last attempt that it allows; they end with that success, or that failure, when that attempt ends, and
have made just the attempts up to it.  Under a bound they always end, with no more attempts than it allows.
Without one they end in no other way than with a success, and never if there is none.

The attempts begin when the timetable says: the first at once, and each further one when the pause that is due
is over, at the first whole millisecond.  The pauses grow as the policy lays down, from the given one on; those
of a fixed policy are all the same. -/
theorem outcome_of_trying (trying : Trying ε α) (steady : trying.policy.jitter = false) :
    (∀ turn value, trying.Fails turn → trying.result turn = .ok value →
      (trying.policy.maxAttempts = 0 ∨ turn < trying.policy.maxAttempts) → ∀ patience > turn,
        trying.outcome patience =
          some (.succeeded value, trying.table.ends turn, trying.table.beginnings (turn + 1))) ∧
    (∀ turn error, trying.Fails turn → trying.result turn = .error error →
      turn + 1 = trying.policy.maxAttempts → ∀ patience > turn,
        trying.outcome patience =
          some (.exhausted error, trying.table.ends turn, trying.table.beginnings (turn + 1))) ∧
    (trying.policy.maxAttempts ≠ 0 →
      (∀ patience ≥ trying.policy.maxAttempts, (trying.outcome patience).isSome = true) ∧
      ∀ patience ending finish begun, trying.outcome patience = some (ending, finish, begun) →
        begun.length ≤ trying.policy.maxAttempts) ∧
    (trying.policy.maxAttempts = 0 →
      (∀ patience ending finish begun, trying.outcome patience = some (ending, finish, begun) →
        ∃ value, ending = .succeeded value) ∧
      ((∀ turn, trying.Fails turn) → ∀ patience, trying.outcome patience = none)) ∧
    (trying.table.begins 0 = trying.start ∧ ∀ turn, trying.table.begins (turn + 1) =
        trying.table.begins turn + trying.length turn + (trying.policy.delay turn).milliseconds ∧
      (trying.policy.delay turn).nanoseconds ≤ (trying.policy.delay turn).milliseconds * 1000000 ∧
      (trying.policy.delay turn).milliseconds * 1000000 <
        (trying.policy.delay turn).nanoseconds + 1000000) ∧
    (trying.policy.delay 0 = trying.policy.initialDelay ∧ ∀ turn,
      (trying.policy.delay (turn + 1)).nanoseconds =
        min (trying.policy.growth (trying.policy.delay turn)).nanoseconds
          trying.policy.maxDelay.nanoseconds) ∧
    ∀ attempts delay turn, (RetryPolicy.fixed attempts delay).delay turn = delay := by
  refine ⟨fun turn value failed came allowed patience within => ?_,
    fun turn error failed came last patience within => ?_, fun bounded => ⟨fun patience enough => ?_, ?_⟩,
    fun unbounded => ⟨?_, fun failed patience => ?_⟩, ⟨rfl, fun turn => ?_⟩,
    ⟨rfl, fun turn => rfl⟩, RetryPolicy.delay_fixed⟩
  · exact outcome_eq_some_iff.mpr ⟨turn, within, failed, allowed, .success came, rfl, rfl⟩
  · have allowed : trying.Allows turn := Or.inr (last ▸ Nat.lt_succ_self turn)
    have final : ¬ trying.Allows (turn + 1) := by
      rintro (unbounded | more)
      · rw [← last] at unbounded
        cases unbounded
      · exact Nat.lt_irrefl _ (last ▸ more)
    exact outcome_eq_some_iff.mpr ⟨turn, within, failed, allowed, .exhaustion came final, rfl, rfl⟩
  · rcases exists_ending bounded with ⟨turn, within, failed, ending, ends⟩
    rw [outcome_eq_some_iff.mpr ⟨turn, Nat.lt_of_lt_of_le within enough, failed, Or.inr within, ends, rfl, rfl⟩]
    rfl
  · intro patience ending finish begun ended
    rcases outcome_eq_some_iff.mp ended with ⟨turn, _, _, allowed, _, _, rfl⟩
    rw [Timetable.length_beginnings]
    exact allowed.resolve_left bounded
  · intro patience ending finish begun ended
    rcases outcome_eq_some_iff.mp ended with ⟨turn, _, _, _, ends, _, _⟩
    cases ends with
    | @success value succeeds => exact ⟨value, rfl⟩
    | exhaustion _ final => exact absurd (Or.inl unbounded) final
  · cases ended : trying.outcome patience with
    | none => rfl
    | some found =>
        rcases found with ⟨ending, finish, begun⟩
        rcases outcome_eq_some_iff.mp ended with ⟨turn, _, _, _, ends, _, _⟩
        rcases failed (turn + 1) turn (Nat.lt_succ_self turn) with ⟨error, came⟩
        cases ends with
        | success succeeds =>
            rw [came] at succeeds
            cases succeeds
        | exhaustion _ final => exact absurd (Or.inl unbounded) final
  · have taken : trying.pause turn = trying.policy.delay turn := by
      rw [pause, RetryPolicy.spreadDelay, steady, if_neg Bool.false_ne_true]
    refine ⟨?_, Duration.milliseconds_bounds _⟩
    rw [← taken]
    rfl

/-- Three attempts at most, of half a second each, with pauses that double up to a quarter of a second.  Only
the third attempt succeeds. -/
def growing : Trying String Nat where
  policy :=
    { maxAttempts := 3
      initialDelay := .ofMilliseconds 200
      maxDelay := .ofMilliseconds 250
      growth := fun pause => ⟨2 * pause.nanoseconds⟩
      jitter := false }
  spread _ pause := pause
  start := 0
  length _ := 500
  result
    | 0 | 1 => .error "refused"
    | turn => .ok turn

theorem growing_fails : growing.Fails 2 := by
  intro turn within
  match turn, within with
  | 0, _ | 1, _ => exact ⟨"refused", rfl⟩

/-- These tries end with their third attempt. -/
theorem outcome_of_growing :
    growing.policy.jitter = false ∧
      growing.outcome 3 = some (.succeeded 2, growing.table.ends 2, growing.table.beginnings 3) ∧
      growing.table.beginnings 3 = [0, 700, 1450] := by
  have ended := (outcome_of_trying growing rfl).1 2 2 growing_fails rfl (Or.inr (by decide)) 3 (by decide)
  exact ⟨rfl, ended, by decide⟩

/-! ## The bound on pauses -/

/-- A pause stays within the bound of the policy if, where it is the first, the policy begins within the bound,
and if spreading, where there is any, does not make it longer. -/
theorem pause_le (modest : turn = 0 →
      trying.policy.initialDelay.nanoseconds ≤ trying.policy.maxDelay.nanoseconds)
    (spread : trying.policy.jitter = true →
      (trying.spread (turn + 1) (trying.policy.delay turn)).nanoseconds ≤
        (trying.policy.delay turn).nanoseconds) :
    (trying.pause turn).nanoseconds ≤ trying.policy.maxDelay.nanoseconds := by
  have bounded : (trying.policy.delay turn).nanoseconds ≤ trying.policy.maxDelay.nanoseconds := by
    cases turn with
    | zero => exact modest rfl
    | succ turn => exact RetryPolicy.delay_succ_le turn
  rw [pause, RetryPolicy.spreadDelay]
  split
  · rename_i jitter
    exact Nat.le_trans (spread jitter) bounded
  · exact bounded

/-- The pauses of tries.  When tries come to an end, their attempts have begun when the timetable says.  Each
attempt but the first begins as soon as the one before it has failed and a pause is over.  The pause is at
most the bound of the policy, under two conditions: if it is the first, the policy does not begin beyond its
own bound; and if pauses are spread, spreading does not make this one longer. -/
theorem pauses_of_trying (trying : Trying ε α) (patience : Nat) (ending : RetryOutcome ε α) (finish : Nat)
    (begun : List Nat) (ended : trying.outcome patience = some (ending, finish, begun)) :
    begun = trying.table.beginnings begun.length ∧
    ∀ turn, turn + 1 < begun.length →
      (∃ error, trying.result turn = .error error) ∧
      trying.table.begins (turn + 1) = trying.table.ends turn + (trying.pause turn).milliseconds ∧
      ((turn = 0 → trying.policy.initialDelay.nanoseconds ≤ trying.policy.maxDelay.nanoseconds) →
        (trying.policy.jitter = true →
          (trying.spread (turn + 1) (trying.policy.delay turn)).nanoseconds ≤
            (trying.policy.delay turn).nanoseconds) →
        (trying.pause turn).nanoseconds ≤ trying.policy.maxDelay.nanoseconds ∧
          trying.table.begins (turn + 1) ≤ trying.table.ends turn + trying.policy.maxDelay.milliseconds) := by
  rcases outcome_eq_some_iff.mp ended with ⟨last, _, failed, _, _, _, rfl⟩
  rw [Timetable.length_beginnings]
  refine ⟨rfl, fun turn within => ⟨failed turn (Nat.lt_of_succ_lt_succ within), rfl, ?_⟩⟩
  intro modest spread
  have bounded := pause_le modest spread
  refine ⟨bounded, ?_⟩
  rw [Timetable.begins_succ]
  exact Nat.add_le_add_left (Duration.milliseconds_mono bounded) _

/-- The pauses of the tries above stay within their bound. -/
theorem pauses_of_growing :
    growing.outcome 3 = some (.succeeded 2, 1950, [0, 700, 1450]) ∧
      (growing.pause 0).nanoseconds ≤ growing.policy.maxDelay.nanoseconds ∧
      (growing.pause 1).nanoseconds ≤ growing.policy.maxDelay.nanoseconds := by
  have ended : growing.outcome 3 = some (.succeeded 2, 1950, [0, 700, 1450]) := by decide
  have paced := (pauses_of_trying growing 3 _ _ _ ended).2
  have first := (paced 0 (by decide)).2.2 (fun _ => by decide) (fun spread => nomatch spread)
  have second := (paced 1 (by decide)).2.2 (fun _ => by decide) (fun spread => nomatch spread)
  exact ⟨ended, first.1, second.1⟩

/-- Two attempts at most, with a first pause beyond the bound.  The second attempt succeeds. -/
def hasty : Trying String Nat where
  policy :=
    { maxAttempts := 2
      initialDelay := .ofMilliseconds 5000
      maxDelay := .ofMilliseconds 1000
      growth := fun pause => ⟨2 * pause.nanoseconds⟩
      jitter := false }
  spread _ pause := pause
  start := 0
  length _ := 0
  result
    | 0 => .error "refused"
    | turn => .ok turn

/-- The first pause is taken as it is given, even beyond the bound. -/
theorem hasty_exceeds_bound :
    hasty.outcome 2 = some (.succeeded 1, 5000, [0, 5000]) ∧ hasty.table.ends 0 = 0 ∧
      hasty.policy.maxDelay.milliseconds = 1000 ∧
      ¬ (hasty.pause 0).nanoseconds ≤ hasty.policy.maxDelay.nanoseconds := by
  decide

end Trying
end Testbed
