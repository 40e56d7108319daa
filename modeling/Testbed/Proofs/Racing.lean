import Testbed.Proofs.Backoff

namespace Testbed

/-!
# Tries that can be called off

Something is attempted again and again with the same pause in between, until an attempt succeeds, or as many
have failed as are allowed, or the tries are called off, be it in the middle of an attempt or of a pause.  An
attempt may also never come to an end.  Which attempts are made can be said without a look at how tries end: an
attempt is made if it is allowed, if those before it have failed, and if it is due before the tries are called
off.  How tries end can be read off the last of these.

Nothing is said about tries that are called off at the very instant at which an attempt begins or ends, where
either may come first.
-/

/-- All that decides how tries end that can be called off. -/
structure Racing (ε α : Type) where
  /-- How many attempts are allowed. -/
  attempts : Nat
  pause : Duration
  start : Nat
  /-- The instant at which the tries are called off, if ever. -/
  cancellation : Option Nat
  /-- What comes of each attempt, and how long it takes. -/
  replies : Nat → Delayed (Except ε α)

namespace Racing

/-- When the attempts begin and end, as long as there are any. -/
def table (racing : Racing ε α) : Timetable where
  start := racing.start
  length turn := (racing.replies turn).delay.getD 0
  pause _ := racing.pause.milliseconds

/-- Whether an instant comes before the tries are called off. -/
def IsInTime (racing : Racing ε α) (instant : Nat) : Prop :=
  ∀ last, racing.cancellation = some last → instant < last

/-- Whether an attempt comes to an end, if it is made and not called off. -/
def Answers (racing : Racing ε α) (turn : Nat) : Prop :=
  (racing.replies turn).delay.isSome = true

/-- Whether so many attempts all fail. -/
def Fails (racing : Racing ε α) (count : Nat) : Prop :=
  ∀ turn < count, racing.Answers turn ∧ ∃ error, (racing.replies turn).value = .error error

/-- Whether an attempt is made. -/
structure IsMade (racing : Racing ε α) (turn : Nat) : Prop where
  allowed : turn < racing.attempts
  failed : racing.Fails turn
  inTime : racing.IsInTime (racing.table.begins turn)

/-- Whether an attempt is made and succeeds. -/
structure Succeeds (racing : Racing ε α) (turn : Nat) (value : α) : Prop where
  allowed : turn < racing.attempts
  failed : racing.Fails turn
  answers : racing.Answers turn
  succeeds : (racing.replies turn).value = .ok value
  inTime : racing.IsInTime (racing.table.ends turn)

/-- Whether an attempt is the last that is allowed, and fails like all before it. -/
structure Exhausts (racing : Racing ε α) (turn : Nat) (error : ε) : Prop where
  final : turn + 1 = racing.attempts
  failed : racing.Fails racing.attempts
  fails : (racing.replies turn).value = .error error
  inTime : racing.IsInTime (racing.table.ends turn)

/-- Whether tries are not called off just when an attempt begins or ends. -/
def IsClear (racing : Racing ε α) : Prop :=
  ∀ last, racing.cancellation = some last → ∀ turn < racing.attempts, racing.Fails turn →
    racing.table.begins turn ≠ last ∧ (racing.Answers turn → racing.table.ends turn ≠ last)

variable {racing : Racing ε α} {turn before looks last : Nat} {value : α} {error : ε}

/-! ## Which attempts are made -/

theorem IsInTime.of_le {early late : Nat} (inTime : racing.IsInTime late) (sooner : early ≤ late) :
    racing.IsInTime early :=
  fun last limited => Nat.lt_of_le_of_lt sooner (inTime last limited)

theorem isInTime_of_unlimited {instant : Nat} (unlimited : racing.cancellation = none) :
    racing.IsInTime instant := by
  intro last limited
  rw [unlimited] at limited
  cases limited

theorem Fails.of_le (failed : racing.Fails turn) (sooner : before ≤ turn) : racing.Fails before :=
  fun other within => failed other (Nat.lt_of_lt_of_le within sooner)

theorem Fails.succ (failed : racing.Fails turn) (answers : racing.Answers turn)
    (fails : ∃ error, (racing.replies turn).value = .error error) : racing.Fails (turn + 1) := by
  intro other within
  rcases Nat.lt_succ_iff_lt_or_eq.mp within with sooner | rfl
  · exact failed other sooner
  · exact ⟨answers, fails⟩

theorem IsMade.of_le (made : racing.IsMade turn) (sooner : before ≤ turn) : racing.IsMade before where
  allowed := Nat.lt_of_le_of_lt sooner made.allowed
  failed := made.failed.of_le sooner
  inTime := made.inTime.of_le (Timetable.begins_mono sooner)

theorem Succeeds.isMade (succeeds : racing.Succeeds turn value) : racing.IsMade turn where
  allowed := succeeds.allowed
  failed := succeeds.failed
  inTime := succeeds.inTime.of_le (Timetable.begins_le_ends turn)

theorem Exhausts.isMade (exhausts : racing.Exhausts turn error) : racing.IsMade turn where
  allowed := exhausts.final ▸ Nat.lt_succ_self turn
  failed := exhausts.failed.of_le (exhausts.final ▸ Nat.le_succ turn)
  inTime := exhausts.inTime.of_le (Timetable.begins_le_ends turn)

/-- No attempt is made after one that succeeds. -/
theorem Succeeds.not_isMade (succeeds : racing.Succeeds turn value) : ¬ racing.IsMade (turn + 1) := by
  intro next
  rcases (next.failed turn (Nat.lt_succ_self turn)).2 with ⟨error, failed⟩
  rw [succeeds.succeeds] at failed
  cases failed

/-- No attempt is made after the last one that is allowed. -/
theorem Exhausts.not_isMade (exhausts : racing.Exhausts turn error) : ¬ racing.IsMade (turn + 1) :=
  fun next => Nat.lt_irrefl _ (exhausts.final ▸ next.allowed)

/-- The first attempt is made, and some attempt is the last. -/
theorem exists_last (bounded : racing.attempts ≠ 0) (begun : racing.IsInTime racing.start) :
    ∃ turn, racing.IsMade turn ∧ ¬ racing.IsMade (turn + 1) := by
  apply Classical.byContradiction
  intro none
  have all (turn : Nat) : racing.IsMade turn := by
    induction turn with
    | zero => exact ⟨Nat.pos_of_ne_zero bounded, fun _ impossible => absurd impossible (Nat.not_lt_zero _), begun⟩
    | succ turn inductionHypothesis =>
        exact Classical.byContradiction fun stays => none ⟨turn, inductionHypothesis, stays⟩
  exact Nat.lt_irrefl _ (all racing.attempts).allowed

/-- The attempts up to the last one are those that are made. -/
theorem lt_succ_iff_isMade (made : racing.IsMade turn) (final : ¬ racing.IsMade (turn + 1)) (other : Nat) :
    other < turn + 1 ↔ racing.IsMade other := by
  constructor
  · exact fun within => made.of_le (Nat.lt_succ_iff.mp within)
  · intro again
    exact Nat.not_le.mp fun later => final (again.of_le later)

/-! ## The tries

What attempts leave behind is a state of any kind: all that is asked of the attempts is that they come out as the
replies say, one after the other, if they are made when the timetable says. -/

section

variable {σ : Type} {attempt : Nat → σ → Delayed (Except ε α) × σ} {states : Nat → σ}

/-- The rest of tries, from an attempt on. -/
def rest (racing : Racing ε α) (attempt : Nat → σ → Delayed (Except ε α) × σ) (states : Nat → σ)
    (turn looks : Nat) : Option (RetryOutcome ε α × Nat × σ) :=
  Retry.run (.fixed racing.attempts racing.pause) (fun _ pause => pause) attempt racing.cancellation looks
    (turn + 1) (racing.table.begins turn) racing.pause (states turn)

theorem ends_eq {delay : Nat} (answered : (racing.replies turn).delay = some delay) :
    racing.table.ends turn = racing.table.begins turn + delay := by
  rw [Timetable.ends]
  dsimp only [table]
  rw [answered, Option.getD_some]

theorem isBeyond_eq_false {instant : Nat} (inTime : racing.IsInTime instant) :
    Wait.isBeyond racing.cancellation instant = false := by
  cases limited : racing.cancellation with
  | none => rfl
  | some last => exact decide_eq_false (Nat.not_lt.mpr (Nat.le_of_lt (inTime last limited)))

theorem isReached_eq_false {instant : Nat} (inTime : racing.IsInTime instant) :
    Wait.isReached racing.cancellation instant = false := by
  cases limited : racing.cancellation with
  | none => rfl
  | some last => exact decide_eq_false (Nat.not_le.mpr (inTime last limited))

theorem exists_of_not_isInTime {instant : Nat} (late : ¬ racing.IsInTime instant) :
    ∃ last, racing.cancellation = some last ∧ last ≤ instant := by
  simpa only [IsInTime, Classical.not_forall, Nat.not_lt, exists_prop] using late

/-- Tries that are under way before they are called off end when they are. -/
theorem expiry_eq (limited : racing.cancellation = some last) {instant : Nat}
    (inTime : racing.IsInTime instant) : Wait.expiry racing.cancellation instant = last := by
  rw [limited]
  exact Nat.max_eq_right (Nat.le_of_lt (inTime last limited))

theorem nextDelay_fixed (attempts : Nat) (pause : Duration) :
    (RetryPolicy.fixed attempts pause).nextDelay pause = pause :=
  congrArg Duration.mk (Nat.min_self _)

variable (follows : ∀ turn, attempt (racing.table.begins turn) (states turn) =
  (racing.replies turn, states (turn + 1)))

include follows

/-- What an attempt that comes to an end is followed by. -/
theorem rest_of_answered {delay : Nat} (answered : (racing.replies turn).delay = some delay) :
    racing.rest attempt states turn (looks + 1) =
      if Wait.isBeyond racing.cancellation (racing.table.ends turn) then
        some (.cancelled, Wait.expiry racing.cancellation (racing.table.begins turn), states (turn + 1))
      else
        match (racing.replies turn).value with
        | .ok value => some (.succeeded value, racing.table.ends turn, states (turn + 1))
        | .error error =>
          if (RetryPolicy.fixed racing.attempts racing.pause).isExhausted (turn + 1) then
            some (.exhausted error, racing.table.ends turn, states (turn + 1))
          else if Wait.isReached racing.cancellation (racing.table.begins (turn + 1)) then
            some (.cancelled, Wait.expiry racing.cancellation (racing.table.ends turn), states (turn + 1))
          else racing.rest attempt states (turn + 1) looks := by
  rw [rest, Retry.run, follows, rest, Timetable.begins_succ, ends_eq answered]
  simp only [answered, nextDelay_fixed]
  rfl

/-- An attempt that never comes to an end lasts until the tries are called off. -/
theorem rest_of_hanging (hangs : ¬ racing.Answers turn) :
    racing.rest attempt states turn (looks + 1) = racing.cancellation.map fun _ =>
      (.cancelled, Wait.expiry racing.cancellation (racing.table.begins turn), states (turn + 1)) := by
  have unanswered : (racing.replies turn).delay = none := by
    simpa only [Answers, Bool.not_eq_true, Option.isSome_eq_false_iff, Option.isNone_iff_eq_none] using hangs
  rw [rest, Retry.run, follows]
  simp only [unanswered]

/-- An attempt that fails in time is followed by the next one, if that is made. -/
theorem rest_of_isMade_succ (next : racing.IsMade (turn + 1)) :
    racing.rest attempt states turn (looks + 1) = racing.rest attempt states (turn + 1) looks := by
  rcases next.failed turn (Nat.lt_succ_self turn) with ⟨answers, error, failed⟩
  rcases Option.isSome_iff_exists.mp answers with ⟨delay, answered⟩
  have early : Wait.isBeyond racing.cancellation (racing.table.ends turn) = false :=
    isBeyond_eq_false (next.inTime.of_le (Timetable.ends_le_begins (Nat.lt_succ_self turn)))
  have more : (RetryPolicy.fixed racing.attempts racing.pause).isExhausted (turn + 1) = false :=
    RetryPolicy.isExhausted_eq_false_iff.mpr (Or.inr next.allowed)
  rw [rest_of_answered follows answered, early, if_neg Bool.false_ne_true, failed]
  dsimp only
  rw [more, if_neg Bool.false_ne_true, isReached_eq_false next.inTime, if_neg Bool.false_ne_true]

/-- Tries come to every attempt that is made. -/
theorem rest_of_isMade (made : racing.IsMade turn) :
    racing.rest attempt states 0 (turn + looks) = racing.rest attempt states turn looks := by
  induction turn generalizing looks with
  | zero => rw [Nat.zero_add]
  | succ turn inductionHypothesis =>
      have earlier : racing.rest attempt states 0 (turn + (looks + 1)) =
          racing.rest attempt states turn (looks + 1) := inductionHypothesis (made.of_le (Nat.le_succ turn))
      rw [Nat.add_assoc, Nat.add_comm 1 looks, earlier, rest_of_isMade_succ follows made]

theorem rest_of_succeeds (succeeds : racing.Succeeds turn value) :
    racing.rest attempt states turn (looks + 1) =
      some (.succeeded value, racing.table.ends turn, states (turn + 1)) := by
  rcases Option.isSome_iff_exists.mp succeeds.answers with ⟨delay, answered⟩
  rw [rest_of_answered follows answered, isBeyond_eq_false succeeds.inTime, if_neg Bool.false_ne_true,
    succeeds.succeeds]

theorem rest_of_exhausts (exhausts : racing.Exhausts turn error) :
    racing.rest attempt states turn (looks + 1) =
      some (.exhausted error, racing.table.ends turn, states (turn + 1)) := by
  have allowed := exhausts.isMade.allowed
  rcases Option.isSome_iff_exists.mp (exhausts.failed turn allowed).1 with ⟨delay, answered⟩
  have exhausted : (RetryPolicy.fixed racing.attempts racing.pause).isExhausted (turn + 1) = true := by
    have count := exhausts.final
    rw [RetryPolicy.isExhausted, Bool.and_eq_true, bne_iff_ne, decide_eq_true_eq]
    exact ⟨Nat.ne_zero_of_lt allowed, Nat.le_of_eq count.symm⟩
  rw [rest_of_answered follows answered, isBeyond_eq_false exhausts.inTime, if_neg Bool.false_ne_true,
    exhausts.fails]
  dsimp only
  rw [exhausted, if_pos rfl]

/-- Tries that neither succeed nor are exhausted with the last attempt that is made end when they are called
off: during the attempt, if it takes longer, and otherwise during the pause behind it. -/
theorem rest_of_calledOff (clear : racing.IsClear) (made : racing.IsMade turn)
    (final : ¬ racing.IsMade (turn + 1)) (limited : racing.cancellation = some last)
    (unsuccessful : ∀ value, ¬ racing.Succeeds turn value)
    (more : ∀ error, ¬ racing.Exhausts turn error) :
    racing.rest attempt states turn (looks + 1) = some (.cancelled, last, states (turn + 1)) := by
  have atStart := expiry_eq limited made.inTime
  cases answered : (racing.replies turn).delay with
  | none =>
      have hangs : ¬ racing.Answers turn := by
        rw [Answers, answered]
        exact Bool.false_ne_true
      rw [rest_of_hanging follows hangs, atStart, limited]
      rfl
  | some delay =>
      have answers : racing.Answers turn := Option.isSome_iff_exists.mpr ⟨delay, answered⟩
      rw [rest_of_answered follows answered, atStart]
      by_cases inTime : racing.IsInTime (racing.table.ends turn)
      · rw [isBeyond_eq_false inTime, if_neg Bool.false_ne_true]
        cases came : (racing.replies turn).value with
        | ok value => exact absurd ⟨made.allowed, made.failed, answers, came, inTime⟩ (unsuccessful value)
        | error error =>
            have failed : racing.Fails (turn + 1) := made.failed.succ answers ⟨error, came⟩
            have allowed : turn + 1 < racing.attempts := by
              refine Nat.lt_of_le_of_ne made.allowed fun count => more error ?_
              exact ⟨count, count ▸ failed, came, inTime⟩
            have unexhausted :
                (RetryPolicy.fixed racing.attempts racing.pause).isExhausted (turn + 1) = false :=
              RetryPolicy.isExhausted_eq_false_iff.mpr (Or.inr allowed)
            -- The next attempt is allowed, so it can only be late.
            rcases exists_of_not_isInTime fun roomy => final ⟨allowed, failed, roomy⟩ with
              ⟨other, same, late⟩
            have reached : Wait.isReached racing.cancellation (racing.table.begins (turn + 1)) = true := by
              rw [same]
              exact decide_eq_true late
            dsimp only
            rw [unexhausted, if_neg Bool.false_ne_true, reached, if_pos rfl, expiry_eq limited inTime]
      · rcases exists_of_not_isInTime inTime with ⟨other, same, late⟩
        obtain rfl := Option.some.inj (same.symm.trans limited)
        have apart := (clear other limited turn made.allowed made.failed).2 answers
        have beyond : Wait.isBeyond racing.cancellation (racing.table.ends turn) = true := by
          rw [limited]
          exact decide_eq_true (Nat.lt_of_le_of_ne late apart.symm)
        rw [beyond, if_pos rfl]

/-- Without being called off, tries that neither succeed nor are exhausted with the last attempt that is made
do not end, as this attempt does not. -/
theorem rest_of_never (unlimited : racing.cancellation = none) (made : racing.IsMade turn)
    (final : ¬ racing.IsMade (turn + 1)) (unsuccessful : ∀ value, ¬ racing.Succeeds turn value)
    (more : ∀ error, ¬ racing.Exhausts turn error) :
    racing.rest attempt states turn (looks + 1) = none := by
  have always (instant : Nat) : racing.IsInTime instant := isInTime_of_unlimited unlimited
  have hangs : ¬ racing.Answers turn := by
    intro answers
    cases came : (racing.replies turn).value with
    | ok value => exact unsuccessful value ⟨made.allowed, made.failed, answers, came, always _⟩
    | error error =>
        have failed : racing.Fails (turn + 1) := made.failed.succ answers ⟨error, came⟩
        by_cases count : turn + 1 = racing.attempts
        · exact more error ⟨count, count ▸ failed, came, always _⟩
        · exact final ⟨Nat.lt_of_le_of_ne made.allowed count, failed, always _⟩
  rw [rest_of_hanging follows hangs, unlimited]
  rfl

/-! ## Whole tries -/

/-- Tries come to every attempt that is made, if there is patience for as many as are allowed. -/
theorem exists_rest (made : racing.IsMade turn) (patient : racing.attempts ≤ looks) :
    ∃ more, racing.rest attempt states 0 looks = racing.rest attempt states turn (more + 1) := by
  obtain ⟨more, rfl⟩ := Nat.exists_eq_add_of_lt (Nat.lt_of_lt_of_le made.allowed patient)
  refine ⟨more, ?_⟩
  rw [Nat.add_assoc, rest_of_isMade follows made]

/-- A success ends tries, when it is there. -/
theorem tries_of_succeeds (succeeds : racing.Succeeds turn value) (patient : racing.attempts ≤ looks) :
    racing.rest attempt states 0 looks =
      some (.succeeded value, racing.table.ends turn, states (turn + 1)) := by
  rcases exists_rest follows succeeds.isMade patient with ⟨more, same⟩
  rw [same, rest_of_succeeds follows succeeds]

/-- So does the failure of the last attempt that is allowed. -/
theorem tries_of_exhausts (exhausts : racing.Exhausts turn error) (patient : racing.attempts ≤ looks) :
    racing.rest attempt states 0 looks =
      some (.exhausted error, racing.table.ends turn, states racing.attempts) := by
  rcases exists_rest follows exhausts.isMade patient with ⟨more, same⟩
  rw [same, rest_of_exhausts follows exhausts, exhausts.final]

/-- Tries that end in neither way before they are called off end then. -/
theorem tries_of_calledOff (bounded : racing.attempts ≠ 0) (begun : racing.IsInTime racing.start)
    (clear : racing.IsClear) (limited : racing.cancellation = some last)
    (unsuccessful : ∀ turn value, ¬ racing.Succeeds turn value)
    (more : ∀ turn error, ¬ racing.Exhausts turn error) (patient : racing.attempts ≤ looks) :
    ∃ count, (∀ turn, turn < count ↔ racing.IsMade turn) ∧
      racing.rest attempt states 0 looks = some (.cancelled, last, states count) := by
  rcases exists_last bounded begun with ⟨turn, made, final⟩
  rcases exists_rest follows made patient with ⟨further, same⟩
  refine ⟨turn + 1, lt_succ_iff_isMade made final, ?_⟩
  rw [same, rest_of_calledOff follows clear made final limited (unsuccessful turn) (more turn)]

/-- If they are never called off, they do not end. -/
theorem tries_of_never (bounded : racing.attempts ≠ 0) (unlimited : racing.cancellation = none)
    (unsuccessful : ∀ turn value, ¬ racing.Succeeds turn value)
    (more : ∀ turn error, ¬ racing.Exhausts turn error) (patient : racing.attempts ≤ looks) :
    racing.rest attempt states 0 looks = none := by
  rcases exists_last bounded (isInTime_of_unlimited unlimited) with ⟨turn, made, final⟩
  rcases exists_rest follows made patient with ⟨further, same⟩
  rw [same, rest_of_never follows unlimited made final (unsuccessful turn) (more turn)]

/-- Whichever way tries end, the attempts that are made are those that have left something behind. -/
theorem exists_count_of_tries {outcome : RetryOutcome ε α} {finish : Nat} {after : σ}
    (bounded : racing.attempts ≠ 0) (begun : racing.IsInTime racing.start) (clear : racing.IsClear)
    (patient : racing.attempts ≤ looks)
    (ended : racing.rest attempt states 0 looks = some (outcome, finish, after)) :
    (∃ count ≤ racing.attempts, (∀ turn, turn < count ↔ racing.IsMade turn) ∧ after = states count) ∧
      ∀ value, outcome = .succeeded value → ∃ turn, racing.Succeeds turn value := by
  by_cases success : ∃ turn value, racing.Succeeds turn value
  · rcases success with ⟨turn, value, succeeds⟩
    rw [tries_of_succeeds follows succeeds patient] at ended
    cases ended
    refine ⟨⟨turn + 1, succeeds.allowed, lt_succ_iff_isMade succeeds.isMade succeeds.not_isMade, rfl⟩, ?_⟩
    rintro _ ⟨⟩
    exact ⟨turn, succeeds⟩
  by_cases exhaustion : ∃ turn error, racing.Exhausts turn error
  · rcases exhaustion with ⟨turn, error, exhausts⟩
    rw [tries_of_exhausts follows exhausts patient] at ended
    cases ended
    refine ⟨⟨racing.attempts, Nat.le_refl _, fun other => ?_, rfl⟩, fun _ impossible => nomatch impossible⟩
    rw [← lt_succ_iff_isMade exhausts.isMade exhausts.not_isMade, exhausts.final]
  have unsuccessful (turn : Nat) (value : α) (succeeds : racing.Succeeds turn value) : False :=
    success ⟨turn, value, succeeds⟩
  have more (turn : Nat) (error : ε) (exhausts : racing.Exhausts turn error) : False :=
    exhaustion ⟨turn, error, exhausts⟩
  cases limited : racing.cancellation with
  | none =>
      rw [tries_of_never follows bounded limited unsuccessful more patient] at ended
      cases ended
  | some last =>
      rcases tries_of_calledOff follows bounded begun clear limited unsuccessful more patient with
        ⟨count, made, same⟩
      rw [same] at ended
      cases ended
      have within : count ≤ racing.attempts :=
        Nat.not_lt.mp fun beyond => Nat.lt_irrefl _ ((made racing.attempts).mp beyond).allowed
      exact ⟨⟨count, within, made, rfl⟩, fun _ impossible => nomatch impossible⟩

end

end Racing
end Testbed
