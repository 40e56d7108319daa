import Testbed.Action.Basic
import Testbed.Proofs.Timetable

namespace Testbed

/-!
# How waits end

A wait looks at its condition again and again.  Given how long every check takes and what it finds, the wait
is determined: the first check that finds the condition met, or fails, ends it, if it answers before the
limit; otherwise the wait ends at the limit, be it in the middle of a check or of a pause.  No wait with a
limit looks more often than its interval fits into the time, so it ends even if a check never answers.

Nothing is said about a check that begins or ends exactly at the limit, where either may come first.
-/

namespace Wait

/-- A wait for an operation on an instance, from an instant on.  It expires after one span of time and is
called off after another, both counted from its start.  Its result, its end, and what looking has left. -/
def poll (name operation : String) (look : Nat → σ → Delayed (Except Error Bool) × σ) (interval : Nat)
    (timeout cancellation : Option Nat) (looks start : Nat) (state : σ) :
    Option (Except Error Unit × Nat × σ) :=
  (run look interval ((earlier timeout cancellation).map (start + ·)) looks start state).map
    fun (outcome, finish, after) =>
      (settle name operation (.ofMilliseconds (finish - start)) outcome, finish, after)

theorem earlier_map_add (start : Nat) (first second : Option Nat) :
    (earlier first second).map (start + ·) =
      earlier (first.map (start + ·)) (second.map (start + ·)) := by
  cases first with
  | none => rfl
  | some first =>
      cases second with
      | none => rfl
      | some second => exact congrArg some (Nat.add_min_add_left start first second).symm

end Wait

/-- An operation that waits on behalf of an instance does so in this way. -/
theorem Action.run_await {others : Collaborators σ} {setup : Setup} {registry : Registry} {name : String}
    {operation : Operation} {condition : Condition} {timeout : Option Duration}
    {cancellation : Option Nat} {looks start : Nat} {state : σ}
    (called : others.cancellation state = cancellation.map (start + ·)) :
    (await name operation condition timeout setup registry).run others looks start state =
      (Wait.poll name operation.text (others.look condition)
          setup.settings.readinessPollInterval.milliseconds (timeout.map Duration.milliseconds)
          cancellation looks start state).map
        fun (result, finish, after) => ⟨(result, registry), finish, after⟩ := by
  have limit : earlier (timeout.map fun span => start + span.milliseconds) (others.cancellation state) =
      (earlier (timeout.map Duration.milliseconds) cancellation).map (start + ·) := by
    rw [Wait.earlier_map_add, called, Option.map_map]
    rfl
  change (Wait.run _ _ (earlier (timeout.map fun span => start + span.milliseconds) _) _ _ _).bind _ = _
  rw [limit, Wait.poll, Option.map_map]
  cases ran : Wait.run (others.look condition) setup.settings.readinessPollInterval.milliseconds
      ((earlier (timeout.map Duration.milliseconds) cancellation).map (start + ·)) looks start state with
  | none => rfl
  | some ending =>
      rcases ending with ⟨outcome, finish, after⟩
      cases outcome <;> rfl

/-- All that decides how a wait ends. -/
structure Waiting where
  name : String
  operation : String
  /-- The pause between two checks, in milliseconds. -/
  interval : Nat
  /-- After how many milliseconds the wait expires, if ever. -/
  timeout : Option Nat
  /-- After how many milliseconds the wait is called off, if ever. -/
  cancellation : Option Nat
  start : Nat
  /-- What the checks find, and how long they take. -/
  checks : Nat → Delayed (Except Error Bool)

namespace Waiting

/-- When the checks begin and end, while they are answered and nothing ends the wait. -/
def table (waiting : Waiting) : Timetable where
  start := waiting.start
  length turn := (waiting.checks turn).delay.getD 0
  pause _ := waiting.interval

/-- The instant at which a wait ends at the latest. -/
def limit (waiting : Waiting) : Option Nat :=
  (earlier waiting.timeout waiting.cancellation).map (waiting.start + ·)

/-- What comes of a wait: its result, its end, and when its checks have begun.  Nothing comes of it while it
goes on for more than so many checks. -/
def outcome (waiting : Waiting) (looks : Nat) : Option (Except Error Unit × Nat × List Nat) :=
  Wait.poll waiting.name waiting.operation (recorded waiting.checks) waiting.interval waiting.timeout
    waiting.cancellation looks waiting.start []

/-- Whether so many checks are all answered, sooner or later. -/
def Answers (waiting : Waiting) (count : Nat) : Prop :=
  ∀ turn < count, (waiting.checks turn).delay.isSome = true

/-- Whether no check begins or ends exactly at the limit. -/
def IsClear (waiting : Waiting) : Prop :=
  ∀ last, waiting.limit = some last → ∀ turn,
    (waiting.Answers turn → waiting.table.begins turn ≠ last) ∧
      (waiting.Answers (turn + 1) → waiting.table.ends turn ≠ last)

/-- Whether a check is the first that finds the condition met or fails, and does so before the limit. -/
structure Decides (waiting : Waiting) (turn : Nat) : Prop where
  answers : waiting.Answers (turn + 1)
  unmet : ∀ before < turn, (waiting.checks before).value = .ok false
  decided : (waiting.checks turn).value ≠ .ok false
  inTime : ∀ last, waiting.limit = some last → waiting.table.ends turn < last

/-- Whether a wait goes on to another check. -/
structure GoesOn (waiting : Waiting) (turn : Nat) : Prop where
  answers : (waiting.checks turn).delay.isSome = true
  unmet : (waiting.checks turn).value = .ok false
  inTime : ∀ last, waiting.limit = some last → waiting.table.begins (turn + 1) < last

variable {waiting : Waiting} {turn looks last : Nat}

/-- The rest of a wait, from a check on. -/
def rest (waiting : Waiting) (turn looks : Nat) : Option (WaitOutcome Error × Nat × List Nat) :=
  Wait.run (recorded waiting.checks) waiting.interval waiting.limit looks (waiting.table.begins turn)
    (waiting.table.beginnings turn)

/-! ## Single checks -/

theorem ends_eq {delay : Nat} (answered : (waiting.checks turn).delay = some delay) :
    waiting.table.ends turn = waiting.table.begins turn + delay := by
  rw [Timetable.ends]
  dsimp only [table]
  rw [answered, Option.getD_some]

theorem Answers.succ (answers : waiting.Answers turn)
    (answered : (waiting.checks turn).delay.isSome = true) : waiting.Answers (turn + 1) := by
  intro earlier before
  rcases Nat.lt_succ_iff_lt_or_eq.mp before with sooner | rfl
  · exact answers earlier sooner
  · exact answered

/-- An instant is beyond the limit only if there is one, and it is earlier. -/
theorem isBeyond_eq_false {instant : Nat} (within : ∀ last, waiting.limit = some last → instant ≤ last) :
    Wait.isBeyond waiting.limit instant = false := by
  cases limited : waiting.limit with
  | none => rfl
  | some last => exact decide_eq_false (Nat.not_lt.mpr (within last limited))

/-- A wait that is under way before its limit meets it there. -/
theorem expiry_eq {instant : Nat} (before : instant < last) : Wait.expiry (some last) instant = last :=
  Nat.max_eq_right (Nat.le_of_lt before)

/-- A check that finds the condition unmet, early enough, leads to the next one. -/
theorem rest_of_goesOn (onward : waiting.GoesOn turn) :
    waiting.rest turn (looks + 1) = waiting.rest (turn + 1) looks := by
  rcases Option.isSome_iff_exists.mp onward.answers with ⟨delay, answered⟩
  have ended := ends_eq answered
  have inTime := onward.inTime
  rw [Timetable.begins_succ, ended] at inTime
  have early : Wait.isBeyond waiting.limit (waiting.table.begins turn + delay) = false :=
    isBeyond_eq_false fun last limited =>
      Nat.le_trans (Nat.le_add_right _ _) (Nat.le_of_lt (inTime last limited))
  have unreached : Wait.isReached waiting.limit
      (waiting.table.begins turn + delay + waiting.interval) = false := by
    cases limited : waiting.limit with
    | none => rfl
    | some last => exact decide_eq_false (Nat.not_le.mpr (inTime last limited))
  rw [rest, Wait.run, recorded_beginnings]
  simp only [answered, early, onward.unmet, unreached, Bool.false_eq_true, if_false]
  rw [rest, Timetable.begins_succ, ended]
  rfl

/-- What a wait comes to when a check has decided it. -/
def verdict : Except Error Bool → WaitOutcome Error
  | .ok _ => .met
  | .error error => .failed error

/-- A check that finds the condition met, or fails, ends the wait if it answers in time. -/
theorem rest_of_decides (decides : waiting.Decides turn) :
    waiting.rest turn (looks + 1) =
      some (verdict (waiting.checks turn).value, waiting.table.ends turn,
        waiting.table.beginnings (turn + 1)) := by
  rcases Option.isSome_iff_exists.mp (decides.answers turn (Nat.lt_succ_self turn)) with ⟨delay, answered⟩
  have ended := ends_eq answered
  have inTime := decides.inTime
  rw [ended] at inTime
  have early : Wait.isBeyond waiting.limit (waiting.table.begins turn + delay) = false :=
    isBeyond_eq_false fun last limited => Nat.le_of_lt (inTime last limited)
  rw [rest, Wait.run, recorded_beginnings]
  simp only [answered, early, Bool.false_eq_true, if_false]
  rw [ended]
  cases found : (waiting.checks turn).value with
  | error error => rfl
  | ok met =>
      cases met with
      | true => rfl
      | false => exact absurd found decides.decided

/-- A check that begins in time and is never answered lets a wait run into its limit. -/
theorem rest_of_unanswered (limited : waiting.limit = some last) (early : waiting.table.begins turn < last)
    (hangs : (waiting.checks turn).delay = none) :
    waiting.rest turn (looks + 1) = some (.expired, last, waiting.table.beginnings (turn + 1)) := by
  rw [rest, Wait.run, recorded_beginnings]
  simp only [hangs, limited, Option.map_some]
  rw [expiry_eq early]

/-- So does a check whose answer comes after the limit. -/
theorem rest_of_late {delay : Nat} (limited : waiting.limit = some last)
    (early : waiting.table.begins turn < last) (answered : (waiting.checks turn).delay = some delay)
    (late : last < waiting.table.begins turn + delay) :
    waiting.rest turn (looks + 1) = some (.expired, last, waiting.table.beginnings (turn + 1)) := by
  have beyond : Wait.isBeyond (some last) (waiting.table.begins turn + delay) = true := decide_eq_true late
  rw [rest, Wait.run, recorded_beginnings]
  simp only [answered, limited, beyond, if_true]
  rw [expiry_eq early]

/-- And so does a check that finds the condition unmet when no other check fits in before the limit. -/
theorem rest_of_cramped {delay : Nat} (limited : waiting.limit = some last)
    (answered : (waiting.checks turn).delay = some delay)
    (inTime : waiting.table.begins turn + delay < last) (unmet : (waiting.checks turn).value = .ok false)
    (cramped : last ≤ waiting.table.begins turn + delay + waiting.interval) :
    waiting.rest turn (looks + 1) = some (.expired, last, waiting.table.beginnings (turn + 1)) := by
  have within : Wait.isBeyond (some last) (waiting.table.begins turn + delay) = false :=
    decide_eq_false (Nat.lt_asymm inTime)
  have reached : Wait.isReached (some last)
      (waiting.table.begins turn + delay + waiting.interval) = true := decide_eq_true cramped
  rw [rest, Wait.run, recorded_beginnings]
  simp only [answered, limited, within, unmet, reached, Bool.false_eq_true, if_false, if_true]
  rw [expiry_eq inTime]

/-- A wait that neither goes on after a check nor is decided by it ends at the limit. -/
theorem rest_of_stays (clear : waiting.IsClear) (limited : waiting.limit = some last)
    (answers : waiting.Answers turn) (unmet : ∀ before < turn, (waiting.checks before).value = .ok false)
    (early : waiting.table.begins turn < last) (stays : ¬ waiting.GoesOn turn)
    (undecided : ¬ waiting.Decides turn) :
    waiting.rest turn (looks + 1) = some (.expired, last, waiting.table.beginnings (turn + 1)) := by
  cases answered : (waiting.checks turn).delay with
  | none => exact rest_of_unanswered limited early answered
  | some delay =>
      have present : (waiting.checks turn).delay.isSome = true := by rw [answered, Option.isSome_some]
      have ended := ends_eq answered
      have apart := (clear last limited turn).2 (answers.succ present)
      rw [ended] at apart
      rcases Nat.lt_or_gt_of_ne apart with inTime | late
      · have only {other : Nat} (same : waiting.limit = some other) : other = last :=
          Option.some.inj (same.symm.trans limited)
        by_cases found : (waiting.checks turn).value = .ok false
        · refine rest_of_cramped limited answered inTime found (Nat.not_lt.mp fun roomy => ?_)
          refine stays ⟨present, found, fun other same => ?_⟩
          rw [only same, Timetable.begins_succ, ended]
          exact roomy
        · refine absurd ⟨answers.succ present, unmet, found, fun other same => ?_⟩ undecided
          rw [only same, ended]
          exact inTime
      · exact rest_of_late limited early answered late

/-! ## Series of checks -/

/-- As long as checks lead to the next one, a wait goes on. -/
theorem rest_of_all_goOn (onward : ∀ before < turn, waiting.GoesOn before) :
    waiting.rest 0 (turn + looks) = waiting.rest turn looks := by
  induction turn generalizing looks with
  | zero => rw [Nat.zero_add]
  | succ turn inductionHypothesis =>
      have earlier : waiting.rest 0 (turn + (looks + 1)) = waiting.rest turn (looks + 1) :=
        inductionHypothesis fun before sooner => onward before (Nat.lt_succ_of_lt sooner)
      rw [Nat.add_assoc, Nat.add_comm 1 looks, earlier, rest_of_goesOn (onward turn (Nat.lt_succ_self turn))]

/-- Every check before the one that decides a wait leads to the next one. -/
theorem Decides.goesOn {before : Nat} (decides : waiting.Decides turn) (sooner : before < turn) :
    waiting.GoesOn before where
  answers := decides.answers before (Nat.lt_succ_of_lt sooner)
  unmet := decides.unmet before sooner
  inTime last limited := by
    have next : waiting.table.begins (before + 1) ≤ waiting.table.begins turn :=
      Timetable.begins_mono sooner
    have ended : waiting.table.begins turn ≤ waiting.table.ends turn := Timetable.begins_le_ends turn
    have inTime := decides.inTime last limited
    omega

/-- The checks that lead to the next one are all answered, find the condition unmet and leave time. -/
theorem all_of_goesOn (onward : ∀ before < turn, waiting.GoesOn before) :
    waiting.Answers turn ∧ ∀ before < turn, (waiting.checks before).value = .ok false :=
  ⟨fun before sooner => (onward before sooner).answers, fun before sooner => (onward before sooner).unmet⟩

/-- The check to which others have led begins before the limit. -/
theorem begins_lt_of_goesOn (clear : waiting.IsClear) (limited : waiting.limit = some last)
    (onward : ∀ before < turn, waiting.GoesOn before) : waiting.table.begins turn < last := by
  cases turn with
  | zero =>
      rcases Option.map_eq_some_iff.mp limited with ⟨span, _, rfl⟩
      have apart := (clear _ limited 0).1 fun _ none => absurd none (Nat.not_lt_zero _)
      exact Nat.lt_of_le_of_ne (Nat.le_add_right _ _) apart
  | succ turn => exact (onward turn (Nat.lt_succ_self turn)).inTime last limited

/-- Checks that lead on cannot go beyond the limit, as there is an interval between any two of them. -/
theorem turn_le_of_goesOn {span : Nat} (positive : 0 < waiting.interval) (clear : waiting.IsClear)
    (limited : waiting.limit = some (waiting.start + span))
    (onward : ∀ before < turn, waiting.GoesOn before) : turn ≤ span / waiting.interval := by
  have early := begins_lt_of_goesOn clear limited onward
  have far : waiting.table.start + turn * waiting.interval ≤ waiting.table.begins turn :=
    Timetable.le_begins (fun _ => rfl) turn
  have start : waiting.table.start = waiting.start := rfl
  rw [Nat.le_div_iff_mul_le positive]
  omega

/-- Under a limit there is a first check that does not lead to the next one. -/
theorem exists_stays {span : Nat} (positive : 0 < waiting.interval) (clear : waiting.IsClear)
    (limited : waiting.limit = some (waiting.start + span)) :
    ∃ turn, (∀ before < turn, waiting.GoesOn before) ∧ ¬ waiting.GoesOn turn := by
  apply Classical.byContradiction
  intro none
  have all (turn : Nat) : ∀ before < turn, waiting.GoesOn before := by
    induction turn with
    | zero => exact fun before sooner => absurd sooner (Nat.not_lt_zero before)
    | succ turn inductionHypothesis =>
        intro before sooner
        rcases Nat.lt_succ_iff_lt_or_eq.mp sooner with earlier | rfl
        · exact inductionHypothesis before earlier
        · exact Classical.byContradiction fun stays => none ⟨before, inductionHypothesis, stays⟩
  have bounded := turn_le_of_goesOn positive clear limited (all (span / waiting.interval + 1))
  exact Nat.not_succ_le_self _ bounded

/-- Of a wait that stays with a check without being decided, exactly the checks up to this one begin before
the limit. -/
theorem lt_succ_iff_of_stays (clear : waiting.IsClear) (limited : waiting.limit = some last)
    (onward : ∀ before < turn, waiting.GoesOn before) (stays : ¬ waiting.GoesOn turn)
    (undecided : ¬ waiting.Decides turn) (other : Nat) :
    other < turn + 1 ↔ waiting.Answers other ∧ waiting.table.begins other < last := by
  rcases all_of_goesOn onward with ⟨answers, unmet⟩
  have only {another : Nat} (same : waiting.limit = some another) : another = last :=
    Option.some.inj (same.symm.trans limited)
  constructor
  · intro within
    have sooner : other ≤ turn := Nat.lt_succ_iff.mp within
    refine ⟨fun before earlier => answers before (Nat.lt_of_lt_of_le earlier sooner), ?_⟩
    exact Nat.lt_of_le_of_lt (Timetable.begins_mono sooner) (begins_lt_of_goesOn clear limited onward)
  · rintro ⟨answered, early⟩
    refine Nat.not_le.mp fun later => ?_
    have present := answered turn later
    have next : waiting.table.begins (turn + 1) < last :=
      Nat.lt_of_le_of_lt (Timetable.begins_mono later) early
    have ended : waiting.table.ends turn < last :=
      Nat.lt_of_le_of_lt (Timetable.ends_le_begins (Nat.lt_succ_self turn)) next
    by_cases found : (waiting.checks turn).value = .ok false
    · exact stays ⟨present, found, fun another same => (only same).symm ▸ next⟩
    · exact undecided ⟨answers.succ present, unmet, found, fun another same => (only same).symm ▸ ended⟩

/-! ## Whole waits -/

theorem outcome_eq (waiting : Waiting) (looks : Nat) :
    waiting.outcome looks = (waiting.rest 0 looks).map fun (outcome, finish, begun) =>
      (Wait.settle waiting.name waiting.operation (.ofMilliseconds (finish - waiting.start)) outcome,
        finish, begun) :=
  rfl

/-- A check that decides a wait gives it its result, and ends it. -/
theorem outcome_of_decides (decides : waiting.Decides turn) (patient : turn < looks) :
    waiting.outcome looks =
      some ((waiting.checks turn).value.map fun _ => (), waiting.table.ends turn,
        waiting.table.beginnings (turn + 1)) := by
  have onward : ∀ before < turn, waiting.GoesOn before := fun _ sooner => decides.goesOn sooner
  obtain ⟨more, rfl⟩ := Nat.exists_eq_add_of_lt patient
  rw [outcome_eq, Nat.add_assoc, rest_of_all_goOn onward, rest_of_decides decides, Option.map_some]
  cases (waiting.checks turn).value <;> rfl

/-- A wait that is never decided expires at its limit. -/
theorem outcome_of_undecided {span : Nat} (positive : 0 < waiting.interval) (clear : waiting.IsClear)
    (limited : waiting.limit = some (waiting.start + span)) (undecided : ∀ turn, ¬ waiting.Decides turn) :
    ∃ count ≤ span / waiting.interval + 1,
      (∀ turn, turn < count ↔
        waiting.Answers turn ∧ waiting.table.begins turn < waiting.start + span) ∧
      ∀ looks ≥ count, waiting.outcome looks =
        some (.error (.timeout waiting.name waiting.operation (.ofMilliseconds span)),
          waiting.start + span, waiting.table.beginnings count) := by
  rcases exists_stays positive clear limited with ⟨turn, onward, stays⟩
  rcases all_of_goesOn onward with ⟨answers, unmet⟩
  have early := begins_lt_of_goesOn clear limited onward
  refine ⟨turn + 1, Nat.succ_le_succ (turn_le_of_goesOn positive clear limited onward),
    lt_succ_iff_of_stays clear limited onward stays (undecided turn), fun looks patient => ?_⟩
  obtain ⟨more, rfl⟩ := Nat.exists_eq_add_of_lt (Nat.lt_of_succ_le patient)
  have stayed : waiting.rest turn (more + 1) =
      some (.expired, waiting.start + span, waiting.table.beginnings (turn + 1)) :=
    rest_of_stays clear limited answers unmet early stays (undecided turn)
  rw [outcome_eq, Nat.add_assoc, rest_of_all_goOn onward, stayed, Option.map_some]
  dsimp only
  rw [Nat.add_sub_cancel_left]
  rfl

/-- Without a limit and without a check that decides it, what is left of a wait does not end. -/
theorem rest_of_endless (unlimited : waiting.limit = none) (undecided : ∀ turn, ¬ waiting.Decides turn)
    (onward : ∀ before < turn, waiting.GoesOn before) : waiting.rest turn looks = none := by
  have untimed {last : Nat} {goal : Prop} (limited : waiting.limit = some last) : goal := by
    rw [unlimited] at limited
    cases limited
  induction looks generalizing turn with
  | zero => rw [rest, Wait.run]
  | succ looks inductionHypothesis =>
      cases answered : (waiting.checks turn).delay with
      | none =>
          rw [rest, Wait.run, recorded_beginnings]
          simp only [answered, unlimited, Option.map_none]
      | some delay =>
          rcases all_of_goesOn onward with ⟨answers, unmet⟩
          have present : (waiting.checks turn).delay.isSome = true := by rw [answered, Option.isSome_some]
          have found : (waiting.checks turn).value = .ok false :=
            Classical.byContradiction fun decided =>
              undecided turn ⟨answers.succ present, unmet, decided, fun _ => untimed⟩
          have again : waiting.GoesOn turn := ⟨present, found, fun _ => untimed⟩
          rw [rest_of_goesOn again]
          refine inductionHypothesis fun before sooner => ?_
          rcases Nat.lt_succ_iff_lt_or_eq.mp sooner with earlier | rfl
          · exact onward before earlier
          · exact again

/-- A wait that is never decided does not end if it has no limit. -/
theorem outcome_of_endless (unlimited : waiting.limit = none) (undecided : ∀ turn, ¬ waiting.Decides turn)
    (looks : Nat) : waiting.outcome looks = none := by
  have endless : waiting.rest 0 looks = none :=
    rest_of_endless unlimited undecided fun before sooner => absurd sooner (Nat.not_lt_zero before)
  rw [outcome_eq, endless, Option.map_none]

/-- A wait with a limit ends by then, after no more checks than the interval fits in. -/
theorem exists_outcome {span : Nat} (positive : 0 < waiting.interval) (clear : waiting.IsClear)
    (limited : waiting.limit = some (waiting.start + span)) (patient : span / waiting.interval < looks) :
    ∃ result finish begun, waiting.outcome looks = some (result, finish, begun) ∧
      finish ≤ waiting.start + span ∧ begun.length ≤ span / waiting.interval + 1 := by
  by_cases decided : ∃ turn, waiting.Decides turn
  · rcases decided with ⟨turn, decides⟩
    have within := turn_le_of_goesOn positive clear limited fun _ sooner => decides.goesOn sooner
    refine ⟨_, _, _, outcome_of_decides decides (Nat.lt_of_le_of_lt within patient),
      Nat.le_of_lt (decides.inTime _ limited), ?_⟩
    rw [Timetable.length_beginnings]
    exact Nat.succ_le_succ within
  · have undecided : ∀ turn, ¬ waiting.Decides turn := fun turn decides => decided ⟨turn, decides⟩
    rcases outcome_of_undecided positive clear limited undecided with ⟨count, within, _, ended⟩
    refine ⟨_, _, _, ended looks (Nat.le_trans within patient), Nat.le_refl _, ?_⟩
    rw [Timetable.length_beginnings]
    exact within

/-- A wait that expires after some time has a limit no later than that. -/
theorem exists_limit {span : Nat} (expires : waiting.timeout = some span) :
    ∃ within ≤ span, waiting.limit = some (waiting.start + within) := by
  rw [limit, expires]
  cases waiting.cancellation with
  | none => exact ⟨span, Nat.le_refl _, rfl⟩
  | some called => exact ⟨min span called, Nat.min_le_left _ _, rfl⟩

/-- How a wait ends.  If a check is the first to find the condition met, or to fail, and answers before the
limit, the wait ends with that answer, at the instant of the answer, and has begun just the checks up to this
one.  Otherwise, if there is a limit, it ends exactly there, with a timeout that names instance, operation and
time, and has begun just the checks that the timetable places before the limit; if there is none, it goes on
for ever.  So a wait that expires after some time has ended by then, after no more checks than the interval
fits into the time, and one more. -/
theorem outcome_of_waiting (waiting : Waiting) (positive : 0 < waiting.interval)
    (clear : waiting.IsClear) :
    (∀ turn, waiting.Decides turn → ∀ looks > turn, waiting.outcome looks =
      some ((waiting.checks turn).value.map fun _ => (), waiting.table.ends turn,
        waiting.table.beginnings (turn + 1))) ∧
    ((∀ turn, ¬ waiting.Decides turn) →
      (∀ span, earlier waiting.timeout waiting.cancellation = some span →
        ∃ count, (∀ turn, turn < count ↔
            waiting.Answers turn ∧ waiting.table.begins turn < waiting.start + span) ∧
          ∀ looks ≥ count, waiting.outcome looks =
            some (.error (.timeout waiting.name waiting.operation (.ofMilliseconds span)),
              waiting.start + span, waiting.table.beginnings count)) ∧
      (earlier waiting.timeout waiting.cancellation = none →
        ∀ looks, waiting.outcome looks = none)) ∧
    ∀ span, waiting.timeout = some span → ∀ looks > span / waiting.interval,
      ∃ result finish begun, waiting.outcome looks = some (result, finish, begun) ∧
        finish ≤ waiting.start + span ∧ begun.length ≤ span / waiting.interval + 1 := by
  refine ⟨fun _ decides _ patient => outcome_of_decides decides patient, fun undecided => ⟨?_, ?_⟩, ?_⟩
  · intro span limited
    have limited : waiting.limit = some (waiting.start + span) := congrArg (Option.map _) limited
    rcases outcome_of_undecided positive clear limited undecided with ⟨count, _, begun, ended⟩
    exact ⟨count, begun, ended⟩
  · intro unlimited
    exact outcome_of_endless (congrArg (Option.map _) unlimited) undecided
  · intro span expires looks patient
    rcases exists_limit expires with ⟨within, bounded, limited⟩
    have fewer : within / waiting.interval ≤ span / waiting.interval := Nat.div_le_div_right bounded
    rcases exists_outcome positive clear limited (Nat.lt_of_le_of_lt fewer patient) with
      ⟨result, finish, begun, ended, early, few⟩
    refine ⟨result, finish, begun, ended, Nat.le_trans early (Nat.add_le_add_left bounded _), ?_⟩
    exact Nat.le_trans few (Nat.succ_le_succ fewer)

/-- A wait whose first check finds nothing, whose second one takes its time, and whose third one hangs, until
the wait is called off. -/
def hanging : Waiting where
  name := "web"
  operation := "wait for running"
  interval := 1000
  timeout := some 5000
  cancellation := some 4000
  start := 0
  checks
    | 0 => ⟨some 0, .ok false⟩
    | 1 => ⟨some 300, .ok false⟩
    | _ => ⟨none, .ok true⟩

theorem hanging_turn_le {count : Nat} (answers : hanging.Answers count) : count ≤ 2 :=
  Nat.not_lt.mp fun more => nomatch answers 2 more

theorem hanging_isClear : hanging.IsClear := by
  intro last limited turn
  cases limited
  constructor
  · intro answers
    have within := hanging_turn_le answers
    match turn, within with
    | 0, _ | 1, _ | 2, _ => decide
  · intro answers
    have within := hanging_turn_le answers
    match turn, within with
    | 0, _ | 1, _ => decide

theorem hanging_not_decides (turn : Nat) : ¬ hanging.Decides turn := by
  intro decides
  have within := hanging_turn_le decides.answers
  match turn, within with
  | 0, _ => exact decides.decided rfl
  | 1, _ => exact decides.decided rfl

/-- This wait ends when it is called off, in the middle of its third check. -/
theorem outcome_of_hanging :
    0 < hanging.interval ∧ hanging.IsClear ∧ (∀ turn, ¬ hanging.Decides turn) ∧
      ∃ count, (∀ turn, turn < count ↔
          hanging.Answers turn ∧ hanging.table.begins turn < hanging.start + 4000) ∧
        ∀ looks ≥ count, hanging.outcome looks =
          some (.error (.timeout "web" "wait for running" (.ofMilliseconds 4000)), 0 + 4000,
            hanging.table.beginnings count) := by
  refine ⟨by decide, hanging_isClear, hanging_not_decides, ?_⟩
  have ended := outcome_of_waiting hanging (by decide) hanging_isClear
  exact (ended.2.1 hanging_not_decides).1 4000 rfl

end Waiting
end Testbed
