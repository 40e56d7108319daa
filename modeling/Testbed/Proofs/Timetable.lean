import Testbed.Time.Wait

namespace Testbed

/-!
# Timetables

Looks at a condition and attempts at a task follow one another: each takes its time, and there is a pause
between it and the next.  When each of them begins and ends follows from these lengths alone, as long as
nothing cuts the series short.  `Timetable` says when that is.  The answers of `recorded` note when they have
been asked for, so that a loop which asks for them can be compared with a timetable.
-/

/-- Turns that follow one another. -/
structure Timetable where
  /-- When the first turn begins. -/
  start : Nat
  /-- How long each turn takes. -/
  length : Nat → Nat
  /-- How long the pause behind each turn is. -/
  pause : Nat → Nat

namespace Timetable

/-- When a turn begins. -/
def begins (table : Timetable) : Nat → Nat
  | 0 => table.start
  | turn + 1 => table.begins turn + table.length turn + table.pause turn

/-- When a turn ends. -/
def ends (table : Timetable) (turn : Nat) : Nat :=
  table.begins turn + table.length turn

/-- When so many turns begin, in their order. -/
def beginnings (table : Timetable) (count : Nat) : List Nat :=
  (List.range count).map table.begins

variable {table : Timetable}

theorem begins_succ (turn : Nat) : table.begins (turn + 1) = table.ends turn + table.pause turn :=
  rfl

theorem length_beginnings (count : Nat) : (table.beginnings count).length = count := by
  rw [beginnings, List.length_map, List.length_range]

theorem beginnings_succ (count : Nat) :
    table.beginnings (count + 1) = table.beginnings count ++ [table.begins count] := by
  rw [beginnings, List.range_succ, List.map_append]
  rfl

theorem begins_le_ends (turn : Nat) : table.begins turn ≤ table.ends turn :=
  Nat.le_add_right _ _

/-- A turn begins only when all the turns before it have ended. -/
theorem ends_le_begins {earlier turn : Nat} (before : earlier < turn) :
    table.ends earlier ≤ table.begins turn := by
  induction turn with
  | zero => exact absurd before (Nat.not_lt_zero earlier)
  | succ turn inductionHypothesis =>
      rw [begins_succ]
      rcases Nat.lt_succ_iff_lt_or_eq.mp before with sooner | rfl
      · have first := inductionHypothesis sooner
        have later : table.begins turn ≤ table.ends turn := begins_le_ends turn
        omega
      · exact Nat.le_add_right _ _

theorem begins_mono {earlier turn : Nat} (before : earlier ≤ turn) :
    table.begins earlier ≤ table.begins turn := by
  rcases Nat.lt_or_eq_of_le before with sooner | rfl
  · exact Nat.le_trans (begins_le_ends earlier) (ends_le_begins sooner)
  · exact Nat.le_refl _

/-- Pauses alone already put a turn far from the start. -/
theorem le_begins {interval : Nat} (paused : ∀ turn, table.pause turn = interval) (turn : Nat) :
    table.start + turn * interval ≤ table.begins turn := by
  induction turn with
  | zero =>
      rw [Nat.zero_mul]
      exact Nat.le_refl _
  | succ turn inductionHypothesis =>
      rw [begins, paused turn, Nat.succ_mul]
      omega

end Timetable

/-- Answers in their order, each of which notes when it has been asked for. -/
def recorded (answers : Nat → Delayed α) (now : Nat) (asked : List Nat) : Delayed α × List Nat :=
  (answers asked.length, asked ++ [now])

/-- The answer that is due in a turn, and what is then noted. -/
theorem recorded_beginnings (answers : Nat → Delayed α) (table : Timetable) (turn : Nat) :
    recorded answers (table.begins turn) (table.beginnings turn) =
      (answers turn, table.beginnings (turn + 1)) := by
  rw [recorded, Timetable.length_beginnings, Timetable.beginnings_succ]

end Testbed
