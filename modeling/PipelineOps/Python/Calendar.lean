import Mathlib.Tactic.IntervalCases
import PipelineOps.Python.Datetime

namespace PipelineOps.Python

/-! Ordinals and dates name the same days. -/

/-- The month of a day of the year, as `_ord2ymd` guesses it. -/
theorem monthGuess_covers (year : Nat) {days guess : Nat} (within : days < 365)
    (guessed : guess = (days + 50) / 32) :
    let month := if daysBeforeMonth year guess > days then guess - 1 else guess
    1 ≤ month ∧ month ≤ 12 ∧ daysBeforeMonth year month ≤ days ∧
      days < daysBeforeMonth year month + daysInMonth year month := by
  have atLeast : 1 ≤ guess := by omega
  have atMost : guess ≤ 12 := by omega
  intro month
  by_cases late : daysBeforeMonth year guess > days
  · have previous : month = guess - 1 := if_pos late
    rw [previous]
    cases leap : isLeap year <;> interval_cases guess <;>
      simp [daysBeforeMonth, daysInMonth, leap] at late ⊢ <;> omega
  · have kept : month = guess := if_neg late
    rw [kept]
    cases leap : isLeap year <;> interval_cases guess <;>
      simp [daysBeforeMonth, daysInMonth, leap] at late ⊢ <;> omega

/-- The last day of a leap year. -/
theorem toOrdinal_lastDay {year : Nat} (leap : isLeap year = true) :
    toOrdinal year 12 31 = daysBeforeYear year + 366 := by
  simp [toOrdinal, daysBeforeMonth, daysInMonth, leap]

/-- The days before a year, from the cycles of 400, 100, 4 and 1 years that
precede it. -/
theorem daysBeforeYear_cycles (cycles : Nat) {centuries fours years : Nat}
    (centuriesBound : centuries < 4) (foursBound : fours < 25)
    (yearsBound : years < 4) :
    daysBeforeYear
        (cycles * 400 + centuries * 100 + fours * 4 + years + 1) =
      cycles * 146097 + centuries * 36524 + fours * 1461 + years * 365 := by
  rw [daysBeforeYear]
  omega

/-- A year that ends a cycle of four years, and a century only when it ends a
cycle of four centuries. -/
theorem isLeap_of_cycles (cycles : Nat) {centuries fours : Nat}
    (regular : centuries < 4 ∧ fours < 24 ∨ centuries = 3 ∧ fours = 24) :
    isLeap (cycles * 400 + centuries * 100 + fours * 4 + 3 + 1) = true := by
  simp only [isLeap, Bool.and_eq_true, Bool.or_eq_true, beq_iff_eq,
    bne_iff_ne]
  omega

/-- A date that is the day `ordinal` of the calendar. -/
def DayOf (ordinal : Nat) : Nat × Nat × Nat → Prop
  | (year, month, day) =>
      ValidDate year month day ∧ toOrdinal year month day = ordinal

theorem DayOf.bounds {ordinal : Nat} {date : Nat × Nat × Nat}
    (dayOf : DayOf ordinal date) :
    date.1 ≤ 9999 ∧ date.2.1 ≤ 12 ∧ date.2.2 ≤ 31 := by
  obtain ⟨year, month, day⟩ := date
  obtain ⟨⟨-, years, -, months, -, days⟩, -⟩ := dayOf
  refine ⟨years, months, days.trans ?_⟩
  rw [daysInMonth]
  repeat' split
  all_goals omega

/-- The last day of a year that ends a cycle. -/
theorem lastDay_dayOf (cycles : Nat) {centuries fours year ordinal : Nat}
    (regular : centuries < 4 ∧ fours < 24 ∨ centuries = 3 ∧ fours = 24)
    (yearEq : year = cycles * 400 + centuries * 100 + fours * 4 + 3 + 1)
    (ordinalEq : ordinal = cycles * 146097 + centuries * 36524 +
      fours * 1461 + 1461) (within : ordinal ≤ 3652059) :
    DayOf ordinal (year, 12, 31) := by
  subst yearEq
  have leap := isLeap_of_cycles cycles regular
  have before : daysBeforeYear
      (cycles * 400 + centuries * 100 + fours * 4 + 3 + 1) =
        cycles * 146097 + centuries * 36524 + fours * 1461 + 3 * 365 :=
    daysBeforeYear_cycles cycles (by omega) (by omega) (by omega)
  refine ⟨⟨by omega, by omega, by omega, by omega, by omega, ?_⟩, ?_⟩
  · simp [daysInMonth]
  · rw [toOrdinal_lastDay leap]
    omega

/-- `_ord2ymd` finds the day of its ordinal. -/
theorem ofOrdinal_dayOf {ordinal : Nat} (positive : 1 ≤ ordinal)
    (within : ordinal ≤ 3652059) : DayOf ordinal (ofOrdinal ordinal) := by
  obtain ⟨days, rfl⟩ : ∃ days, ordinal = days + 1 := ⟨ordinal - 1, by omega⟩
  simp only [ofOrdinal, Nat.add_sub_cancel]
  generalize cyclesEq : days / 146097 = cycles
  generalize centuriesEq : days % 146097 / 36524 = centuries
  generalize foursEq : days % 146097 % 36524 / 1461 = fours
  generalize yearsEq : days % 146097 % 36524 % 1461 / 365 = years
  generalize restEq : days % 146097 % 36524 % 1461 % 365 = rest
  have parts : days = cycles * 146097 + centuries * 36524 + fours * 1461 +
      years * 365 + rest := by omega
  have restBound : rest < 365 := by omega
  split
  · rename_i last
    rcases last with endsFour | endsCycle
    · -- the last day of a cycle of four years
      subst endsFour
      have regular : centuries < 4 ∧ fours < 24 ∨
          centuries = 3 ∧ fours = 24 := by omega
      exact lastDay_dayOf cycles regular (by omega) (by omega) within
    · -- the last day of a cycle of four centuries
      subst endsCycle
      exact lastDay_dayOf cycles (.inr ⟨rfl, rfl⟩) (by omega) (by omega) within
  · rename_i inside
    rw [not_or] at inside
    obtain ⟨monthLow, monthHigh, started, ended⟩ :=
      monthGuess_covers (cycles * 400 + centuries * 100 + fours * 4 +
        years + 1) restBound rfl
    have before := daysBeforeYear_cycles cycles
      (show centuries < 4 by omega) (show fours < 25 by omega)
      (show years < 4 by omega)
    refine ⟨⟨by omega, by omega, monthLow, monthHigh, by omega, by omega⟩, ?_⟩
    rw [toOrdinal, before]
    omega

theorem microsPerMinute_eq : microsPerMinute = 60000000 := rfl

theorem microsPerHour_eq : microsPerHour = 3600000000 := rfl

theorem microsPerDay_eq : microsPerDay = 86400000000 := rfl

theorem wallLimit_eq : wallLimit = 315537897600000000 := rfl

theorem date_dayOf (value : DateTime) :
    DayOf ((value.wall / microsPerDay).toNat + 1) value.date := by
  have range := value.range
  rw [InRange, wallLimit_eq] at range
  rw [DateTime.date]
  rw [microsPerDay_eq]
  exact ofOrdinal_dayOf (by omega) (by omega)

end PipelineOps.Python
