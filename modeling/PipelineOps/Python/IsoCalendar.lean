import PipelineOps.Python.Calendar
import PipelineOps.Python.Digits

namespace PipelineOps.Python

/-! ISO weeks: `date.isocalendar`, and that the reader of week dates is its
inverse. -/

/-- The ordinal of the Monday of a year's week 1. -/
def isoWeek1Monday (year : Nat) : Int :=
  let firstDay := toOrdinal year 1 1
  let firstWeekday := (firstDay + 6) % 7
  (firstDay : Int) - firstWeekday + (if firstWeekday > 3 then 7 else 0)

/-- ISO year, week and day of a date. -/
def isoCalendar : Nat × Nat × Nat → Nat × Nat × Nat
  | (year, month, day) =>
      let today : Int := toOrdinal year month day
      let days := today - isoWeek1Monday year
      if days / 7 < 0 then
        let days := today - isoWeek1Monday (year - 1)
        (year - 1, (days / 7).toNat + 1, (days % 7).toNat + 1)
      else if 52 ≤ days / 7 ∧ isoWeek1Monday (year + 1) ≤ today then
        (year + 1, 1, (days % 7).toNat + 1)
      else (year, (days / 7).toNat + 1, (days % 7).toNat + 1)

section Years

theorem daysBeforeMonth_bounds {year month day : Nat}
    (valid : ValidDate year month day) :
    1 ≤ daysBeforeMonth year month + day ∧
      daysBeforeMonth year month + day ≤
        365 + if isLeap year then 1 else 0 := by
  obtain ⟨-, -, monthLow, monthHigh, dayLow, dayHigh⟩ := valid
  cases leap : isLeap year <;> interval_cases month <;>
    simp [daysBeforeMonth, daysInMonth, leap] at dayHigh ⊢ <;> omega

theorem toOrdinal_firstDay (year : Nat) :
    toOrdinal year 1 1 = daysBeforeYear year + 1 := by
  rw [toOrdinal, daysBeforeMonth, Nat.add_zero]

theorem daysBeforeYear_succ {year : Nat} (positive : 1 ≤ year) :
    daysBeforeYear (year + 1) =
      daysBeforeYear year + 365 + if isLeap year then 1 else 0 := by
  have leap : (if isLeap year then 1 else 0) + (year - 1) / 4 +
      year / 100 + (year - 1) / 400 =
        year / 4 + (year - 1) / 100 + year / 400 := by
    cases leaps : isLeap year with
    | true =>
        simp only [isLeap, Bool.and_eq_true, Bool.or_eq_true, beq_iff_eq,
          bne_iff_ne] at leaps
        simp only [if_true]
        omega
    | false =>
        have plain : ¬ (year % 4 = 0 ∧ (year % 100 ≠ 0 ∨ year % 400 = 0)) := by
          intro leapYear
          have same : isLeap year = true := by
            simpa only [isLeap, Bool.and_eq_true, Bool.or_eq_true, beq_iff_eq,
              bne_iff_ne] using leapYear
          rw [leaps] at same
          cases same
        simp only [Bool.false_eq_true, if_false]
        omega
  rw [daysBeforeYear, daysBeforeYear, Nat.add_sub_cancel]
  omega

theorem daysBeforeYear_mono : Monotone daysBeforeYear := by
  apply monotone_nat_of_le_succ
  intro year
  rcases Nat.eq_zero_or_pos year with rfl | positive
  · exact Nat.le_refl _
  · rw [daysBeforeYear_succ positive]
    omega

theorem daysBeforeMonth_mono (year : Nat) :
    Monotone (daysBeforeMonth year) := by
  apply monotone_nat_of_le_succ
  intro month
  cases month with
  | zero => exact Nat.le_refl _
  | succ month => exact Nat.le_add_right _ _

theorem toOrdinal_lt_of_year {year month day other otherMonth otherDay : Nat}
    (valid : ValidDate year month day)
    (otherValid : ValidDate other otherMonth otherDay) (before : year < other) :
    toOrdinal year month day < toOrdinal other otherMonth otherDay := by
  have inside := (daysBeforeMonth_bounds valid).2
  have behind := (daysBeforeMonth_bounds otherValid).1
  have next := daysBeforeYear_succ valid.1
  have later : daysBeforeYear (year + 1) ≤ daysBeforeYear other :=
    daysBeforeYear_mono before
  rw [toOrdinal, toOrdinal]
  omega

theorem toOrdinal_lt_of_month {year month day other otherDay : Nat}
    (valid : ValidDate year month day)
    (otherValid : ValidDate year other otherDay) (before : month < other) :
    toOrdinal year month day < toOrdinal year other otherDay := by
  obtain ⟨-, -, monthLow, -, -, dayHigh⟩ := valid
  obtain ⟨-, -, -, -, dayLow, -⟩ := otherValid
  have later : daysBeforeMonth year (month + 1) ≤ daysBeforeMonth year other :=
    daysBeforeMonth_mono year before
  obtain ⟨month, rfl⟩ : ∃ earlier, month = earlier + 1 :=
    ⟨month - 1, by omega⟩
  rw [daysBeforeMonth] at later
  · rw [toOrdinal, toOrdinal]
    omega
  · exact fun same => by omega

/-- A day has one date. -/
theorem DayOf.unique {ordinal : Nat} {date other : Nat × Nat × Nat}
    (dayOf : DayOf ordinal date) (otherDayOf : DayOf ordinal other) :
    date = other := by
  obtain ⟨year, month, day⟩ := date
  obtain ⟨otherYear, otherMonth, otherDay⟩ := other
  obtain ⟨valid, rfl⟩ := dayOf
  obtain ⟨otherValid, same⟩ := otherDayOf
  rcases Nat.lt_trichotomy year otherYear with before | rfl | behind
  · have apart := toOrdinal_lt_of_year valid otherValid before
    omega
  · rcases Nat.lt_trichotomy month otherMonth with before | rfl | behind
    · have apart := toOrdinal_lt_of_month valid otherValid before
      omega
    · rw [toOrdinal, toOrdinal] at same
      rw [show day = otherDay by omega]
    · have apart := toOrdinal_lt_of_month otherValid valid behind
      omega
  · have apart := toOrdinal_lt_of_year otherValid valid behind
    omega

/-- A week 53 is what a long year has more than 52 weeks. -/
theorem isoWeek1Monday_succ {year : Nat} (positive : 1 ≤ year) :
    isoWeek1Monday (year + 1) =
      isoWeek1Monday year + if hasWeek53 year then 371 else 364 := by
  have next := daysBeforeYear_succ positive
  simp only [isoWeek1Monday, hasWeek53, toOrdinal_firstDay]
  rw [next]
  generalize daysBeforeYear year = before
  cases leap : isLeap year <;>
    simp only [Bool.false_eq_true, if_false, if_true, Bool.and_true,
      Bool.and_false, Bool.or_false, Bool.or_eq_true, decide_eq_true_eq] <;>
    omega

/-- The year's own first day is in its week 1, or in the three days before. -/
theorem isoWeek1Monday_bounds (year : Nat) :
    (toOrdinal year 1 1 : Int) - 3 ≤ isoWeek1Monday year ∧
      isoWeek1Monday year ≤ toOrdinal year 1 1 + 3 ∧
      (isoWeek1Monday year + 6) % 7 = 0 := by
  simp only [isoWeek1Monday]
  omega

end Years

/-- The reader of week dates, on the weeks that a year has. -/
theorem isoWeekOrdinal_eq {year week day : Nat} (named : 1 ≤ year ∧ year ≤ 9999)
    (weeks : 1 ≤ week ∧ week ≤ if hasWeek53 year then 53 else 52)
    (days : 1 ≤ day ∧ day ≤ 7) :
    isoWeekOrdinal year week day =
      some (isoWeek1Monday year + 7 * (week - 1) + (day - 1)) := by
  have known : ¬ (year < 1 ∨ 9999 < year) := by omega
  have covered : ¬ (week < 1 ∨ (52 < week ∧
      ¬ (week = 53 ∧ hasWeek53 year = true))) := by
    cases long : hasWeek53 year <;>
      simp only [long, Bool.false_eq_true, if_false, if_true, and_true,
        and_false, not_false_eq_true] at weeks ⊢ <;>
      omega
  have within : ¬ (day < 1 ∨ 7 < day) := by omega
  rw [isoWeekOrdinal, if_neg known, if_neg covered, if_neg within]
  simp only [isoWeek1Monday]
  congr 1
  omega

/-- The week date of a day names the day. -/
theorem isoCalendar_names {ordinal : Nat} {date : Nat × Nat × Nat}
    (dayOf : DayOf ordinal date) :
    ∃ year week day, isoCalendar date = (year, week, day) ∧
      (1 ≤ year ∧ year ≤ 9999) ∧ (1 ≤ week ∧ week ≤ 53) ∧
      (day : Int) = (ordinal + 6) % 7 + 1 ∧
      isoWeekOrdinal year week day = some (ordinal : Int) := by
  obtain ⟨year, month, day⟩ := date
  obtain ⟨valid, same⟩ := dayOf
  obtain ⟨low, high⟩ := daysBeforeMonth_bounds valid
  obtain ⟨positive, small, -⟩ := valid
  have first := toOrdinal_firstDay year
  have next := isoWeek1Monday_succ positive
  have bounds := isoWeek1Monday_bounds year
  have nextBounds := isoWeek1Monday_bounds (year + 1)
  have nextFirst := toOrdinal_firstDay (year + 1)
  rw [daysBeforeYear_succ positive] at nextFirst
  have place : toOrdinal year month day =
      daysBeforeYear year + (daysBeforeMonth year month + day) := by
    rw [toOrdinal, Nat.add_assoc]
  rw [place] at same
  simp only [isoCalendar, place, same]
  split
  · rename_i early
    have later : 2 ≤ year := by
      by_contra one
      obtain rfl : year = 1 := by omega
      have start : isoWeek1Monday 1 = 1 := by decide
      rw [start] at early
      omega
    obtain ⟨previous, rfl⟩ : ∃ previous, year = previous + 1 :=
      ⟨year - 1, by omega⟩
    have before : isoWeek1Monday (previous + 1) = isoWeek1Monday previous +
        if hasWeek53 previous then 371 else 364 :=
      isoWeek1Monday_succ (by omega)
    have previousBounds := isoWeek1Monday_bounds previous
    have previousFirst := toOrdinal_firstDay previous
    have elapsed : daysBeforeYear (previous + 1) = daysBeforeYear previous +
        365 + if isLeap previous then 1 else 0 :=
      daysBeforeYear_succ (by omega)
    rw [Nat.add_sub_cancel]
    have weeks : 1 ≤ (((ordinal : Int) - isoWeek1Monday previous) / 7).toNat +
          1 ∧
        (((ordinal : Int) - isoWeek1Monday previous) / 7).toNat + 1 ≤
          if hasWeek53 previous then 53 else 52 := by
      split at before <;> split <;> omega
    refine ⟨_, _, _, rfl, by omega, by split at weeks <;> omega, by omega, ?_⟩
    rw [isoWeekOrdinal_eq (by omega) weeks (by omega)]
    congr 1
    omega
  · split
    · rename_i late onward
      have bounded : year + 1 ≤ 9999 := by
        by_contra beyond
        obtain rfl : year = 9999 := by omega
        have monday : isoWeek1Monday (9999 + 1) = 3652062 := by decide
        have elapsed : daysBeforeYear 9999 = 3651694 := by decide
        have common : isLeap 9999 = false := by decide
        simp only [common, Bool.false_eq_true, if_false] at high
        omega
      refine ⟨_, _, _, rfl, by omega, by omega, by omega, ?_⟩
      rw [isoWeekOrdinal_eq (by omega) (by split <;> omega) (by omega)]
      congr 1
      omega
    · rename_i within inside
      have weeks : 1 ≤ (((ordinal : Int) - isoWeek1Monday year) / 7).toNat +
            1 ∧
          (((ordinal : Int) - isoWeek1Monday year) / 7).toNat + 1 ≤
            if hasWeek53 year then 53 else 52 := by
        split at next <;> split <;> omega
      refine ⟨_, _, _, rfl, by omega, by split at weeks <;> omega, by omega,
        ?_⟩
      rw [isoWeekOrdinal_eq (by omega) weeks (by omega)]
      congr 1
      omega

section Reading

/-- `datetime.fromisoformat` on the name of a week: its Monday. -/
theorem fromIsoFormat_week {year week : Nat} {ordinal : Int}
    (fourDigits : 1000 ≤ year ∧ year ≤ 9999) (weeks : week ≤ 53)
    (names : isoWeekOrdinal year week 1 = some ordinal) :
    fromIsoFormat (toString year ++ "-W" ++ padded 2 week) =
      combine ordinal ⟨0, 0, 0, 0, false⟩ none := by
  have yearDigits : (toString year).toList = lastDigits 4 year :=
    toList_toString (by omega) (by omega)
  have weekDigits : (padded 2 week).toList = lastDigits 2 week :=
    toList_padded (by omega) (by omega)
  have characters : (toString year ++ "-W" ++ padded 2 week).toList =
      lastDigits 4 year ++ ('-' :: 'W' :: lastDigits 2 week) := by
    rw [String.toList_append, String.toList_append, yearDigits, weekDigits,
      List.append_assoc]
    rfl
  have bytes : byteChars (toString year ++ "-W" ++ padded 2 week).toList =
      (toString year ++ "-W" ++ padded 2 week).toList := by
    apply byteChars_of_isAscii
    rw [characters, isAscii_append, isAscii_cons, isAscii_cons]
    exact ⟨fun _ member => lt_of_isAsciiDigit
      (isAsciiDigit_of_mem_lastDigits member), by decide, by decide,
      fun _ member => lt_of_isAsciiDigit
        (isAsciiDigit_of_mem_lastDigits member)⟩
  have yearRead := @parseDigits_lastDigits 4 year (by omega)
    ('-' :: 'W' :: lastDigits 2 week)
  have weekRead := @parseDigits_lastDigits 2 week (by omega) []
  obtain ⟨first, second, third, fourth, front⟩ :
      ∃ first second third fourth,
        lastDigits 4 year = [first, second, third, fourth] :=
    ⟨_, _, _, _, rfl⟩
  obtain ⟨tens, units, back⟩ :
      ∃ tens units, lastDigits 2 week = [tens, units] := ⟨_, _, rfl⟩
  rw [front, back] at characters yearRead
  rw [back] at weekRead
  simp only [List.cons_append, List.nil_append] at characters yearRead weekRead
  have separator : isoSeparatorIndex
      [first, second, third, fourth, '-', 'W', tens, units] = 8 := rfl
  have date : parseIsoDate
      [first, second, third, fourth, '-', 'W', tens, units] 8 =
        some ordinal := by
    simp [parseIsoDate, yearRead, charAt, weekRead, names]
  rw [characters] at bytes
  simp only [fromIsoFormat, characters, bytes]
  simp [separator, date, charAt, separatorWidth]

/-- Weeks with one name are one week. -/
theorem weekName_injective {year other week another : Nat}
    (weeks : week ≤ 53 ∧ another ≤ 53)
    (same : toString year ++ "-W" ++ padded 2 week =
      toString other ++ "-W" ++ padded 2 another) :
    year = other ∧ week = another := by
  have characters : ∀ year week : Nat, week ≤ 53 →
      (toString year ++ "-W" ++ padded 2 week).toList =
        Nat.toDigits 10 year ++ '-' :: ('W' :: lastDigits 2 week) := by
    intro year week small
    rw [String.toList_append, String.toList_append,
      toList_padded (by omega) (by omega), Nat.toString_eq_ofList_toDigits,
      String.toList_ofList, List.append_assoc]
    rfl
  have unsigned : ∀ number : Nat, '-' ∉ Nat.toDigits 10 number := by
    intro number member
    have isDigit := Nat.isDigit_of_mem_toDigits (by omega) (by omega) member
    cases isDigit
  have nowhere : ∀ week : Nat, '-' ∉ 'W' :: lastDigits 2 week := by
    intro week member
    rcases List.mem_cons.mp member with same | digit
    · cases same
    · cases isAsciiDigit_of_mem_lastDigits digit
  have texts := congrArg String.toList same
  rw [characters year week weeks.1, characters other another weeks.2,
    List.append_cons_inj_of_notMem (unsigned year) (nowhere week)] at texts
  obtain ⟨years, -, rest⟩ := texts
  have digits := congrArg decimalNumber (List.cons.inj rest).2
  rw [decimalNumber_lastDigits, decimalNumber_lastDigits,
    Nat.mod_eq_of_lt (by omega), Nat.mod_eq_of_lt (by omega)] at digits
  have read := congrArg (Nat.ofDigitChars 10 · 0) years
  exact ⟨by simpa using read, digits⟩

end Reading

end PipelineOps.Python
