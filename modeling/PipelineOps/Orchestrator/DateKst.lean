import Mathlib.Tactic.IntervalCases
import PipelineOps.Orchestrator.ActionPlan
import PipelineOps.Python.Digits

namespace PipelineOps.Orchestrator

open PipelineOps.Library
open PipelineOps.Python

/-! What the date check accepts: a date in the one form it is printed in. -/

/-- Ten ASCII characters `dddd-dd-dd` that name a date of the calendar. -/
def IsCalendarDate (text : String) : Prop :=
  ∃ year month day : List Char,
    text.toList = year ++ '-' :: month ++ '-' :: day ∧
    year.length = 4 ∧ month.length = 2 ∧ day.length = 2 ∧
    (∀ digit ∈ year ++ month ++ day, isAsciiDigit digit = true) ∧
    ValidDate (decimalNumber year) (decimalNumber month) (decimalNumber day)

def writtenDate (year month day : Nat) : List Char :=
  lastDigits 4 year ++ '-' :: lastDigits 2 month ++ '-' :: lastDigits 2 day

theorem day_le_of_validDate {year month day : Nat}
    (valid : ValidDate year month day) : day ≤ 31 := by
  obtain ⟨-, -, -, -, -, dayLast⟩ := valid
  have longest : daysInMonth year month ≤ 31 := by
    unfold daysInMonth
    split
    · split <;> omega
    · split <;> omega
  exact dayLast.trans longest

theorem isCalendarDate_iff {text : String} :
    IsCalendarDate text ↔
      ∃ year month day, ValidDate year month day ∧
        text.toList = writtenDate year month day := by
  constructor
  · rintro ⟨year, month, day, written, four, two, twoMore, ascii, valid⟩
    refine ⟨_, _, _, valid, ?_⟩
    have yearDigits : lastDigits 4 (decimalNumber year) = year := by
      rw [← four]
      exact lastDigits_decimalNumber fun digit member =>
        ascii digit (by simp [member])
    have monthDigits : lastDigits 2 (decimalNumber month) = month := by
      rw [← two]
      exact lastDigits_decimalNumber fun digit member =>
        ascii digit (by simp [member])
    have dayDigits : lastDigits 2 (decimalNumber day) = day := by
      rw [← twoMore]
      exact lastDigits_decimalNumber fun digit member =>
        ascii digit (by simp [member])
    rw [written, writtenDate, yearDigits, monthDigits, dayDigits]
  · rintro ⟨year, month, day, valid, written⟩
    have dayBound := day_le_of_validDate valid
    have monthBound := valid.2.2.2.1
    have yearBound := valid.2.1
    refine ⟨_, _, _, written, length_lastDigits 4 year,
      length_lastDigits 2 month, length_lastDigits 2 day, ?_, ?_⟩
    · intro digit member
      simp only [List.mem_append] at member
      rcases member with (inYear | inMonth) | inDay
      · exact isAsciiDigit_of_mem_lastDigits inYear
      · exact isAsciiDigit_of_mem_lastDigits inMonth
      · exact isAsciiDigit_of_mem_lastDigits inDay
    · rw [decimalNumber_lastDigits, decimalNumber_lastDigits,
        decimalNumber_lastDigits, Nat.mod_eq_of_lt (by omega),
        Nat.mod_eq_of_lt (by omega), Nat.mod_eq_of_lt (by omega)]
      exact valid

section Reading

theorem matchYear_lastDigits {year : Nat} (small : year < 10000)
    (rest : List Char) :
    matchYear (lastDigits 4 year ++ '-' :: rest) = some (year, rest) := by
  have digit : ∀ number : Nat, decimalValue? (Nat.digitChar (number % 10)) =
      some (number % 10) := by
    intro number
    have below : number % 10 < 10 := Nat.mod_lt _ (by omega)
    rw [decimalValue?_of_isAsciiDigit (isAsciiDigit_digitChar below),
      digitValue_digitChar below]
  have whole : 1000 * (year / 10 / 10 / 10 % 10) + 100 * (year / 10 / 10 % 10) +
      10 * (year / 10 % 10) + year % 10 = year := by omega
  simp only [lastDigits, List.nil_append, List.cons_append, matchYear, digit,
    Option.bind_eq_bind, Option.bind_some, Option.pure_def, whole]

theorem matchMonth_lastDigits {month : Nat} (first : 1 ≤ month)
    (last : month ≤ 12) (rest : List Char) :
    matchMonth (lastDigits 2 month ++ '-' :: rest) = some (month, rest) := by
  interval_cases month <;> rfl

theorem matchDay_lastDigits {day : Nat} (first : 1 ≤ day) (last : day ≤ 31) :
    matchDay (lastDigits 2 day) = some day := by
  interval_cases day <;> rfl

theorem strptimeDate_of_written {text : String} {year month day : Nat}
    (valid : ValidDate year month day)
    (written : text.toList = writtenDate year month day) :
    strptimeDate text = some (year, month, day) := by
  have dayBound := day_le_of_validDate valid
  have all := valid
  obtain ⟨-, yearLast, monthFirst, monthLast, dayFirst, -⟩ := all
  rw [strptimeDate, written, writtenDate, List.append_assoc,
    List.cons_append, matchYear_lastDigits (by omega)]
  simp only [Option.bind_eq_bind, Option.bind_some]
  rw [matchMonth_lastDigits monthFirst monthLast]
  simp only [Option.bind_some]
  rw [matchDay_lastDigits dayFirst dayBound]
  simp only [Option.bind_some, if_pos valid]

theorem validDate_of_strptimeDate {text : String} {year month day : Nat}
    (parsed : strptimeDate text = some (year, month, day)) :
    ValidDate year month day := by
  simp only [strptimeDate, Option.bind_eq_bind, Option.bind_eq_some_iff,
    Prod.exists] at parsed
  obtain ⟨_, _, _, _, _, _, _, _, checked⟩ := parsed
  split at checked
  · next valid =>
      cases checked
      exact valid
  · cases checked

end Reading

section Printing

theorem toList_strftimeDate {year month day : Nat} (longYear : 1000 ≤ year)
    (valid : ValidDate year month day) :
    (strftimeDate (year, month, day)).toList = writtenDate year month day := by
  have dayBound := day_le_of_validDate valid
  obtain ⟨-, yearLast, -, monthLast, -, -⟩ := valid
  have yearText : (toString year).toList = lastDigits 4 year :=
    @toList_toString 3 year longYear (by omega)
  have monthText : (padded 2 month).toList = lastDigits 2 month :=
    toList_padded (by omega) (by omega)
  have dayText : (padded 2 day).toList = lastDigits 2 day :=
    toList_padded (by omega) (by omega)
  rw [strftimeDate, writtenDate, String.toList_append, String.toList_append,
    String.toList_append, String.toList_append, yearText, monthText, dayText]
  simp

theorem matchYear_eq_some {characters rest : List Char} {year : Nat}
    (read : matchYear characters = some (year, rest)) :
    ∀ position < 4, ∃ character, characters[position]? = some character ∧
      (decimalValue? character).isSome = true := by
  unfold matchYear at read
  split at read
  · next a b c d behind =>
      simp only [Option.bind_eq_bind, Option.bind_eq_some_iff] at read
      obtain ⟨_, isA, _, isB, _, isC, _, isD, -⟩ := read
      intro position inYear
      interval_cases position
      · exact ⟨a, rfl, by rw [isA]; rfl⟩
      · exact ⟨b, rfl, by rw [isB]; rfl⟩
      · exact ⟨c, rfl, by rw [isC]; rfl⟩
      · exact ⟨d, rfl, by rw [isD]; rfl⟩
  · cases read

/-- A year of fewer digits is printed without its zeros, and the dash behind it
then stands where the year was read from. -/
theorem thousand_le_of_printed {text : String} {year month day : Nat}
    (parsed : strptimeDate text = some (year, month, day))
    (printed : strftimeDate (year, month, day) = text) : 1000 ≤ year := by
  by_contra short
  have shortText : (Nat.toDigits 10 year).length ≤ 3 := by
    rw [Nat.length_toDigits_le_iff (by omega) (by omega)]
    omega
  have dash : text.toList[(Nat.toDigits 10 year).length]? = some '-' := by
    rw [← printed, strftimeDate, Nat.toString_eq_ofList_toDigits]
    simp
  simp only [strptimeDate, Option.bind_eq_bind, Option.bind_eq_some_iff,
    Prod.exists] at parsed
  obtain ⟨_, _, read, -⟩ := parsed
  obtain ⟨character, there, isDigit⟩ :=
    matchYear_eq_some read (Nat.toDigits 10 year).length (by omega)
  rw [dash] at there
  cases there
  exact absurd isDigit (by decide)

end Printing

theorem validateDateKst_eq_ok {text : String} :
    validateDateKst (.str text) = .ok () ↔
      ∃ parsed, strptimeDate text = some parsed ∧
        strftimeDate parsed = text := by
  rw [validateDateKst]
  cases strptimeDate text with
  | none => simp
  | some parsed => simp

theorem validateDateKst_ne_ok {text : String}
    (refused : validateDateKst (.str text) ≠ .ok ()) :
    validateDateKst (.str text) =
      .error (.valueError "date_kst must be YYYY-MM-DD") := by
  simp only [validateDateKst] at refused ⊢
  cases reading : strptimeDate text with
  | none => rfl
  | some parsed =>
      rw [reading] at refused
      by_cases same : strftimeDate parsed = text
      · exact absurd (if_neg (not_not.mpr same)) refused
      · exact if_pos same

theorem isCalendarDate_of_validateDateKst {text : String}
    (accepted : validateDateKst (.str text) = .ok ()) :
    IsCalendarDate text := by
  obtain ⟨⟨year, month, day⟩, parsed, printed⟩ :=
    validateDateKst_eq_ok.mp accepted
  have valid := validDate_of_strptimeDate parsed
  have longYear := thousand_le_of_printed parsed printed
  rw [isCalendarDate_iff]
  refine ⟨year, month, day, valid, ?_⟩
  rw [← printed, toList_strftimeDate longYear valid]

theorem thousand_le_of_written {text : String} {year month day : Nat}
    (notZero : text.toList.head? ≠ some '0')
    (written : text.toList = writtenDate year month day) : 1000 ≤ year := by
  by_contra short
  have first : text.toList.head? = some (Nat.digitChar (year / 1000 % 10)) := by
    rw [written]
    simp [writtenDate, lastDigits, Nat.div_div_eq_div_mul]
  have zero : year / 1000 % 10 = 0 := by omega
  rw [first, zero] at notZero
  exact notZero rfl

/-- The check accepts the dates of the calendar in canonical form, nothing else,
as long as no year is written with a zero in front. -/
theorem validateDateKst_iff (text : String)
    (notZero : text.toList.head? ≠ some '0') :
    (validateDateKst (.str text) = .ok () ↔ IsCalendarDate text) ∧
      (¬ IsCalendarDate text →
        validateDateKst (.str text) =
          .error (.valueError "date_kst must be YYYY-MM-DD")) := by
  have accepts : IsCalendarDate text →
      validateDateKst (.str text) = .ok () := by
    intro calendar
    obtain ⟨year, month, day, valid, written⟩ := isCalendarDate_iff.mp calendar
    have longYear := thousand_le_of_written notZero written
    rw [validateDateKst_eq_ok]
    refine ⟨(year, month, day), strptimeDate_of_written valid written, ?_⟩
    apply String.toList_inj.mp
    rw [toList_strftimeDate longYear valid, written]
  refine ⟨⟨isCalendarDate_of_validateDateKst, accepts⟩, ?_⟩
  intro noDate
  apply validateDateKst_ne_ok
  intro accepted
  exact noDate (isCalendarDate_of_validateDateKst accepted)

theorem validateDateKst_leapDay :
    "2024-02-29".toList.head? ≠ some '0' ∧
      validateDateKst (.str "2024-02-29") = .ok () := by
  have notZero : "2024-02-29".toList.head? ≠ some '0' := by decide
  refine ⟨notZero, (validateDateKst_iff "2024-02-29" notZero).1.mpr ?_⟩
  exact ⟨['2', '0', '2', '4'], ['0', '2'], ['2', '9'], by decide, rfl, rfl, rfl,
    List.all_eq_true.mp rfl, by decide⟩

end PipelineOps.Orchestrator
