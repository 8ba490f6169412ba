import PipelineOps.Orchestrator.ActionPlan
import PipelineOps.Python.Digits
import PipelineOps.Python.Strptime

namespace PipelineOps.Orchestrator

open PipelineOps.Python
open PipelineOps.Python.Strptime

/-! The reader of `%Y-%m-%d` is the pattern that `strptime` builds for that
format. -/

def dateFormat : Format where
  text := "%Y-%m-%d"
  tokens :=
    [.directive .year, .literal '-', .directive .month, .literal '-',
      .directive .day]

/-- The groups of the match that backtracking prefers, if it uses up the
text. -/
def fullMatch (found : List (Groups × List Char)) : Option Groups :=
  match found.head? with
  | some (groups, []) => some groups
  | _ => none

def named (directive : Directive) (value : Nat)
    (found : List (Groups × List Char)) : List (Groups × List Char) :=
  found.map fun (groups, behind) => ((directive, value) :: groups, behind)

/-- The matches of a pattern behind what one alternative of a group has read. -/
def further (directive : Directive) (tokens : List Token) :
    Option (Nat × List Char) → List (Groups × List Char)
  | none => []
  | some (value, rest) => named directive value (readings tokens rest)

section Patterns

theorem readings_directive (directive : Directive) (tokens : List Token)
    (characters : List Char) :
    readings (.directive directive :: tokens) characters =
      directive.alternatives.flatMap fun places =>
        further directive tokens (readPlaces places 0 characters) := by
  rw [readings]
  refine congrArg (directive.alternatives.flatMap ·) (funext fun places => ?_)
  cases readPlaces places 0 characters <;> rfl

theorem further_ite (directive : Directive) (tokens : List Token)
    (holds : Prop) [Decidable holds] (value : Nat) (rest : List Char) :
    further directive tokens (if holds then some (value, rest) else none) =
      if holds then named directive value (readings tokens rest) else [] := by
  split <;> rfl

@[simp] theorem fullMatch_nil : fullMatch [] = none := rfl

theorem fullMatch_named (directive : Directive) (value : Nat)
    (found : List (Groups × List Char)) :
    fullMatch (named directive value found) =
      (fullMatch found).map fun groups => (directive, value) :: groups := by
  match found with
  | [] => rfl
  | (groups, []) :: rest => rfl
  | (groups, _ :: _) :: rest => rfl

theorem toLower_eq_dash_iff {character : Char} :
    '-'.toLower = character.toLower ↔ character = '-' := by
  constructor
  · intro same
    by_cases upper : character.val ≥ 'A'.val ∧ character.val ≤ 'Z'.val
    · have lowered : character.toLower.val =
          character.val + ('a'.val - 'A'.val) :=
        congrArg Char.val (dif_pos upper)
      have low : 65 ≤ character.val.toNat := UInt32.le_iff_toNat_le.mp upper.1
      have high : character.val.toNat ≤ 90 := UInt32.le_iff_toNat_le.mp upper.2
      have gap : ('a'.val - 'A'.val).toNat = 32 := rfl
      have code : 45 = character.toLower.val.toNat := congrArg Char.toNat same
      rw [lowered, UInt32.toNat_add, gap] at code
      omega
    · have unchanged : character.toLower = character := dif_neg upper
      rw [← unchanged, ← same]
      rfl
  · rintro rfl
    rfl

theorem readings_dash_cons (tokens : List Token) (character : Char)
    (rest : List Char) :
    readings (.literal '-' :: tokens) (character :: rest) =
      if character = '-' then readings tokens rest else [] := by
  rw [readings]
  simp only [toLower_eq_dash_iff]

theorem read_between_self (digit character : Char) :
    (Place.between digit digit).read character =
      if character = digit then some (digitValue digit) else none := by
  rw [Place.read]
  by_cases same : character = digit
  · subst same
    rw [if_pos ⟨Char.le_refl _, Char.le_refl _⟩, if_pos rfl]
  · rw [if_neg fun bounds => same (Char.le_antisymm bounds.2 bounds.1),
      if_neg same]

theorem readPlaces_between (first last character : Char) (rest : List Char) :
    readPlaces [.between first last] 0 (character :: rest) =
      if first ≤ character ∧ character ≤ last then
        some (digitValue character, rest)
      else none := by
  rw [readPlaces, Place.read]
  split
  · simp [readPlaces]
  · rfl

theorem readPlaces_fixed (tens first last a b : Char) (rest : List Char) :
    readPlaces [.between tens tens, .between first last] 0 (a :: b :: rest) =
      if a = tens ∧ first ≤ b ∧ b ≤ last then
        some (10 * digitValue tens + digitValue b, rest)
      else none := by
  rw [readPlaces, read_between_self]
  by_cases same : a = tens
  · by_cases inside : first ≤ b ∧ b ≤ last <;>
      simp [readPlaces, Place.read, same, inside]
  · simp [same]

theorem isNonzeroDigit_iff {character : Char} :
    isNonzeroDigit character = true ↔ '1' ≤ character ∧ character ≤ '9' := by
  have zero : '0'.toNat = 48 := rfl
  rw [isNonzeroDigit, Bool.and_eq_true, isAsciiDigit_iff, bne_iff_ne, ne_eq,
    ← Char.toNat_inj]
  change _ ↔ 49 ≤ character.toNat ∧ character.toNat ≤ 57
  omega

theorem tens_iff {character : Char} :
    '1' ≤ character ∧ character ≤ '2' ↔ character = '1' ∨ character = '2' := by
  rw [← Char.toNat_inj, ← Char.toNat_inj]
  change 49 ≤ character.toNat ∧ character.toNat ≤ 50 ↔
    character.toNat = 49 ∨ character.toNat = 50
  omega

theorem zeroOne_iff {character : Char} :
    '0' ≤ character ∧ character ≤ '1' ↔ character = '0' ∨ character = '1' := by
  rw [← Char.toNat_inj, ← Char.toNat_inj]
  change 48 ≤ character.toNat ∧ character.toNat ≤ 49 ↔
    character.toNat = 48 ∨ character.toNat = 49
  omega

theorem zeroTwo_iff {character : Char} :
    '0' ≤ character ∧ character ≤ '2' ↔
      character = '0' ∨ character = '1' ∨ character = '2' := by
  rw [← Char.toNat_inj, ← Char.toNat_inj, ← Char.toNat_inj]
  change 48 ≤ character.toNat ∧ character.toNat ≤ 50 ↔
    character.toNat = 48 ∨ character.toNat = 49 ∨ character.toNat = 50
  omega

theorem length_of_readPlaces {places : List Place} {total value : Nat}
    {characters rest : List Char}
    (read : readPlaces places total characters = some (value, rest)) :
    characters.length = rest.length + places.length := by
  induction places generalizing total characters with
  | nil =>
      cases read
      rfl
  | cons place places induction =>
      cases characters with
      | nil => cases read
      | cons character behind =>
          obtain ⟨digit, -, further⟩ := Option.bind_eq_some_iff.mp read
          rw [List.length_cons, List.length_cons, induction further]
          rfl

end Patterns

section Year

def fourDigits (a b c d : Char) : Option Nat := do
  let thousands ← decimalValue? a
  let hundreds ← decimalValue? b
  let tens ← decimalValue? c
  let units ← decimalValue? d
  pure (1000 * thousands + 100 * hundreds + 10 * tens + units)

theorem readPlaces_year (a b c d : Char) (rest : List Char) :
    readPlaces [.decimal, .decimal, .decimal, .decimal] 0
        (a :: b :: c :: d :: rest) =
      (fourDigits a b c d).map fun year => (year, rest) := by
  simp only [readPlaces, Place.read, fourDigits]
  cases decimalValue? a <;> cases decimalValue? b <;>
    cases decimalValue? c <;> cases decimalValue? d <;> simp
  omega

theorem matchYear_cons (a b c d e : Char) (rest : List Char) :
    matchYear (a :: b :: c :: d :: e :: rest) =
      if e = '-' then (fourDigits a b c d).map fun year => (year, rest)
      else none := by
  by_cases dash : e = '-'
  · subst dash
    simp only [matchYear, fourDigits, if_true]
    cases decimalValue? a <;> cases decimalValue? b <;>
      cases decimalValue? c <;> cases decimalValue? d <;> rfl
  · rw [if_neg dash, matchYear]
    rintro _ _ _ _ _ ⟨⟩
    exact dash rfl

theorem readings_year_of_short {tokens : List Token} {characters : List Char}
    (short : characters.length < 4) :
    readings (.directive .year :: tokens) characters = [] := by
  rw [readings_directive, Directive.alternatives, List.flatMap_cons,
    List.flatMap_nil, List.append_nil]
  cases read : readPlaces [.decimal, .decimal, .decimal, .decimal] 0
    characters with
  | none => rfl
  | some found =>
      have length := length_of_readPlaces read
      simp only [List.length_cons, List.length_nil] at length
      omega

/-- Year and dash: the pattern has one match at most. -/
theorem readings_year (tokens : List Token) (characters : List Char) :
    readings (.directive .year :: .literal '-' :: tokens) characters =
      match matchYear characters with
      | none => []
      | some (year, rest) => named .year year (readings tokens rest) := by
  match characters with
  | [] => exact readings_year_of_short (by simp)
  | [a] => exact readings_year_of_short (by simp)
  | [a, b] => exact readings_year_of_short (by simp)
  | [a, b, c] => exact readings_year_of_short (by simp)
  | [a, b, c, d] =>
      rw [readings_directive, Directive.alternatives, List.flatMap_cons,
        List.flatMap_nil, List.append_nil, readPlaces_year]
      cases fourDigits a b c d <;> rfl
  | a :: b :: c :: d :: e :: rest =>
      rw [readings_directive, Directive.alternatives, List.flatMap_cons,
        List.flatMap_nil, List.append_nil, readPlaces_year, matchYear_cons]
      cases fourDigits a b c d with
      | none => by_cases dash : e = '-' <;> simp [dash, further]
      | some year =>
          by_cases dash : e = '-' <;>
            simp [dash, further, readings_dash_cons, named]

end Year

section Month

theorem readings_month_cons (tokens : List Token) (a b : Char)
    (rest : List Char) :
    readings (.directive .month :: tokens) (a :: b :: rest) =
      (if a = '1' ∧ '0' ≤ b ∧ b ≤ '2' then
        named .month (10 + digitValue b) (readings tokens rest) else []) ++
      ((if a = '0' ∧ '1' ≤ b ∧ b ≤ '9' then
        named .month (digitValue b) (readings tokens rest) else []) ++
      (if '1' ≤ a ∧ a ≤ '9' then
        named .month (digitValue a) (readings tokens (b :: rest))
        else [])) := by
  have ten : 10 * digitValue '1' = 10 := rfl
  have zero : 10 * digitValue '0' = 0 := rfl
  simp only [readings_directive, Directive.alternatives, List.flatMap_cons,
    List.flatMap_nil, List.append_nil, readPlaces_fixed, readPlaces_between,
    further_ite, ten, zero, Nat.zero_add]

theorem matchDay_dash (rest : List Char) : matchDay ('-' :: rest) = none := by
  match rest with
  | [] => rfl
  | [b] => rfl
  | _ :: _ :: _ => rfl

/-- The month and the day behind it. -/
def monthDay (characters : List Char) : Option (Nat × Nat) := do
  let (month, behind) ← matchMonth characters
  let day ← matchDay behind
  pure (month, day)

theorem monthDay_dash (a : Char) (rest : List Char) :
    monthDay (a :: '-' :: rest) =
      if '1' ≤ a ∧ a ≤ '9' then
        (matchDay rest).map fun day => (digitValue a, day)
      else none := by
  cases rest with
  | nil =>
      by_cases digit : '1' ≤ a ∧ a ≤ '9' <;>
        simp [monthDay, matchMonth, isNonzeroDigit_iff, digit, matchDay]
  | cons first others =>
      by_cases dash : first = '-'
      · subst dash
        rw [matchDay_dash]
        by_cases one : a = '1'
        · subst one
          rfl
        · by_cases zero : a = '0'
          · subst zero
            rfl
          · by_cases digit : '1' ≤ a ∧ a ≤ '9' <;>
              simp [monthDay, matchMonth, isNonzeroDigit_iff, digit, one, zero,
                matchDay_dash]
      · by_cases digit : '1' ≤ a ∧ a ≤ '9'
        · cases found : matchDay (first :: others) <;>
            simp [monthDay, matchMonth, isNonzeroDigit_iff, digit, dash, found]
        · simp [monthDay, matchMonth, isNonzeroDigit_iff, digit, dash]

theorem monthDay_two (a b c : Char) (rest : List Char) (apart : b ≠ '-') :
    monthDay (a :: b :: c :: rest) =
      if c = '-' then
        if a = '1' ∧ '0' ≤ b ∧ b ≤ '2' then
          (matchDay rest).map fun day => (10 + digitValue b, day)
        else if a = '0' ∧ '1' ≤ b ∧ b ≤ '9' then
          (matchDay rest).map fun day => (digitValue b, day)
        else none
      else none := by
  by_cases dash : c = '-'
  · subst dash
    rw [if_pos rfl]
    by_cases one : a = '1'
    · subst one
      simp only [zeroTwo_iff]
      by_cases digit : b = '0' ∨ b = '1' ∨ b = '2'
      · cases found : matchDay rest <;>
          simp [monthDay, matchMonth, digit, found]
      · simp [monthDay, matchMonth, digit]
    · by_cases zero : a = '0'
      · subst zero
        by_cases digit : '1' ≤ b ∧ b ≤ '9'
        · cases found : matchDay rest <;>
            simp [monthDay, matchMonth, isNonzeroDigit_iff, digit, found]
        · simp [monthDay, matchMonth, isNonzeroDigit_iff, digit]
      · simp [monthDay, matchMonth, one, zero, apart]
  · rw [if_neg dash]
    simp [monthDay, matchMonth, dash, apart]

end Month

section Day

theorem length_le_of_mem_readings_day {characters rest : List Char}
    {groups : Groups}
    (member : (groups, rest) ∈ readings [.directive .day] characters) :
    characters.length ≤ rest.length + 2 := by
  have short : ∀ places ∈ Directive.day.alternatives, places.length ≤ 2 := by
    simp [Directive.alternatives]
  rw [readings, List.mem_flatMap] at member
  obtain ⟨places, known, found⟩ := member
  have bound := short places known
  cases read : readPlaces places 0 characters with
  | none =>
      rw [read] at found
      cases found
  | some reading =>
      obtain ⟨value, behind⟩ := reading
      rw [read] at found
      have same : groups = [(.day, value)] ∧ rest = behind := by
        simpa [readings] using found
      rw [same.2, length_of_readPlaces read]
      omega

theorem readPlaces_tens (a b : Char) :
    readPlaces [.between '1' '2', .decimal] 0 [a, b] =
      if '1' ≤ a ∧ a ≤ '2' then
        (decimalValue? b).map fun units => (10 * digitValue a + units, [])
      else none := by
  by_cases tens : '1' ≤ a ∧ a ≤ '2'
  · cases units : decimalValue? b <;>
      simp [readPlaces, tens, units, Place.read]
  · simp [readPlaces, tens, Place.read]

theorem readPlaces_blank (a b : Char) :
    readPlaces [.blank, .between '1' '9'] 0 [a, b] =
      if a = ' ' ∧ '1' ≤ b ∧ b ≤ '9' then some (digitValue b, [])
      else none := by
  by_cases blank : a = ' '
  · by_cases digit : '1' ≤ b ∧ b ≤ '9' <;>
      simp [readPlaces, blank, digit, Place.read]
  · simp [readPlaces, blank, Place.read]

theorem readings_day_pair (a b : Char) :
    readings [.directive .day] [a, b] =
      (if a = '3' ∧ '0' ≤ b ∧ b ≤ '1' then
        [([(.day, 30 + digitValue b)], [])] else []) ++
      ((if '1' ≤ a ∧ a ≤ '2' then
        ((decimalValue? b).map fun units =>
          ([(.day, 10 * digitValue a + units)], [])).toList else []) ++
      ((if a = '0' ∧ '1' ≤ b ∧ b ≤ '9' then
        [([(.day, digitValue b)], [])] else []) ++
      ((if '1' ≤ a ∧ a ≤ '9' then [([(.day, digitValue a)], [b])] else []) ++
      (if a = ' ' ∧ '1' ≤ b ∧ b ≤ '9' then
        [([(.day, digitValue b)], [])] else [])))) := by
  have thirty : 10 * digitValue '3' = 30 := rfl
  have zero : 10 * digitValue '0' = 0 := rfl
  have tens : further .day [] (if '1' ≤ a ∧ a ≤ '2' then
        (decimalValue? b).map fun units => (10 * digitValue a + units, [])
        else none) =
      if '1' ≤ a ∧ a ≤ '2' then
        ((decimalValue? b).map fun units =>
          ([(.day, 10 * digitValue a + units)], [])).toList else [] := by
    split
    · cases decimalValue? b <;> rfl
    · rfl
  simp only [readings_directive, Directive.alternatives, List.flatMap_cons,
    List.flatMap_nil, List.append_nil, readPlaces_fixed, readPlaces_between,
    readPlaces_tens, readPlaces_blank, tens, further_ite, thirty, zero,
    Nat.zero_add]
  rfl

theorem fullMatch_day_pair (a b : Char) :
    fullMatch (readings [.directive .day] [a, b]) =
      (matchDay [a, b]).map fun day => [(.day, day)] := by
  rw [readings_day_pair]
  simp only [matchDay, isNonzeroDigit_iff, tens_iff, zeroOne_iff]
  by_cases three : a = '3'
  · subst three
    by_cases digit : b = '0' ∨ b = '1' <;> simp [digit, fullMatch]
  · by_cases tens : a = '1' ∨ a = '2'
    · have nonzero : '1' ≤ a ∧ a ≤ '9' ∧ a ≠ '0' := by
        rcases tens with rfl | rfl <;> decide
      cases decimalValue? b <;> simp [three, tens, nonzero, fullMatch]
    · by_cases zero : a = '0'
      · subst zero
        by_cases digit : '1' ≤ b ∧ b ≤ '9' <;> simp [digit, fullMatch]
      · by_cases blank : a = ' '
        · subst blank
          by_cases digit : '1' ≤ b ∧ b ≤ '9' <;> simp [digit, fullMatch]
        · -- A single digit is read, and leaves the second character behind.
          by_cases nonzero : '1' ≤ a ∧ a ≤ '9' <;>
            simp [three, tens, zero, blank, nonzero, fullMatch]

theorem fullMatch_day (characters : List Char) :
    fullMatch (readings [.directive .day] characters) =
      (matchDay characters).map fun day => [(.day, day)] := by
  match characters with
  | [] => rfl
  | [a] =>
      simp only [matchDay, isNonzeroDigit_iff]
      by_cases digit : '1' ≤ a ∧ a ≤ '9'
      · simp [readings, Directive.alternatives, readPlaces, Place.read, digit,
          fullMatch]
      · simp [readings, Directive.alternatives, readPlaces, Place.read, digit]
  | [a, b] => exact fullMatch_day_pair a b
  | a :: b :: c :: rest =>
      have unmatched : matchDay (a :: b :: c :: rest) = none := rfl
      rw [unmatched, Option.map_none, fullMatch]
      cases found :
        (readings [.directive .day] (a :: b :: c :: rest)).head? with
      | none => rfl
      | some reading =>
          obtain ⟨groups, behind⟩ := reading
          have long := length_le_of_mem_readings_day (List.mem_of_head? found)
          cases behind with
          | nil =>
              rw [List.length_cons, List.length_cons, List.length_cons] at long
              exact absurd long (by rw [List.length_nil]; omega)
          | cons first others => rfl

end Day

section Date

def monthDayGroups (found : Nat × Nat) : Groups :=
  [(.month, found.1), (.day, found.2)]

theorem map_monthDayGroups (month : Nat) (day : Option Nat) :
    ((day.map fun value => [(.day, value)]).map
      fun groups => (Directive.month, month) :: groups) =
      (day.map fun value => (month, value)).map monthDayGroups := by
  cases day <;> rfl

/-- The rest of the format behind a month. -/
abbrev dayTokens : List Token := [.literal '-', .directive .day]

theorem fullMatch_monthDay_dash (a : Char) (rest : List Char) :
    fullMatch (readings (.directive .month :: dayTokens)
        (a :: '-' :: rest)) =
      (monthDay (a :: '-' :: rest)).map monthDayGroups := by
  have noDigit : ¬ '0' ≤ '-' ∧ ¬ '1' ≤ '-' := by decide
  rw [readings_month_cons, readings_dash_cons, monthDay_dash]
  simp only [noDigit, false_and, and_false, if_false, List.nil_append, if_true]
  by_cases digit : '1' ≤ a ∧ a ≤ '9'
  · rw [if_pos digit, if_pos digit, fullMatch_named, fullMatch_day,
      map_monthDayGroups]
  · rw [if_neg digit, if_neg digit]
    rfl

/-- A month of one digit ends at a dash: behind a digit none is read so. -/
theorem readings_month_of_ne {a b : Char} {rest : List Char} (apart : b ≠ '-') :
    readings (.directive .month :: dayTokens) (a :: b :: rest) =
      (if a = '1' ∧ '0' ≤ b ∧ b ≤ '2' then
        named .month (10 + digitValue b) (readings dayTokens rest) else []) ++
      (if a = '0' ∧ '1' ≤ b ∧ b ≤ '9' then
        named .month (digitValue b) (readings dayTokens rest) else []) := by
  have noThird : named .month (digitValue a)
      (readings dayTokens (b :: rest)) = [] := by
    rw [readings_dash_cons, if_neg apart]
    rfl
  rw [readings_month_cons, noThird, ite_self, List.append_nil]

theorem fullMatch_monthDay_two (a b c : Char) (rest : List Char)
    (apart : b ≠ '-') :
    fullMatch (readings (.directive .month :: dayTokens)
        (a :: b :: c :: rest)) =
      (monthDay (a :: b :: c :: rest)).map monthDayGroups := by
  rw [readings_month_of_ne apart, readings_dash_cons,
    monthDay_two a b c rest apart]
  by_cases second : c = '-'
  · rw [if_pos second, if_pos second]
    by_cases ten : a = '1' ∧ '0' ≤ b ∧ b ≤ '2'
    · have notZero : ¬ (a = '0' ∧ '1' ≤ b ∧ b ≤ '9') := by
        rw [ten.1]
        exact fun other => absurd other.1 (by decide)
      rw [if_pos ten, if_neg notZero, if_pos ten, List.append_nil,
        fullMatch_named, fullMatch_day, map_monthDayGroups]
    · rw [if_neg ten, if_neg ten, List.nil_append]
      by_cases zero : a = '0' ∧ '1' ≤ b ∧ b ≤ '9'
      · rw [if_pos zero, if_pos zero, fullMatch_named, fullMatch_day,
          map_monthDayGroups]
      · rw [if_neg zero, if_neg zero]
        rfl
  · rw [if_neg second, if_neg second]
    simp [named]

theorem fullMatch_monthDay (characters : List Char) :
    fullMatch (readings (.directive .month :: dayTokens) characters) =
      (monthDay characters).map monthDayGroups := by
  match characters with
  | [] => rfl
  | [a] =>
      have unmatched : monthDay [a] = none := by simp [monthDay, matchMonth]
      rw [unmatched, readings_directive]
      by_cases digit : '1' ≤ a ∧ a ≤ '9' <;>
        simp [Directive.alternatives, readPlaces, Place.read, further, named,
          readings, digit]
  | a :: b :: rest =>
      by_cases dash : b = '-'
      · subst dash
        exact fullMatch_monthDay_dash a rest
      · cases rest with
        | nil =>
            have unmatched : monthDay [a, b] = none := by
              simp [monthDay, matchMonth, dash]
            rw [readings_month_of_ne dash, unmatched]
            simp [readings, named]
        | cons c rest => exact fullMatch_monthDay_two a b c rest dash

theorem toOption_strptime (format : Format) (text : String) :
    (strptime format text).toOption =
      (fullMatch (readings format.tokens text.toList)).bind fun groups =>
        (build groups).toOption := by
  rw [strptime, fullMatch]
  match (readings format.tokens text.toList).head? with
  | none => rfl
  | some (groups, []) => rfl
  | some (groups, _ :: _) => rfl

def midnight (found : Nat × Nat × Nat) : Option DateTime :=
  combine (toOrdinal found.1 found.2.1 found.2.2) ⟨0, 0, 0, 0, false⟩ none

theorem lookup_dateGroups (year month day : Nat) (directive : Directive) :
    List.lookup directive ((.year, year) :: monthDayGroups (month, day)) =
      match directive with
      | .year => some year
      | .month => some month
      | .day => some day
      | _ => none := by
  cases directive <;> rfl

theorem toOption_build (year month day : Nat) :
    (build ((.year, year) :: monthDayGroups (month, day))).toOption =
      if ValidDate year month day then midnight (year, month, day)
      else none := by
  simp only [build, lookup_dateGroups, Option.getD_some, Option.getD_none]
  by_cases valid : ValidDate year month day
  · have positive : year ≠ 0 := Nat.ne_of_gt valid.1
    rw [if_neg positive, if_neg (not_not.mpr valid), if_pos valid, midnight]
    cases combine (toOrdinal year month day) ⟨0, 0, 0, 0, false⟩ none <;> rfl
  · rw [if_pos valid, if_neg valid]
    by_cases zero : year = 0
    · rw [if_pos zero]
      rfl
    · rw [if_neg zero]
      rfl

/-- `strptime` with the format of dates returns the midnight of the date that
the reader finds, and refuses what the reader refuses. -/
theorem strptime_dateFormat (text : String) :
    (strptime dateFormat text).toOption =
      (strptimeDate text).bind midnight := by
  rw [toOption_strptime, dateFormat, readings_year, strptimeDate]
  cases matchYear text.toList with
  | none => rfl
  | some found =>
      obtain ⟨year, behindYear⟩ := found
      simp only [Option.bind_eq_bind, Option.bind_some, fullMatch_named,
        fullMatch_monthDay, monthDay]
      cases matchMonth behindYear with
      | none => rfl
      | some reading =>
          obtain ⟨month, behindMonth⟩ := reading
          simp only [Option.bind_some]
          cases matchDay behindMonth with
          | none => rfl
          | some day =>
              have built := toOption_build year month day
              simp only [Option.bind_some, Option.pure_def, Option.map_some,
                built]
              by_cases valid : ValidDate year month day
              · rw [if_pos valid, if_pos valid, Option.bind_some]
              · rw [if_neg valid, if_neg valid, Option.bind_none]

end Date

end PipelineOps.Orchestrator
