import PipelineOps.Python.JsonFaults
import PipelineOps.Python.JsonStyle

namespace PipelineOps.Python

open PipelineOps.Library
open PipelineOps.Library.Scanner

/-! The strings and numbers that are written are read back. -/

section Strings

theorem hexDigit?_digitChar :
    ∀ digit < 16, hexDigit? (Nat.digitChar digit) = some digit := by
  decide

theorem scanUnit_hexDigits {unit : Nat} (bounded : unit < 0x10000)
    {rest : List Char} (behind : rest ≠ []) :
    scanUnit (hexDigits unit ++ rest) = some (unit, rest) := by
  obtain ⟨next, rest, rfl⟩ := List.exists_cons_of_ne_nil behind
  have digit : ∀ part, hexDigit? (Nat.digitChar (part % 16)) =
      some (part % 16) :=
    fun part => hexDigit?_digitChar _ (Nat.mod_lt part (by omega))
  have value : ((unit / 4096 % 16 * 16 + unit / 256 % 16) * 16 +
      unit / 16 % 16) * 16 + unit % 16 = unit := by omega
  simp only [hexDigits, List.cons_append, List.nil_append, scanUnit, digit,
    bind, Option.bind, value]
  rfl

theorem reads_escapeUnit {character : Char}
    (bounded : character.toNat < 0x10000) :
    Reads scanUnicode (· ≠ []) (hexDigits character.toNat)
      (some character) := by
  intro rest behind
  have valid := toNat_cases character
  have notHigh : ¬ IsHighSurrogate character.toNat := by
    simp only [IsHighSurrogate]
    omega
  have notLow : ¬ IsLowSurrogate character.toNat := by
    simp only [IsLowSurrogate]
    omega
  rw [scanUnicode, scanUnit_hexDigits bounded behind]
  dsimp only
  rw [if_neg notHigh, if_neg notLow, Char.ofNat_toNat]

theorem reads_surrogates {character : Char}
    (wide : 0x10000 ≤ character.toNat) :
    Reads scanUnicode (· ≠ [])
      (hexDigits (0xD800 + (character.toNat - 0x10000) / 1024) ++
        escapeUnit (0xDC00 + (character.toNat - 0x10000) % 1024))
      (some character) := by
  intro rest behind
  have valid := toNat_cases character
  generalize high : 0xD800 + (character.toNat - 0x10000) / 1024 = first
  generalize low : 0xDC00 + (character.toNat - 0x10000) % 1024 = second
  have isHigh : IsHighSurrogate first := by
    simp only [IsHighSurrogate]
    omega
  have isLow : IsLowSurrogate second := by
    simp only [IsLowSurrogate]
    omega
  have joined : 0x10000 + (first - 0xD800) * 1024 + (second - 0xDC00) =
      character.toNat := by omega
  have long : ¬ (hexDigits second ++ rest).length ≤ 4 := by
    have positive := List.length_pos_iff.mpr behind
    rw [List.length_append]
    simp only [hexDigits, List.length_cons, List.length_nil]
    omega
  rw [scanUnicode, List.append_assoc, scanUnit_hexDigits (by omega)
    (by simp [escapeUnit]), escapeUnit]
  dsimp only [List.cons_append]
  rw [if_pos isHigh]
  simp only
  rw [if_neg long, scanUnit_hexDigits (by omega) behind]
  dsimp only
  rw [if_pos isLow, joined, Char.ofNat_toNat]

/-- The letter of an escape stands for the character it was written for. -/
theorem unescaped?_of_escapeChar {character letter : Char}
    (written : escapeChar character = ['\\', letter]) :
    unescaped? letter = some character := by
  unfold escapeChar at written
  dsimp only at written
  split at written
  · next same =>
      cases written
      rw [same]
      rfl
  split at written
  · next same =>
      cases written
      rw [same]
      rfl
  split at written
  · next same =>
      cases written
      rw [same]
      rfl
  split at written
  · next same =>
      cases written
      rw [same]
      rfl
  split at written
  · next same =>
      cases written
      rw [same]
      rfl
  split at written
  · next same =>
      cases written
      rw [eq_ofNat_of_toNat same]
      rfl
  split at written
  · next same =>
      cases written
      rw [eq_ofNat_of_toNat same]
      rfl
  split at written
  · cases written
  split at written
  · cases written
  · cases written

theorem plain_of_escapeChar {character : Char}
    (written : escapeChar character = [character]) :
    0x1F < character.toNat := by
  unfold escapeChar at written
  dsimp only at written
  iterate 7
    split at written
    · cases written
  split at written
  · next plain => exact plain.1
  split at written
  · cases written
  · cases written

variable {start : Nat}

theorem reads_plain {character : Char} (notEscape : character ≠ '\\')
    (printable : 0x1F < character.toNat) :
    Reads (scanChar start) (· ≠ []) [character] (some character) := by
  intro rest _
  rw [List.singleton_append, scanChar, if_neg (Nat.not_le.mpr printable)]
  · exact fun same _ => notEscape same
  · exact fun _ _ same _ => notEscape same

theorem reads_escapeChar (character : Char) :
    Reads (scanChar start) (· ≠ []) (escapeChar character)
      (some character) := by
  intro rest behind
  rcases escapeChar_cases character with
    ⟨letter, notUnit, -, -, text⟩ | ⟨notQuote, notEscape, -, text⟩ |
    ⟨bounded, text⟩ | ⟨wide, text⟩
  · rw [text, List.cons_append, List.cons_append, List.nil_append, scanChar,
      if_neg notUnit, unescaped?_of_escapeChar text]
  · rw [text]
    exact reads_plain notEscape (plain_of_escapeChar text) rest behind
  · rw [text, escapeUnit, List.cons_append, List.cons_append, scanChar,
      if_pos rfl]
    exact reads_escapeUnit bounded rest behind
  · rw [text, escapeUnit, List.cons_append, List.cons_append,
      List.cons_append, List.cons_append, scanChar, if_pos rfl]
    exact reads_surrogates wide rest behind

theorem reads_escapeControl (character : Char) :
    Reads (scanChar start) (· ≠ []) (escapeControl character)
      (some character) := by
  rw [escapeControl]
  split
  · exact reads_escapeChar character
  · next plain =>
      rw [not_or, not_or] at plain
      exact reads_plain plain.2.2 (Nat.lt_of_succ_le (Nat.le_of_not_lt plain.1))

theorem escapeControl_opens (character : Char) :
    ∃ head tail, escapeControl character = head :: tail ∧ head ≠ '"' := by
  rw [escapeControl]
  split
  · exact escapeChar_opens character
  · next plain =>
      rw [not_or, not_or] at plain
      exact ⟨character, [], rfl, plain.2.1⟩

theorem mapM_id_some {α : Type} (values : List α) :
    (values.map some).mapM id = some values := by
  induction values with
  | nil => rfl
  | cons value values induction =>
      rw [List.map_cons, List.mapM_cons, induction]
      rfl

theorem length_le_flatMap {α : Type} {write : α → List Char}
    {values : List α} (filled : ∀ value ∈ values, write value ≠ []) :
    values.length ≤ (values.flatMap write).length := by
  induction values with
  | nil => exact Nat.zero_le _
  | cons value values induction =>
      rw [List.forall_mem_cons] at filled
      have positive := List.length_pos_iff.mpr filled.1
      have others := induction filled.2
      rw [List.flatMap_cons, List.length_append, List.length_cons]
      omega

/-- A string is read back from what an encoder of its characters has written. -/
theorem reads_string {escape : Char → List Char}
    (opens : ∀ character, ∃ head tail,
      escape character = head :: tail ∧ head ≠ '"')
    (reads : ∀ start character, Reads (scanChar start) (· ≠ [])
      (escape character) (some character))
    (text : String) :
    Reads scanString (fun _ => True) (text.toList.flatMap escape ++ ['"'])
      (some text) := by
  intro rest _
  have filled : ∀ character ∈ text.toList, escape character ≠ [] := by
    intro character _
    obtain ⟨head, tail, written, -⟩ := opens character
    rw [written]
    exact List.cons_ne_nil head tail
  have enough : text.toList.length <
      (text.toList.flatMap escape ++ ['"'] ++ rest).length + 1 := by
    have length := length_le_flatMap filled
    rw [List.length_append, List.length_append]
    omega
  have each : ∀ start, ∀ character ∈ text.toList,
      Reads (scanChar start) (· ≠ []) (escape character) (some character) :=
    fun start character _ => reads start character
  rw [scanString, reads_upTo ?_ (each _) (by simp) enough rest trivial]
  · have joined : ((text.toList.map some).mapM id).map String.ofList =
        some text := by
      rw [mapM_id_some, Option.map_some, String.ofList_toList]
    exact congrArg (fun read => Except.ok (read, rest)) joined
  · intro character _ behind
    obtain ⟨head, tail, written, notQuote⟩ := opens character
    rw [written, List.cons_append, List.head?_cons]
    exact fun same => notQuote (Option.some.inj same)

theorem toList_encode (style : JsonStyle) (text : String) :
    ∃ escaped, (style.encode text).toList = '"' :: escaped ∧
      Reads scanString (fun _ => True) escaped (some text) := by
  rw [JsonStyle.encode]
  split
  · rw [toList_encodeBasestringAscii]
    exact ⟨_, rfl, reads_string escapeChar_opens
      (fun _ => reads_escapeChar) text⟩
  · refine ⟨text.toList.flatMap escapeControl ++ ['"'], ?_,
      reads_string escapeControl_opens (fun _ => reads_escapeControl) text⟩
    rw [encodeBasestring, String.toList_ofList]
    rfl

end Strings

section Numbers

/-- Nothing that a number could go on with. -/
def EndsNumber (rest : List Char) : Prop :=
  ∀ character ∈ rest.head?, isAsciiDigit character = false ∧
    character ∉ ['.', 'e', 'E']

def IsNatural (digits : List Char) : Prop :=
  AllDigits digits ∧ (digits = ['0'] ∨
    ∃ first rest, digits = first :: rest ∧ first ≠ '0')

def IsInteger (text : List Char) : Prop :=
  ∃ digits, IsNatural digits ∧ (text = digits ∨ text = '-' :: digits)

def IsFraction (text : List Char) : Prop :=
  text = [] ∨ ∃ digits, digits ≠ [] ∧ AllDigits digits ∧ text = '.' :: digits

def IsExponent (text : List Char) : Prop :=
  text = [] ∨ ∃ letter sign digits, (letter = 'e' ∨ letter = 'E') ∧
    sign ∈ [[], ['-'], ['+']] ∧ digits ≠ [] ∧ AllDigits digits ∧
    text = letter :: sign ++ digits

theorem EndsNumber.digits {rest : List Char} (ends : EndsNumber rest) :
    EndsDigits rest :=
  fun character head => (ends character head).1

theorem spanDigits_append {digits rest : List Char}
    (inside : AllDigits digits) (ends : EndsDigits rest) :
    spanDigits (digits ++ rest) = (digits, rest) := by
  have stops : rest.takeWhile isAsciiDigit = [] ∧
      rest.dropWhile isAsciiDigit = rest := by
    cases rest with
    | nil => exact ⟨rfl, rfl⟩
    | cons character rest =>
        have notDigit := ends character rfl
        constructor
        · rw [List.takeWhile_cons_of_neg (by simp [notDigit])]
        · rw [List.dropWhile_cons_of_neg (by simp [notDigit])]
  rw [spanDigits, List.takeWhile_append_of_pos inside,
    List.dropWhile_append_of_pos inside, stops.1, stops.2, List.append_nil]

theorem matchNatural_append {digits rest : List Char}
    (natural : IsNatural digits) (ends : EndsDigits rest) :
    matchNatural (digits ++ rest) = some (digits, rest) := by
  obtain ⟨inside, rfl | ⟨first, others, rfl, notZero⟩⟩ := natural
  · rfl
  · rw [AllDigits, List.forall_mem_cons] at inside
    rw [List.cons_append, matchNatural, if_pos inside.1,
      spanDigits_append inside.2 ends]
    exact fun same => notZero same

theorem IsNatural.head {digits : List Char} (natural : IsNatural digits) :
    ∃ first rest, digits = first :: rest ∧ isAsciiDigit first = true := by
  obtain ⟨inside, rfl | ⟨first, rest, rfl, -⟩⟩ := natural
  · exact ⟨'0', [], rfl, rfl⟩
  · exact ⟨first, rest, rfl, inside first List.mem_cons_self⟩

theorem ne_of_isAsciiDigit {first other : Char}
    (isDigit : isAsciiDigit first = true)
    (notDigit : isAsciiDigit other = false) : first ≠ other := by
  rintro rfl
  rw [isDigit] at notDigit
  cases notDigit

theorem matchInteger_append {integer rest : List Char}
    (isInteger : IsInteger integer) (ends : EndsDigits rest) :
    matchInteger (integer ++ rest) = some (integer, rest) := by
  obtain ⟨digits, natural, rfl | rfl⟩ := isInteger
  · obtain ⟨first, others, rfl, isDigit⟩ := natural.head
    rw [List.cons_append, matchInteger, ← List.cons_append,
      matchNatural_append natural ends]
    exact fun _ same =>
      ne_of_isAsciiDigit isDigit (by decide) (List.cons.inj same).1
  · rw [List.cons_append, matchInteger, matchNatural_append natural ends]
    rfl

theorem matchFraction_append {fraction rest : List Char}
    (isFraction : IsFraction fraction) (ends : EndsDigits rest)
    (noPoint : rest.head? ≠ some '.') :
    matchFraction (fraction ++ rest) = (fraction, rest) := by
  obtain rfl | ⟨digits, filled, inside, rfl⟩ := isFraction
  · cases rest with
    | nil => rfl
    | cons character rest =>
        rw [List.nil_append, matchFraction]
        exact fun _ same => noPoint (congrArg List.head? same)
  · rw [List.cons_append, matchFraction, spanDigits_append inside ends]
    exact if_neg filled

theorem matchSign_append {sign digits rest : List Char}
    (isSign : sign ∈ [[], ['-'], ['+']]) (filled : digits ≠ [])
    (inside : AllDigits digits) :
    matchSign (sign ++ digits ++ rest) = (sign, digits ++ rest) := by
  simp only [List.mem_cons, List.not_mem_nil, or_false] at isSign
  obtain rfl | rfl | rfl := isSign
  · obtain ⟨first, others, rfl⟩ := List.exists_cons_of_ne_nil filled
    have isDigit := inside first List.mem_cons_self
    rw [List.nil_append, List.cons_append, matchSign]
    · exact fun _ same =>
        ne_of_isAsciiDigit isDigit (by decide) (List.cons.inj same).1
    · exact fun _ same =>
        ne_of_isAsciiDigit isDigit (by decide) (List.cons.inj same).1
  · rfl
  · rfl

theorem matchExponent_append {exponent rest : List Char}
    (isExponent : IsExponent exponent) (ends : EndsNumber rest) :
    matchExponent (exponent ++ rest) = (exponent, rest) := by
  obtain rfl | ⟨letter, sign, digits, isLetter, isSign, filled, inside, rfl⟩ :=
    isExponent
  · cases rest with
    | nil => rfl
    | cons character rest =>
        have neither := (ends character rfl).2
        rw [List.nil_append, matchExponent, if_neg]
        rintro (rfl | rfl)
        · exact neither (by simp)
        · exact neither (by simp)
  · rw [List.cons_append, List.cons_append, matchExponent, if_pos isLetter,
      matchSign_append isSign filled inside]
    dsimp only
    rw [spanDigits_append inside ends.digits]
    exact if_neg filled

theorem IsExponent.ends {exponent rest : List Char}
    (isExponent : IsExponent exponent) (ends : EndsNumber rest) :
    EndsDigits (exponent ++ rest) ∧ (exponent ++ rest).head? ≠ some '.' := by
  obtain rfl | ⟨letter, sign, digits, isLetter, -, -, -, rfl⟩ := isExponent
  · refine ⟨ends.digits, fun point => ?_⟩
    exact (ends '.' point).2 (by simp)
  · have known : isAsciiDigit letter = false ∧ letter ≠ '.' := by
      obtain rfl | rfl := isLetter
      · decide
      · decide
    constructor
    · rintro character ⟨⟩
      exact known.1
    · exact fun same => known.2 (Option.some.inj same)

theorem IsFraction.ends {fraction rest : List Char}
    (isFraction : IsFraction fraction) (ends : EndsDigits rest) :
    EndsDigits (fraction ++ rest) := by
  obtain rfl | ⟨digits, -, -, rfl⟩ := isFraction
  · exact ends
  · rintro character ⟨⟩
    rfl

variable {floatRepr : String → String}

/-- The three parts of a number are found one behind the other. -/
theorem match_append {integer fraction exponent rest : List Char}
    (isInteger : IsInteger integer) (isFraction : IsFraction fraction)
    (isExponent : IsExponent exponent) (ends : EndsNumber rest) :
    matchInteger (integer ++ (fraction ++ (exponent ++ rest))) =
        some (integer, fraction ++ (exponent ++ rest)) ∧
      matchFraction (fraction ++ (exponent ++ rest)) =
        (fraction, exponent ++ rest) ∧
      matchExponent (exponent ++ rest) = (exponent, rest) := by
  obtain ⟨noDigits, noPoint⟩ := isExponent.ends ends
  exact ⟨matchInteger_append isInteger (isFraction.ends noDigits),
    matchFraction_append isFraction noDigits noPoint,
    matchExponent_append isExponent ends⟩

theorem scanNumber_integer {integer rest : List Char} {value : Int}
    (isInteger : IsInteger integer) (ends : EndsNumber rest)
    (read : readInteger integer = .ok value) :
    scanNumber floatRepr (integer ++ rest) =
      .ok (some (.int value), rest) := by
  obtain ⟨integers, fractions, exponents⟩ :=
    match_append isInteger (.inl rfl) (.inl rfl) ends
  simp only [List.nil_append] at integers fractions exponents
  rw [scanNumber, integers]
  simp only [fractions, exponents, and_self, if_true, read]

theorem scanNumber_float {integer fraction exponent rest : List Char}
    (isInteger : IsInteger integer) (isFraction : IsFraction fraction)
    (isExponent : IsExponent exponent) (ends : EndsNumber rest)
    (apart : ¬ (fraction = [] ∧ exponent = [])) :
    scanNumber floatRepr (integer ++ fraction ++ exponent ++ rest) =
      .ok (some (.float (floatRepr
        (String.ofList (integer ++ fraction ++ exponent)))), rest) := by
  obtain ⟨integers, fractions, exponents⟩ :=
    match_append isInteger isFraction isExponent ends
  rw [List.append_assoc, List.append_assoc, scanNumber, integers]
  simp only [fractions, exponents, if_neg apart]

theorem decimalNumber_toDigits (number : Nat) :
    decimalNumber (Nat.toDigits 10 number) = number := by
  have positive : 0 < (Nat.toDigits 10 number).length :=
    Nat.length_toDigits_pos
  have small : number < 10 ^ (Nat.toDigits 10 number).length :=
    (Nat.length_toDigits_le_iff (by omega) positive).mp (Nat.le_refl _)
  have padded := lastDigits_eq positive small
  rw [Nat.sub_self, List.replicate_zero, List.nil_append] at padded
  have value := decimalNumber_lastDigits (Nat.toDigits 10 number).length number
  rwa [padded, Nat.mod_eq_of_lt small] at value

theorem isNatural_toDigits (number : Nat) :
    IsNatural (Nat.toDigits 10 number) := by
  induction number using Nat.strongRecOn with
  | ind number induction =>
      by_cases single : number < 10
      · rw [Nat.toDigits_of_lt_base single]
        have isDigit := isAsciiDigit_digitChar single
        refine ⟨by simp [AllDigits, isDigit], ?_⟩
        by_cases zero : number = 0
        · exact .inl (by rw [zero]; rfl)
        · refine .inr ⟨_, [], rfl, fun same => zero ?_⟩
          have value := congrArg digitValue same
          rwa [digitValue_digitChar single] at value
      · have smaller : number / 10 < number := by omega
        obtain ⟨inside, shape⟩ := induction _ smaller
        rw [Nat.toDigits_of_base_le (by omega) (Nat.le_of_not_lt single)]
        constructor
        · intro digit member
          rw [List.mem_append, List.mem_singleton] at member
          rcases member with earlier | rfl
          · exact inside digit earlier
          · exact isAsciiDigit_digitChar (Nat.mod_lt _ (by omega))
        · obtain zero | ⟨first, rest, known, notZero⟩ := shape
          · have front := decimalNumber_toDigits (number / 10)
            have none : decimalNumber ['0'] = 0 := by decide
            rw [zero, none] at front
            omega
          · exact .inr ⟨first, _, by rw [known, List.cons_append], notZero⟩

theorem readInteger_toString {value : Int} (printable : Printable value) :
    readInteger (toString value).toList = .ok value := by
  have short : ¬ Value.intMaxStrDigits <
      (Nat.toDigits 10 value.natAbs).length := by
    have bound := (Nat.length_toDigits_le_iff (b := 10) (by omega)
      (by decide : 0 < Value.intMaxStrDigits)).mpr printable
    omega
  have sign := splitSign_of_allDigits (isNatural_toDigits value.natAbs).1
  rw [toList_toString_int]
  split
  · next positive =>
      rw [List.nil_append, readInteger, sign]
      dsimp only
      rw [if_neg short, decimalNumber_toDigits]
      exact congrArg Except.ok (Int.natAbs_of_nonneg positive)
  · next negative =>
      rw [List.singleton_append, readInteger, splitSign]
      dsimp only
      rw [if_neg short, decimalNumber_toDigits, if_pos rfl]
      apply congrArg Except.ok
      omega

theorem isInteger_toString (value : Int) :
    IsInteger (toString value).toList := by
  refine ⟨_, isNatural_toDigits value.natAbs, ?_⟩
  rw [toList_toString_int]
  split
  · exact .inl rfl
  · exact .inr rfl

theorem reads_int {value : Int} (printable : Printable value) :
    Reads (scanNumber floatRepr) EndsNumber (toString value).toList
      (some (.int value)) := by
  intro rest ends
  exact scanNumber_integer (isInteger_toString value) ends
    (readInteger_toString printable)

/-- What `repr` writes for a finite float: it has a fraction or an exponent, and
is read as the same float. -/
def IsFloatRepr (floatRepr : String → String) (repr : String) : Prop :=
  floatRepr repr = repr ∧ ∃ integer fraction exponent,
    IsInteger integer ∧ IsFraction fraction ∧ IsExponent exponent ∧
    ¬ (fraction = [] ∧ exponent = []) ∧
    repr.toList = integer ++ fraction ++ exponent

theorem reads_float {repr : String} (isFloat : IsFloatRepr floatRepr repr) :
    Reads (scanNumber floatRepr) EndsNumber repr.toList
      (some (.float repr)) := by
  intro rest ends
  obtain ⟨same, integer, fraction, exponent, isInteger, isFraction, isExponent,
    apart, text⟩ := isFloat
  rw [text, scanNumber_float isInteger isFraction isExponent ends apart,
    ← text, String.ofList_toList, same]

end Numbers

end PipelineOps.Python
