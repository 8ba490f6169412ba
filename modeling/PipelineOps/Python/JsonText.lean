import Mathlib.Algebra.Group.Int.Defs
import Mathlib.Algebra.Group.Nat.Defs
import PipelineOps.Library.Encoding
import PipelineOps.Python.Json

namespace PipelineOps.Python

open PipelineOps.Library

/-! What is written for a JSON value, as a list of characters. -/

/-- The JSON values, nested so many deep: null, booleans, the integers that
`integers` allows, texts, arrays, and objects with distinct keys. -/
inductive IsJson (integers : Int → Prop) : Nat → Value → Prop
  | null {depth : Nat} : IsJson integers depth .null
  | bool {depth : Nat} (value : Bool) : IsJson integers depth (.bool value)
  | int {depth : Nat} {value : Int} (allowed : integers value) :
      IsJson integers depth (.int value)
  | str {depth : Nat} (text : String) : IsJson integers depth (.str text)
  | list {depth : Nat} {items : List Value}
      (each : ∀ item ∈ items, IsJson integers depth item) :
      IsJson integers (depth + 1) (.list items)
  | dict {depth : Nat} {entries : List (String × Value)}
      (distinct : (entries.map Prod.fst).Nodup)
      (each : ∀ entry ∈ entries, IsJson integers depth entry.2) :
      IsJson integers (depth + 1) (.dict entries)

theorem IsJson.mono {integers : Int → Prop} {depth more : Nat} {value : Value}
    (json : IsJson integers depth value) (grows : depth ≤ more) :
    IsJson integers more value := by
  induction json generalizing more with
  | null => exact .null
  | bool value => exact .bool value
  | int allowed => exact .int allowed
  | str text => exact .str text
  | list each induction =>
      obtain ⟨more, rfl⟩ : ∃ less, more = less + 1 := ⟨more - 1, by omega⟩
      exact .list fun item member => induction item member (by omega)
  | dict distinct each induction =>
      obtain ⟨more, rfl⟩ : ∃ less, more = less + 1 := ⟨more - 1, by omega⟩
      exact .dict distinct fun entry member =>
        induction entry member (by omega)

section Escapes

def hexValue (digit : Char) : Nat :=
  if digit.toNat < 0x40 then digit.toNat - 0x30 else digit.toNat - 0x57

theorem hexValue_digitChar :
    ∀ digit < 16, hexValue (Nat.digitChar digit) = digit := by
  decide

def readUnit : List Char → Nat
  | [first, second, third, fourth] =>
      ((hexValue first * 16 + hexValue second) * 16 + hexValue third) * 16 +
        hexValue fourth
  | _ => 0

theorem readUnit_hexDigits {code : Nat} (bounded : code < 0x10000) :
    readUnit (hexDigits code) = code := by
  have digit : ∀ part, hexValue (Nat.digitChar (part % 16)) = part % 16 :=
    fun part => hexValue_digitChar _ (Nat.mod_lt part (by omega))
  rw [hexDigits, readUnit, digit, digit, digit, digit]
  omega

def unescapeLetter (letter : Char) : Char :=
  if letter = 'n' then '\n'
  else if letter = 'r' then '\r'
  else if letter = 't' then '\t'
  else if letter = 'f' then Char.ofNat 0x0C
  else if letter = 'b' then Char.ofNat 0x08
  else letter

/-- The character at the beginning of an escaped text, and what follows it. -/
def readEscape : List Char → Option (Char × List Char)
  | '\\' :: 'u' :: rest =>
      let unit := readUnit (rest.take 4)
      if 0xD800 ≤ unit ∧ unit < 0xDC00 then
        some (Char.ofNat (0x10000 + (unit - 0xD800) * 1024 +
          (readUnit ((rest.drop 6).take 4) - 0xDC00)), rest.drop 10)
      else some (Char.ofNat unit, rest.drop 4)
  | '\\' :: letter :: rest => some (unescapeLetter letter, rest)
  | character :: rest => some (character, rest)
  | [] => none

theorem toNat_cases (character : Char) :
    character.toNat < 0xD800 ∨
      0xDFFF < character.toNat ∧ character.toNat < 0x110000 :=
  character.valid

theorem eq_ofNat_of_toNat {character : Char} {code : Nat}
    (same : character.toNat = code) : character = Char.ofNat code := by
  rw [← same, Char.ofNat_toNat]

/-- A character is written as a letter behind a backslash, as itself, or as one
unit or two. -/
theorem escapeChar_cases (character : Char) :
    (∃ letter, letter ≠ 'u' ∧ letter.toNat < 128 ∧
        unescapeLetter letter = character ∧
        escapeChar character = ['\\', letter]) ∨
      (character ≠ '"' ∧ character ≠ '\\' ∧ character.toNat < 128 ∧
        escapeChar character = [character]) ∨
      (character.toNat < 0x10000 ∧
        escapeChar character = escapeUnit character.toNat) ∨
      0x10000 ≤ character.toNat ∧ escapeChar character =
        escapeUnit (0xD800 + (character.toNat - 0x10000) / 1024) ++
          escapeUnit (0xDC00 + (character.toNat - 0x10000) % 1024) := by
  generalize text : escapeChar character = written
  unfold escapeChar at text
  dsimp only at text
  split at text
  · rename_i same
    exact .inl ⟨'"', by decide, by decide, same.symm, text.symm⟩
  split at text
  · rename_i same
    exact .inl ⟨'\\', by decide, by decide, same.symm, text.symm⟩
  split at text
  · rename_i same
    exact .inl ⟨'n', by decide, by decide, same.symm, text.symm⟩
  split at text
  · rename_i same
    exact .inl ⟨'r', by decide, by decide, same.symm, text.symm⟩
  split at text
  · rename_i same
    exact .inl ⟨'t', by decide, by decide, same.symm, text.symm⟩
  split at text
  · rename_i same
    exact .inl
      ⟨'f', by decide, by decide, (eq_ofNat_of_toNat same).symm, text.symm⟩
  split at text
  · rename_i same
    exact .inl
      ⟨'b', by decide, by decide, (eq_ofNat_of_toNat same).symm, text.symm⟩
  split at text
  · rename_i quote backslash _ _ _ _ _ plain
    exact .inr (.inl ⟨quote, backslash, by omega, text.symm⟩)
  split at text
  · rename_i bounded
    exact .inr (.inr (.inl ⟨bounded, text.symm⟩))
  · rename_i wide
    exact .inr (.inr (.inr ⟨Nat.le_of_not_lt wide, text.symm⟩))

theorem readEscape_escapeUnit {character : Char}
    (bounded : character.toNat < 0x10000) (rest : List Char) :
    readEscape (escapeUnit character.toNat ++ rest) =
      some (character, rest) := by
  have read : readUnit ((hexDigits character.toNat ++ rest).take 4) =
      character.toNat := readUnit_hexDigits bounded
  have single : ¬ (0xD800 ≤ character.toNat ∧ character.toNat < 0xDC00) := by
    have valid := toNat_cases character
    omega
  rw [escapeUnit, List.cons_append, List.cons_append, readEscape]
  simp only [read, if_neg single, Char.ofNat_toNat]
  rfl

theorem readEscape_surrogates {character : Char}
    (wide : 0x10000 ≤ character.toNat) (rest : List Char) :
    readEscape (escapeUnit (0xD800 + (character.toNat - 0x10000) / 1024) ++
        escapeUnit (0xDC00 + (character.toNat - 0x10000) % 1024) ++ rest) =
      some (character, rest) := by
  have valid := toNat_cases character
  generalize high : 0xD800 + (character.toNat - 0x10000) / 1024 = first
  generalize low : 0xDC00 + (character.toNat - 0x10000) % 1024 = second
  have readFirst : readUnit ((hexDigits first ++ (escapeUnit second ++
      rest)).take 4) = first :=
    readUnit_hexDigits (by omega)
  have readSecond : readUnit (((hexDigits first ++ (escapeUnit second ++
      rest)).drop 6).take 4) = second :=
    readUnit_hexDigits (by omega)
  have paired : 0xD800 ≤ first ∧ first < 0xDC00 := by omega
  have joined : 0x10000 + (first - 0xD800) * 1024 + (second - 0xDC00) =
      character.toNat := by omega
  rw [List.append_assoc, escapeUnit, List.cons_append, List.cons_append,
    readEscape]
  simp only [readFirst, readSecond, if_pos paired, joined, Char.ofNat_toNat]
  rfl

theorem readEscape_escapeChar (character : Char) (rest : List Char) :
    readEscape (escapeChar character ++ rest) = some (character, rest) := by
  rcases escapeChar_cases character with
    ⟨letter, notUnit, -, same, text⟩ | ⟨-, notEscape, -, text⟩ |
    ⟨bounded, text⟩ | ⟨wide, text⟩
  · rw [text, List.cons_append, List.cons_append, List.nil_append, readEscape,
      same]
    simp [notUnit]
  · rw [text, List.cons_append, List.nil_append, readEscape]
    · simp [notEscape]
    · simp [notEscape]
  · rw [text]
    exact readEscape_escapeUnit bounded rest
  · rw [text]
    exact readEscape_surrogates wide rest

theorem prefixCode_escapeChar : PrefixCode escapeChar :=
  .of_reader readEscape_escapeChar

theorem escapeChar_opens (character : Char) :
    ∃ head tail, escapeChar character = head :: tail ∧ head ≠ '"' := by
  rcases escapeChar_cases character with
    ⟨letter, -, -, -, text⟩ | ⟨notQuote, -, -, text⟩ | ⟨-, text⟩ | ⟨-, text⟩
  · exact ⟨'\\', _, text, by decide⟩
  · exact ⟨character, [], text, notQuote⟩
  · exact ⟨'\\', _, text, by decide⟩
  · exact ⟨'\\', _, text, by decide⟩

end Escapes

section Scalars

theorem toList_encodeBasestringAscii (text : String) :
    (encodeBasestringAscii text).toList =
      '"' :: (text.toList.flatMap escapeChar ++ ['"']) := by
  simp [encodeBasestringAscii]

theorem prefixCode_text :
    PrefixCode fun text => (encodeBasestringAscii text).toList := by
  intro text other left right same
  simp only [toList_encodeBasestringAscii, List.cons_append,
    List.append_assoc, List.nil_append, List.cons.injEq, true_and] at same
  obtain ⟨characters, rest⟩ :=
    prefixCode_escapeChar.flatMap_closed escapeChar_opens same
  exact ⟨String.toList_inj.mp characters, rest⟩

/-- The integers that CPython writes. -/
def Printable (value : Int) : Prop :=
  value.natAbs < 10 ^ Value.intMaxStrDigits

theorem intText_of_printable {value : Int} (printable : Printable value) :
    Value.intText value = .ok (toString value) := by
  have short : (toString value.natAbs).length ≤ Value.intMaxStrDigits := by
    rw [← String.length_toList, Nat.toString_eq_repr, Nat.toList_repr]
    exact (Nat.length_toDigits_le_iff (by omega) (by decide)).mpr printable
  rw [Value.intText, if_neg (Nat.not_lt.mpr short)]

theorem intText_of_not_printable :
    ∃ exc, ∀ value, ¬ Printable value → Value.intText value = .error exc := by
  apply Exists.intro
  intro value oversized
  have long : Value.intMaxStrDigits < (toString value.natAbs).length := by
    apply Nat.lt_of_not_le
    intro short
    rw [← String.length_toList, Nat.toString_eq_repr, Nat.toList_repr] at short
    exact oversized
      ((Nat.length_toDigits_le_iff (by omega) (by decide)).mp short)
  exact if_pos long

def isIntChar (character : Char) : Bool :=
  character.isDigit || character == '-'

theorem toList_toString_int (value : Int) :
    (toString value).toList =
      (if 0 ≤ value then [] else ['-']) ++ Nat.toDigits 10 value.natAbs := by
  rw [Int.toString_eq_repr, Int.repr_eq_if]
  split
  · rename_i natural
    have same : value.toNat = value.natAbs := by omega
    simp [same]
  · have same : (-value).toNat = value.natAbs := by omega
    simp [same]

theorem isIntChar_of_mem {value : Int} :
    ∀ character ∈ (toString value).toList, isIntChar character = true := by
  intro character member
  rw [toList_toString_int, List.mem_append] at member
  rcases member with sign | digit
  · split at sign
    · cases sign
    · rw [List.mem_singleton.mp sign]
      rfl
  · have isDigit := Nat.isDigit_of_mem_toDigits (by omega) (by omega) digit
    simp [isIntChar, isDigit]

theorem toString_int_injective {value other : Int}
    (same : (toString value).toList = (toString other).toList) :
    value = other := by
  have digits : ∀ first second : Nat,
      Nat.toDigits 10 first = Nat.toDigits 10 second → first = second := by
    intro first second agree
    have read := congrArg (Nat.ofDigitChars 10 · 0) agree
    simpa using read
  have unsigned : ∀ number : Nat, '-' ∉ Nat.toDigits 10 number := by
    intro number member
    have isDigit := Nat.isDigit_of_mem_toDigits (by omega) (by omega) member
    cases isDigit
  rw [toList_toString_int, toList_toString_int] at same
  by_cases natural : 0 ≤ value <;> by_cases otherNatural : 0 ≤ other
  · rw [if_pos natural, if_pos otherNatural] at same
    have magnitude := digits _ _ same
    omega
  · rw [if_pos natural, if_neg otherNatural] at same
    have member : '-' ∈ Nat.toDigits 10 value.natAbs := by
      rw [List.nil_append] at same
      rw [same]
      exact List.mem_cons_self
    exact absurd member (unsigned _)
  · rw [if_neg natural, if_pos otherNatural] at same
    have member : '-' ∈ Nat.toDigits 10 other.natAbs := by
      rw [List.nil_append] at same
      rw [← same]
      exact List.mem_cons_self
    exact absurd member (unsigned _)
  · rw [if_neg natural, if_neg otherNatural] at same
    have magnitude := digits _ _ (List.append_cancel_left same)
    omega

end Scalars

section Texts

variable {room : Nat}

/-- The characters that are written for a value. -/
def jsonText (room : Nat) (value : Value) : List Char :=
  match jsonDumps canonicalStyle room value with
  | .ok text => text.toList
  | .error _ => []

def memberText (room : Nat) (entry : String × Value) : List Char :=
  (encodeBasestringAscii entry.1).toList ++ ':' :: jsonText room entry.2

def Writes (room : Nat) (value : Value) : Prop :=
  jsonDumps canonicalStyle room value =
    .ok (String.ofList (jsonText room value))

theorem writes_iff {value : Value} :
    Writes room value ↔
      ∃ text, jsonDumps canonicalStyle room value = .ok text := by
  constructor
  · exact fun writes => ⟨_, writes⟩
  · intro returned
    obtain ⟨text, returned⟩ := returned
    rw [Writes, jsonText, returned, String.ofList_toList]

theorem jsonText_of_ok {value : Value} {text : List Char}
    (returned : jsonDumps canonicalStyle room value =
      .ok (String.ofList text)) :
    jsonText room value = text := by
  rw [jsonText, returned]
  exact String.toList_ofList

theorem join_ofList {α : Type} (write : α → List Char) (values : List α) :
    join "," (values.map fun value => String.ofList (write value)) =
      String.ofList (separated ',' (values.map write)) := by
  apply String.toList_inj.mp
  rw [String.toList_ofList]
  induction values with
  | nil => rfl
  | cons value rest induction =>
      cases rest with
      | nil => exact String.toList_ofList
      | cons next rest =>
          simp only [List.map_cons] at induction ⊢
          rw [join_cons_cons, separated_cons_cons, String.toList_append,
            String.toList_append, String.toList_ofList, induction,
            List.append_assoc]
          rfl

theorem jsonItems_eq {items : List Value}
    (each : ∀ item ∈ items, Writes room item) :
    jsonItems canonicalStyle room items =
      .ok (items.map fun item => String.ofList (jsonText room item)) := by
  induction items with
  | nil => rfl
  | cons item rest induction =>
      rw [jsonItems, each item List.mem_cons_self,
        induction fun other member =>
          each other (List.mem_cons_of_mem _ member)]
      rfl

theorem jsonMembers_eq {entries : List (String × Value)}
    (each : ∀ entry ∈ entries, Writes room entry.2) :
    jsonMembers canonicalStyle (entries.map fun entry =>
        (entry.1, jsonDumps canonicalStyle room entry.2)) =
      .ok (entries.map fun entry =>
        String.ofList (memberText room entry)) := by
  induction entries with
  | nil => rfl
  | cons entry rest induction =>
      rw [List.map_cons, jsonMembers, each entry List.mem_cons_self,
        induction fun other member =>
          each other (List.mem_cons_of_mem _ member)]
      have written : encodeBasestringAscii entry.1 ++ ":" ++
          String.ofList (jsonText room entry.2) =
            String.ofList (memberText room entry) := by
        apply String.toList_inj.mp
        simp [memberText]
      rw [List.map_cons, ← written]
      rfl

theorem jsonDumps_list {items : List Value}
    (each : ∀ item ∈ items, Writes room item) :
    jsonDumps canonicalStyle (room + 1) (.list items) = .ok (String.ofList
      ('[' :: (separated ',' (items.map (jsonText room)) ++ [']']))) := by
  apply jsonDumps_list_ok_iff.mpr
  refine ⟨room, _, rfl, jsonItems_eq each, ?_⟩
  change "[" ++ join "," _ ++ "]" = _
  rw [join_ofList]
  apply String.toList_inj.mp
  simp

theorem jsonDumps_dict {entries : List (String × Value)}
    (each : ∀ entry ∈ entries, Writes room entry.2) :
    jsonDumps canonicalStyle (room + 1) (.dict entries) = .ok (String.ofList
      ('\x7b' :: (separated ',' ((sortedItems entries).map (memberText room)) ++
        ['\x7d']))) := by
  have sortedEach : ∀ entry ∈ sortedItems entries, Writes room entry.2 :=
    fun entry member => each entry (mem_sortedItems.mp member)
  have written := jsonMembers_eq sortedEach
  rw [← sortedItems_map (jsonDumps canonicalStyle room), ← jsonEntries_eq]
    at written
  apply jsonDumps_dict_ok_iff.mpr
  refine ⟨room, _, rfl, written, ?_⟩
  change "\x7b" ++ join "," _ ++ "\x7d" = _
  rw [join_ofList]
  apply String.toList_inj.mp
  simp

/-- A JSON value is written unless it has an integer that is not, or is nested
too deep. -/
theorem IsJson.writes {value : Value} (json : IsJson Printable room value) :
    Writes room value := by
  apply writes_iff.mpr
  induction json with
  | null => exact ⟨_, rfl⟩
  | bool value => exact ⟨_, rfl⟩
  | int printable => exact ⟨_, intText_of_printable printable⟩
  | str text => exact ⟨_, rfl⟩
  | list each induction =>
      exact ⟨_, jsonDumps_list fun item member =>
        writes_iff.mpr (induction item member)⟩
  | dict distinct each induction =>
      exact ⟨_, jsonDumps_dict fun entry member =>
        writes_iff.mpr (induction entry member)⟩

/-- The class of a value, by the first character of its text. -/
def leadingType (character : Char) : String :=
  if character = 'n' then "NoneType"
  else if character = 't' ∨ character = 'f' then "bool"
  else if character = '"' then "str"
  else if character = '[' then "list"
  else if character = '\x7b' then "dict"
  else if isIntChar character then "int"
  else ""

theorem leadingType_of_isIntChar {character : Char}
    (integer : isIntChar character = true) : leadingType character = "int" := by
  have other : ∀ symbol, isIntChar symbol = false → character ≠ symbol := by
    intro symbol foreign same
    rw [same, foreign] at integer
    cases integer
  unfold leadingType
  rw [if_neg (other 'n' rfl), if_neg, if_neg (other '"' rfl),
    if_neg (other '[' rfl), if_neg (other '\x7b' rfl), if_pos integer]
  exact fun truth => truth.elim (other 't' rfl) (other 'f' rfl)

theorem toString_int_ne_nil (value : Int) : (toString value).toList ≠ [] := by
  rw [toList_toString_int]
  intro empty
  exact Nat.toDigits_ne_nil (List.append_eq_nil_iff.mp empty).2

theorem typeName_ne_empty (value : Value) : value.typeName ≠ "" := by
  cases value <;> simp [Value.typeName]

theorem jsonText_head {value : Value} (json : IsJson Printable room value) :
    ∃ head tail, jsonText room value = head :: tail ∧
      leadingType head = value.typeName := by
  cases json with
  | null => exact ⟨'n', _, rfl, rfl⟩
  | bool value => cases value <;> exact ⟨_, _, rfl, rfl⟩
  | @int _ value printable =>
      have text : jsonText room (.int value) = (toString value).toList := by
        rw [jsonText, jsonDumps, intText_of_printable printable]
      obtain ⟨head, tail, split⟩ :=
        List.exists_cons_of_ne_nil (toString_int_ne_nil value)
      refine ⟨head, tail, text.trans split, ?_⟩
      apply leadingType_of_isIntChar
      apply isIntChar_of_mem
      rw [split]
      exact List.mem_cons_self
  | str text =>
      exact ⟨'"', _, by rw [jsonText, jsonDumps]; exact
        toList_encodeBasestringAscii text, rfl⟩
  | list each =>
      exact ⟨'[', _, jsonText_of_ok
        (jsonDumps_list fun item member => (each item member).writes), rfl⟩
  | dict distinct each =>
      exact ⟨'\x7b', _, jsonText_of_ok
        (jsonDumps_dict fun entry member => (each entry member).writes), rfl⟩

theorem jsonText_int {value : Int} (printable : Printable value) :
    jsonText room (.int value) = (toString value).toList := by
  rw [jsonText, jsonDumps, intText_of_printable printable]

theorem jsonText_str (text : String) :
    jsonText room (.str text) = (encodeBasestringAscii text).toList := by
  rw [jsonText, jsonDumps]
  rfl

theorem isAscii_hexDigits (code : Nat) : IsAscii (hexDigits code) := by
  have digit : ∀ part < 16, (Nat.digitChar part).toNat < 128 := by decide
  intro character member
  simp only [hexDigits, List.mem_cons, List.not_mem_nil, or_false] at member
  rcases member with rfl | rfl | rfl | rfl <;>
    exact digit _ (Nat.mod_lt _ (by omega))

@[simp]
theorem isAscii_escapeUnit (unit : Nat) : IsAscii (escapeUnit unit) := by
  simp [escapeUnit, isAscii_hexDigits]

theorem isAscii_escapeChar (character : Char) :
    IsAscii (escapeChar character) := by
  rcases escapeChar_cases character with
    ⟨letter, -, ascii, -, text⟩ | ⟨-, -, ascii, text⟩ | ⟨-, text⟩ | ⟨-, text⟩
  · simp [text, ascii]
  · simp [text, ascii]
  · simp [text]
  · simp [text]

@[simp]
theorem isAscii_encodeBasestringAscii (text : String) :
    IsAscii (encodeBasestringAscii text).toList := by
  have escaped : IsAscii (text.toList.flatMap escapeChar) := by
    intro symbol member
    obtain ⟨character, -, member⟩ := List.mem_flatMap.mp member
    exact isAscii_escapeChar character symbol member
  simp [toList_encodeBasestringAscii, escaped]

theorem isAscii_separated {separator : Char} (bounded : separator.toNat < 128)
    {texts : List (List Char)} (each : ∀ text ∈ texts, IsAscii text) :
    IsAscii (separated separator texts) := by
  intro symbol member
  rcases mem_separated member with rfl | ⟨text, listed, own⟩
  · exact bounded
  · exact each text listed symbol own

theorem isAscii_toString_int (value : Int) :
    IsAscii (toString value).toList := by
  intro character member
  have integer := isIntChar_of_mem character member
  simp only [isIntChar, Char.isDigit, Bool.or_eq_true, Bool.and_eq_true,
    decide_eq_true_eq, beq_iff_eq] at integer
  rcases integer with ⟨-, digit⟩ | rfl
  · exact Nat.lt_of_le_of_lt digit (by decide)
  · decide

/-- So the text can be encoded. -/
theorem IsJson.isAscii {value : Value} (json : IsJson Printable room value) :
    IsAscii (jsonText room value) := by
  induction json with
  | null => simp [jsonText, jsonDumps]
  | bool value => cases value <;> simp [jsonText, jsonDumps]
  | @int _ value printable =>
      rw [jsonText_int printable]
      exact isAscii_toString_int value
  | str text =>
      rw [jsonText_str]
      exact isAscii_encodeBasestringAscii text
  | list each induction =>
      rw [jsonText_of_ok (jsonDumps_list fun item member =>
        (each item member).writes)]
      have items := isAscii_separated (by decide : ','.toNat < 128)
        (List.forall_mem_map.mpr induction)
      simp [items]
  | @dict depth entries distinct each induction =>
      rw [jsonText_of_ok (jsonDumps_dict fun entry member =>
        (each entry member).writes)]
      have member : ∀ entry ∈ sortedItems entries,
          IsAscii (memberText depth entry) := by
        intro entry member
        simp [memberText, induction entry (mem_sortedItems.mp member)]
      have members := isAscii_separated (by decide : ','.toNat < 128)
        (List.forall_mem_map.mpr member)
      simp [members]

/-- What can stand behind a value in a JSON text. -/
def Closes (rest : List Char) : Prop :=
  ∀ character ∈ rest.head?, character ∈ [',', ']', '\x7d']

theorem Closes.no_integer {rest : List Char} (closes : Closes rest) :
    ∀ character ∈ rest.head?, isIntChar character = false := by
  intro character leads
  have known := closes character leads
  simp only [List.mem_cons, List.not_mem_nil, or_false] at known
  rcases known with rfl | rfl | rfl <;> rfl

theorem closes_cons {character : Char} (known : character ∈ [',', ']', '\x7d'])
    (rest : List Char) : Closes (character :: rest) := by
  intro other leads
  rw [← Option.some.inj leads]
  exact known

end Texts

end PipelineOps.Python
