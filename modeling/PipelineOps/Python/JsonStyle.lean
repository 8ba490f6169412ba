import Mathlib.Algebra.BigOperators.Group.List.Basic
import Mathlib.Algebra.Ring.Nat
import PipelineOps.Library.Fallible
import PipelineOps.Python.JsonText

namespace PipelineOps.Python

open PipelineOps.Library

/-! How many bytes `json.dumps` writes. -/

/-- `json.dumps(value, ensure_ascii=False)`. -/
def readableStyle : JsonStyle := ⟨false, ", ", ": ", false⟩

/-- `json.dumps(value, separators=(",", ":"))`. -/
def compactStyle : JsonStyle := ⟨true, ",", ":", false⟩

section Sizes

theorem utf8ByteSize_ofList (characters : List Char) :
    (String.ofList characters).utf8ByteSize =
      (characters.map Char.utf8Size).sum := by
  induction characters with
  | nil => rfl
  | cons character rest induction =>
      rw [String.ofList_cons, String.utf8ByteSize_append,
        String.utf8ByteSize_singleton, induction, List.map_cons,
        List.sum_cons]

/-- The bytes of a character inside a text, escaped and encoded. -/
def writtenSize (character : Char) : Nat :=
  ((escapeControl character).map Char.utf8Size).sum

def textSize (text : String) : Nat :=
  (text.toList.map writtenSize).sum + 2

theorem utf8Size_of_isAscii {characters : List Char}
    (ascii : IsAscii characters) :
    (characters.map Char.utf8Size).sum = characters.length := by
  induction characters with
  | nil => rfl
  | cons character rest induction =>
      rw [isAscii_cons] at ascii
      have one : character.utf8Size = 1 := by
        rw [Char.utf8Size_eq_one_iff]
        exact UInt32.le_iff_toNat_le.mpr (Nat.le_of_lt_succ ascii.1)
      rw [List.map_cons, List.sum_cons, induction ascii.2, one,
        List.length_cons, Nat.add_comm]

theorem length_escapeChar_le {character : Char}
    (low : character.toNat < 0x10000) :
    (escapeChar character).length ≤ 6 := by
  rcases escapeChar_cases character with
    ⟨letter, -, -, -, text⟩ | ⟨-, -, -, text⟩ | ⟨-, text⟩ | ⟨wide, -⟩
  · simp [text]
  · simp [text]
  · simp [text, escapeUnit, hexDigits]
  · omega

theorem writtenSize_le (character : Char) : writtenSize character ≤ 6 := by
  rw [writtenSize]
  by_cases escaped :
      character.toNat < 0x20 ∨ character = '"' ∨ character = '\\'
  · rw [escapeControl, if_pos escaped,
      utf8Size_of_isAscii (isAscii_escapeChar character)]
    apply length_escapeChar_le
    rcases escaped with control | rfl | rfl
    · omega
    · decide
    · decide
  · have encoded := character.utf8Size_le_four
    rw [escapeControl, if_neg escaped, List.map_singleton, List.sum_singleton]
    omega

theorem sum_flatMap_escapeControl (characters : List Char) :
    ((characters.flatMap escapeControl).map Char.utf8Size).sum =
      (characters.map writtenSize).sum := by
  induction characters with
  | nil => rfl
  | cons character rest induction =>
      rw [List.flatMap_cons, List.map_append, List.sum_append, induction,
        List.map_cons, List.sum_cons, writtenSize]

theorem utf8ByteSize_encodeBasestring (text : String) :
    (encodeBasestring text).utf8ByteSize = textSize text := by
  have quote : Char.utf8Size '"' = 1 := rfl
  rw [encodeBasestring, utf8ByteSize_ofList, List.cons_append, List.map_cons,
    List.sum_cons, List.map_append, List.sum_append,
    sum_flatMap_escapeControl, List.map_singleton, List.sum_singleton, quote,
    textSize]
  omega

/-- A value is written, with a size between two bounds. -/
def WritesBetween (style : JsonStyle) (room low high : Nat) (value : Value) :
    Prop :=
  ∃ text, jsonDumps style room value = .ok text ∧
    low ≤ text.utf8ByteSize ∧ text.utf8ByteSize ≤ high

/-- Entries are written one by one, with sizes between two bounds together. -/
def EntriesBetween (style : JsonStyle) (room low high : Nat)
    (entries : List (String × Value)) : Prop :=
  ∃ texts, jsonMembers style (jsonEntries style room entries) = .ok texts ∧
    low ≤ (texts.map String.utf8ByteSize).sum ∧
    (texts.map fun text =>
      text.utf8ByteSize + style.itemSeparator.utf8ByteSize).sum ≤ high

variable {style : JsonStyle} {room low high : Nat}

theorem WritesBetween.mono {value : Value} {lower higher : Nat}
    (writes : WritesBetween style room low high value) (down : lower ≤ low)
    (up : high ≤ higher) : WritesBetween style room lower higher value := by
  obtain ⟨text, written, atLeast, atMost⟩ := writes
  exact ⟨text, written, down.trans atLeast, atMost.trans up⟩

theorem utf8ByteSize_join_le (separator : String) (texts : List String) :
    (texts.map String.utf8ByteSize).sum ≤
        (join separator texts).utf8ByteSize ∧
      (join separator texts).utf8ByteSize ≤
        (texts.map fun text =>
          text.utf8ByteSize + separator.utf8ByteSize).sum := by
  induction texts with
  | nil => exact ⟨Nat.le_refl 0, Nat.le_refl 0⟩
  | cons text rest induction =>
      cases rest with
      | nil => simp [join]
      | cons next rest =>
          simp only [List.map_cons, List.sum_cons] at induction ⊢
          rw [join_cons_cons, String.utf8ByteSize_append,
            String.utf8ByteSize_append]
          omega

theorem writesBetween_bool (value : Bool) :
    WritesBetween style room 4 5 (.bool value) := by
  cases value
  · exact ⟨"false", rfl, by decide, by decide⟩
  · exact ⟨"true", rfl, by decide, by decide⟩

theorem entriesBetween_nil : EntriesBetween style room 0 0 [] :=
  ⟨[], rfl, Nat.le_refl 0, Nat.le_refl 0⟩

theorem entriesBetween_cons {key : String} {value : Value}
    {entries : List (String × Value)} {restLow restHigh : Nat}
    (writes : WritesBetween style room low high value)
    (rest : EntriesBetween style room restLow restHigh entries) :
    EntriesBetween style room (low + restLow)
      ((style.encode key).utf8ByteSize + style.keySeparator.utf8ByteSize +
        high + style.itemSeparator.utf8ByteSize + restHigh)
      ((key, value) :: entries) := by
  obtain ⟨text, written, atLeast, atMost⟩ := writes
  obtain ⟨texts, others, restAtLeast, restAtMost⟩ := rest
  refine ⟨(style.encode key ++ style.keySeparator ++ text) :: texts,
    ?_, ?_, ?_⟩
  · rw [jsonEntries, jsonMembers, written, others]
    rfl
  · rw [List.map_cons, List.sum_cons, String.utf8ByteSize_append,
      String.utf8ByteSize_append]
    omega
  · rw [List.map_cons, List.sum_cons, String.utf8ByteSize_append,
      String.utf8ByteSize_append]
    omega

theorem EntriesBetween.dict {entries : List (String × Value)}
    (unsorted : style.sortKeys = false)
    (writes : EntriesBetween style room low high entries) :
    WritesBetween style (room + 1) low (high + 2) (.dict entries) := by
  obtain ⟨texts, written, atLeast, atMost⟩ := writes
  have joined := utf8ByteSize_join_le style.itemSeparator texts
  refine ⟨"\x7b" ++ join style.itemSeparator texts ++ "\x7d", ?_, ?_, ?_⟩
  · refine jsonDumps_dict_ok_iff.mpr ⟨room, texts, rfl, ?_, rfl⟩
    rwa [JsonStyle.ordered, if_neg (by simp [unsorted])]
  · rw [String.utf8ByteSize_append, String.utf8ByteSize_append]
    omega
  · have braces : "\x7b".utf8ByteSize = 1 ∧ "\x7d".utf8ByteSize = 1 :=
      ⟨rfl, rfl⟩
    rw [String.utf8ByteSize_append, String.utf8ByteSize_append]
    omega

theorem itemsBetween {items : List Value}
    (each : ∀ item ∈ items, WritesBetween style room low high item) :
    ∃ texts, jsonItems style room items = .ok texts ∧
      items.length * low ≤ (texts.map String.utf8ByteSize).sum ∧
      (texts.map fun text =>
        text.utf8ByteSize + style.itemSeparator.utf8ByteSize).sum ≤
          items.length * (high + style.itemSeparator.utf8ByteSize) := by
  induction items with
  | nil => exact ⟨[], rfl, by simp, by simp⟩
  | cons item rest induction =>
      rw [List.forall_mem_cons] at each
      obtain ⟨text, written, atLeast, atMost⟩ := each.1
      obtain ⟨texts, others, restAtLeast, restAtMost⟩ := induction each.2
      refine ⟨text :: texts, ?_, ?_, ?_⟩
      · rw [jsonItems, written, others]
        rfl
      · rw [List.map_cons, List.sum_cons, List.length_cons, Nat.succ_mul]
        omega
      · rw [List.map_cons, List.sum_cons, List.length_cons, Nat.succ_mul]
        omega

theorem writesBetween_list {items : List Value}
    (each : ∀ item ∈ items, WritesBetween style room low high item) :
    WritesBetween style (room + 1) (items.length * low)
      (items.length * (high + style.itemSeparator.utf8ByteSize) + 2)
      (.list items) := by
  obtain ⟨texts, written, atLeast, atMost⟩ := itemsBetween each
  have joined := utf8ByteSize_join_le style.itemSeparator texts
  refine ⟨"[" ++ join style.itemSeparator texts ++ "]", ?_, ?_, ?_⟩
  · exact jsonDumps_list_ok_iff.mpr ⟨room, texts, rfl, written, rfl⟩
  · rw [String.utf8ByteSize_append, String.utf8ByteSize_append]
    omega
  · have brackets : "[".utf8ByteSize = 1 ∧ "]".utf8ByteSize = 1 := ⟨rfl, rfl⟩
    rw [String.utf8ByteSize_append, String.utf8ByteSize_append]
    omega

theorem utf8ByteSize_of_isAscii {text : String} (ascii : IsAscii text.toList) :
    text.utf8ByteSize = text.toList.length := by
  rw [← utf8Size_of_isAscii ascii, ← utf8ByteSize_ofList,
    String.ofList_toList]

/-- A natural number of at most so many digits. -/
theorem writesBetween_nat {number digits : Nat} (positive : 0 < digits)
    (short : digits ≤ Value.intMaxStrDigits) (small : number < 10 ^ digits) :
    WritesBetween style room 0 digits (.int number) := by
  have printable : Printable number :=
    Nat.lt_of_lt_of_le small (Nat.pow_le_pow_right (by decide) short)
  have size : (toString (number : Int)).utf8ByteSize ≤ digits := by
    rw [utf8ByteSize_of_isAscii (isAscii_toString_int number),
      toList_toString_int, if_pos (Int.natCast_nonneg number),
      List.nil_append, Int.natAbs_natCast]
    exact (Nat.length_toDigits_le_iff (by decide) positive).mpr small
  exact ⟨_, intText_of_printable printable, Nat.zero_le _, size⟩

theorem writesBetween_str (readable : style.ensureAscii = false)
    (text : String) :
    WritesBetween style room (textSize text) (textSize text) (.str text) := by
  have size : (style.encode text).utf8ByteSize = textSize text := by
    rw [JsonStyle.encode, if_neg (by simp [readable]),
      utf8ByteSize_encodeBasestring]
  exact ⟨style.encode text, rfl, size.ge, size.le⟩

end Sizes

end PipelineOps.Python
