import PipelineOps.Library.FormEncoding
import PipelineOps.Python.Text

namespace PipelineOps.Python

open PipelineOps.Library
open PipelineOps.Library.FormEncoding

/-! `urllib.parse`. -/

/-- `_ALWAYS_SAFE`. -/
def alwaysSafe (byte : UInt8) : Bool :=
  let character := Char.ofNat byte.toNat
  ('A' ≤ character && character ≤ 'Z') ||
    ('a' ≤ character && character ≤ 'z') ||
    ('0' ≤ character && character ≤ '9') ||
    ['_', '.', '-', '~'].contains character

def quoteFromBytes (safe : UInt8 → Bool) (bytes : Bytes) : List Char :=
  bytes.flatMap fun byte =>
    if safe byte then [Char.ofNat byte.toNat] else escapeByte byte

def quotePlus (text : String) : String :=
  let bytes := utf8 text.toList
  if text.toList.contains ' ' then
    String.ofList ((quoteFromBytes (fun byte => alwaysSafe byte || byte == 32)
      bytes).map fun character => if character = ' ' then '+' else character)
  else String.ofList (quoteFromBytes alwaysSafe bytes)

/-- `urlencode(query)`, where `str` has been applied to the names and values. -/
def urlencode (query : List (String × String)) : String :=
  join "&" (query.map fun entry =>
    quotePlus entry.1 ++ "=" ++ quotePlus entry.2)

/-- The codes of the letters, the digits, and `-`, `.`, `_`, `~`. -/
theorem alwaysSafe_iff {byte : UInt8} :
    alwaysSafe byte = true ↔
      65 ≤ byte.toNat ∧ byte.toNat ≤ 90 ∨
      97 ≤ byte.toNat ∧ byte.toNat ≤ 122 ∨
      48 ≤ byte.toNat ∧ byte.toNat ≤ 57 ∨
      byte.toNat ∈ [45, 46, 95, 126] := by
  have bound := byte.toNat_lt
  have code : (Char.ofNat byte.toNat).toNat = byte.toNat :=
    toNat_ofNat_of_lt (by omega)
  have le : ∀ left right : Char, left ≤ right ↔ left.toNat ≤ right.toNat :=
    fun _ _ => Iff.rfl
  have eq : ∀ left right : Char, left = right ↔ left.toNat = right.toNat :=
    fun _ _ => Char.toNat_inj.symm
  simp only [alwaysSafe, Bool.or_eq_true, Bool.and_eq_true, decide_eq_true_eq,
    List.contains_eq_mem, List.mem_cons, List.not_mem_nil, or_false, le, eq,
    code, Char.reduceToNat]
  omega

theorem alwaysSafe_cases {byte : UInt8} (safe : alwaysSafe byte = true) :
    byte.toNat < 128 ∧ byte ∉ [32, 37, 38, 43, 61] := by
  have codes := alwaysSafe_iff.mp safe
  simp only [List.mem_cons, List.not_mem_nil, or_false] at codes
  refine ⟨by omega, ?_⟩
  simp only [List.mem_cons, List.not_mem_nil, or_false, not_or,
    ← UInt8.toNat_inj, UInt8.reduceToNat]
  omega

theorem stands_quote (byte : UInt8) :
    Stands byte (if alwaysSafe byte then [Char.ofNat byte.toNat]
      else escapeByte byte) := by
  split
  · rename_i safe
    obtain ⟨ascii, plain⟩ := alwaysSafe_cases safe
    exact .itself ascii plain
  · exact .escaped byte

/-- Behind the quotation of the other bytes a blank is turned into a plus. -/
theorem stands_quotePlus (byte : UInt8) :
    Stands byte
      ((if alwaysSafe byte || byte == 32 then [Char.ofNat byte.toNat]
        else escapeByte byte).map
          fun character => if character = ' ' then '+' else character) := by
  have bound := byte.toNat_lt
  have keep : ∀ written : List Char, ' ' ∉ written →
      written.map (fun character =>
        if character = ' ' then '+' else character) = written := by
    intro written blankless
    apply (List.map_congr_left _).trans (List.map_id written)
    intro character member
    rw [if_neg, id_eq]
    intro same
    subst same
    exact blankless member
  by_cases blank : byte = 32
  · subst blank
    exact .blank
  · have other : (byte == 32) = false := by simpa using blank
    rw [other, Bool.or_false, keep]
    · exact stands_quote byte
    · intro member
      split at member
      · have same := List.mem_singleton.mp member
        apply blank
        have code : (Char.ofNat byte.toNat).toNat = byte.toNat :=
          toNat_ofNat_of_lt (by omega)
        apply UInt8.toNat_inj.mp
        rw [← code, ← same]
        rfl
      · exact escapeByte_plain byte ' ' member (by simp)

theorem encodes_quotePlus (text : String) :
    Encodes (utf8 text.toList) (quotePlus text).toList := by
  rw [quotePlus]
  split
  · rw [String.toList_ofList, quoteFromBytes, List.map_flatMap]
    exact encodes_flatMap stands_quotePlus _
  · rw [String.toList_ofList]
    exact encodes_flatMap stands_quote _

/-- A text of safe ASCII characters is left as it is. -/
theorem quotePlus_of_safe {text : String}
    (safe : ∀ character ∈ text.toList, ∃ byte, alwaysSafe byte = true ∧
      character = Char.ofNat byte.toNat) : quotePlus text = text := by
  have blankless : text.toList.contains ' ' = false := by
    rw [List.contains_eq_mem, decide_eq_false_iff_not]
    intro member
    obtain ⟨byte, safeByte, same⟩ := safe ' ' member
    have bound := byte.toNat_lt
    have code : (Char.ofNat byte.toNat).toNat = byte.toNat :=
      toNat_ofNat_of_lt (by omega)
    obtain ⟨-, plain⟩ := alwaysSafe_cases safeByte
    apply plain
    have blank : byte = 32 := by
      apply UInt8.toNat_inj.mp
      rw [← code, ← same]
      rfl
    simp [blank]
  have quoted : quoteFromBytes alwaysSafe (utf8 text.toList) =
      text.toList := by
    generalize text.toList = characters at safe
    induction characters with
    | nil => rfl
    | cons character rest induction =>
        obtain ⟨byte, safeByte, rfl⟩ := safe character List.mem_cons_self
        have others := induction fun other member =>
          safe other (List.mem_cons_of_mem _ member)
        rw [quoteFromBytes, utf8] at others
        rw [quoteFromBytes, utf8, List.flatMap_cons, List.flatMap_append,
          others, utf8EncodeChar_ofNat (alwaysSafe_cases safeByte).1,
          List.flatMap_singleton, if_pos safeByte, List.singleton_append]
  rw [quotePlus, blankless]
  simp only [Bool.false_eq_true, if_false]
  rw [quoted, String.ofList_toList]

/-- A server reads the query back that `urlencode` writes. -/
theorem decode_urlencode (query : List (String × String)) :
    decode (urlencode query).toList =
      query.map fun entry => (utf8 entry.1.toList, utf8 entry.2.toList) := by
  rw [urlencode, toList_join, List.map_map]
  apply decode_intercalate
  rw [List.forall₂_map_left_iff, List.forall₂_map_right_iff,
    List.forall₂_same]
  intro entry member
  refine ⟨_, _, encodes_quotePlus entry.1, encodes_quotePlus entry.2, ?_⟩
  simp

end PipelineOps.Python
