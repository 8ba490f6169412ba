import Mathlib.Data.List.Basic
import Mathlib.Tactic.IntervalCases

namespace PipelineOps.Library

/-! Form-encoded queries: what a server reads from one, and how one is
written. -/

abbrev Bytes := List UInt8

/-- The UTF-8 form of a text. -/
def utf8 (text : List Char) : Bytes :=
  text.flatMap String.utf8EncodeChar

theorem utf8_injective {left right : String}
    (same : utf8 left.toList = utf8 right.toList) : left = right := by
  have encoded : left.toList.utf8Encode = right.toList.utf8Encode := by
    rw [List.utf8Encode, List.utf8Encode]
    exact congrArg List.toByteArray same
  rw [String.utf8Encode_toList, String.utf8Encode_toList] at encoded
  exact String.toByteArray_inj.mp encoded

namespace FormEncoding

def hexDigit (value : Nat) : Char :=
  Char.ofNat (if value < 10 then 48 + value else 55 + value)

def hexValue (digit : Char) : Option Nat :=
  let code := digit.toNat
  if 48 ≤ code ∧ code ≤ 57 then some (code - 48)
  else if 65 ≤ code ∧ code ≤ 70 then some (code - 55)
  else if 97 ≤ code ∧ code ≤ 102 then some (code - 87)
  else none

/-- The bytes behind an encoded text. A `%` that leads no two hexadecimal digits
stands for itself. -/
def decodeText : List Char → Bytes
  | [] => []
  | '+' :: rest => 32 :: decodeText rest
  | '%' :: first :: second :: rest =>
      match hexValue first, hexValue second with
      | some high, some low =>
          UInt8.ofNat (16 * high + low) :: decodeText rest
      | _, _ => 37 :: decodeText (first :: second :: rest)
  | character :: rest => String.utf8EncodeChar character ++ decodeText rest

def decodePair (segment : List Char) : Bytes × Bytes :=
  (decodeText (segment.takeWhile (· != '=')),
    decodeText ((segment.dropWhile (· != '=')).drop 1))

/-- The names and values of a query, as a server reads them. -/
def decode (query : List Char) : List (Bytes × Bytes) :=
  ((query.splitOn '&').filter (· ≠ [])).map decodePair

def escapeByte (byte : UInt8) : List Char :=
  ['%', hexDigit (byte.toNat / 16), hexDigit (byte.toNat % 16)]

/-- The texts that a byte can be written as: itself, where a query gives its
character no meaning, or its number, or a plus sign for the blank. -/
inductive Stands : UInt8 → List Char → Prop
  | blank : Stands 32 ['+']
  | escaped (byte : UInt8) : Stands byte (escapeByte byte)
  | itself {byte : UInt8} (ascii : byte.toNat < 128)
      (plain : byte ∉ [32, 37, 38, 43, 61]) :
      Stands byte [Char.ofNat byte.toNat]

inductive Encodes : Bytes → List Char → Prop
  | nil : Encodes [] []
  | cons {byte : UInt8} {written : List Char} {bytes : Bytes}
      {text : List Char} (head : Stands byte written)
      (tail : Encodes bytes text) : Encodes (byte :: bytes) (written ++ text)

def EncodesPair (pair : Bytes × Bytes) (segment : List Char) : Prop :=
  ∃ name value, Encodes pair.1 name ∧ Encodes pair.2 value ∧
    segment = name ++ '=' :: value

theorem encodes_flatMap {write : UInt8 → List Char}
    (stands : ∀ byte, Stands byte (write byte)) (bytes : Bytes) :
    Encodes bytes (bytes.flatMap write) := by
  induction bytes with
  | nil => exact .nil
  | cons byte bytes induction =>
      rw [List.flatMap_cons]
      exact .cons (stands byte) induction

theorem hexDigit_cases {value : Nat} (small : value < 16) :
    hexValue (hexDigit value) = some value ∧
      hexDigit value ∉ [' ', '&', '='] := by
  interval_cases value <;> decide

theorem toNat_ofNat_of_lt {code : Nat} (low : code < 0xd800) :
    (Char.ofNat code).toNat = code := by
  have valid : code.isValidChar := .inl low
  rw [Char.ofNat, dif_pos valid]
  rfl

theorem decodeText_escapeByte (byte : UInt8) (rest : List Char) :
    decodeText (escapeByte byte ++ rest) = byte :: decodeText rest := by
  have bound := byte.toNat_lt
  obtain ⟨high, -⟩ := @hexDigit_cases (byte.toNat / 16) (by omega)
  obtain ⟨low, -⟩ := @hexDigit_cases (byte.toNat % 16) (by omega)
  have whole : 16 * (byte.toNat / 16) + byte.toNat % 16 = byte.toNat := by
    omega
  simp only [escapeByte, List.cons_append, List.nil_append, decodeText, high,
    low, whole, UInt8.ofNat_toNat]

theorem decodeText_cons {character : Char} (plus : character ≠ '+')
    (percent : character ≠ '%') (rest : List Char) :
    decodeText (character :: rest) =
      String.utf8EncodeChar character ++ decodeText rest := by
  rw [decodeText]
  · exact plus
  · intro first second others same
    exact absurd same percent

/-- An ASCII byte is the UTF-8 form of its character. -/
theorem utf8EncodeChar_ofNat {byte : UInt8} (ascii : byte.toNat < 128) :
    String.utf8EncodeChar (Char.ofNat byte.toNat) = [byte] := by
  have code : (Char.ofNat byte.toNat).toNat = byte.toNat :=
    toNat_ofNat_of_lt (by omega)
  rw [String.utf8EncodeChar_eq_singleton]
  · congr 1
    apply UInt8.toNat_inj.mp
    change (Char.ofNat byte.toNat).toNat % 256 = byte.toNat
    rw [code]
    omega
  · rw [Char.utf8Size_eq_one_iff, UInt32.le_iff_toNat_le]
    change (Char.ofNat byte.toNat).toNat ≤ 127
    omega

theorem ofNat_plain {byte : UInt8} (ascii : byte.toNat < 128)
    (plain : byte ∉ [32, 37, 38, 43, 61]) :
    Char.ofNat byte.toNat ∉ ['%', '+', '&', '='] := by
  have code : UInt8.ofNat (Char.ofNat byte.toNat).toNat = byte := by
    rw [toNat_ofNat_of_lt (by omega), UInt8.ofNat_toNat]
  intro member
  apply plain
  rw [← code]
  simp only [List.mem_cons, List.not_mem_nil, or_false] at member
  rcases member with same | same | same | same <;> rw [same] <;> decide

theorem Stands.decodes {byte : UInt8} {written : List Char}
    (stands : Stands byte written) (rest : List Char) :
    decodeText (written ++ rest) = byte :: decodeText rest := by
  cases stands with
  | blank => rfl
  | escaped => exact decodeText_escapeByte byte rest
  | itself ascii plain =>
      have apart := ofNat_plain ascii plain
      simp only [List.mem_cons, List.not_mem_nil, or_false, not_or] at apart
      rw [List.singleton_append, decodeText_cons apart.2.1 apart.1,
        utf8EncodeChar_ofNat ascii]
      rfl

theorem escapeByte_plain (byte : UInt8) :
    ∀ character ∈ escapeByte byte, character ∉ [' ', '&', '='] := by
  have bound := byte.toNat_lt
  intro character member
  simp only [escapeByte, List.mem_cons, List.not_mem_nil, or_false] at member
  rcases member with rfl | rfl | rfl
  · decide
  · exact (hexDigit_cases (by omega)).2
  · exact (hexDigit_cases (by omega)).2

theorem Stands.plain {byte : UInt8} {written : List Char}
    (stands : Stands byte written) :
    ∀ character ∈ written, character ≠ '&' ∧ character ≠ '=' := by
  intro character member
  cases stands with
  | blank =>
      rw [List.mem_singleton.mp member]
      decide
  | escaped =>
      have apart := escapeByte_plain byte character member
      simp only [List.mem_cons, List.not_mem_nil, or_false, not_or] at apart
      exact apart.2
  | itself ascii plain =>
      have apart := ofNat_plain ascii plain
      simp only [List.mem_cons, List.not_mem_nil, or_false, not_or] at apart
      rw [List.mem_singleton.mp member]
      exact apart.2.2

theorem Encodes.decodes {bytes : Bytes} {text : List Char}
    (encodes : Encodes bytes text) : decodeText text = bytes := by
  induction encodes with
  | nil => rfl
  | cons head tail induction => rw [head.decodes, induction]

theorem Encodes.plain {bytes : Bytes} {text : List Char}
    (encodes : Encodes bytes text) :
    ∀ character ∈ text, character ≠ '&' ∧ character ≠ '=' := by
  induction encodes with
  | nil => simp
  | cons head tail induction =>
      intro character member
      rcases List.mem_append.mp member with inner | later
      · exact head.plain character inner
      · exact induction character later

theorem EncodesPair.decodes {pair : Bytes × Bytes} {segment : List Char}
    (encodes : EncodesPair pair segment) :
    decodePair segment = pair ∧ segment ≠ [] ∧ '&' ∉ segment := by
  obtain ⟨name, value, names, values, rfl⟩ := encodes
  have before : ∀ character ∈ name, (character != '=') = true := by
    intro character member
    simpa using (names.plain character member).2
  refine ⟨?_, by simp, ?_⟩
  · rw [decodePair, List.takeWhile_append_of_pos before,
      List.dropWhile_append_of_pos before]
    simp [names.decodes, values.decodes]
  · intro member
    rcases List.mem_append.mp member with inner | behind
    · exact (names.plain '&' inner).1 rfl
    · rcases List.mem_cons.mp behind with same | inner
      · cases same
      · exact (values.plain '&' inner).1 rfl

/-- A server reads the names and values back that were written, whatever bytes
are in them. -/
theorem decode_intercalate {pairs : List (Bytes × Bytes)}
    {segments : List (List Char)}
    (encodes : List.Forall₂ EncodesPair pairs segments) :
    decode (['&'].intercalate segments) = pairs := by
  have each : segments.map decodePair = pairs ∧
      ∀ segment ∈ segments, segment ≠ [] ∧ '&' ∉ segment := by
    induction encodes with
    | nil => simp
    | cons head tail induction =>
        rw [List.map_cons, head.decodes.1, induction.1]
        exact ⟨rfl, List.forall_mem_cons.mpr ⟨head.decodes.2, induction.2⟩⟩
  cases segments with
  | nil =>
      cases encodes
      rfl
  | cons first rest =>
      rw [decode, List.splitOn_intercalate _ (fun segment member =>
          (each.2 segment member).2) (by simp),
        List.filter_eq_self.mpr fun segment member => by
          simpa using (each.2 segment member).1]
      exact each.1

end FormEncoding

end PipelineOps.Library
