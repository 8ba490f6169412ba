import Mathlib.Data.List.Sort
import Mathlib.Data.List.TakeWhile
import PipelineOps.Library.FormEncoding

namespace PipelineOps.Python

open PipelineOps.Library

/-! Text primitives of CPython's `str`, on the characters of a Lean string.
Python texts with lone surrogates have no counterpart here. -/

def isSpace (character : Char) : Bool :=
  let code := character.toNat
  (9 ≤ code && code ≤ 13) || (28 ≤ code && code ≤ 32) ||
    code == 0x85 || code == 0xA0 || code == 0x1680 ||
    (0x2000 ≤ code && code ≤ 0x200A) || code == 0x2028 || code == 0x2029 ||
    code == 0x202F || code == 0x205F || code == 0x3000

def stripBy (drop : Char → Bool) (characters : List Char) : List Char :=
  ((characters.dropWhile drop).reverse.dropWhile drop).reverse

def strip (text : String) : String :=
  String.ofList (stripBy isSpace text.toList)

theorem stripBy_of_ends {drop : Char → Bool} {first last : Char}
    {characters : List Char} (keepsFirst : drop first = false)
    (keepsLast : drop last = false) :
    stripBy drop (first :: characters ++ [last]) =
      first :: characters ++ [last] := by
  have front : (first :: characters ++ [last]).dropWhile drop =
      first :: characters ++ [last] :=
    List.dropWhile_cons_of_neg (by simp [keepsFirst])
  have back : (last :: (first :: characters).reverse).dropWhile drop =
      last :: (first :: characters).reverse :=
    List.dropWhile_cons_of_neg (by simp [keepsLast])
  rw [stripBy, front, List.reverse_append, List.reverse_singleton,
    List.singleton_append, back, List.reverse_cons, List.reverse_reverse]

theorem stripBy_of_kept {drop keep : Char → Bool}
    {front back kept : List Char}
    (keeps : ∀ character, keep character = true → drop character = false)
    (opened : kept.head?.any keep = true)
    (closed : kept.getLast?.any keep = true)
    (outer : ∀ character ∈ front ++ back, drop character = true) :
    stripBy drop (front ++ kept ++ back) = kept := by
  obtain ⟨first, rest, rfl⟩ : ∃ first rest, kept = first :: rest := by
    cases kept with
    | nil => cases opened
    | cons first rest => exact ⟨_, _, rfl⟩
  have keepsFirst : drop first = false := keeps first (by simpa using opened)
  obtain ⟨before, last, split⟩ :=
    List.eq_nil_or_concat (first :: rest) |>.resolve_left (by simp)
  have keepsLast : drop last = false := by
    rw [split] at closed
    exact keeps last (by simpa using closed)
  have ahead : (front ++ (first :: rest) ++ back).dropWhile drop =
      first :: rest ++ back := by
    rw [List.append_assoc, List.dropWhile_append_of_pos fun character member =>
      outer character (List.mem_append_left _ member)]
    exact List.dropWhile_cons_of_neg (by simp [keepsFirst])
  rw [stripBy, ahead, split, List.reverse_append,
    List.dropWhile_append_of_pos fun character member =>
      outer character (List.mem_append_right _ (List.mem_reverse.mp member))]
  simp [keepsLast]

theorem stripBy_of_dropped {drop : Char → Bool} {characters : List Char}
    (dropped : ∀ character ∈ characters, drop character = true) :
    stripBy drop characters = [] := by
  have nothing : characters.dropWhile drop = [] :=
    List.dropWhile_eq_nil_iff.mpr dropped
  rw [stripBy, nothing]
  rfl

/-- What `strip` takes off, it takes off the ends. -/
theorem exists_stripBy (drop : Char → Bool) (characters : List Char) :
    ∃ front back, characters = front ++ stripBy drop characters ++ back ∧
      ∀ character ∈ front ++ back, drop character = true := by
  refine ⟨characters.takeWhile drop,
    ((characters.dropWhile drop).reverse.takeWhile drop).reverse, ?_, ?_⟩
  · have behind := congrArg List.reverse
      (List.takeWhile_append_dropWhile (p := drop)
        (l := (characters.dropWhile drop).reverse))
    rw [List.reverse_append, List.reverse_reverse] at behind
    rw [stripBy, List.append_assoc, behind, List.takeWhile_append_dropWhile]
  · intro character member
    rcases List.mem_append.mp member with ahead | behind
    · exact List.mem_takeWhile_imp ahead
    · exact List.mem_takeWhile_imp (List.mem_reverse.mp behind)

theorem mem_of_mem_stripBy {drop : Char → Bool} {character : Char}
    {characters : List Char} (member : character ∈ stripBy drop characters) :
    character ∈ characters := by
  rw [stripBy, List.mem_reverse] at member
  have front := List.mem_reverse.mp
    ((List.dropWhile_suffix drop).subset member)
  exact (List.dropWhile_suffix drop).subset front

theorem isSpace_of_blank {text : String} (blank : strip text = "") :
    ∀ character ∈ text.toList, isSpace character = true := by
  have empty : stripBy isSpace text.toList = [] := by
    have characters := congrArg String.toList blank
    rwa [strip, String.toList_ofList] at characters
  rw [stripBy, List.reverse_eq_nil_iff, List.dropWhile_eq_nil_iff] at empty
  have dropped : text.toList.dropWhile isSpace = [] := by
    by_contra kept
    have first := List.head_dropWhile_not isSpace kept
    have inside := empty _ (List.mem_reverse.mpr (List.head_mem kept))
    rw [inside] at first
    cases first
  rwa [List.dropWhile_eq_nil_iff] at dropped

def rstripChar (character : Char) (text : String) : String :=
  String.ofList (text.toList.reverse.dropWhile (· == character)).reverse

/-- `str.lower()` as far as the program can see it: results are only compared
with, or searched for, ASCII words. Besides the ASCII letters, the dotted `I`
and the Kelvin sign are the only characters whose lower case has an ASCII
letter. -/
def lowerChar (character : Char) : List Char :=
  if character.toNat == 0x130 then ['i', Char.ofNat 0x307]
  else if character.toNat == 0x212A then ['k']
  else [character.toLower]

def lower (text : String) : String :=
  String.ofList (text.toList.flatMap lowerChar)

def replaceChar (old new : Char) (text : String) : String :=
  String.ofList (text.toList.map fun character =>
    if character = old then new else character)

def IsAscii (text : List Char) : Prop :=
  ∀ character ∈ text, character.toNat < 128

@[simp]
theorem isAscii_nil : IsAscii [] := nofun

@[simp]
theorem isAscii_cons {character : Char} {text : List Char} :
    IsAscii (character :: text) ↔ character.toNat < 128 ∧ IsAscii text :=
  List.forall_mem_cons

@[simp]
theorem isAscii_append {first second : List Char} :
    IsAscii (first ++ second) ↔ IsAscii first ∧ IsAscii second :=
  List.forall_mem_append

/-- The bytes of the UTF-8 form, each as the character with its code. -/
def byteChars (text : List Char) : List Char :=
  (utf8 text).map fun byte => Char.ofNat byte.toNat

theorem byteChars_of_isAscii {text : List Char} (ascii : IsAscii text) :
    byteChars text = text := by
  induction text with
  | nil => rfl
  | cons character rest induction =>
      rw [isAscii_cons] at ascii
      have code : (UInt8.ofNat character.toNat).toNat = character.toNat :=
        UInt8.toNat_ofNat_of_lt' (show character.toNat < 256 by omega)
      have encoded :=
        FormEncoding.utf8EncodeChar_ofNat (code.symm ▸ ascii.1)
      rw [code, Char.ofNat_toNat] at encoded
      have others := induction ascii.2
      rw [byteChars, utf8] at others
      rw [byteChars, utf8, List.flatMap_cons, encoded, List.map_append, others,
        List.map_singleton, code, Char.ofNat_toNat, List.singleton_append]

/-- `text.replace(old, new)` on characters, of which so many are still part of
the last match; `old` is not empty. -/
def replaceFrom (old new : List Char) : (matched : Nat) → List Char → List Char
  | _, [] => []
  | matched + 1, _ :: rest => replaceFrom old new matched rest
  | 0, character :: rest =>
      if old.isPrefixOf (character :: rest) then
        new ++ replaceFrom old new (old.length - 1) rest
      else character :: replaceFrom old new 0 rest

def replaceText (old new text : String) : String :=
  String.ofList (replaceFrom old.toList new.toList 0 text.toList)

def containsText (needle text : String) : Bool :=
  text.toList.tails.any fun suffix => needle.toList.isPrefixOf suffix

/-- `text.endswith(suffix)` together with what precedes the suffix. -/
def dropSuffix? (suffix text : String) : Option String :=
  if suffix.toList.isSuffixOf text.toList then
    some (String.ofList
      (text.toList.take (text.toList.length - suffix.toList.length)))
  else
    none

def join (separator : String) : List String → String
  | [] => ""
  | [text] => text
  | text :: rest => text ++ separator ++ join separator rest

theorem join_cons_cons (separator text next : String)
    (rest : List String) :
    join separator (text :: next :: rest) =
      text ++ separator ++ join separator (next :: rest) := rfl

theorem toList_join (separator : String) (texts : List String) :
    (join separator texts).toList =
      List.intercalate separator.toList (texts.map String.toList) := by
  induction texts with
  | nil => rfl
  | cons text rest induction =>
      cases rest with
      | nil => rw [join, List.map_singleton, List.intercalate_singleton]
      | cons next rest =>
          rw [join_cons_cons, String.toList_append, String.toList_append,
            induction, List.map_cons, List.map_cons, List.map_cons,
            List.intercalate_cons_cons, List.append_assoc]

/-- `sorted(texts)`: code-point order. -/
def sortedTexts (texts : List String) : List String :=
  texts.insertionSort (· ≤ ·)

def isAsciiDigit (character : Char) : Bool :=
  '0' ≤ character && character ≤ '9'

def digitValue (character : Char) : Nat :=
  character.toNat - '0'.toNat

/-- The zeros of the decimal-digit blocks of Unicode: category `Nd`, the class
`\d` of `re`. Each block has ten consecutive code points. -/
def decimalZeros : List Nat :=
  [0x30, 0x660, 0x6f0, 0x7c0, 0x966, 0x9e6, 0xa66, 0xae6, 0xb66, 0xbe6, 0xc66,
    0xce6, 0xd66, 0xde6, 0xe50, 0xed0, 0xf20, 0x1040, 0x1090, 0x17e0, 0x1810,
    0x1946, 0x19d0, 0x1a80, 0x1a90, 0x1b50, 0x1bb0, 0x1c40, 0x1c50, 0xa620,
    0xa8d0, 0xa900, 0xa9d0, 0xa9f0, 0xaa50, 0xabf0, 0xff10, 0x104a0, 0x10d30,
    0x11066, 0x110f0, 0x11136, 0x111d0, 0x112f0, 0x11450, 0x114d0, 0x11650,
    0x116c0, 0x11730, 0x118e0, 0x11950, 0x11c50, 0x11d50, 0x11da0, 0x16a60,
    0x16ac0, 0x16b50, 0x1d7ce, 0x1d7d8, 0x1d7e2, 0x1d7ec, 0x1d7f6, 0x1e140,
    0x1e2f0, 0x1e950, 0x1fbf0]

def decimalValue? (character : Char) : Option Nat :=
  (decimalZeros.find? fun base =>
    base ≤ character.toNat && character.toNat < base + 10).map
      fun base => character.toNat - base

/-- The code points of white space. -/
def spaceRanges : List (Nat × Nat) :=
  [(9, 13), (28, 32), (0x85, 0x85), (0xA0, 0xA0), (0x1680, 0x1680),
    (0x2000, 0x200A), (0x2028, 0x2029), (0x202F, 0x202F), (0x205F, 0x205F),
    (0x3000, 0x3000)]

theorem exists_spaceRange {character : Char}
    (space : isSpace character = true) :
    ∃ range ∈ spaceRanges,
      range.1 ≤ character.toNat ∧ character.toNat ≤ range.2 := by
  simp [isSpace] at space
  simp [spaceRanges]
  omega

theorem decimalValue?_of_isSpace {character : Char}
    (space : isSpace character = true) : decimalValue? character = none := by
  have apart : ∀ base ∈ decimalZeros, ∀ range ∈ spaceRanges,
      base + 10 ≤ range.1 ∨ range.2 < base := by
    decide
  obtain ⟨range, listed, within⟩ := exists_spaceRange space
  rw [decimalValue?, Option.map_eq_none_iff, List.find?_eq_none]
  intro base known
  have disjoint := apart base known range listed
  simp
  omega

/-- What `int(text)` skips at both ends: in ASCII less than `strip` does. -/
def isIntSpace (character : Char) : Bool :=
  let code := character.toNat
  (9 ≤ code && code ≤ 13) || code == 32 || (127 < code && isSpace character)

/-- Decimal digits, with single underscores between them. -/
def parseIntDigits : List Char → Option (List Nat)
  | [] => none
  | [character] => (decimalValue? character).map fun digit => [digit]
  | character :: '_' :: rest =>
      match decimalValue? character, parseIntDigits rest with
      | some digit, some digits => some (digit :: digits)
      | _, _ => none
  | character :: rest =>
      match decimalValue? character, parseIntDigits rest with
      | some digit, some digits => some (digit :: digits)
      | _, _ => none

theorem parseIntDigits_of_isSpace {characters : List Char}
    (spaces : ∀ character ∈ characters, isSpace character = true) :
    parseIntDigits characters = none := by
  unfold parseIntDigits
  split
  · rfl
  · simp [decimalValue?_of_isSpace (spaces _ List.mem_cons_self)]
  · simp [decimalValue?_of_isSpace (spaces _ List.mem_cons_self)]
  · simp [decimalValue?_of_isSpace (spaces _ List.mem_cons_self)]

end PipelineOps.Python
