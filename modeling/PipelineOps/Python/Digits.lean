import Mathlib.Algebra.Order.Ring.Nat
import Mathlib.Data.List.Induction
import PipelineOps.Library.TextOrder
import PipelineOps.Python.Datetime

namespace PipelineOps.Python

open PipelineOps.Library

/-! Digits as they are read and written. -/

def hexDigit? (character : Char) : Option Nat :=
  if isAsciiDigit character then some (character.toNat - 0x30)
  else if 'a' ≤ character ∧ character ≤ 'f' then some (character.toNat - 0x57)
  else if 'A' ≤ character ∧ character ≤ 'F' then some (character.toNat - 0x37)
  else none

theorem isAsciiDigit_iff {character : Char} :
    isAsciiDigit character = true ↔
      48 ≤ character.toNat ∧ character.toNat ≤ 57 := by
  simp only [isAsciiDigit, Bool.and_eq_true, decide_eq_true_eq]
  exact Iff.rfl

theorem lt_of_isAsciiDigit {character : Char}
    (isDigit : isAsciiDigit character = true) : character.toNat < 128 := by
  have bounds := isAsciiDigit_iff.mp isDigit
  omega

theorem digitValue_lt {digit : Char} (isDigit : isAsciiDigit digit = true) :
    digitValue digit < 10 := by
  obtain ⟨low, high⟩ := isAsciiDigit_iff.mp isDigit
  have zero : '0'.toNat = 48 := rfl
  rw [digitValue, zero]
  omega

theorem digitChar_digitValue {digit : Char}
    (isDigit : isAsciiDigit digit = true) :
    Nat.digitChar (digitValue digit) = digit := by
  obtain ⟨low, high⟩ := isAsciiDigit_iff.mp isDigit
  have zero : '0'.toNat = 48 := rfl
  apply Char.toNat_inj.mp
  rw [Nat.toNat_digitChar_of_lt_ten (digitValue_lt isDigit), digitValue, zero]
  omega

theorem isAsciiDigit_digitChar {number : Nat} (small : number < 10) :
    isAsciiDigit (Nat.digitChar number) = true := by
  rw [isAsciiDigit_iff, Nat.toNat_digitChar_of_lt_ten small]
  omega

theorem digitValue_digitChar {number : Nat} (small : number < 10) :
    digitValue (Nat.digitChar number) = number := by
  have zero : '0'.toNat = 48 := rfl
  rw [digitValue, Nat.toNat_digitChar_of_lt_ten small, zero]
  omega

theorem decimalValue?_of_isAsciiDigit {digit : Char}
    (isDigit : isAsciiDigit digit = true) :
    decimalValue? digit = some (digitValue digit) := by
  obtain ⟨low, high⟩ := isAsciiDigit_iff.mp isDigit
  have first : decimalZeros.find? (fun base =>
      base ≤ digit.toNat && digit.toNat < base + 10) = some 0x30 := by
    apply List.find?_cons_of_pos
    simp
    omega
  rw [decimalValue?, first]
  rfl

/-- The last digits of a number, so many of them. -/
def lastDigits : (width : Nat) → Nat → List Char
  | 0, _ => []
  | width + 1, number =>
      lastDigits width (number / 10) ++ [Nat.digitChar (number % 10)]

def decimalNumber (digits : List Char) : Nat :=
  digits.foldl (fun total digit => 10 * total + digitValue digit) 0

theorem decimalNumber_concat (digits : List Char) (last : Char) :
    decimalNumber (digits ++ [last]) =
      10 * decimalNumber digits + digitValue last := by
  rw [decimalNumber, List.foldl_append]
  rfl

theorem lastDigits_decimalNumber {digits : List Char}
    (ascii : ∀ digit ∈ digits, isAsciiDigit digit = true) :
    lastDigits digits.length (decimalNumber digits) = digits := by
  induction digits using List.reverseRecOn with
  | nil => rfl
  | append_singleton digits last induction =>
      have isDigit := ascii last (by simp)
      have known := induction fun digit member =>
        ascii digit (List.mem_append_left _ member)
      have bound := digitValue_lt isDigit
      have tens : (10 * decimalNumber digits + digitValue last) / 10 =
          decimalNumber digits := by omega
      have units : (10 * decimalNumber digits + digitValue last) % 10 =
          digitValue last := by omega
      rw [List.length_append, List.length_singleton, decimalNumber_concat,
        lastDigits, tens, units, known, digitChar_digitValue isDigit]

theorem length_lastDigits (width number : Nat) :
    (lastDigits width number).length = width := by
  induction width generalizing number with
  | zero => rfl
  | succ width induction =>
      rw [lastDigits, List.length_append, induction, List.length_singleton]

theorem isAsciiDigit_of_mem_lastDigits {width number : Nat} {digit : Char}
    (member : digit ∈ lastDigits width number) :
    isAsciiDigit digit = true := by
  induction width generalizing number with
  | zero => cases member
  | succ width induction =>
      rw [lastDigits, List.mem_append, List.mem_singleton] at member
      rcases member with earlier | rfl
      · exact induction earlier
      · exact isAsciiDigit_digitChar (Nat.mod_lt _ (by omega))

theorem decimalNumber_lastDigits (width number : Nat) :
    decimalNumber (lastDigits width number) = number % 10 ^ width := by
  induction width generalizing number with
  | zero =>
      rw [pow_zero, Nat.mod_one]
      rfl
  | succ width induction =>
      rw [lastDigits, decimalNumber_concat, induction,
        digitValue_digitChar (Nat.mod_lt _ (by omega)), pow_succ',
        Nat.mod_mul]
      omega

theorem lastDigits_zero (width : Nat) :
    lastDigits width 0 = List.replicate width '0' := by
  induction width with
  | zero => rfl
  | succ width induction =>
      rw [lastDigits, List.replicate_succ', Nat.zero_div, induction]
      rfl

/-- A number that is short enough is written with zeros in front. -/
theorem lastDigits_eq {width number : Nat} (positive : 0 < width)
    (small : number < 10 ^ width) :
    lastDigits width number =
      List.replicate (width - (Nat.toDigits 10 number).length) '0' ++
        Nat.toDigits 10 number := by
  induction width generalizing number with
  | zero => omega
  | succ width induction =>
      rw [lastDigits]
      by_cases single : number < 10
      · have tens : number / 10 = 0 := by omega
        have units : number % 10 = number := by omega
        rw [tens, units, lastDigits_zero, Nat.toDigits_of_lt_base single]
        rfl
      · have front : number / 10 < 10 ^ width := by
          rw [pow_succ] at small
          omega
        have further : 0 < width := by
          by_contra none_left
          obtain rfl : width = 0 := by omega
          omega
        rw [induction further front,
          Nat.toDigits_of_base_le (by omega) (Nat.le_of_not_lt single),
          List.length_append, List.length_singleton, Nat.add_sub_add_right,
          List.append_assoc]

theorem toList_padded {width number : Nat} (positive : 0 < width)
    (small : number < 10 ^ width) :
    (padded width number).toList = lastDigits width number := by
  rw [lastDigits_eq positive small, padded, Nat.toString_eq_ofList_toDigits]
  simp

theorem toList_toString {width number : Nat} (large : 10 ^ width ≤ number)
    (small : number < 10 ^ (width + 1)) :
    (toString number).toList = lastDigits (width + 1) number := by
  have longer : ¬ (Nat.toDigits 10 number).length ≤ width := by
    by_cases empty : width = 0
    · have filled := @Nat.length_toDigits_pos 10 number
      omega
    · rw [Nat.length_toDigits_le_iff (by omega) (by omega)]
      omega
  have shorter := (Nat.length_toDigits_le_iff (by omega) (by omega)).mpr small
  have none_missing : width + 1 - (Nat.toDigits 10 number).length = 0 := by
    omega
  rw [lastDigits_eq (by omega) small, none_missing,
    Nat.toString_eq_ofList_toDigits, String.toList_ofList]
  rfl

theorem digitChar_lt_iff {number other : Nat} (small : number < 10)
    (otherSmall : other < 10) :
    Nat.digitChar number < Nat.digitChar other ↔ number < other := by
  rw [Char.lt_def, UInt32.lt_iff_toNat_lt]
  change (Nat.digitChar number).toNat < (Nat.digitChar other).toNat ↔ _
  rw [Nat.toNat_digitChar_of_lt_ten small,
    Nat.toNat_digitChar_of_lt_ten otherSmall]
  omega

theorem lastDigits_inj {width number other : Nat} (small : number < 10 ^ width)
    (otherSmall : other < 10 ^ width) :
    lastDigits width number = lastDigits width other ↔ number = other := by
  constructor
  · intro same
    have values := congrArg decimalNumber same
    rwa [decimalNumber_lastDigits, decimalNumber_lastDigits,
      Nat.mod_eq_of_lt small, Nat.mod_eq_of_lt otherSmall] at values
  · exact congrArg _

/-- Numbers with equally many digits are ordered like their texts. -/
theorem lastDigits_lt_iff {width number other : Nat}
    (small : number < 10 ^ width) (otherSmall : other < 10 ^ width) :
    lastDigits width number < lastDigits width other ↔ number < other := by
  induction width generalizing number other with
  | zero =>
      rw [Nat.pow_zero] at small otherSmall
      simp [lastDigits]
      omega
  | succ width induction =>
      rw [Nat.pow_succ] at small otherSmall
      have front : number / 10 < 10 ^ width := by omega
      have otherFront : other / 10 < 10 ^ width := by omega
      have lengths : (lastDigits width (number / 10)).length =
          (lastDigits width (other / 10)).length := by
        rw [length_lastDigits, length_lastDigits]
      rw [lastDigits, lastDigits, append_lt_append_iff lengths,
        induction front otherFront, lastDigits_inj front otherFront,
        singleton_lt_singleton_iff,
        digitChar_lt_iff (by omega) (by omega)]
      omega

/-- No digit at the beginning. -/
def EndsDigits (rest : List Char) : Prop :=
  ∀ character ∈ rest.head?, isAsciiDigit character = false

theorem endsDigits_nil : EndsDigits [] := by
  simp [EndsDigits]

/-- The digits that `parse_digits` reads. -/
theorem parseDigits_lastDigits {width number : Nat}
    (small : number < 10 ^ width) (rest : List Char) :
    parseDigits width (lastDigits width number ++ rest) = some number := by
  have digits : (lastDigits width number ++ rest).take width =
      lastDigits width number := by
    rw [List.take_append_of_le_length
        (Nat.le_of_eq (length_lastDigits width number).symm),
      List.take_of_length_le (Nat.le_of_eq (length_lastDigits width number))]
  have ascii : (lastDigits width number).all isAsciiDigit = true :=
    List.all_eq_true.mpr fun _ member => isAsciiDigit_of_mem_lastDigits member
  have value := decimalNumber_lastDigits width number
  rw [Nat.mod_eq_of_lt small] at value
  simp only [parseDigits, digits, length_lastDigits, ascii, and_self, if_true]
  exact congrArg some value

end PipelineOps.Python
