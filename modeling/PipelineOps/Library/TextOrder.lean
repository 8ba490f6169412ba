import Mathlib.Data.List.Basic

namespace PipelineOps.Library

/-! The order of lists by their first difference, on lists that are put
together from parts of equal length. -/

section Parts

variable {α : Type} [LT α]

theorem append_lt_append_iff {left right : List α}
    (same : left.length = right.length) (behind rest : List α) :
    left ++ behind < right ++ rest ↔
      left < right ∨ left = right ∧ behind < rest := by
  induction left generalizing right with
  | nil =>
      obtain rfl := List.length_eq_zero_iff.mp same.symm
      simp
  | cons head tail induction =>
      cases right with
      | nil => cases same
      | cons other others =>
          have lengths := Nat.succ.inj same
          rw [List.cons_append, List.cons_append, List.cons_lt_cons_iff,
            List.cons_lt_cons_iff, induction lengths, List.cons.injEq]
          tauto

theorem singleton_lt_singleton_iff {left right : α} :
    [left] < [right] ↔ left < right := by
  rw [List.cons_lt_cons_iff]
  simp

end Parts

/-- The first number with a property that no later one loses. -/
theorem findIdx_range_le_iff {limit number : Nat} {reaches : Nat → Bool}
    (kept : ∀ earlier later, earlier ≤ later → later < limit →
      reaches earlier = true → reaches later = true)
    (within : number < limit) :
    (List.range limit).findIdx reaches ≤ number ↔ reaches number = true := by
  constructor
  · intro reached
    have first : (List.range limit).findIdx reaches <
        (List.range limit).length := by
      rw [List.length_range]
      omega
    have holds := @List.findIdx_getElem _ reaches _ first
    rw [List.getElem_range] at holds
    exact kept _ _ reached within holds
  · intro holds
    by_contra later
    have before := List.not_of_lt_findIdx (Nat.lt_of_not_le later)
    rw [List.getElem_range, holds] at before
    cases before

end PipelineOps.Library
