import Mathlib.Data.List.Basic
import Mathlib.Logic.Function.Basic

namespace PipelineOps.Library

universe u v w

/-! Counters that stop at a cap, one for each key, and who is admitted while
they still move. -/

section Quota

variable {κ : Type u} [DecidableEq κ] {τ : Type v} {cap : Nat}
  {key : τ → κ} {admitted : τ → Bool} {before after : κ → Nat}
  {entries : List τ}

def bump (cap count : Nat) : Nat := if count < cap then count + 1 else count

/-- The entries pass the counters one by one; each moves the counter of its key,
and is admitted if that counter was below the cap. -/
inductive Metered (cap : Nat) (key : τ → κ) (admitted : τ → Bool) :
    (κ → Nat) → List τ → (κ → Nat) → Prop
  | nil (counts : κ → Nat) : Metered cap key admitted counts [] counts
  | cons {counts final : κ → Nat} {entry : τ} {entries : List τ}
      (flag : admitted entry = decide (counts (key entry) < cap))
      (rest : Metered cap key admitted
        (Function.update counts (key entry) (bump cap (counts (key entry))))
        entries final) :
      Metered cap key admitted counts (entry :: entries) final

def entriesOf (key : τ → κ) (wanted : κ) (entries : List τ) : List τ :=
  entries.filter fun entry => key entry = wanted

theorem entriesOf_cons_self (entry : τ) (entries : List τ) :
    entriesOf key (key entry) (entry :: entries) =
      entry :: entriesOf key (key entry) entries := by
  simp [entriesOf]

theorem entriesOf_cons_of_ne {wanted : κ} {entry : τ}
    (differs : key entry ≠ wanted) (entries : List τ) :
    entriesOf key wanted (entry :: entries) = entriesOf key wanted entries := by
  simp [entriesOf, differs]

theorem Metered.count (metered : Metered cap key admitted before entries after)
    {wanted : κ} (within : before wanted ≤ cap) :
    after wanted =
      min cap (before wanted + (entriesOf key wanted entries).length) := by
  induction metered with
  | nil counts =>
      simp only [entriesOf, List.filter_nil, List.length_nil]
      omega
  | @cons counts final entry entries flag rest induction =>
      by_cases same : key entry = wanted
      · subst same
        rw [Function.update_self] at induction
        have counted : bump cap (counts (key entry)) ≤ cap := by
          unfold bump
          split <;> omega
        rw [induction counted, entriesOf_cons_self, List.length_cons]
        unfold bump
        split <;> omega
      · rw [Function.update_of_ne (Ne.symm same)] at induction
        rw [induction within, entriesOf_cons_of_ne same]

/-- The first entries of a key are admitted, as many as its counter can take. -/
theorem Metered.admitted_eq_take
    (metered : Metered cap key admitted before entries after) (wanted : κ) :
    (entriesOf key wanted entries).filter admitted =
      (entriesOf key wanted entries).take (cap - before wanted) := by
  induction metered with
  | nil counts => simp [entriesOf]
  | @cons counts final entry entries flag rest induction =>
      by_cases same : key entry = wanted
      · subst same
        rw [Function.update_self] at induction
        rw [entriesOf_cons_self]
        by_cases below : counts (key entry) < cap
        · have left : cap - counts (key entry) =
              cap - bump cap (counts (key entry)) + 1 := by
            rw [bump, if_pos below]
            omega
          rw [List.filter_cons_of_pos (by simp [flag, below]), induction,
            left, List.take_succ_cons]
        · have none_left : cap - counts (key entry) = 0 := by omega
          rw [bump, if_neg below, none_left, List.take_zero] at induction
          rw [List.filter_cons_of_neg (by simp [flag, below]), induction,
            none_left, List.take_zero]
      · rw [Function.update_of_ne (Ne.symm same)] at induction
        rw [entriesOf_cons_of_ne same, induction]

/-- Entries may carry more than what is metered. -/
theorem Metered.of_map {σ : Type w} {content : σ → τ} {carriers : List σ}
    (metered : Metered cap key admitted before (carriers.map content) after) :
    Metered cap (fun carrier => key (content carrier))
      (fun carrier => admitted (content carrier)) before carriers after := by
  induction carriers generalizing before with
  | nil =>
      cases metered
      exact .nil _
  | cons carrier rest induction =>
      cases metered with
      | cons flag metered => exact .cons flag (induction metered)

end Quota

end PipelineOps.Library
