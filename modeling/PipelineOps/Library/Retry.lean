import Mathlib.Data.List.Basic

namespace PipelineOps.Library

universe u

/-! Attempts of which a transient one is followed by another, as long as retries
are left. -/

section Retry

variable {α : Type u} {transient : α → Prop} {retries : Nat}
  {attempts : List α} {last : α}

inductive Retried (transient : α → Prop) : Nat → List α → α → Prop
  | settled {retries : Nat} {attempt : α} (final : ¬ transient attempt) :
      Retried transient retries [attempt] attempt
  | exhausted (attempt : α) : Retried transient 0 [attempt] attempt
  | again {retries : Nat} {attempt last : α} {attempts : List α}
      (failed : transient attempt)
      (rest : Retried transient retries attempts last) :
      Retried transient (retries + 1) (attempt :: attempts) last

/-- All attempts but the last are transient; the last one is so only when no
retry is left. -/
theorem Retried.split (retried : Retried transient retries attempts last) :
    ∃ failed, attempts = failed ++ [last] ∧ failed.length ≤ retries ∧
      (∀ attempt ∈ failed, transient attempt) ∧
      (failed.length < retries → ¬ transient last) := by
  induction retried with
  | settled final =>
      exact ⟨[], rfl, Nat.zero_le _, by simp, fun _ => final⟩
  | exhausted attempt =>
      exact ⟨[], rfl, Nat.le_refl 0, by simp, fun left => absurd left (by simp)⟩
  | @again retries attempt last attempts first rest induction =>
      obtain ⟨failed, rfl, bounded, transients, final⟩ := induction
      refine ⟨attempt :: failed, rfl, Nat.succ_le_succ bounded, ?_, ?_⟩
      · intro other member
        rcases List.mem_cons.mp member with rfl | member
        · exact first
        · exact transients other member
      · intro left
        exact final (Nat.lt_of_succ_lt_succ left)

/-- In a sequence of outcomes: the first `retried` ones are transient, and the
next one is not, unless no retry is left. -/
structure StopsAfter (transient : α → Prop) (outcomes : Nat → α)
    (retries retried : Nat) : Prop where
  bounded : retried ≤ retries
  before : ∀ attempt < retried, transient (outcomes attempt)
  last : retried < retries → ¬ transient (outcomes retried)

variable {outcomes others : Nat → α} {retried another : Nat}

theorem Retried.stopsAfter
    (attempts : Retried transient retries
      ((List.range (retried + 1)).map outcomes) (outcomes retried)) :
    StopsAfter transient outcomes retries retried := by
  obtain ⟨failed, split, bounded, transients, final⟩ := attempts.split
  rw [List.range_succ, List.map_append] at split
  obtain ⟨rfl, -⟩ := List.append_inj' split rfl
  rw [List.length_map, List.length_range] at bounded final
  refine ⟨bounded, fun attempt early => ?_, final⟩
  exact transients _ (List.mem_map_of_mem (List.mem_range.mpr early))

theorem StopsAfter.unique
    (stops : StopsAfter transient outcomes retries retried)
    (again : StopsAfter transient outcomes retries another) :
    retried = another := by
  have first := stops.bounded
  have second := again.bounded
  rcases Nat.lt_trichotomy retried another with less | same | greater
  · exact absurd (again.before _ less) (stops.last (by omega))
  · exact same
  · exact absurd (stops.before _ greater) (again.last (by omega))

theorem StopsAfter.congr
    (stops : StopsAfter transient outcomes retries retried)
    (same : ∀ attempt,
      transient (outcomes attempt) ↔ transient (others attempt)) :
    StopsAfter transient others retries retried where
  bounded := stops.bounded
  before attempt early := (same attempt).mp (stops.before attempt early)
  last left again := stops.last left ((same retried).mpr again)

/-- The number of the first outcome that is not transient. -/
structure FirstFinal (transient : α → Prop) (outcomes : Nat → α)
    (first : Nat) : Prop where
  before : ∀ attempt < first, transient (outcomes attempt)
  final : ¬ transient (outcomes first)

variable {first : Nat}

theorem FirstFinal.stopsAfter
    (firstFinal : FirstFinal transient outcomes first) :
    StopsAfter transient outcomes retries (min retries first) where
  bounded := Nat.min_le_left retries first
  before attempt early := firstFinal.before attempt (by omega)
  last left := by
    have settled : min retries first = first := by omega
    rw [settled]
    exact firstFinal.final

theorem stopsAfter_of_transient
    (transients : ∀ attempt ≤ retries, transient (outcomes attempt)) :
    StopsAfter transient outcomes retries retries where
  bounded := Nat.le_refl retries
  before attempt early := transients attempt (Nat.le_of_lt early)
  last left := absurd left (Nat.lt_irrefl retries)

theorem StopsAfter.firstFinal_or
    (stops : StopsAfter transient outcomes retries retried) :
    FirstFinal transient outcomes retried ∨
      retried = retries ∧
        ∀ attempt ≤ retries, transient (outcomes attempt) := by
  by_cases final : transient (outcomes retried)
  · have exhausted : retried = retries := by
      by_contra left
      have bounded := stops.bounded
      exact stops.last (by omega) final
    refine .inr ⟨exhausted, fun attempt within => ?_⟩
    rcases Nat.lt_or_eq_of_le within with early | rfl
    · exact stops.before attempt (by omega)
    · rwa [← exhausted]
  · exact .inl ⟨stops.before, final⟩

end Retry

end PipelineOps.Library
