import Mathlib.Algebra.BigOperators.Group.List.Lemmas
import Mathlib.Algebra.GroupWithZero.Nat
import Mathlib.Data.List.Dedup
import Mathlib.Data.List.Sort
import Mathlib.Data.Prod.Lex

namespace PipelineOps.Library

universe u v w

variable {α : Type u} {κ : Type v} {ρ : Type w} [DecidableEq κ]

/-! Items grouped by a key, and their keys in the order of a rank. -/

def group (key : α → κ) (items : List α) (wanted : κ) : List α :=
  items.filter fun item => key item = wanted

section Group

variable {key : α → κ} {items others : List α} {wanted : κ}

@[simp] theorem group_nil (key : α → κ) (wanted : κ) :
    group key [] wanted = [] := rfl

theorem group_concat (key : α → κ) (items : List α) (item : α) (wanted : κ) :
    group key (items ++ [item]) wanted =
      if key item = wanted then group key items wanted ++ [item]
      else group key items wanted := by
  unfold group
  rw [List.filter_append]
  by_cases same : key item = wanted <;> simp [same]

theorem group_eq_nil_iff :
    group key items wanted = [] ↔ ∀ item ∈ items, key item ≠ wanted := by
  simp [group]

theorem length_group (key : α → κ) (items : List α) (wanted : κ) :
    (group key items wanted).length = (items.map key).count wanted := by
  unfold group
  rw [← List.countP_eq_length_filter, List.count, List.countP_map]
  apply List.countP_congr
  intro item _
  simp

theorem group_perm (perm : items.Perm others) (key : α → κ) (wanted : κ) :
    (group key items wanted).Perm (group key others wanted) :=
  List.Perm.filter _ perm

end Group

/-- A comparison that goes to the next column when the first ones agree. -/
theorem lex_le_iff {σ : Type v} {τ : Type w} [LinearOrder σ] [LinearOrder τ]
    (first second : σ) {left right : τ} {rest : Bool}
    (behind : rest = true ↔ left ≤ right) :
    (if first ≠ second then decide (first < second) else rest) = true ↔
      toLex (first, left) ≤ toLex (second, right) := by
  rw [Prod.Lex.toLex_le_toLex]
  by_cases same : first = second
  · simp [same, behind]
  · simp [same]

/-- The keys of the items, each once, in the order of their ranks. -/
structure IsRanking [LT ρ] (rank : κ → ρ) (key : α → κ) (items : List α)
    (ranked : List κ) : Prop where
  increasing : ranked.Pairwise fun first second => rank first < rank second
  mem_iff : ∀ wanted, wanted ∈ ranked ↔ ∃ item ∈ items, key item = wanted

section Ranking

variable [LinearOrder ρ] {rank : κ → ρ} {key : α → κ} {items others : List α}
  {ranked : List κ}

omit [DecidableEq κ] in
theorem IsRanking.nodup (ranking : IsRanking rank key items ranked) :
    ranked.Nodup := by
  apply ranking.increasing.imp
  intro first second less same
  rw [same] at less
  exact lt_irrefl _ less

omit [DecidableEq κ] in
/-- There is one ranking, whatever order the items come in. -/
theorem IsRanking.unique {another : List κ}
    (ranking : IsRanking rank key items ranked)
    (again : IsRanking rank key others another) (perm : items.Perm others) :
    ranked = another := by
  have same : ranked.Perm another := by
    apply (List.perm_ext_iff_of_nodup ranking.nodup again.nodup).mpr
    intro wanted
    rw [ranking.mem_iff, again.mem_iff]
    simp only [perm.mem_iff]
  apply same.eq_of_pairwise _ ranking.increasing again.increasing
  intro first second _ _ less more
  exact absurd (lt_trans less more) (lt_irrefl _)

omit [DecidableEq κ] in
/-- What is kept of a ranking precedes what is dropped. -/
theorem IsRanking.take_lt_drop (ranking : IsRanking rank key items ranked)
    (limit : Nat) {kept dropped : κ} (keeps : kept ∈ ranked.take limit)
    (drops : dropped ∈ ranked.drop limit) : rank kept < rank dropped := by
  have parts := ranking.increasing
  rw [← List.take_append_drop limit ranked, List.pairwise_append] at parts
  exact parts.2.2 kept keeps dropped drops

/-- The groups of a ranking make up all items. -/
theorem IsRanking.sum_length (ranking : IsRanking rank key items ranked) :
    (ranked.map fun wanted => (group key items wanted).length).sum =
      items.length := by
  have same : ranked.Perm (items.map key).dedup := by
    apply (List.perm_ext_iff_of_nodup ranking.nodup (List.nodup_dedup _)).mpr
    intro wanted
    rw [ranking.mem_iff, List.mem_dedup, List.mem_map]
  simp only [length_group]
  rw [(same.map _).sum_eq, List.sum_map_count_dedup_eq_length, List.length_map]

end Ranking

end PipelineOps.Library
