import Mathlib.Data.List.Basic

namespace PipelineOps.Library

universe u v

/-- A dictionary, as its lookup: absent keys are `none`. -/
@[ext] structure Dict (κ : Type u) (α : Type v) where
  find : κ → Option α

namespace Dict

variable {κ : Type u} {α : Type v}

def empty : Dict κ α := ⟨fun _ => none⟩

def ofList [BEq κ] (entries : List (κ × α)) : Dict κ α :=
  ⟨fun key => entries.lookup key⟩

def set [DecidableEq κ] (dict : Dict κ α) (key : κ) (value : α) : Dict κ α :=
  ⟨fun other => if other = key then some value else dict.find other⟩

def update (dict updates : Dict κ α) : Dict κ α :=
  ⟨fun key => (updates.find key).or (dict.find key)⟩

def restrict (keep : κ → Prop) [DecidablePred keep] (dict : Dict κ α) :
    Dict κ α :=
  ⟨fun key => if keep key then dict.find key else none⟩

def Within (dict : Dict κ α) (keep : κ → Prop) : Prop :=
  ∀ key, dict.find key ≠ none → keep key

@[simp] theorem find_empty (key : κ) : (empty : Dict κ α).find key = none := rfl

theorem find_update (dict updates : Dict κ α) (key : κ) :
    (dict.update updates).find key =
      (updates.find key).or (dict.find key) := rfl

theorem find_update_of_none {dict updates : Dict κ α} {key : κ}
    (absent : updates.find key = none) :
    (dict.update updates).find key = dict.find key := by
  rw [find_update, absent, Option.none_or]

theorem find_update_of_some {dict updates : Dict κ α} {key : κ} {value : α}
    (present : updates.find key = some value) :
    (dict.update updates).find key = some value := by
  rw [find_update, present, Option.some_or]

theorem find_restrict (keep : κ → Prop) [DecidablePred keep]
    (dict : Dict κ α) (key : κ) :
    (dict.restrict keep).find key = if keep key then dict.find key else none :=
  rfl

theorem within_empty (keep : κ → Prop) : (empty : Dict κ α).Within keep :=
  fun _ present => absurd rfl present

theorem within_ofList [BEq κ] [LawfulBEq κ] {entries : List (κ × α)}
    {keep : κ → Prop} (kept : ∀ entry ∈ entries, keep entry.1) :
    (ofList entries).Within keep := by
  intro key present
  obtain ⟨value, found⟩ := Option.ne_none_iff_exists'.mp present
  obtain ⟨before, after, rfl, -⟩ := List.lookup_eq_some_iff.mp found
  exact kept (key, value) (by simp)

theorem Within.find_eq_none {dict : Dict κ α} {keep : κ → Prop}
    (within : dict.Within keep) {key : κ} (outside : ¬ keep key) :
    dict.find key = none := by
  by_contra present
  exact outside (within key present)

theorem Within.mono {dict : Dict κ α} {keep wider : κ → Prop}
    (within : dict.Within keep) (le : ∀ key, keep key → wider key) :
    dict.Within wider :=
  fun key present => le key (within key present)

theorem Within.update {dict updates : Dict κ α} {keep : κ → Prop}
    (left : dict.Within keep) (right : updates.Within keep) :
    (dict.update updates).Within keep := by
  intro key present
  by_cases written : updates.find key = none
  · rw [find_update_of_none written] at present
    exact left key present
  · exact right key written

theorem restrict_eq_self_iff (keep : κ → Prop) [DecidablePred keep]
    (dict : Dict κ α) : dict.restrict keep = dict ↔ dict.Within keep := by
  constructor
  · intro same key present
    by_contra outside
    rw [← same, find_restrict, if_neg outside] at present
    exact present rfl
  · intro within
    ext1
    funext key
    rw [find_restrict]
    split
    · rfl
    · rename_i outside
      exact (within.find_eq_none outside).symm

end Dict

section Entries

/-- Entry lists with the same keys, whose values are the same but for related
ones under `key`. -/
inductive AgreeUpTo {κ : Type u} {α : Type v} (key : κ)
    (related : α → α → Prop) : List (κ × α) → List (κ × α) → Prop
  | nil : AgreeUpTo key related [] []
  | same {left right : List (κ × α)} (entry : κ × α)
      (rest : AgreeUpTo key related left right) :
      AgreeUpTo key related (entry :: left) (entry :: right)
  | changed {left right : List (κ × α)} {first second : α}
      (apart : related first second)
      (rest : AgreeUpTo key related left right) :
      AgreeUpTo key related ((key, first) :: left) ((key, second) :: right)

variable {κ : Type u} {α : Type v} [BEq κ] [LawfulBEq κ] {key : κ}
  {related : α → α → Prop} {left right : List (κ × α)}

theorem AgreeUpTo.lookup_of_ne (agree : AgreeUpTo key related left right)
    {other : κ} (apart : other ≠ key) :
    left.lookup other = right.lookup other := by
  induction agree with
  | nil => rfl
  | same entry rest induction =>
      obtain ⟨name, value⟩ := entry
      rw [List.lookup_cons, List.lookup_cons, induction]
  | changed related rest induction =>
      rw [List.lookup_cons, List.lookup_cons, beq_false_of_ne apart]
      exact induction

theorem AgreeUpTo.lookup_key (agree : AgreeUpTo key related left right) :
    left.lookup key = right.lookup key ∨
      ∃ first second, left.lookup key = some first ∧
        right.lookup key = some second ∧ related first second := by
  induction agree with
  | nil => exact .inl rfl
  | same entry rest induction =>
      obtain ⟨name, value⟩ := entry
      rw [List.lookup_cons, List.lookup_cons]
      cases key == name with
      | true => exact .inl rfl
      | false => exact induction
  | changed apart rest induction =>
      rw [List.lookup_cons_self, List.lookup_cons_self]
      exact .inr ⟨_, _, rfl, rfl, apart⟩

end Entries

end PipelineOps.Library
