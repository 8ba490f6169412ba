import Mathlib.Data.List.Induction
import Mathlib.Data.List.Nodup
import Mathlib.Data.List.ReduceOption

namespace PipelineOps.Library

universe u v w

/-! A table with a primary key, and what a history of upserts makes of it. -/

section Absorb

variable {ρ : Type u} {τ : Type v}

/-- A row meets what is stored under its key: it is stored itself, or merged
into the stored row. -/
def absorb (merge : ρ → ρ → ρ) (stored : Option ρ) (row : ρ) : Option ρ :=
  some (stored.elim row (merge · row))

/-- What is stored after the rows have come in one by one. -/
def collapse (merge : ρ → ρ → ρ) (rows : List ρ) : Option ρ :=
  rows.foldl (absorb merge) none

@[simp] theorem collapse_nil (merge : ρ → ρ → ρ) : collapse merge [] = none :=
  rfl

theorem collapse_concat (merge : ρ → ρ → ρ) (rows : List ρ) (row : ρ) :
    collapse merge (rows ++ [row]) = absorb merge (collapse merge rows) row :=
  List.foldl_append ..

theorem collapse_eq_none_iff {merge : ρ → ρ → ρ} {rows : List ρ} :
    collapse merge rows = none ↔ rows = [] := by
  induction rows using List.reverseRecOn with
  | nil => simp
  | append_singleton rows row induction =>
      simp [collapse_concat, absorb]

theorem collapse_column {merge : ρ → ρ → ρ} {mergeColumn : τ → τ → τ}
    {column : ρ → τ}
    (apart : ∀ stored row,
      column (merge stored row) = mergeColumn (column stored) (column row))
    (rows : List ρ) :
    (collapse merge rows).map column =
      collapse mergeColumn (rows.map column) := by
  induction rows using List.reverseRecOn with
  | nil => rfl
  | append_singleton rows row induction =>
      rw [List.map_append, List.map_singleton, collapse_concat,
        collapse_concat, ← induction]
      cases collapse merge rows with
      | none => rfl
      | some stored => exact congrArg some (apart stored row)

theorem collapse_congr {merge other : ρ → ρ → ρ} {rows : List ρ}
    (same : ∀ row ∈ rows, ∀ stored, merge stored row = other stored row) :
    collapse merge rows = collapse other rows := by
  induction rows using List.reverseRecOn with
  | nil => rfl
  | append_singleton rows row induction =>
      rw [collapse_concat, collapse_concat,
        induction fun row member => same row (by simp [member])]
      cases collapse other rows with
      | none => rfl
      | some stored => exact congrArg some (same row (by simp) stored)

/-- `COALESCE(new, old)`. -/
def coalesce (stored row : Option τ) : Option τ := row.or stored

theorem collapse_coalesce (rows : List (Option τ)) :
    (collapse coalesce rows).join = rows.reduceOption.getLast? := by
  induction rows using List.reverseRecOn with
  | nil => rfl
  | append_singleton rows row induction =>
      rw [collapse_concat, List.reduceOption_append,
        List.reduceOption_singleton]
      cases row with
      | none =>
          rw [Option.toList_none, List.append_nil, ← induction]
          cases collapse coalesce rows <;> rfl
      | some value =>
          rw [Option.toList_some, List.getLast?_concat]
          cases collapse coalesce rows <;> rfl

/-- A kept value gives way to other kept ones only. -/
def retain (keep : ρ → Bool) (stored row : ρ) : ρ :=
  if keep stored && !keep row then stored else row

theorem collapse_retain (keep : ρ → Bool) (rows : List ρ) :
    collapse (retain keep) rows =
      (rows.filter keep).getLast?.or rows.getLast? := by
  induction rows using List.reverseRecOn with
  | nil => rfl
  | append_singleton rows row induction =>
      rw [collapse_concat, induction, List.filter_append, List.getLast?_append,
        List.getLast?_concat]
      cases kept : keep row with
      | true =>
          rw [List.filter_cons_of_pos kept]
          cases (rows.filter keep).getLast?.or rows.getLast? <;>
            simp [absorb, retain, kept]
      | false =>
          -- the row is stored only where no kept value stands
          rw [List.filter_cons_of_neg (by simp [kept])]
          cases last : (rows.filter keep).getLast? with
          | none =>
              have unheld : ∀ stored ∈ rows, keep stored = false := by
                simpa using List.getLast?_eq_none_iff.mp last
              cases final : rows.getLast? with
              | none => simp [absorb]
              | some stored =>
                  have held := unheld stored (List.mem_of_getLast? final)
                  simp [absorb, retain, held]
          | some stored =>
              have held : keep stored = true :=
                (List.mem_filter.mp (List.mem_of_getLast? last)).2
              simp [absorb, retain, held, kept]

theorem mem_of_collapse_retain {keep : ρ → Bool} {rows : List ρ} {row : ρ}
    (stored : collapse (retain keep) rows = some row) : row ∈ rows := by
  rw [collapse_retain, Option.or_eq_some_iff] at stored
  rcases stored with kept | ⟨-, last⟩
  · exact List.mem_of_mem_filter (List.mem_of_getLast? kept)
  · exact List.mem_of_getLast? last

end Absorb

structure Table (κ : Type u) (ρ : Type v) where
  rows : List (κ × ρ)
  unique : (rows.map Prod.fst).Nodup

namespace Table

variable {κ : Type u} [DecidableEq κ] {ρ : Type v}

def empty : Table κ ρ := ⟨[], List.nodup_nil⟩

def find (table : Table κ ρ) (key : κ) : Option ρ := table.rows.lookup key

/-- `INSERT ... ON CONFLICT DO UPDATE` on the rows. -/
def upsertRows (merge : ρ → ρ → ρ) (key : κ) (row : ρ) :
    List (κ × ρ) → List (κ × ρ)
  | [] => [(key, row)]
  | (other, stored) :: rest =>
      if other = key then (key, merge stored row) :: rest
      else (other, stored) :: upsertRows merge key row rest

theorem mem_keys_upsertRows {merge : ρ → ρ → ρ} {key other : κ} {row : ρ}
    {rows : List (κ × ρ)} :
    other ∈ (upsertRows merge key row rows).map Prod.fst ↔
      other = key ∨ other ∈ rows.map Prod.fst := by
  induction rows with
  | nil => simp [upsertRows]
  | cons entry rest induction =>
      obtain ⟨name, stored⟩ := entry
      rw [upsertRows]
      split
      · rename_i same
        subst same
        simp
      · rw [List.map_cons, List.mem_cons, induction, List.map_cons,
          List.mem_cons]
        exact or_left_comm

theorem nodup_upsertRows {merge : ρ → ρ → ρ} {key : κ} {row : ρ}
    {rows : List (κ × ρ)} (unique : (rows.map Prod.fst).Nodup) :
    ((upsertRows merge key row rows).map Prod.fst).Nodup := by
  induction rows with
  | nil => exact List.nodup_singleton key
  | cons entry rest induction =>
      obtain ⟨name, stored⟩ := entry
      rw [List.map_cons, List.nodup_cons] at unique
      rw [upsertRows]
      split
      · rename_i same
        subst same
        exact List.nodup_cons.mpr unique
      · rename_i differs
        refine List.nodup_cons.mpr ⟨?_, induction unique.2⟩
        rw [mem_keys_upsertRows]
        exact fun found => found.elim differs unique.1

theorem lookup_upsertRows {merge : ρ → ρ → ρ} {key : κ} {row : ρ}
    {rows : List (κ × ρ)} (other : κ) :
    (upsertRows merge key row rows).lookup other =
      if other = key then absorb merge (rows.lookup key) row
      else rows.lookup other := by
  induction rows with
  | nil =>
      by_cases same : other = key
      · simp [upsertRows, same, absorb]
      · simp [upsertRows, same, List.lookup_cons, beq_eq_false_iff_ne.mpr same]
  | cons entry rest induction =>
      obtain ⟨name, stored⟩ := entry
      rw [upsertRows]
      by_cases found : name = key
      · subst found
        rw [if_pos rfl]
        by_cases same : other = name
        · simp [same, absorb]
        · simp [List.lookup_cons, same, beq_eq_false_iff_ne.mpr same]
      · rw [if_neg found]
        by_cases same : other = name
        · subst same
          simp [found]
        · simp [List.lookup_cons, beq_eq_false_iff_ne.mpr same, induction,
            beq_eq_false_iff_ne.mpr (Ne.symm found)]

def upsert (merge : ρ → ρ → ρ) (table : Table κ ρ) (key : κ) (row : ρ) :
    Table κ ρ where
  rows := upsertRows merge key row table.rows
  unique := nodup_upsertRows table.unique

@[simp] theorem find_empty (key : κ) : (empty : Table κ ρ).find key = none :=
  rfl

theorem find_upsert (merge : ρ → ρ → ρ) (table : Table κ ρ) (key other : κ)
    (row : ρ) : (table.upsert merge key row).find other =
      if other = key then absorb merge (table.find key) row
      else table.find other :=
  lookup_upsertRows other

def replay (merge : ρ → ρ → ρ) (table : Table κ ρ) (history : List (κ × ρ)) :
    Table κ ρ :=
  history.foldl (fun table entry => table.upsert merge entry.1 entry.2) table

def rowsOf (key : κ) (history : List (κ × ρ)) : List ρ :=
  history.filterMap fun entry => if entry.1 = key then some entry.2 else none

@[simp] theorem rowsOf_cons_self (key : κ) (row : ρ)
    (history : List (κ × ρ)) :
    rowsOf key ((key, row) :: history) = row :: rowsOf key history := by
  simp [rowsOf]

theorem rowsOf_cons_of_ne {key other : κ} (differs : other ≠ key) (row : ρ)
    (history : List (κ × ρ)) :
    rowsOf key ((other, row) :: history) = rowsOf key history := by
  simp [rowsOf, differs]

theorem find_replay (merge : ρ → ρ → ρ) (history : List (κ × ρ)) (key : κ) :
    ((empty : Table κ ρ).replay merge history).find key =
      collapse merge (rowsOf key history) := by
  induction history using List.reverseRecOn with
  | nil => rfl
  | append_singleton history entry induction =>
      obtain ⟨name, row⟩ := entry
      rw [replay, List.foldl_append, List.foldl_cons, List.foldl_nil,
        ← replay, find_upsert, rowsOf, List.filterMap_append, ← rowsOf]
      by_cases same : key = name
      · subst same
        simp [collapse_concat, induction]
      · simp [same, Ne.symm same, induction]

theorem length_filter_le_one (table : Table κ ρ) (key : κ) :
    (table.rows.filter fun entry => entry.1 = key).length ≤ 1 := by
  have counted : (table.rows.filter fun entry => entry.1 = key).length =
      (table.rows.map Prod.fst).count key := by
    rw [List.count, List.countP_map, List.countP_eq_length_filter]
    rfl
  rw [counted]
  exact List.nodup_iff_count_le_one.mp table.unique key

end Table

end PipelineOps.Library
