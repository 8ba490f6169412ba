import Mathlib.Algebra.Order.Ring.Nat
import Mathlib.Data.List.Basic

namespace PipelineOps.Library

universe u v

variable {α : Type u} {β : Type v}

/-! A list that is read page by page. -/

def page (size number : Nat) (items : List α) : List α :=
  (items.drop (size * number)).take size

/-- What a reader sees in at most `limit` pages, if he goes no further than the
first page that holds an item at which he stops. -/
def scanned (size : Nat) (stops : α → Bool) : (limit : Nat) → List α → List α
  | 0, _ => []
  | limit + 1, items =>
      items.take size ++
        if (items.take size).any stops then []
        else scanned size stops limit (items.drop size)

/-- No item of interest lies on a page behind one that holds an item at which
the reader stops. -/
def NoneBehind (size : Nat) (stops wanted : α → Bool) (items : List α) : Prop :=
  ∀ i j item other, items[i]? = some item → items[j]? = some other →
    stops item = true → wanted other = true → j / size ≤ i / size

section Page

variable {size : Nat} {items : List α}

theorem mem_of_mem_page {number : Nat} {item : α}
    (member : item ∈ page size number items) : item ∈ items :=
  List.mem_of_mem_drop (List.mem_of_mem_take member)

end Page

section Scanned

variable {size limit : Nat} {stops : α → Bool} {items : List α}

@[simp] theorem scanned_nil (size : Nat) (stops : α → Bool) (limit : Nat) :
    scanned size stops limit [] = [] := by
  induction limit with
  | zero => rfl
  | succ limit induction => simp [scanned, induction]

/-- A reader in front of a page takes it, and goes on unless it stops him. -/
theorem scanned_drop (number : Nat) :
    scanned size stops (limit + 1) (items.drop (size * number)) =
      page size number items ++
        if (page size number items).any stops then []
        else scanned size stops limit (items.drop (size * (number + 1))) := by
  rw [scanned, List.drop_drop, ← Nat.mul_succ]
  rfl

theorem scanned_drop_of_page_nil {number : Nat} (positive : 0 < size)
    (empty : page size number items = []) :
    scanned size stops limit (items.drop (size * number)) = [] := by
  have behind : items.drop (size * number) = [] :=
    (List.take_eq_nil_iff.mp empty).resolve_left (Nat.ne_of_gt positive)
  rw [behind, scanned_nil]

theorem scanned_prefix (size : Nat) (stops : α → Bool) (limit : Nat)
    (items : List α) : scanned size stops limit items <+: items := by
  induction limit generalizing items with
  | zero => exact List.nil_prefix
  | succ limit induction =>
      rw [scanned]
      split
      · rw [List.append_nil]
        exact List.take_prefix size items
      · obtain ⟨unread, split⟩ := induction (items.drop size)
        refine ⟨unread, ?_⟩
        rw [List.append_assoc, split, List.take_append_drop]

theorem any_take_iff :
    (items.take size).any stops = true ↔
      ∃ i item, i < size ∧ items[i]? = some item ∧ stops item = true := by
  rw [List.any_eq_true]
  constructor
  · rintro ⟨item, member, stop⟩
    obtain ⟨i, known⟩ := List.getElem?_of_mem member
    rw [List.getElem?_take] at known
    split at known
    · next inPage => exact ⟨i, item, inPage, known, stop⟩
    · cases known
  · rintro ⟨i, item, inPage, known, stop⟩
    rw [← List.getElem?_take_of_lt inPage] at known
    exact ⟨item, List.mem_of_getElem? known, stop⟩

/-- If the first page holds no stop, the pages behind it are a listing of their
own. -/
theorem forall_stop_drop_iff {position : Nat} (positive : 0 < size)
    (behind : size ≤ position)
    (unstopped : ¬ (items.take size).any stops = true) :
    (∀ i item, (items.drop size)[i]? = some item → stops item = true →
        (position - size) / size ≤ i / size) ↔
      ∀ i item, items[i]? = some item → stops item = true →
        position / size ≤ i / size := by
  rw [Nat.div_eq_sub_div positive behind]
  constructor
  · intro later i item known stop
    have notFirst : size ≤ i := by
      by_contra inPage
      exact unstopped (any_take_iff.mpr ⟨i, item, by omega, known, stop⟩)
    rw [Nat.div_eq_sub_div positive notFirst]
    apply Nat.succ_le_succ
    apply later (i - size) item _ stop
    rw [List.getElem?_drop, Nat.add_sub_cancel' notFirst]
    exact known
  · intro all i item known stop
    rw [List.getElem?_drop] at known
    have bound := all (size + i) item known stop
    rw [Nat.div_eq_sub_div positive (Nat.le_add_right _ _),
      Nat.add_sub_cancel_left] at bound
    exact Nat.le_of_succ_le_succ bound

/-- The items that are read are those with no stop on an earlier page. -/
theorem lt_length_scanned_iff {position : Nat} (positive : 0 < size)
    (fits : items.length ≤ limit * size) (inside : position < items.length) :
    position < (scanned size stops limit items).length ↔
      ∀ i item, items[i]? = some item → stops item = true →
        position / size ≤ i / size := by
  induction limit generalizing items position with
  | zero => omega
  | succ limit induction =>
      rw [Nat.succ_mul] at fits
      have firstPage : position < size → position / size = 0 :=
        Nat.div_eq_of_lt
      rw [scanned]
      by_cases stopped : (items.take size).any stops = true
      · rw [if_pos stopped, List.append_nil, List.length_take, Nat.lt_min]
        constructor
        · intro early i item _ _
          rw [firstPage early.1]
          exact Nat.zero_le _
        · intro behind
          obtain ⟨i, item, inPage, known, stop⟩ := any_take_iff.mp stopped
          have bound := behind i item known stop
          rw [Nat.div_eq_of_lt inPage, Nat.le_zero,
            Nat.div_eq_zero_iff_lt positive] at bound
          exact ⟨bound, inside⟩
      · rw [if_neg stopped, List.length_append, List.length_take]
        by_cases early : position < size
        · rw [firstPage early]
          constructor
          · exact fun _ _ _ _ _ => Nat.zero_le _
          · intro _
            omega
        · have behind : size ≤ position := Nat.le_of_not_lt early
          have rest := @induction (items.drop size) (position - size)
            (by rw [List.length_drop]; omega)
            (by rw [List.length_drop]; omega)
          have shifted : position < min size items.length +
                (scanned size stops limit (items.drop size)).length ↔
              position - size <
                (scanned size stops limit (items.drop size)).length := by
            omega
          rw [shifted, rest, forall_stop_drop_iff positive behind stopped]

end Scanned

section Missed

variable {read unread items : List α}

theorem filterMap_perm_append_iff {find : α → Option β} :
    (read.filterMap find).Perm ((read ++ unread).filterMap find) ↔
      ∀ item ∈ unread, find item = none := by
  rw [← List.filterMap_eq_nil_iff, List.filterMap_append]
  constructor
  · intro perm
    have counts := perm.length_eq
    rw [List.length_append] at counts
    exact List.length_eq_zero_iff.mp (Nat.left_eq_add.mp counts)
  · intro none_found
    rw [none_found, List.append_nil]

theorem forall_mem_unread_iff {holds : α → Prop}
    (whole : read ++ unread = items) :
    (∀ item ∈ unread, holds item) ↔
      ∀ position item, items[position]? = some item → ¬ holds item →
        position < read.length := by
  subst whole
  constructor
  · intro all position item known fails
    by_contra behind
    rw [List.getElem?_append_right (Nat.le_of_not_lt behind)] at known
    exact fails (all item (List.mem_of_getElem? known))
  · intro early item member
    by_contra fails
    obtain ⟨offset, known⟩ := List.getElem?_of_mem member
    have bound := early (read.length + offset) item (by
      rw [List.getElem?_append_right (Nat.le_add_right _ _),
        Nat.add_sub_cancel_left, known]) fails
    omega

/-- The reader finds everything exactly when nothing of interest lies behind the
page at which he stops. -/
theorem filterMap_scanned_perm_iff {size limit : Nat} {stops : α → Bool}
    {find : α → Option β} (positive : 0 < size)
    (fits : items.length ≤ limit * size) :
    ((scanned size stops limit items).filterMap find).Perm
        (items.filterMap find) ↔
      NoneBehind size stops (fun item => (find item).isSome) items := by
  obtain ⟨unread, whole⟩ := scanned_prefix size stops limit items
  have missed : ((scanned size stops limit items).filterMap find).Perm
      (items.filterMap find) ↔ ∀ item ∈ unread, find item = none := by
    rw [← filterMap_perm_append_iff, whole]
  rw [missed, forall_mem_unread_iff whole]
  constructor
  · intro early i j item other known there stop wanted
    have inside := (List.getElem?_eq_some_iff.mp there).1
    have read := early j other there (Option.isSome_iff_ne_none.mp wanted)
    exact (lt_length_scanned_iff positive fits inside).mp read i item known stop
  · intro none_behind position item known found
    have inside := (List.getElem?_eq_some_iff.mp known).1
    rw [lt_length_scanned_iff positive fits inside]
    intro i stopper there stop
    exact none_behind i position stopper item there known stop
      (Option.isSome_iff_ne_none.mpr found)

end Missed

/-- What is picked in two ways, never in both, is what each of them picks. -/
theorem filterMap_perm_append {α β : Type*} {pick first second : α → Option β}
    (parts : ∀ item, first item = none ∧ pick item = second item ∨
      second item = none ∧ pick item = first item) (items : List α) :
    (items.filterMap pick).Perm
      (items.filterMap first ++ items.filterMap second) := by
  induction items with
  | nil => exact .refl _
  | cons item items induction =>
      rcases parts item with ⟨absent, same⟩ | ⟨absent, same⟩
      · rw [List.filterMap_cons_none absent]
        cases picked : second item with
        | none =>
            rw [List.filterMap_cons_none (same.trans picked),
              List.filterMap_cons_none picked]
            exact induction
        | some value =>
            rw [List.filterMap_cons_some (same.trans picked),
              List.filterMap_cons_some picked]
            exact (induction.cons value).trans List.perm_middle.symm
      · rw [List.filterMap_cons_none absent]
        cases picked : first item with
        | none =>
            rw [List.filterMap_cons_none (same.trans picked),
              List.filterMap_cons_none picked]
            exact induction
        | some value =>
            rw [List.filterMap_cons_some (same.trans picked),
              List.filterMap_cons_some picked]
            exact induction.cons value

end PipelineOps.Library
