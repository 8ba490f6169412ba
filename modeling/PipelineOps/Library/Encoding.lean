import Mathlib.Data.List.Basic
import Mathlib.Data.List.Forall2

namespace PipelineOps.Library

universe u v

/-! Texts from which what they were written for can be read back. -/

section Encoding

variable {σ : Type u} {α : Type v} {write : α → List σ}
  {domain : α → Prop} {related : α → α → Prop} {follow : List σ → Prop}

/-- Before texts that `follow` allows, the text of `value` is that of related
values only, and shows where it ends. -/
def ReadsAs (write : α → List σ) (domain : α → Prop) (related : α → α → Prop)
    (follow : List σ → Prop) (value : α) : Prop :=
  ∀ other left right, domain other → follow left → follow right →
    write value ++ left = write other ++ right →
      related value other ∧ left = right

/-- No text of a value goes on to be that of another one. -/
def PrefixCode (write : α → List σ) : Prop :=
  ∀ value other left right, write value ++ left = write other ++ right →
    value = other ∧ left = right

theorem PrefixCode.of_reader {read : List σ → Option (α × List σ)}
    (reads : ∀ value rest, read (write value ++ rest) = some (value, rest)) :
    PrefixCode write := by
  intro value other left right same
  have both := (reads value left).symm.trans
    ((congrArg read same).trans (reads other right))
  exact Prod.mk.inj (Option.some.inj both)

theorem PrefixCode.flatMap_injective (code : PrefixCode write)
    (filled : ∀ value, write value ≠ []) :
    Function.Injective fun values : List α => values.flatMap write := by
  intro values others same
  dsimp only at same
  induction values generalizing others with
  | nil =>
      cases others with
      | nil => rfl
      | cons other others =>
          rw [List.flatMap_cons] at same
          exact absurd (List.append_eq_nil_iff.mp same.symm).1 (filled other)
  | cons value values induction =>
      cases others with
      | nil =>
          rw [List.flatMap_cons] at same
          exact absurd (List.append_eq_nil_iff.mp same).1 (filled value)
      | cons other others =>
          rw [List.flatMap_cons, List.flatMap_cons] at same
          obtain ⟨rfl, rest⟩ := code _ _ _ _ same
          rw [induction rest]

/-- A closing symbol that starts no text ends a sequence of them. -/
theorem PrefixCode.flatMap_closed (code : PrefixCode write) {closer : σ}
    (opens : ∀ value, ∃ head tail, write value = head :: tail ∧
      head ≠ closer)
    {values others : List α} {left right : List σ}
    (same : values.flatMap write ++ closer :: left =
      others.flatMap write ++ closer :: right) :
    values = others ∧ left = right := by
  induction values generalizing others with
  | nil =>
      cases others with
      | nil => exact ⟨rfl, (List.cons.inj same).2⟩
      | cons other others =>
          obtain ⟨head, tail, text, differs⟩ := opens other
          rw [List.flatMap_cons, text] at same
          exact absurd (List.cons.inj same).1.symm differs
  | cons value values induction =>
      cases others with
      | nil =>
          obtain ⟨head, tail, text, differs⟩ := opens value
          rw [List.flatMap_cons, text] at same
          exact absurd (List.cons.inj same).1 differs
      | cons other others =>
          rw [List.flatMap_cons, List.flatMap_cons, List.append_assoc,
            List.append_assoc] at same
          obtain ⟨rfl, rest⟩ := code _ _ _ _ same
          obtain ⟨rfl, ended⟩ := induction rest
          exact ⟨rfl, ended⟩

/-- The longest beginning of one kind of symbols. -/
theorem append_inj_of_span {kind : σ → Bool} {first second left right : List σ}
    (firstKind : ∀ symbol ∈ first, kind symbol = true)
    (secondKind : ∀ symbol ∈ second, kind symbol = true)
    (leftEnds : ∀ symbol ∈ left.head?, kind symbol = false)
    (rightEnds : ∀ symbol ∈ right.head?, kind symbol = false)
    (same : first ++ left = second ++ right) :
    first = second ∧ left = right := by
  have stops : ∀ rest : List σ, (∀ symbol ∈ rest.head?, kind symbol = false) →
      rest.takeWhile kind = [] := by
    intro rest ends
    cases rest with
    | nil => rfl
    | cons symbol rest =>
        rw [List.takeWhile_cons, ends symbol rfl]
        rfl
  have taken := congrArg (List.takeWhile kind) same
  rw [List.takeWhile_append_of_pos firstKind,
    List.takeWhile_append_of_pos secondKind, stops left leftEnds,
    stops right rightEnds, List.append_nil, List.append_nil] at taken
  subst taken
  exact ⟨rfl, List.append_cancel_left same⟩

def separated (separator : σ) : List (List σ) → List σ
  | [] => []
  | [text] => text
  | text :: next :: rest =>
      text ++ separator :: separated separator (next :: rest)

theorem separated_cons_cons (separator : σ) (text next : List σ)
    (rest : List (List σ)) :
    separated separator (text :: next :: rest) =
      text ++ separator :: separated separator (next :: rest) := rfl

theorem mem_separated {separator symbol : σ} {texts : List (List σ)}
    (member : symbol ∈ separated separator texts) :
    symbol = separator ∨ ∃ text ∈ texts, symbol ∈ text := by
  induction texts with
  | nil => cases member
  | cons text rest induction =>
      cases rest with
      | nil => exact .inr ⟨text, List.mem_cons_self, member⟩
      | cons next rest =>
          rw [separated_cons_cons, List.mem_append, List.mem_cons] at member
          rcases member with own | same | later
          · exact .inr ⟨text, List.mem_cons_self, own⟩
          · exact .inl same
          · rcases induction later with same | ⟨other, listed, own⟩
            · exact .inl same
            · exact .inr ⟨other, List.mem_cons_of_mem _ listed, own⟩

/-- A sequence that is not empty does not begin with the closing symbol. -/
theorem separated_append_ne {separator closer : σ} {text : List σ}
    (opens : ∃ head tail, text = head :: tail ∧ head ≠ closer)
    (texts : List (List σ)) (left right : List σ) :
    separated separator (text :: texts) ++ left ≠ closer :: right := by
  intro same
  obtain ⟨head, tail, rfl, differs⟩ := opens
  cases texts with
  | nil => exact differs (List.cons.inj same).1
  | cons next texts => exact differs (List.cons.inj same).1

/-- What stands behind a text of a sequence. -/
def behind (separator closer : σ) (left : List σ) : List (List σ) → List σ
  | [] => closer :: left
  | text :: rest => separator :: (separated separator (text :: rest) ++
      closer :: left)

theorem separated_cons_append (separator closer : σ) (left text : List σ)
    (rest : List (List σ)) :
    separated separator (text :: rest) ++ closer :: left =
      text ++ behind separator closer left rest := by
  cases rest with
  | nil => rfl
  | cons next rest =>
      rw [separated_cons_cons, List.append_assoc, List.cons_append]
      rfl

theorem behind_of_follow {separator closer : σ}
    (followSeparator : ∀ rest, follow (separator :: rest))
    (followCloser : ∀ rest, follow (closer :: rest)) (left : List σ)
    (rest : List (List σ)) : follow (behind separator closer left rest) := by
  cases rest with
  | nil => exact followCloser _
  | cons text rest => exact followSeparator _

/-- A sequence of texts between separators and before a closing symbol. -/
theorem readsAs_separated {separator closer : σ}
    (distinct : separator ≠ closer)
    (followSeparator : ∀ rest, follow (separator :: rest))
    (followCloser : ∀ rest, follow (closer :: rest))
    (opens : ∀ value, domain value →
      ∃ head tail, write value = head :: tail ∧ head ≠ closer)
    {values others : List α} {left right : List σ}
    (within : ∀ value ∈ values, domain value)
    (reads : ∀ value ∈ values, ReadsAs write domain related follow value)
    (othersWithin : ∀ other ∈ others, domain other)
    (same : separated separator (values.map write) ++ closer :: left =
      separated separator (others.map write) ++ closer :: right) :
    List.Forall₂ related values others ∧ left = right := by
  induction values generalizing others with
  | nil =>
      cases others with
      | nil => exact ⟨.nil, (List.cons.inj same).2⟩
      | cons other others =>
          have begins := opens other (othersWithin other List.mem_cons_self)
          exact absurd same.symm (separated_append_ne begins _ _ _)
  | cons value values induction =>
      have read := reads value List.mem_cons_self
      cases others with
      | nil =>
          have begins := opens value (within value List.mem_cons_self)
          exact absurd same (separated_append_ne begins _ _ _)
      | cons other others =>
          have known := othersWithin other List.mem_cons_self
          rw [List.map_cons, List.map_cons, separated_cons_append,
            separated_cons_append] at same
          obtain ⟨pair, rest⟩ := read other _ _ known
            (behind_of_follow followSeparator followCloser _ _)
            (behind_of_follow followSeparator followCloser _ _) same
          have further := induction
            (fun later member => within later (List.mem_cons_of_mem _ member))
            (fun later member => reads later (List.mem_cons_of_mem _ member))
            (fun later member =>
              othersWithin later (List.mem_cons_of_mem _ member))
          -- whether each sequence goes on shows behind its first text
          cases values with
          | nil =>
              cases others with
              | nil => exact ⟨.cons pair .nil, (List.cons.inj rest).2⟩
              | cons next others =>
                  exact absurd (List.cons.inj rest).1.symm distinct
          | cons following values =>
              cases others with
              | nil => exact absurd (List.cons.inj rest).1 distinct
              | cons next others =>
                  obtain ⟨pairs, ended⟩ := further (List.cons.inj rest).2
                  exact ⟨.cons pair pairs, ended⟩

end Encoding

end PipelineOps.Library
