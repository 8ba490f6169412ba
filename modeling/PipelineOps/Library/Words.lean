import Mathlib.Data.List.Basic

namespace PipelineOps.Library

/-! The words of a text, and texts in which each gap between words is one
separator. -/

namespace Words

variable {α : Type}

/-- Every run of symbols outside of words as one separator; the flag is set
inside a run. -/
def collapse (inWord : α → Bool) (separator : α) : Bool → List α → List α
  | _, [] => []
  | inRun, symbol :: rest =>
      if inWord symbol then symbol :: collapse inWord separator false rest
      else if inRun then collapse inWord separator true rest
      else separator :: collapse inWord separator true rest

def attach (symbol : α) : List (List α) → List (List α)
  | [] => [[symbol]]
  | word :: others => (symbol :: word) :: others

/-- A word begins at the front. -/
def opens (inWord : α → Bool) (symbols : List α) : Bool :=
  symbols.head?.any inWord

def words (inWord : α → Bool) : List α → List (List α)
  | [] => []
  | symbol :: rest =>
      if inWord symbol then
        if opens inWord rest then attach symbol (words inWord rest)
        else [symbol] :: words inWord rest
      else words inWord rest

def IsWord (inWord : α → Bool) (word : List α) : Prop :=
  word ≠ [] ∧ ∀ symbol ∈ word, inWord symbol = true

variable {inWord : α → Bool} {separator : α}

theorem exists_word_of_opens {symbols : List α}
    (open_ : opens inWord symbols = true) :
    ∃ word others, words inWord symbols = word :: others := by
  cases symbols with
  | nil => cases open_
  | cons symbol rest =>
      have inside : inWord symbol = true := open_
      rw [words, if_pos inside]
      split
      · cases words inWord rest with
        | nil => exact ⟨_, _, rfl⟩
        | cons word others => exact ⟨_, _, rfl⟩
      · exact ⟨_, _, rfl⟩

theorem isWord_of_mem_words {symbols word : List α}
    (member : word ∈ words inWord symbols) : IsWord inWord word := by
  induction symbols generalizing word with
  | nil => cases member
  | cons symbol rest induction =>
      rw [words] at member
      split at member
      · rename_i inside
        split at member
        · rename_i open_
          obtain ⟨first, others, split⟩ := exists_word_of_opens open_
          rw [split, attach] at member
          rcases List.mem_cons.mp member with rfl | later
          · have known := induction (split ▸ List.mem_cons_self)
            exact ⟨List.cons_ne_nil _ _,
              List.forall_mem_cons.mpr ⟨inside, known.2⟩⟩
          · exact induction (split ▸ List.mem_cons_of_mem _ later)
        · rcases List.mem_cons.mp member with rfl | later
          · exact ⟨List.cons_ne_nil _ _, List.forall_mem_singleton.mpr inside⟩
          · exact induction later
      · exact induction member

/-- The separator of a gap behind the last word. -/
def trail (inWord : α → Bool) (separator : α) (symbols : List α) : List α :=
  if words inWord symbols = [] ∨ symbols.getLast?.all inWord = true then []
  else [separator]

def body (inWord : α → Bool) (separator : α) (symbols : List α) : List α :=
  List.intercalate [separator] (words inWord symbols) ++
    trail inWord separator symbols

def lead (inWord : α → Bool) (separator : α) (symbols : List α) : List α :=
  if symbols = [] ∨ opens inWord symbols = true then [] else [separator]

theorem eq_of_mem_lead {symbol : α} {symbols : List α}
    (member : symbol ∈ lead inWord separator symbols) :
    symbol = separator := by
  rw [lead] at member
  split at member
  · cases member
  · exact List.mem_singleton.mp member

theorem eq_of_mem_trail {symbol : α} {symbols : List α}
    (member : symbol ∈ trail inWord separator symbols) :
    symbol = separator := by
  rw [trail] at member
  split at member
  · cases member
  · exact List.mem_singleton.mp member

theorem words_of_inside {symbol : α} {rest : List α}
    (inside : inWord symbol = true) :
    words inWord (symbol :: rest) =
      if opens inWord rest then attach symbol (words inWord rest)
      else [symbol] :: words inWord rest := by
  rw [words, if_pos inside]

theorem words_of_outside {symbol : α} {rest : List α}
    (outside : inWord symbol = false) :
    words inWord (symbol :: rest) = words inWord rest := by
  rw [words, if_neg (Bool.eq_false_iff.mp outside)]

theorem outside_of_words_eq_nil {symbols : List α}
    (none_ : words inWord symbols = []) :
    ∀ symbol ∈ symbols, inWord symbol = false := by
  induction symbols with
  | nil => intro symbol member; cases member
  | cons first rest induction =>
      cases inside : inWord first with
      | true =>
          rw [words_of_inside inside] at none_
          split at none_
          · rename_i open_
            obtain ⟨word, others, split⟩ := exists_word_of_opens open_
            rw [split] at none_
            cases none_
          · cases none_
      | false =>
          rw [words_of_outside inside] at none_
          exact List.forall_mem_cons.mpr ⟨inside, induction none_⟩

/-- What stands before the last symbols does not change the end. -/
theorem trail_cons {symbol : α} {rest : List α} (some_ : rest ≠ [])
    (same : words inWord (symbol :: rest) = [] ↔ words inWord rest = []) :
    trail inWord separator (symbol :: rest) =
      trail inWord separator rest := by
  simp only [trail, same, List.getLast?_cons_of_ne_nil some_]

theorem body_of_outside {symbol : α} {rest : List α}
    (outside : inWord symbol = false) :
    body inWord separator (symbol :: rest) = body inWord separator rest := by
  have same : words inWord (symbol :: rest) = words inWord rest :=
    words_of_outside outside
  rw [body, body, same]
  cases rest with
  | nil => simp [trail, words, outside]
  | cons next others =>
      rw [trail_cons (List.cons_ne_nil _ _) (by rw [same])]

theorem body_of_inside {symbol : α} {rest : List α}
    (inside : inWord symbol = true) :
    body inWord separator (symbol :: rest) =
      symbol :: (lead inWord separator rest ++ body inWord separator rest) := by
  by_cases open_ : opens inWord rest = true
  · have some_ : rest ≠ [] := by
      intro empty
      rw [empty] at open_
      cases open_
    have begun : lead inWord separator rest = [] := by
      rw [lead, if_pos (.inr open_)]
    obtain ⟨word, others, split⟩ := exists_word_of_opens open_
    have longer : words inWord (symbol :: rest) =
        (symbol :: word) :: others := by
      rw [words_of_inside inside, if_pos open_, split, attach]
    rw [begun, List.nil_append, body, body, longer, split,
      trail_cons some_ (by rw [longer, split]; simp)]
    cases others with
    | nil => simp
    | cons second others => simp [List.intercalate_cons_cons]
  · have longer : words inWord (symbol :: rest) =
        [symbol] :: words inWord rest := by
      rw [words_of_inside inside, if_neg open_]
    cases rest with
    | nil => simp [body, trail, lead, words, opens, inside]
    | cons next others =>
        have gap : lead inWord separator (next :: others) = [separator] := by
          rw [lead, if_neg]
          simp [open_]
        cases split : words inWord (next :: others) with
        | nil =>
            -- nothing but a gap follows, and its separator is the end
            have outside := outside_of_words_eq_nil split
            have ends : inWord ((next :: others).getLast
                (List.cons_ne_nil _ _)) = false :=
              outside _ (List.getLast_mem _)
            rw [gap, body, body, longer, split, trail, trail, longer, split]
            rw [List.getLast?_cons_of_ne_nil (List.cons_ne_nil _ _),
              List.getLast?_eq_getLast_of_ne_nil (List.cons_ne_nil _ _)]
            simp [ends]
        | cons word later =>
            rw [gap, body, body, longer, split,
              trail_cons (List.cons_ne_nil _ _) (by rw [longer, split]; simp)]
            simp [List.intercalate_cons_cons]

theorem collapse_eq (symbols : List α) :
    collapse inWord separator true symbols =
        body inWord separator symbols ∧
      collapse inWord separator false symbols =
        lead inWord separator symbols ++ body inWord separator symbols := by
  induction symbols with
  | nil => exact ⟨rfl, rfl⟩
  | cons symbol rest induction =>
      obtain ⟨inRun, outside⟩ := induction
      cases inside : inWord symbol with
      | true =>
          have begun : lead inWord separator (symbol :: rest) = [] := by
            rw [lead, if_pos (.inr inside)]
          simp only [collapse, inside, if_true, outside, begun,
            body_of_inside inside, List.nil_append, and_self]
      | false =>
          have begun : lead inWord separator (symbol :: rest) =
              [separator] := by
            rw [lead, if_neg]
            simp [opens, inside]
          simp [collapse, inside, inRun, begun, body_of_outside inside]

/-- Symbols outside of words in front change no word. -/
theorem words_append_left {gap : List α}
    (outside : ∀ symbol ∈ gap, inWord symbol = false) (symbols : List α) :
    words inWord (gap ++ symbols) = words inWord symbols := by
  induction gap with
  | nil => rfl
  | cons first rest induction =>
      obtain ⟨here, later⟩ := List.forall_mem_cons.mp outside
      rw [List.cons_append, words_of_outside here, induction later]

theorem words_append_right {gap : List α}
    (outside : ∀ symbol ∈ gap, inWord symbol = false) (symbols : List α) :
    words inWord (symbols ++ gap) = words inWord symbols := by
  induction symbols with
  | nil => simpa using words_append_left outside []
  | cons first rest induction =>
      have same : opens inWord (rest ++ gap) = opens inWord rest := by
        cases rest with
        | nil =>
            cases gap with
            | nil => rfl
            | cons next others => exact outside next List.mem_cons_self
        | cons next others => rfl
      rw [List.cons_append, words, words, same, induction]

theorem map_intercalate {β : Type} (f : α → β) (texts : List (List α)) :
    (List.intercalate [separator] texts).map f =
      List.intercalate [f separator] (texts.map (·.map f)) := by
  induction texts with
  | nil => rfl
  | cons word others induction =>
      cases others with
      | nil => simp
      | cons second third =>
          rw [List.intercalate_cons_cons, List.map_append, List.map_append,
            induction]
          simp [List.intercalate_cons_cons]

theorem head?_intercalate {word : List α} {others : List (List α)}
    (isWord : IsWord inWord word) :
    (List.intercalate [separator] (word :: others)).head?.any inWord =
      true := by
  obtain ⟨some_, inside⟩ := isWord
  obtain ⟨first, rest, rfl⟩ := List.exists_cons_of_ne_nil some_
  have here : inWord first = true := inside first List.mem_cons_self
  cases others with
  | nil => simp [here]
  | cons second later => simp [List.intercalate_cons_cons, here]

theorem getLast?_intercalate {texts : List (List α)} (some_ : texts ≠ [])
    (areWords : ∀ word ∈ texts, IsWord inWord word) :
    (List.intercalate [separator] texts).getLast?.any inWord = true := by
  induction texts with
  | nil => exact absurd rfl some_
  | cons word others induction =>
      obtain ⟨isWord, later⟩ := List.forall_mem_cons.mp areWords
      cases others with
      | nil =>
          rw [List.intercalate_singleton,
            List.getLast?_eq_some_getLast isWord.1]
          exact isWord.2 _ (List.getLast_mem _)
      | cons second third =>
          have ends := induction (List.cons_ne_nil _ _) later
          have filled :
              List.intercalate [separator] (second :: third) ≠ [] := by
            intro empty
            rw [empty] at ends
            cases ends
          rwa [List.intercalate_cons_cons,
            List.getLast?_append_of_ne_nil _ filled]

/-- Texts of words around separators are told apart by their words. -/
theorem intercalate_inj [BEq α] [LawfulBEq α] {left right : List (List α)}
    (leftWords : ∀ word ∈ left, IsWord inWord word)
    (rightWords : ∀ word ∈ right, IsWord inWord word)
    (outside : inWord separator = false) :
    List.intercalate [separator] left = List.intercalate [separator] right ↔
      left = right := by
  have avoids : ∀ {texts : List (List α)},
      (∀ word ∈ texts, IsWord inWord word) →
        ∀ word ∈ texts, separator ∉ word := by
    intro texts areWords word member holds
    have inside := (areWords word member).2 separator holds
    rw [outside] at inside
    cases inside
  have filled : ∀ {texts : List (List α)}, texts ≠ [] →
      (∀ word ∈ texts, IsWord inWord word) →
        List.intercalate [separator] texts ≠ [] := by
    intro texts some_ areWords empty
    have ends : (List.intercalate [separator] texts).getLast?.any inWord =
        true := getLast?_intercalate some_ areWords
    rw [empty] at ends
    cases ends
  refine ⟨fun same => ?_, congrArg _⟩
  by_cases emptyLeft : left = []
  · subst emptyLeft
    by_contra apart
    exact filled (Ne.symm apart) rightWords same.symm
  · by_cases emptyRight : right = []
    · subst emptyRight
      exact absurd same (filled emptyLeft leftWords)
    · have back := congrArg (List.splitOn separator) same
      rwa [List.splitOn_intercalate _ (avoids leftWords) emptyLeft,
        List.splitOn_intercalate _ (avoids rightWords) emptyRight] at back

end Words

end PipelineOps.Library
