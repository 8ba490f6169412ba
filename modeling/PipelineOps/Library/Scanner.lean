import Mathlib.Data.List.Basic

namespace PipelineOps.Library

universe u v w

/-! Scanners that read a value off the front of a text. -/

abbrev Scanner (σ : Type u) (ε : Type v) (α : Type w) :=
  List σ → Except ε (α × List σ)

namespace Scanner

variable {σ : Type u} {ε : Type v} {α : Type w}

section Sound

variable {allowed : List σ → ε → Prop} {symbols rest : List σ}

/-- What has been read is not empty and what is left is the end of the text; a
failure is one that is allowed there. -/
inductive SoundAt (allowed : List σ → ε → Prop) (symbols : List σ) :
    Except ε (α × List σ) → Prop
  | read {value : α} {rest : List σ} (suffix : rest <:+ symbols)
      (shorter : rest.length < symbols.length) :
      SoundAt allowed symbols (.ok (value, rest))
  | failed {problem : ε} (known : allowed symbols problem) :
      SoundAt allowed symbols (.error problem)

abbrev Sound (allowed : List σ → ε → Prop) (scan : Scanner σ ε α) : Prop :=
  ∀ symbols, SoundAt allowed symbols (scan symbols)

/-- A failure further on is a failure here. -/
def Lasting (allowed : List σ → ε → Prop) : Prop :=
  ∀ rest symbols problem, rest <:+ symbols → allowed rest problem →
    allowed symbols problem

theorem SoundAt.later {result : Except ε (α × List σ)}
    (lasting : Lasting allowed) (suffix : rest <:+ symbols)
    (sound : SoundAt allowed rest result) : SoundAt allowed symbols result := by
  cases sound with
  | read further shorter =>
      exact .read (further.trans suffix)
        (Nat.lt_of_lt_of_le shorter suffix.length_le)
  | failed known => exact .failed (lasting rest symbols _ suffix known)

theorem SoundAt.bind {β : Type w} {result : Except ε (α × List σ)}
    {next : α × List σ → Except ε (β × List σ)}
    (sound : SoundAt allowed symbols result)
    (continues : ∀ value rest, rest <:+ symbols →
      rest.length < symbols.length →
        SoundAt allowed symbols (next (value, rest))) :
    SoundAt allowed symbols (result >>= next) := by
  cases sound with
  | read suffix shorter => exact continues _ _ suffix shorter
  | failed known => exact .failed known

theorem SoundAt.fails {result : Except ε (α × List σ)} {problem : ε}
    (sound : SoundAt allowed symbols result)
    (failed : result = .error problem) : allowed symbols problem := by
  cases sound with
  | read => cases failed
  | failed known =>
      cases failed
      exact known

theorem SoundAt.mono {wider : List σ → ε → Prop}
    {result : Except ε (α × List σ)} (sound : SoundAt allowed symbols result)
    (le : ∀ problem, allowed symbols problem → wider symbols problem) :
    SoundAt wider symbols result := by
  cases sound with
  | read suffix shorter => exact .read suffix shorter
  | failed known => exact .failed (le _ known)

theorem soundAt_tail {symbols : List σ} {symbol : σ} {value : α}
    (head : symbols.head? = some symbol) :
    SoundAt allowed symbols (.ok (value, symbols.tail)) := by
  obtain ⟨rest, rfl⟩ := List.head?_eq_some_iff.mp head
  exact .read (List.suffix_cons symbol rest) (Nat.lt_succ_self _)

end Sound

section Yields

variable {good : α → Prop}

/-- What is read, if anything, is good. -/
def Yields (good : α → Prop) (result : Except ε (α × List σ)) : Prop :=
  ∀ value rest, result = .ok (value, rest) → good value

theorem yields_error (problem : ε) :
    Yields good (.error problem : Except ε (α × List σ)) :=
  fun _ _ returned => nomatch returned

theorem yields_ok {value : α} {rest : List σ} (known : good value) :
    Yields good (.ok (value, rest) : Except ε (α × List σ)) := by
  intro other behind returned
  cases returned
  exact known

theorem Yields.bind {β : Type w} {better : β → Prop}
    {result : Except ε (α × List σ)}
    {next : α × List σ → Except ε (β × List σ)} (yields : Yields good result)
    (continues : ∀ value rest, good value →
      Yields better (next (value, rest))) :
    Yields better (result >>= next) := by
  cases result with
  | error problem => exact yields_error problem
  | ok read => exact continues read.1 read.2 (yields read.1 read.2 rfl)

theorem yields_bind {β : Type w} {better : β → Prop}
    {result : Except ε (α × List σ)}
    {next : α × List σ → Except ε (β × List σ)}
    (continues : ∀ value rest, Yields better (next (value, rest))) :
    Yields better (result >>= next) := by
  cases result with
  | error problem => exact yields_error problem
  | ok read => exact continues read.1 read.2

end Yields

/-- Before what may follow it, the text is read as the value, and nothing else
is. -/
def Reads (scan : Scanner σ ε α) (follow : List σ → Prop) (text : List σ)
    (value : α) : Prop :=
  ∀ rest, follow rest → scan (text ++ rest) = .ok (value, rest)

section Closed

variable [DecidableEq σ]

/-- The values up to a closing symbol. -/
def upTo (exhausted : ε) (closing : σ) (scan : Scanner σ ε α) :
    (fuel : Nat) → Scanner σ ε (List α)
  | 0, _ => .error exhausted
  | fuel + 1, symbols =>
      if symbols.head? = some closing then .ok ([], symbols.tail)
      else do
        let (value, rest) ← scan symbols
        let (values, rest) ← upTo exhausted closing scan fuel rest
        pure (value :: values, rest)

variable {exhausted : ε} {closing : σ} {scan : Scanner σ ε α}
  {allowed : List σ → ε → Prop}

theorem soundAt_upTo (lasting : Lasting allowed) (sound : Sound allowed scan)
    {fuel : Nat} {symbols : List σ} (enough : symbols.length < fuel) :
    SoundAt allowed symbols (upTo exhausted closing scan fuel symbols) := by
  induction fuel generalizing symbols with
  | zero => omega
  | succ fuel induction =>
      rw [upTo]
      split
      · next head => exact soundAt_tail head
      · apply (sound symbols).bind
        intro value rest suffix shorter
        apply ((induction (by omega)).later lasting suffix).bind
        intro values rest suffix shorter
        exact .read suffix shorter

theorem reads_upTo {β : Type w} {write : β → List σ} {convert : β → α}
    {follow : List σ → Prop} {parts : List β}
    (opens : ∀ part ∈ parts, ∀ rest,
      (write part ++ rest).head? ≠ some closing)
    (reads : ∀ part ∈ parts, Reads scan follow (write part) (convert part))
    (followed : ∀ (others : List β) rest,
      follow (others.flatMap write ++ closing :: rest))
    {fuel : Nat} (enough : parts.length < fuel) :
    Reads (upTo exhausted closing scan fuel) (fun _ => True)
      (parts.flatMap write ++ [closing]) (parts.map convert) := by
  intro rest _
  rw [List.append_assoc, List.singleton_append]
  induction parts generalizing fuel with
  | nil =>
      obtain ⟨fuel, rfl⟩ := Nat.exists_eq_add_of_lt enough
      exact if_pos rfl
  | cons part parts induction =>
      rw [List.length_cons] at enough
      obtain ⟨fuel, rfl⟩ : ∃ more, fuel = more + 1 := ⟨fuel - 1, by omega⟩
      rw [List.forall_mem_cons] at opens reads
      rw [upTo, List.flatMap_cons, List.append_assoc,
        if_neg (opens.1 _), reads.1 _ (followed parts rest)]
      have others := induction opens.2 reads.2
        (show parts.length < fuel by omega)
      exact congrArg (· >>= fun found => .ok (convert part :: found.1, found.2))
        others

end Closed

section Separated

/-- The punctuation of a list, and what may stand around it. -/
structure Punctuation (σ : Type u) where
  comma : σ
  closing : σ
  skip : List σ → List σ

theorem intercalate_map_cons {β : Type w} (write : β → List σ)
    (separator : List σ) (part : β) (parts : List β) :
    ∃ behind, List.intercalate separator ((part :: parts).map write) =
      write part ++ behind := by
  cases parts with
  | nil =>
      rw [List.map_singleton, List.intercalate_singleton]
      exact ⟨[], (List.append_nil _).symm⟩
  | cons next parts =>
      rw [List.map_cons, List.map_cons, List.intercalate_cons_cons,
        List.append_assoc]
      exact ⟨_, rfl⟩

variable [DecidableEq σ]

/-- The values of a list that is not empty, up to its closing symbol. -/
def list (punctuation : Punctuation σ) (exhausted : ε)
    (unexpected : List σ → ε) (scan : Scanner σ ε α) :
    (fuel : Nat) → Scanner σ ε (List α)
  | 0, _ => .error exhausted
  | fuel + 1, symbols => do
      let (value, rest) ← scan symbols
      let rest := punctuation.skip rest
      if rest.head? = some punctuation.closing then pure ([value], rest.tail)
      else if rest.head? = some punctuation.comma then do
        let (values, rest) ← list punctuation exhausted unexpected scan fuel
          (punctuation.skip rest.tail)
        pure (value :: values, rest)
      else .error (unexpected rest)

variable {punctuation : Punctuation σ} {exhausted : ε}
  {unexpected : List σ → ε} {scan : Scanner σ ε α}

theorem soundAt_list {allowed : List σ → ε → Prop}
    (lasting : Lasting allowed) (sound : Sound allowed scan)
    (skips : ∀ symbols, punctuation.skip symbols <:+ symbols)
    (refused : ∀ symbols, allowed symbols (unexpected symbols))
    {fuel : Nat} {symbols : List σ} (enough : symbols.length < fuel) :
    SoundAt allowed symbols
      (list punctuation exhausted unexpected scan fuel symbols) := by
  induction fuel generalizing symbols with
  | zero => omega
  | succ fuel induction =>
      rw [list]
      apply (sound symbols).bind
      intro value rest suffix shorter
      have within := (skips rest).trans suffix
      have length := (skips rest).length_le
      have tail := List.tail_suffix (punctuation.skip rest)
      dsimp only
      split
      · exact .read (tail.trans within) (by have := tail.length_le; omega)
      split
      · have behind := (skips (punctuation.skip rest).tail).trans
          (tail.trans within)
        have further := (skips (punctuation.skip rest).tail).length_le
        have fewer := tail.length_le
        apply ((induction (by omega)).later lasting behind).bind
        intro values rest suffix shorter
        exact .read suffix shorter
      · exact .failed (lasting _ _ _ within (refused _))

theorem yields_list {good : α → Prop}
    (yields : ∀ symbols, Yields good (scan symbols)) (fuel : Nat)
    (symbols : List σ) :
    Yields (∀ value ∈ ·, good value)
      (list punctuation exhausted unexpected scan fuel symbols) := by
  induction fuel generalizing symbols with
  | zero => exact yields_error exhausted
  | succ fuel induction =>
      rw [list]
      refine Yields.bind (yields symbols) ?_
      intro value rest known
      dsimp only
      split
      · exact yields_ok (List.forall_mem_singleton.mpr known)
      split
      · refine Yields.bind (induction _) ?_
        intro values rest others
        exact yields_ok (List.forall_mem_cons.mpr ⟨known, others⟩)
      · exact yields_error _

/-- A list is read back from its texts with the comma and blanks in between. -/
theorem reads_list {β : Type w} {write : β → List σ} {convert : β → α}
    {blanks : List σ} {follow : List σ → Prop}
    (apart : punctuation.comma ≠ punctuation.closing)
    (comma : ∀ rest, follow (punctuation.comma :: rest) ∧
      punctuation.skip (punctuation.comma :: rest) = punctuation.comma :: rest)
    (closing : ∀ rest, follow (punctuation.closing :: rest) ∧
      punctuation.skip (punctuation.closing :: rest) =
        punctuation.closing :: rest)
    {parts : List β} (filled : parts ≠ [])
    (skips : ∀ part ∈ parts, ∀ rest,
      punctuation.skip (blanks ++ (write part ++ rest)) = write part ++ rest)
    (reads : ∀ part ∈ parts, Reads scan follow (write part) (convert part))
    {fuel : Nat} (enough : parts.length ≤ fuel) :
    Reads (list punctuation exhausted unexpected scan fuel) (fun _ => True)
      (List.intercalate (punctuation.comma :: blanks) (parts.map write) ++
        [punctuation.closing]) (parts.map convert) := by
  intro rest _
  rw [List.append_assoc, List.singleton_append]
  induction parts generalizing fuel with
  | nil => exact absurd rfl filled
  | cons part parts induction =>
      rw [List.length_cons] at enough
      obtain ⟨fuel, rfl⟩ : ∃ more, fuel = more + 1 := ⟨fuel - 1, by omega⟩
      rw [List.forall_mem_cons] at skips reads
      cases parts with
      | nil =>
          rw [list, List.map_singleton, List.intercalate_singleton,
            reads.1 _ (closing rest).1]
          simp only [bind, Except.bind, (closing rest).2, List.head?_cons,
            if_true]
          rfl
      | cons next parts =>
          have others := induction (List.cons_ne_nil next parts) skips.2
            reads.2 (show (next :: parts).length ≤ fuel by omega)
          rw [List.map_cons, List.map_cons, List.intercalate_cons_cons,
            ← List.map_cons, List.append_assoc, List.append_assoc,
            List.cons_append, list, reads.1 _ (comma _).1]
          obtain ⟨behind, text⟩ := intercalate_map_cons write
            (punctuation.comma :: blanks) next parts
          rw [text, List.append_assoc] at others ⊢
          simp only [bind, Except.bind, (comma _).2, List.head?_cons,
            Option.some.injEq, if_neg apart, if_true, List.tail_cons,
            skips.2 next List.mem_cons_self]
          rw [others]
          rfl

end Separated

end Scanner

end PipelineOps.Library
