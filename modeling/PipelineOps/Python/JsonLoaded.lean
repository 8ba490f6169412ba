import PipelineOps.Python.JsonRoundTrip

namespace PipelineOps.Python

open PipelineOps.Library
open PipelineOps.Library.Scanner

/-! What `json.loads` returns is a value that `json.dumps` writes. -/

/-- What is known of `repr(float(text))` for the text of a number: it is written
as a float is, and stays the same when it is read again. -/
def FloatLaw (floatRepr : String → String) : Prop :=
  ∀ integer fraction exponent, IsInteger integer → IsFraction fraction →
    IsExponent exponent → ¬ (fraction = [] ∧ exponent = []) →
      let repr := floatRepr (String.ofList (integer ++ fraction ++ exponent))
      repr ∈ ["nan", "inf", "-inf"] ∨ IsFloatRepr floatRepr repr

theorem floatLaw_id : FloatLaw id :=
  fun integer fraction exponent isInteger isFraction isExponent apart =>
    .inr ⟨rfl, integer, fraction, exponent, isInteger, isFraction, isExponent,
      apart, String.toList_ofList⟩

section Numbers

theorem matchNatural_isNatural {characters digits rest : List Char}
    (matched : matchNatural characters = some (digits, rest)) :
    IsNatural digits := by
  refine ⟨(matchNatural_spec matched).2.2, ?_⟩
  unfold matchNatural at matched
  split at matched
  · cases matched
  · cases matched
    exact .inl rfl
  · next character behind notZero =>
      split at matched
      · cases matched
        exact .inr ⟨character, _, rfl, notZero⟩
      · cases matched

theorem matchInteger_isInteger {characters integer rest : List Char}
    (matched : matchInteger characters = some (integer, rest)) :
    IsInteger integer := by
  unfold matchInteger at matched
  split at matched
  · obtain ⟨⟨digits, after⟩, natural, same⟩ :=
      Option.map_eq_some_iff.mp matched
    cases same
    exact ⟨digits, matchNatural_isNatural natural, .inr rfl⟩
  · exact ⟨integer, matchNatural_isNatural matched, .inl rfl⟩

theorem matchFraction_isFraction (characters : List Char) :
    IsFraction (matchFraction characters).1 := by
  unfold matchFraction
  split
  · next rest =>
      dsimp only
      split
      · exact .inl rfl
      · next filled =>
          exact .inr ⟨_, filled, (spanDigits_spec rest).2, rfl⟩
  · exact .inl rfl

theorem matchSign_isSign (characters : List Char) :
    (matchSign characters).1 ∈ [[], ['-'], ['+']] := by
  unfold matchSign
  split <;> simp

theorem matchExponent_isExponent (characters : List Char) :
    IsExponent (matchExponent characters).1 := by
  unfold matchExponent
  split
  · exact .inl rfl
  · next letter rest =>
      split
      · next isLetter =>
          dsimp only
          split
          · exact .inl rfl
          · next filled =>
              exact .inr ⟨letter, _, _, isLetter, matchSign_isSign rest,
                filled, (spanDigits_spec _).2, rfl⟩
      · exact .inl rfl

theorem decimalNumber_lt {digits : List Char} (inside : AllDigits digits) :
    decimalNumber digits < 10 ^ digits.length := by
  have value := decimalNumber_lastDigits digits.length (decimalNumber digits)
  rw [lastDigits_decimalNumber inside] at value
  rw [value]
  exact Nat.mod_lt _ (Nat.pow_pos (by decide))

theorem printable_of_readInteger {integer : List Char} {value : Int}
    (inside : AllDigits (splitSign integer).2)
    (read : readInteger integer = .ok value) : Printable value := by
  have bound := decimalNumber_lt inside
  unfold readInteger at read
  dsimp only at read
  split at read
  · cases read
  · next short =>
      have wide : 10 ^ (splitSign integer).2.length ≤
          10 ^ Value.intMaxStrDigits :=
        Nat.pow_le_pow_right (by decide) (Nat.le_of_not_lt short)
      cases read
      rw [Printable]
      split
      · rw [Int.natAbs_neg, Int.natAbs_natCast]
        exact Nat.lt_of_lt_of_le bound wide
      · rw [Int.natAbs_natCast]
        exact Nat.lt_of_lt_of_le bound wide

end Numbers

section Dicts

theorem mem_setItem {key : String} {value : Value}
    {entries : List (String × Value)} {entry : String × Value}
    (member : entry ∈ setItem key value entries) :
    entry = (key, value) ∨ entry ∈ entries := by
  induction entries with
  | nil => exact .inl (List.mem_singleton.mp member)
  | cons first rest induction =>
      obtain ⟨other, stored⟩ := first
      rw [setItem] at member
      split at member
      · rcases List.mem_cons.mp member with same | later
        · exact .inl same
        · exact .inr (List.mem_cons_of_mem _ later)
      · rcases List.mem_cons.mp member with same | later
        · exact .inr (List.mem_cons.mpr (.inl same))
        · exact (induction later).imp_right (List.mem_cons_of_mem _)

theorem nodup_setItem {key : String} {value : Value}
    {entries : List (String × Value)}
    (distinct : (entries.map Prod.fst).Nodup) :
    ((setItem key value entries).map Prod.fst).Nodup := by
  induction entries with
  | nil => exact List.nodup_singleton key
  | cons first rest induction =>
      obtain ⟨other, stored⟩ := first
      rw [List.map_cons, List.nodup_cons] at distinct
      rw [setItem]
      split
      · next same =>
          rw [List.map_cons, List.nodup_cons, ← same]
          exact distinct
      · next apart =>
          rw [List.map_cons, List.nodup_cons]
          refine ⟨?_, induction distinct.2⟩
          intro member
          obtain ⟨entry, listed, named⟩ := List.mem_map.mp member
          rcases mem_setItem listed with rfl | earlier
          · exact apart named.symm
          · exact distinct.1 (named ▸ List.mem_map_of_mem earlier)

theorem dictOf_spec (items : List (String × Value)) :
    ((dictOf items).map Prod.fst).Nodup ∧
      ∀ entry ∈ dictOf items, entry ∈ items := by
  rw [dictOf]
  induction items using List.reverseRecOn with
  | nil => simp
  | append_singleton items item induction =>
      rw [List.foldl_append]
      refine ⟨nodup_setItem induction.1, ?_⟩
      intro entry member
      rw [List.mem_append, List.mem_singleton]
      rcases mem_setItem member with same | earlier
      · exact .inr same
      · exact .inl (induction.2 entry earlier)

end Dicts

section Values

/-- A value that is read, unless some text has a lone surrogate. -/
def IfAny {α : Type} (good : α → Prop) (read : Option α) : Prop :=
  ∀ value, read = some value → good value

theorem ifAny_none {α : Type} {good : α → Prop} : IfAny good none :=
  fun _ same => nomatch same

theorem ifAny_some {α : Type} {good : α → Prop} {value : α}
    (known : good value) : IfAny good (some value) := by
  rintro other ⟨⟩
  exact known

theorem ifAny_map {α β : Type} {good : α → Prop} {better : β → Prop}
    {convert : α → β} {read : Option α} (known : IfAny good read)
    (better_of : ∀ value, good value → better (convert value)) :
    IfAny better (read.map convert) := by
  cases read with
  | none => exact ifAny_none
  | some value => exact ifAny_some (better_of value (known value rfl))

theorem ifAny_mapM {α : Type} {good : α → Prop} {reads : List (Option α)}
    (each : ∀ read ∈ reads, IfAny good read) :
    IfAny (∀ value ∈ ·, good value) (reads.mapM id) := by
  induction reads with
  | nil => exact ifAny_some (List.forall_mem_nil good)
  | cons read reads induction =>
      rw [List.forall_mem_cons] at each
      rw [List.mapM_cons]
      cases read with
      | none => exact ifAny_none
      | some value =>
          have others := induction each.2
          cases known : reads.mapM id with
          | none => exact ifAny_none
          | some values =>
              exact ifAny_some (List.forall_mem_cons.mpr
                ⟨each.1 value rfl, others values known⟩)

variable {floatRepr : String → String} {depth : Nat}

theorem yields_scanNumber (law : FloatLaw floatRepr)
    (characters : List Char) :
    Yields (IfAny (Loadable floatRepr depth))
      (scanNumber floatRepr characters) := by
  unfold scanNumber
  split
  · exact yields_error _
  · next integer behind matched =>
      dsimp only
      split
      · split
        · next value read =>
            have inside := (matchInteger_spec matched).2.2.2
            exact yields_ok (ifAny_some
              (.int (printable_of_readInteger inside read)))
        · exact yields_error _
      · next apart =>
          exact yields_ok (ifAny_some (.float (law _ _ _
            (matchInteger_isInteger matched) (matchFraction_isFraction _)
            (matchExponent_isExponent _) apart)))

theorem yields_scanParts {α : Type} {good : α → Prop}
    {scanPart : JsonScanner α}
    (yields : ∀ characters, Yields (IfAny good) (scanPart characters))
    (closing : Char) (characters : List Char) :
    Yields (IfAny (∀ value ∈ ·, good value))
      (scanParts closing scanPart characters) := by
  rw [scanParts]
  dsimp only
  split
  · exact yields_ok (ifAny_some (List.forall_mem_nil good))
  · refine Yields.bind (yields_list yields _ _) ?_
    intro parts rest each
    exact yields_ok (ifAny_mapM each)

theorem yields_scanMember {good : Value → Prop} {scan : JsonScanner Value}
    (yields : ∀ characters, Yields (IfAny good) (scan characters))
    (characters : List Char) :
    Yields (IfAny fun member => good member.2)
      (scanMember scan characters) := by
  unfold scanMember
  split
  · refine yields_bind ?_
    intro key rest
    dsimp only
    split
    · refine Yields.bind (yields _) ?_
      intro value rest known
      apply yields_ok
      cases key with
      | none => exact ifAny_none
      | some key =>
          cases value with
          | none => exact ifAny_none
          | some value => exact ifAny_some (known value rfl)
    · exact yields_error _
  · exact yields_error _

theorem yields_scanValue (law : FloatLaw floatRepr)
    {arrays objects : JsonScanner Value}
    (arraysYield : ∀ characters,
      Yields (IfAny (Loadable floatRepr depth)) (arrays characters))
    (objectsYield : ∀ characters,
      Yields (IfAny (Loadable floatRepr depth)) (objects characters))
    (characters : List Char) :
    Yields (IfAny (Loadable floatRepr depth))
      (scanValue floatRepr arrays objects characters) := by
  unfold scanValue
  split
  · refine yields_bind ?_
    intro text rest
    have texts : IfAny (fun _ => True) text := fun _ _ => trivial
    exact yields_ok (ifAny_map texts fun text _ => .str text)
  · exact objectsYield _
  · exact arraysYield _
  · split
    · next value rest matched =>
        obtain ⟨entry, known, found⟩ := List.exists_of_findSome?_eq_some matched
        obtain ⟨behind, -, same⟩ := Option.map_eq_some_iff.mp found
        have loadable : ∀ entry ∈ jsonConstants,
            Loadable floatRepr depth entry.2 := by
          simp only [jsonConstants, List.forall_mem_cons, List.not_mem_nil,
            false_implies, implies_true, and_true]
          exact ⟨.null, .bool true, .bool false, .float (.inl (by simp)),
            .float (.inl (by simp)), .float (.inl (by simp))⟩
        obtain ⟨rfl, -⟩ := Prod.mk.inj same
        exact yields_ok (ifAny_some (loadable entry known))
    · exact yields_scanNumber law _

theorem yields_scanOnce (law : FloatLaw floatRepr) (characters : List Char) :
    Yields (IfAny (Loadable floatRepr depth))
      (scanOnce floatRepr depth characters) := by
  induction depth generalizing characters with
  | zero =>
      exact yields_scanValue law (fun _ => yields_error _)
        (fun _ => yields_error _) characters
  | succ depth induction =>
      apply yields_scanValue law
      · intro characters
        refine Yields.bind (yields_scanParts induction ']' characters) ?_
        intro items rest each
        exact yields_ok (ifAny_map each fun items => .list)
      · intro characters
        refine Yields.bind (yields_scanParts (yields_scanMember induction)
          '\x7d' characters) ?_
        intro members rest each
        refine yields_ok (ifAny_map each fun members known => ?_)
        obtain ⟨distinct, within⟩ := dictOf_spec members
        exact .dict distinct fun entry member =>
          known entry (within entry member)

/-- What is loaded can be written and loaded again. -/
theorem loadable_of_loaded {text : String} {value : Value}
    (law : FloatLaw floatRepr)
    (loaded : jsonLoads floatRepr depth text = .ok (some value)) :
    Loadable floatRepr depth value := by
  rw [jsonLoads] at loaded
  split at loaded
  · cases loaded
  · cases decoded : decodeJson floatRepr depth text.toList with
    | error stop =>
        rw [decoded] at loaded
        cases stop <;> cases loaded
    | ok read =>
        rw [decoded] at loaded
        cases loaded
        rw [decodeJson] at decoded
        cases scanned : scanOnce floatRepr depth (skipSpace text.toList) with
        | error stop =>
            rw [scanned] at decoded
            cases decoded
        | ok found =>
            obtain ⟨read, rest⟩ := found
            rw [scanned] at decoded
            simp only [bind, Except.bind] at decoded
            split at decoded
            · cases decoded
              exact yields_scanOnce law _ _ _ scanned value rfl
            · cases decoded

end Values

end PipelineOps.Python
