import PipelineOps.Python.JsonLoads

namespace PipelineOps.Python

open PipelineOps.Library
open PipelineOps.Library.Scanner

/-! What can go wrong when a document is loaded. -/

section Texts

/-- A string fails by an error that shows a place behind its quote, or the
quote. -/
def TextFault (start : Nat) (characters : List Char) : ScanStop → Prop
  | .decodeError _ left => left ≤ max start (characters.length + 1)
  | .raised _ => False
  | .outOfFuel => False

variable {start : Nat}

theorem lasting_textFault : Lasting (TextFault start) := by
  intro rest characters stop suffix known
  have shorter := suffix.length_le
  cases stop with
  | decodeError problem left =>
      simp only [TextFault] at known ⊢
      omega
  | raised exc => exact known
  | outOfFuel => exact known

theorem scanUnit_some {characters rest : List Char} {unit : Nat}
    (scanned : scanUnit characters = some (unit, rest)) :
    rest <:+ characters ∧ rest.length < characters.length := by
  unfold scanUnit at scanned
  split at scanned
  · simp only [bind, Option.bind_eq_some_iff, pure, Option.some.injEq,
      Prod.mk.injEq] at scanned
    obtain ⟨first, -, second, -, third, -, fourth, -, -, rfl⟩ := scanned
    rename_i one two three four next rest
    exact ⟨⟨[one, two, three, four], rfl⟩, by simp⟩
  · cases scanned

theorem soundAt_invalidUnicode {characters rest : List Char}
    (suffix : rest <:+ characters) :
    SoundAt (TextFault start) characters
      (.error (invalidUnicode rest) : Except _ (Option Char × List Char)) := by
  have shorter := suffix.length_le
  apply SoundAt.failed
  simp only [TextFault, invalidUnicode]
  omega

theorem sound_scanUnicode : Sound (TextFault start) scanUnicode := by
  intro characters
  unfold scanUnicode
  split
  · exact soundAt_invalidUnicode List.suffix_rfl
  · next unit rest scanned =>
      obtain ⟨suffix, shorter⟩ := scanUnit_some scanned
      split
      · split
        · next behind =>
            have inner : behind <:+ characters :=
              (List.suffix_append ['\\', 'u'] behind).trans suffix
            split
            · exact .read suffix shorter
            · split
              · exact soundAt_invalidUnicode inner
              · next second after again =>
                  obtain ⟨further, fewer⟩ := scanUnit_some again
                  split
                  · exact .read (further.trans inner)
                      (Nat.lt_of_lt_of_le fewer inner.length_le)
                  · exact .read suffix shorter
        · exact .read suffix shorter
      · split
        · exact .read suffix shorter
        · exact .read suffix shorter

theorem sound_scanChar : Sound (TextFault start) (scanChar start) := by
  intro characters
  unfold scanChar
  split
  · exact .failed (Nat.le_max_left _ _)
  · exact .failed (Nat.le_max_left _ _)
  · next letter rest =>
      have suffix : rest <:+ '\\' :: letter :: rest := ⟨['\\', letter], rfl⟩
      split
      · exact (sound_scanUnicode rest).later lasting_textFault suffix
      · split
        · exact .read suffix (by simp only [List.length_cons]; omega)
        · apply SoundAt.failed
          simp only [TextFault, List.length_cons]
          omega
  · next character rest _ _ =>
      split
      · apply SoundAt.failed
        simp only [TextFault, List.length_cons]
        omega
      · exact .read (List.suffix_cons character rest) (Nat.lt_succ_self _)

theorem soundAt_scanString (characters : List Char) :
    SoundAt (TextFault (characters.length + 1)) characters
      (scanString characters) := by
  rw [scanString]
  apply (soundAt_upTo lasting_textFault sound_scanChar
    (Nat.lt_succ_self _)).bind
  intro scanned rest suffix shorter
  exact .read suffix shorter

end Texts

section Numbers

def AllDigits (digits : List Char) : Prop :=
  ∀ digit ∈ digits, isAsciiDigit digit = true

/-- More digits in a row than `int` reads. -/
def HasLongInteger (characters : List Char) : Prop :=
  ∃ digits, digits <:+: characters ∧ AllDigits digits ∧
    Value.intMaxStrDigits < digits.length

theorem spanDigits_spec (characters : List Char) :
    (spanDigits characters).1 ++ (spanDigits characters).2 = characters ∧
      AllDigits (spanDigits characters).1 :=
  ⟨List.takeWhile_append_dropWhile, fun _ member =>
    List.mem_takeWhile_imp member⟩

theorem matchNatural_spec {characters digits rest : List Char}
    (matched : matchNatural characters = some (digits, rest)) :
    digits ++ rest = characters ∧ digits ≠ [] ∧ AllDigits digits := by
  unfold matchNatural at matched
  split at matched
  · cases matched
  · cases matched
    exact ⟨rfl, List.cons_ne_nil _ _, by simp [AllDigits, isAsciiDigit]⟩
  · next character behind _ =>
      split at matched
      · next isDigit =>
          cases matched
          obtain ⟨together, inside⟩ := spanDigits_spec behind
          refine ⟨by rw [List.cons_append, together], List.cons_ne_nil _ _, ?_⟩
          exact List.forall_mem_cons.mpr ⟨isDigit, inside⟩
      · cases matched

theorem splitSign_of_allDigits {digits : List Char}
    (inside : AllDigits digits) : splitSign digits = (false, digits) := by
  unfold splitSign
  split
  · exact absurd (inside '-' List.mem_cons_self) (by decide)
  · rfl

theorem matchInteger_spec {characters integer rest : List Char}
    (matched : matchInteger characters = some (integer, rest)) :
    integer ++ rest = characters ∧ integer ≠ [] ∧
      (splitSign integer).2 <:+: characters ∧
      AllDigits (splitSign integer).2 := by
  unfold matchInteger at matched
  split at matched
  · next behind =>
      obtain ⟨⟨digits, after⟩, natural, same⟩ :=
        Option.map_eq_some_iff.mp matched
      cases same
      obtain ⟨rfl, -, inside⟩ := matchNatural_spec natural
      exact ⟨rfl, List.cons_ne_nil _ _, ⟨['-'], rest, rfl⟩, inside⟩
  · obtain ⟨rfl, filled, inside⟩ := matchNatural_spec matched
    rw [splitSign_of_allDigits inside]
    exact ⟨rfl, filled, ⟨[], rest, rfl⟩, inside⟩

theorem matchFraction_spec (characters : List Char) :
    (matchFraction characters).1 ++ (matchFraction characters).2 =
      characters := by
  unfold matchFraction
  split
  · next rest =>
      dsimp only
      split
      · rfl
      · rw [List.cons_append, (spanDigits_spec rest).1]
  · rfl

theorem matchSign_spec (characters : List Char) :
    (matchSign characters).1 ++ (matchSign characters).2 = characters := by
  unfold matchSign
  split <;> rfl

theorem matchExponent_spec (characters : List Char) :
    (matchExponent characters).1 ++ (matchExponent characters).2 =
      characters := by
  unfold matchExponent
  split
  · rfl
  · next letter rest =>
      split
      · dsimp only
        split
        · rfl
        · rw [List.cons_append, List.cons_append, List.append_assoc,
            (spanDigits_spec _).1, matchSign_spec]
      · rfl

end Numbers

/-- The ways a document of so many characters fails, where `depth` more arrays
and objects may be opened. -/
def JsonFault (depth : Nat) (characters : List Char) : ScanStop → Prop
  | .decodeError _ left => left ≤ characters.length
  | .raised exc =>
      exc.cls = .valueError ∧ HasLongInteger characters ∨
        exc.cls = .recursionError ∧
          depth < characters.countP fun character =>
            character = '[' || character = '\x7b'
  | .outOfFuel => False

variable {floatRepr : String → String} {depth : Nat}

theorem lasting_jsonFault : Lasting (JsonFault depth) := by
  intro rest characters stop suffix known
  cases stop with
  | decodeError problem left => exact Nat.le_trans known suffix.length_le
  | raised exc =>
      rcases known with ⟨cls, digits, within, inside, long⟩ | ⟨cls, nested⟩
      · exact .inl ⟨cls, digits, within.trans suffix.isInfix, inside, long⟩
      · exact .inr ⟨cls, Nat.lt_of_lt_of_le nested
          (suffix.sublist.countP_le)⟩
  | outOfFuel => exact known

theorem soundAt_quoted (rest : List Char) :
    SoundAt (JsonFault depth) ('"' :: rest) (scanString rest) := by
  cases known : scanString rest with
  | ok found =>
      have sound := soundAt_scanString rest
      rw [known] at sound
      cases sound with
      | read suffix shorter =>
          exact .read (suffix.trans (List.suffix_cons _ _))
            (Nat.lt_succ_of_lt shorter)
  | error stop =>
      have fault := (soundAt_scanString rest).fails known
      apply SoundAt.failed
      cases stop with
      | decodeError problem left =>
          simp only [TextFault, Nat.max_self] at fault
          exact fault
      | raised exc => exact absurd fault (by simp [TextFault])
      | outOfFuel => exact absurd fault (by simp [TextFault])

theorem sound_scanNumber : Sound (JsonFault depth) (scanNumber floatRepr) := by
  intro characters
  unfold scanNumber
  split
  · exact .failed (Nat.le_refl _)
  · next integer behind matched =>
      obtain ⟨together, filled, within, inside⟩ := matchInteger_spec matched
      have fraction := matchFraction_spec behind
      have exponent := matchExponent_spec (matchFraction behind).2
      have text : (integer ++ (matchFraction behind).1 ++
          (matchExponent (matchFraction behind).2).1) ++
            (matchExponent (matchFraction behind).2).2 = characters := by
        rw [List.append_assoc, exponent, List.append_assoc, fraction, together]
      have suffix : (matchExponent (matchFraction behind).2).2 <:+
          characters := ⟨_, text⟩
      have shorter : (matchExponent (matchFraction behind).2).2.length <
          characters.length := by
        have positive := List.length_pos_iff.mpr filled
        rw [← text, List.length_append, List.length_append,
          List.length_append]
        omega
      dsimp only
      split
      · split
        · exact .read suffix shorter
        · next exc failed =>
            apply SoundAt.failed
            unfold readInteger at failed
            dsimp only at failed
            split at failed
            · next long =>
                cases failed
                exact .inl ⟨rfl, _, within, inside, long⟩
            · cases failed
      · exact .read suffix shorter

theorem matchConstant_some {characters rest : List Char} {value : Value}
    (matched : matchConstant characters = some (value, rest)) :
    rest <:+ characters ∧ rest.length < characters.length := by
  obtain ⟨⟨word, constant⟩, known, found⟩ :=
    List.exists_of_findSome?_eq_some matched
  obtain ⟨behind, begins, same⟩ := Option.map_eq_some_iff.mp found
  obtain ⟨rfl, rfl⟩ := Prod.mk.inj same
  obtain rfl := List.append_eq_of_isPrefixOf?_eq_some begins
  have positive : 0 < word.length := by
    have filled : ∀ entry ∈ jsonConstants, 0 < entry.1.length := by decide
    exact filled (word, constant) known
  exact ⟨List.suffix_append _ _, by rw [List.length_append]; omega⟩

theorem skipSpace_suffix (characters : List Char) :
    skipSpace characters <:+ characters :=
  List.dropWhile_suffix _

theorem jsonFault_expectingComma (rest : List Char) :
    JsonFault depth rest (expectingComma rest) :=
  Nat.le_refl rest.length

theorem soundAt_scanParts {α : Type} {scanPart : JsonScanner α}
    (sound : Sound (JsonFault depth) scanPart) (closing : Char)
    (characters : List Char) :
    SoundAt (JsonFault depth) characters
      (scanParts closing scanPart characters) := by
  rw [scanParts]
  dsimp only
  split
  · next head =>
      exact (soundAt_tail head).later lasting_jsonFault
        (skipSpace_suffix characters)
  · refine SoundAt.later lasting_jsonFault (skipSpace_suffix characters) ?_
    apply (soundAt_list lasting_jsonFault sound skipSpace_suffix
      jsonFault_expectingComma (Nat.lt_succ_self _)).bind
    intro parts rest suffix shorter
    exact .read suffix shorter

theorem sound_scanMember {scan : JsonScanner Value}
    (sound : Sound (JsonFault depth) scan) :
    Sound (JsonFault depth) (scanMember scan) := by
  intro characters
  unfold scanMember
  split
  · next behind =>
      apply (soundAt_quoted behind).bind
      intro key rest suffix shorter
      have spaces := (skipSpace_suffix rest).trans suffix
      have tail := (List.tail_suffix (skipSpace rest)).trans spaces
      dsimp only
      split
      · apply ((sound _).later lasting_jsonFault
          ((skipSpace_suffix _).trans tail)).bind
        intro value rest suffix shorter
        exact .read suffix shorter
      · exact .failed (lasting_jsonFault _ _ _ spaces (Nat.le_refl _))
  · exact .failed (Nat.le_refl _)

/-- A fault behind an opening, where one more may be opened in front of it. -/
theorem JsonFault.opened {opening : Char} {rest : List Char} {stop : ScanStop}
    (opens : opening = '[' ∨ opening = '\x7b')
    (fault : JsonFault depth rest stop) :
    JsonFault (depth + 1) (opening :: rest) stop := by
  cases stop with
  | decodeError problem left => exact Nat.le_succ_of_le fault
  | raised exc =>
      rcases fault with ⟨cls, digits, within, inside, long⟩ | ⟨cls, nested⟩
      · exact .inl ⟨cls, digits,
          within.trans (List.suffix_cons _ _).isInfix, inside, long⟩
      · refine .inr ⟨cls, ?_⟩
        rw [List.countP_cons_of_pos (by simpa using opens)]
        exact Nat.succ_lt_succ nested
  | outOfFuel => exact fault

theorem sound_scanValue {arrays objects : JsonScanner Value}
    (soundArray : ∀ rest, SoundAt (JsonFault depth) ('[' :: rest)
      (arrays rest))
    (soundObject : ∀ rest, SoundAt (JsonFault depth) ('\x7b' :: rest)
      (objects rest)) :
    Sound (JsonFault depth) (scanValue floatRepr arrays objects) := by
  intro characters
  unfold scanValue
  split
  · next behind =>
      apply (soundAt_quoted behind).bind
      intro text rest suffix shorter
      exact .read suffix shorter
  · exact soundObject _
  · exact soundArray _
  · split
    · next value rest matched =>
        obtain ⟨suffix, shorter⟩ := matchConstant_some matched
        exact .read suffix shorter
    · exact sound_scanNumber _

theorem soundAt_nestedTooDeep {opening : Char} (kind : String)
    (opens : opening = '[' ∨ opening = '\x7b') (rest : List Char) :
    SoundAt (JsonFault 0) (opening :: rest) (nestedTooDeep kind rest) := by
  refine .failed (.inr ⟨rfl, ?_⟩)
  rw [List.countP_cons_of_pos (by simpa using opens)]
  exact Nat.succ_pos _

theorem soundAt_opened {α : Type} {opening : Char} {rest : List Char}
    {result : Except ScanStop (α × List Char)}
    (opens : opening = '[' ∨ opening = '\x7b')
    (sound : SoundAt (JsonFault depth) rest result) :
    SoundAt (JsonFault (depth + 1)) (opening :: rest) result := by
  cases sound with
  | read suffix shorter =>
      exact .read (suffix.trans (List.suffix_cons _ _))
        (Nat.lt_succ_of_lt shorter)
  | failed known => exact .failed (known.opened opens)

theorem sound_scanOnce :
    Sound (JsonFault depth) (scanOnce floatRepr depth) := by
  induction depth with
  | zero =>
      exact sound_scanValue (soundAt_nestedTooDeep "array" (.inl rfl))
        (soundAt_nestedTooDeep "object" (.inr rfl))
  | succ depth induction =>
      apply sound_scanValue
      · intro rest
        apply soundAt_opened (.inl rfl)
        apply (soundAt_scanParts induction ']' rest).bind
        intro items rest suffix shorter
        exact .read suffix shorter
      · intro rest
        apply soundAt_opened (.inr rfl)
        apply (soundAt_scanParts (sound_scanMember induction) '\x7d' rest).bind
        intro members rest suffix shorter
        exact .read suffix shorter

theorem decodeJson_fails {document : List Char} {stop : ScanStop}
    (failed : decodeJson floatRepr depth document = .error stop) :
    JsonFault depth document stop := by
  have sound : SoundAt (JsonFault depth) document
      (scanOnce floatRepr depth (skipSpace document)) :=
    (sound_scanOnce _).later lasting_jsonFault (skipSpace_suffix document)
  rw [decodeJson] at failed
  cases known : scanOnce floatRepr depth (skipSpace document) with
  | error problem =>
      rw [known] at failed sound
      cases failed
      exact sound.fails rfl
  | ok found =>
      rw [known] at failed sound
      cases sound with
      | @read value rest suffix shorter =>
          simp only [bind, Except.bind] at failed
          split at failed
          · cases failed
          · cases failed
            exact Nat.le_trans (skipSpace_suffix rest).length_le
              suffix.length_le

/-- Only three classes of exceptions come out of `json.loads`, and a
`JSONDecodeError` shows a place of the document. -/
theorem jsonLoads_error_cases {text : String} {exc : Exc}
    (failed : jsonLoads floatRepr depth text = .error exc) :
    (∃ problem left, left ≤ text.toList.length ∧
        exc = jsonDecodeError text.toList problem left) ∨
      exc.cls = .valueError ∧ HasLongInteger text.toList ∨
      exc.cls = .recursionError ∧
        depth < text.toList.countP fun character =>
          character = '[' || character = '\x7b' := by
  rw [jsonLoads] at failed
  split at failed
  · cases failed
    exact .inl ⟨_, _, Nat.le_refl _, rfl⟩
  · cases known : decodeJson floatRepr depth text.toList with
    | ok value =>
        rw [known] at failed
        cases failed
    | error stop =>
        have fault := decodeJson_fails known
        rw [known] at failed
        cases stop with
        | decodeError problem left =>
            cases failed
            exact .inl ⟨problem, left, fault, rfl⟩
        | raised raised =>
            cases failed
            exact .inr fault
        | outOfFuel => exact absurd fault (by simp [JsonFault])

end PipelineOps.Python
