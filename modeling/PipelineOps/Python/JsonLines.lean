import PipelineOps.Python.JsonRoundTrip

namespace PipelineOps.Python

open PipelineOps.Library

/-! The text of a value has no line break. -/

def InOneLine (text : List Char) : Prop :=
  ∀ character ∈ text, 0x20 ≤ character.toNat

@[simp]
theorem inOneLine_nil : InOneLine [] := nofun

@[simp]
theorem inOneLine_cons {character : Char} {text : List Char} :
    InOneLine (character :: text) ↔
      0x20 ≤ character.toNat ∧ InOneLine text :=
  List.forall_mem_cons

@[simp]
theorem inOneLine_append {first second : List Char} :
    InOneLine (first ++ second) ↔ InOneLine first ∧ InOneLine second :=
  List.forall_mem_append

section Strings

theorem inOneLine_escapeUnit (unit : Nat) : InOneLine (escapeUnit unit) := by
  have digit : ∀ part < 16, 0x20 ≤ (Nat.digitChar part).toNat := by decide
  simp only [escapeUnit, hexDigits, inOneLine_cons, inOneLine_nil, and_true]
  exact ⟨by decide, by decide, digit _ (Nat.mod_lt _ (by omega)),
    digit _ (Nat.mod_lt _ (by omega)), digit _ (Nat.mod_lt _ (by omega)),
    digit _ (Nat.mod_lt _ (by omega))⟩

theorem le_of_unescaped? {letter character : Char}
    (known : unescaped? letter = some character) : 0x20 ≤ letter.toNat := by
  unfold unescaped? at known
  split at known
  · next quoted =>
      rcases quoted with rfl | rfl | rfl
      · decide
      · decide
      · decide
  split at known
  · next same => rw [same]; decide
  split at known
  · next same => rw [same]; decide
  split at known
  · next same => rw [same]; decide
  split at known
  · next same => rw [same]; decide
  split at known
  · next same => rw [same]; decide
  · cases known

theorem inOneLine_escapeChar (character : Char) :
    InOneLine (escapeChar character) := by
  rcases escapeChar_cases character with
    ⟨letter, -, -, -, text⟩ | ⟨-, -, -, text⟩ | ⟨-, text⟩ | ⟨-, text⟩
  · rw [text, inOneLine_cons, inOneLine_cons]
    exact ⟨by decide, le_of_unescaped? (unescaped?_of_escapeChar text),
      inOneLine_nil⟩
  · rw [text, inOneLine_cons]
    exact ⟨plain_of_escapeChar text, inOneLine_nil⟩
  · rw [text]
    exact inOneLine_escapeUnit _
  · rw [text, inOneLine_append]
    exact ⟨inOneLine_escapeUnit _, inOneLine_escapeUnit _⟩

theorem inOneLine_escapeControl (character : Char) :
    InOneLine (escapeControl character) := by
  rw [escapeControl]
  split
  · exact inOneLine_escapeChar character
  · next plain =>
      rw [not_or] at plain
      rw [inOneLine_cons]
      exact ⟨Nat.le_of_not_lt plain.1, inOneLine_nil⟩

theorem inOneLine_flatMap {escape : Char → List Char}
    (each : ∀ character, InOneLine (escape character)) (text : List Char) :
    InOneLine (text.flatMap escape) := by
  intro symbol member
  obtain ⟨character, -, inside⟩ := List.mem_flatMap.mp member
  exact each character symbol inside

theorem inOneLine_encode (style : JsonStyle) (text : String) :
    InOneLine (style.encode text).toList := by
  rw [JsonStyle.encode]
  split
  · rw [toList_encodeBasestringAscii, inOneLine_cons, inOneLine_append]
    exact ⟨by decide, inOneLine_flatMap inOneLine_escapeChar _, by simp⟩
  · rw [encodeBasestring, String.toList_ofList, List.cons_append,
      inOneLine_cons, inOneLine_append]
    exact ⟨by decide, inOneLine_flatMap inOneLine_escapeControl _, by simp⟩

end Strings

section Numbers

theorem inOneLine_digits {digits : List Char} (inside : AllDigits digits) :
    InOneLine digits := by
  intro digit member
  have bounds := isAsciiDigit_iff.mp (inside digit member)
  omega

theorem IsInteger.inOneLine {text : List Char} (isInteger : IsInteger text) :
    InOneLine text := by
  obtain ⟨digits, natural, rfl | rfl⟩ := isInteger
  · exact inOneLine_digits natural.1
  · rw [inOneLine_cons]
    exact ⟨by decide, inOneLine_digits natural.1⟩

theorem inOneLine_float {floatRepr : String → String} {repr : String}
    (isFloat : IsFloatRepr floatRepr repr) : InOneLine repr.toList := by
  obtain ⟨-, integer, fraction, exponent, isInteger, isFraction, isExponent, -,
    text⟩ := isFloat
  rw [text, inOneLine_append, inOneLine_append]
  refine ⟨⟨isInteger.inOneLine, ?_⟩, ?_⟩
  · obtain rfl | ⟨digits, -, inside, rfl⟩ := isFraction
    · exact inOneLine_nil
    · rw [inOneLine_cons]
      exact ⟨by decide, inOneLine_digits inside⟩
  · obtain rfl | ⟨letter, sign, digits, isLetter, isSign, -, inside, rfl⟩ :=
      isExponent
    · exact inOneLine_nil
    · have signs : InOneLine sign := by
        simp only [List.mem_cons, List.not_mem_nil, or_false] at isSign
        obtain rfl | rfl | rfl := isSign
        · exact inOneLine_nil
        · simp
        · simp
      rw [List.cons_append, inOneLine_cons, inOneLine_append]
      refine ⟨?_, signs, inOneLine_digits inside⟩
      obtain rfl | rfl := isLetter
      · decide
      · decide

end Numbers

section Values

/-- Separators without line breaks. -/
structure JsonStyle.Inline (style : JsonStyle) : Prop where
  item : InOneLine style.itemSeparator.toList
  key : InOneLine style.keySeparator.toList

variable {style : JsonStyle} {floatRepr : String → String} {depth : Nat}

theorem mem_join {separator : String} {texts : List String}
    {character : Char} (member : character ∈ (join separator texts).toList) :
    character ∈ separator.toList ∨ ∃ text ∈ texts, character ∈ text.toList := by
  induction texts with
  | nil => cases member
  | cons text rest induction =>
      cases rest with
      | nil => exact .inr ⟨text, List.mem_cons_self, member⟩
      | cons next rest =>
          rw [join_cons_cons, String.toList_append, String.toList_append,
            List.mem_append, List.mem_append] at member
          rcases member with (own | separating) | later
          · exact .inr ⟨text, List.mem_cons_self, own⟩
          · exact .inl separating
          · refine (induction later).imp_right ?_
            rintro ⟨other, listed, inside⟩
            exact ⟨other, List.mem_cons_of_mem text listed, inside⟩

theorem inOneLine_join {separator : String} {texts : List String}
    (apart : InOneLine separator.toList)
    (each : ∀ text ∈ texts, InOneLine text.toList) :
    InOneLine (join separator texts).toList := by
  intro character member
  rcases mem_join member with separating | ⟨text, listed, inside⟩
  · exact apart character separating
  · exact each text listed character inside

theorem jsonItems_mem {items : List Value} {texts : List String} {room : Nat}
    (written : jsonItems style room items = .ok texts) :
    ∀ text ∈ texts, ∃ item ∈ items,
      jsonDumps style room item = .ok text := by
  induction items generalizing texts with
  | nil =>
      cases written
      simp
  | cons item rest induction =>
      rw [jsonItems] at written
      obtain ⟨first, one, written⟩ := bind_ok_iff.mp written
      obtain ⟨others, more, written⟩ := bind_ok_iff.mp written
      cases written
      rw [List.forall_mem_cons]
      refine ⟨⟨item, List.mem_cons_self, one⟩, ?_⟩
      intro text member
      obtain ⟨other, listed, known⟩ := induction more text member
      exact ⟨other, List.mem_cons_of_mem item listed, known⟩

theorem jsonMembers_mem {members : List (String × Except Exc String)}
    {texts : List String}
    (written : jsonMembers style members = .ok texts) :
    ∀ text ∈ texts, ∃ member ∈ members, ∃ value, member.2 = .ok value ∧
      text = style.encode member.1 ++ style.keySeparator ++ value := by
  induction members generalizing texts with
  | nil =>
      cases written
      simp
  | cons member rest induction =>
      obtain ⟨key, outcome⟩ := member
      rw [jsonMembers] at written
      obtain ⟨first, one, written⟩ := bind_ok_iff.mp written
      obtain ⟨others, more, written⟩ := bind_ok_iff.mp written
      cases written
      rw [List.forall_mem_cons]
      refine ⟨⟨(key, outcome), List.mem_cons_self, first, one, rfl⟩, ?_⟩
      intro text listed
      obtain ⟨other, found, known⟩ := induction more text listed
      exact ⟨other, List.mem_cons_of_mem _ found, known⟩

/-- So a file of such texts has one of them in every line. -/
theorem Loadable.inOneLine {value : Value} {text : String} {room : Nat}
    (loadable : Loadable floatRepr depth value) (inline : style.Inline)
    (written : jsonDumps style room value = .ok text) :
    InOneLine text.toList := by
  induction loadable generalizing text room with
  | null =>
      cases written
      simp
  | bool value =>
      cases written
      cases value <;> simp
  | int printable =>
      rw [jsonDumps, intText_of_printable printable] at written
      cases written
      exact (isInteger_toString _).inOneLine
  | float known =>
      cases written
      rcases known with special | isFloat
      · simp only [List.mem_cons, List.not_mem_nil, or_false] at special
        obtain rfl | rfl | rfl := special <;> simp [floatstr]
      · rw [floatstr_of_finite isFloat]
        exact inOneLine_float isFloat
  | str text =>
      cases written
      exact inOneLine_encode style text
  | list each induction =>
      obtain ⟨inner, texts, -, items, rfl⟩ := jsonDumps_list_ok_iff.mp written
      have parts := inOneLine_join inline.item fun text member => by
        obtain ⟨item, listed, known⟩ := jsonItems_mem items text member
        exact induction item listed known
      simp [parts]
  | @dict depth entries distinct each induction =>
      obtain ⟨inner, texts, -, members, rfl⟩ :=
        jsonDumps_dict_ok_iff.mp written
      rw [jsonEntries_eq, ordered_map] at members
      have parts := inOneLine_join inline.item fun text member => by
        obtain ⟨entry, listed, value, known, rfl⟩ :=
          jsonMembers_mem members text member
        obtain ⟨entry, found, rfl⟩ := List.mem_map.mp listed
        have original := (ordered_perm style entries).mem_iff.mp found
        rw [String.toList_append, String.toList_append, inOneLine_append,
          inOneLine_append]
        exact ⟨⟨inOneLine_encode style entry.1, inline.key⟩,
          induction entry original known⟩
      simp [parts]

end Values

end PipelineOps.Python
