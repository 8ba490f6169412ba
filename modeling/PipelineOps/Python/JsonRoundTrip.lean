import PipelineOps.Python.JsonIdentity
import PipelineOps.Python.JsonReading

namespace PipelineOps.Python

open PipelineOps.Library
open PipelineOps.Library.Scanner

/-! `json.loads` gives back what `json.dumps` was given. -/

section Arranged

mutual
/-- The value with its objects in the order in which they are written. -/
def JsonStyle.arranged (style : JsonStyle) : Value → Value
  | .list items => .list (style.arrangedItems items)
  | .dict entries => .dict (style.ordered (style.arrangedEntries entries))
  | value => value

def JsonStyle.arrangedItems (style : JsonStyle) : List Value → List Value
  | [] => []
  | item :: rest => style.arranged item :: style.arrangedItems rest

def JsonStyle.arrangedEntries (style : JsonStyle) :
    List (String × Value) → List (String × Value)
  | [] => []
  | (key, value) :: rest =>
      (key, style.arranged value) :: style.arrangedEntries rest
end

variable (style : JsonStyle)

theorem arrangedItems_eq (items : List Value) :
    style.arrangedItems items = items.map style.arranged := by
  induction items with
  | nil => rfl
  | cons item rest induction =>
      rw [JsonStyle.arrangedItems, induction, List.map_cons]

theorem arrangedEntries_eq (entries : List (String × Value)) :
    style.arrangedEntries entries =
      entries.map fun entry => (entry.1, style.arranged entry.2) := by
  induction entries with
  | nil => rfl
  | cons entry rest induction =>
      rw [JsonStyle.arrangedEntries, induction, List.map_cons]

theorem ordered_perm {α : Type} (items : List (String × α)) :
    (style.ordered items).Perm items := by
  rw [JsonStyle.ordered]
  split
  · exact List.perm_insertionSort _ items
  · exact List.Perm.refl items

mutual
theorem arranged_of_unsorted {style : JsonStyle}
    (unsorted : style.sortKeys = false) : (value : Value) →
    style.arranged value = value
  | .null | .bool _ | .int _ | .float _ | .str _ | .datetime _ | .object _ =>
      rfl
  | .list items => by
      rw [JsonStyle.arranged, arrangedItems_of_unsorted unsorted items]
  | .dict entries => by
      rw [JsonStyle.arranged, arrangedEntries_of_unsorted unsorted entries,
        JsonStyle.ordered, if_neg (by simp [unsorted])]

theorem arrangedItems_of_unsorted {style : JsonStyle}
    (unsorted : style.sortKeys = false) : (items : List Value) →
    style.arrangedItems items = items
  | [] => rfl
  | item :: rest => by
      rw [JsonStyle.arrangedItems, arranged_of_unsorted unsorted item,
        arrangedItems_of_unsorted unsorted rest]

theorem arrangedEntries_of_unsorted {style : JsonStyle}
    (unsorted : style.sortKeys = false) : (entries : List (String × Value)) →
    style.arrangedEntries entries = entries
  | [] => rfl
  | (key, value) :: rest => by
      rw [JsonStyle.arrangedEntries, arranged_of_unsorted unsorted value,
        arrangedEntries_of_unsorted unsorted rest]
end

variable {style}

theorem ordered_ordered {α : Type} (items : List (String × α)) :
    style.ordered (style.ordered items) = style.ordered items := by
  rw [JsonStyle.ordered]
  split
  · rw [JsonStyle.ordered, if_pos ‹_›]
    exact (pairwise_sortedItems items).insertionSort_eq
  · rfl

mutual
/-- A value is written like the one with its keys in order. -/
theorem jsonDumps_arranged : (room : Nat) → (value : Value) →
    jsonDumps style room (style.arranged value) = jsonDumps style room value
  | _, .null | _, .bool _ | _, .int _ | _, .float _ | _, .str _
  | _, .datetime _ | _, .object _ => rfl
  | room, .list items => by
      rw [JsonStyle.arranged, jsonDumps, jsonDumps]
      refine congrArg _ (funext fun inner => ?_)
      rw [jsonItems_arranged inner items]
  | room, .dict entries => by
      rw [JsonStyle.arranged, jsonDumps, jsonDumps]
      refine congrArg _ (funext fun inner => ?_)
      rw [jsonEntries_eq (style.ordered _), ← ordered_map,
        ordered_ordered, ← jsonEntries_eq, jsonEntries_arranged inner entries]

theorem jsonItems_arranged : (room : Nat) → (items : List Value) →
    jsonItems style room (style.arrangedItems items) =
      jsonItems style room items
  | _, [] => rfl
  | room, item :: rest => by
      rw [JsonStyle.arrangedItems, jsonItems, jsonItems,
        jsonDumps_arranged room item, jsonItems_arranged room rest]

theorem jsonEntries_arranged : (room : Nat) →
    (entries : List (String × Value)) →
    jsonEntries style room (style.arrangedEntries entries) =
      jsonEntries style room entries
  | _, [] => rfl
  | room, (key, value) :: rest => by
      rw [JsonStyle.arrangedEntries, jsonEntries, jsonEntries,
        jsonDumps_arranged room value, jsonEntries_arranged room rest]
end

end Arranged

section Dicts

theorem setItem_of_not_mem {key : String} {value : Value}
    {entries : List (String × Value)} (fresh : key ∉ entries.map Prod.fst) :
    setItem key value entries = entries ++ [(key, value)] := by
  induction entries with
  | nil => rfl
  | cons entry rest induction =>
      obtain ⟨other, stored⟩ := entry
      rw [List.map_cons, List.mem_cons, not_or] at fresh
      rw [setItem, if_neg fun same => fresh.1 same.symm, induction fresh.2,
        List.cons_append]

theorem dictOf_of_nodup {items : List (String × Value)}
    (distinct : (items.map Prod.fst).Nodup) : dictOf items = items := by
  rw [dictOf]
  induction items using List.reverseRecOn with
  | nil => rfl
  | append_singleton items item induction =>
      rw [List.map_append, List.map_singleton, List.nodup_append] at distinct
      have fresh : item.1 ∉ items.map Prod.fst := fun member =>
        distinct.2.2 item.1 member item.1 List.mem_cons_self rfl
      rw [List.foldl_append, induction distinct.1]
      exact setItem_of_not_mem fresh

end Dicts

/-- The values that a document stands for: integers that `int` reads, floats by
their `repr`, objects with distinct keys, nested at most `depth` deep. -/
inductive Loadable (floatRepr : String → String) : Nat → Value → Prop
  | null {depth : Nat} : Loadable floatRepr depth .null
  | bool {depth : Nat} (value : Bool) : Loadable floatRepr depth (.bool value)
  | int {depth : Nat} {value : Int} (printable : Printable value) :
      Loadable floatRepr depth (.int value)
  | float {depth : Nat} {repr : String}
      (known : repr ∈ ["nan", "inf", "-inf"] ∨ IsFloatRepr floatRepr repr) :
      Loadable floatRepr depth (.float repr)
  | str {depth : Nat} (text : String) : Loadable floatRepr depth (.str text)
  | list {depth : Nat} {items : List Value}
      (each : ∀ item ∈ items, Loadable floatRepr depth item) :
      Loadable floatRepr (depth + 1) (.list items)
  | dict {depth : Nat} {entries : List (String × Value)}
      (distinct : (entries.map Prod.fst).Nodup)
      (each : ∀ entry ∈ entries, Loadable floatRepr depth entry.2) :
      Loadable floatRepr (depth + 1) (.dict entries)

/-- A comma, or a colon, with nothing but blanks behind it. -/
structure JsonStyle.Standard (style : JsonStyle) : Prop where
  item : ∃ blanks, style.itemSeparator.toList = ',' :: blanks ∧
    ∀ blank ∈ blanks, isJsonSpace blank = true
  key : ∃ blanks, style.keySeparator.toList = ':' :: blanks ∧
    ∀ blank ∈ blanks, isJsonSpace blank = true

def JsonStyle.text (style : JsonStyle) (room : Nat) (value : Value) :
    List Char :=
  match jsonDumps style room value with
  | .ok text => text.toList
  | .error _ => []

/-- No white space, nothing that closes a list, and no byte order mark. -/
def OpensValue (text : List Char) : Prop :=
  ∃ head tail, text = head :: tail ∧ isJsonSpace head = false ∧
    head ∉ [']', '\ufeff']

/-- The value is written, and read back with its keys in order. -/
structure ReadsBack (style : JsonStyle) (floatRepr : String → String)
    (depth : Nat) (value : Value) : Prop where
  writes : jsonDumps style depth value =
    .ok (String.ofList (style.text depth value))
  opens : OpensValue (style.text depth value)
  reads : Reads (scanOnce floatRepr depth) EndsNumber (style.text depth value)
    (some (style.arranged value))

variable {style : JsonStyle} {floatRepr : String → String} {depth : Nat}

theorem text_of_ok {value : Value} {text : String}
    (written : jsonDumps style depth value = .ok text) :
    style.text depth value = text.toList := by
  rw [JsonStyle.text, written]

theorem ReadsBack.of_text {value : Value} {text : String}
    (written : jsonDumps style depth value = .ok text)
    (opens : OpensValue text.toList)
    (reads : Reads (scanOnce floatRepr depth) EndsNumber text.toList
      (some (style.arranged value))) :
    ReadsBack style floatRepr depth value := by
  constructor
  · rw [written, text_of_ok written, String.ofList_toList]
  · rwa [text_of_ok written]
  · rwa [text_of_ok written]

section Scalars

/-- At any depth, `scan_once` looks at the first characters. -/
theorem scanOnce_eq (floatRepr : String → String) (depth : Nat) :
    ∃ arrays objects,
      scanOnce floatRepr depth = scanValue floatRepr arrays objects := by
  cases depth with
  | zero => exact ⟨_, _, rfl⟩
  | succ depth => exact ⟨_, _, rfl⟩

theorem readsBack_constant {value : Value} (word : List Char)
    (known : (word, value) ∈ jsonConstants)
    (written : jsonDumps style depth value = .ok (String.ofList word))
    (same : style.arranged value = value) :
    ReadsBack style floatRepr depth value := by
  obtain ⟨arrays, objects, dispatch⟩ := scanOnce_eq floatRepr depth
  have opens : ∀ entry ∈ jsonConstants, ∃ head tail, entry.1 = head :: tail ∧
      isJsonSpace head = false ∧ head ∉ [']', '\ufeff'] := by
    simp only [jsonConstants, List.forall_mem_cons, List.not_mem_nil,
      false_implies, implies_true, and_true]
    exact ⟨⟨_, _, rfl, by decide, by decide⟩, ⟨_, _, rfl, by decide, by decide⟩,
      ⟨_, _, rfl, by decide, by decide⟩, ⟨_, _, rfl, by decide, by decide⟩,
      ⟨_, _, rfl, by decide, by decide⟩, ⟨_, _, rfl, by decide, by decide⟩⟩
  refine .of_text written ?_ ?_
  · rw [String.toList_ofList]
    exact opens _ known
  · intro rest _
    rw [String.toList_ofList, same, dispatch]
    simp only [jsonConstants, List.mem_cons, Prod.mk.injEq, List.not_mem_nil,
      or_false] at known
    obtain ⟨rfl, rfl⟩ | ⟨rfl, rfl⟩ | ⟨rfl, rfl⟩ | ⟨rfl, rfl⟩ | ⟨rfl, rfl⟩ |
      ⟨rfl, rfl⟩ := known
    · rfl
    · rfl
    · rfl
    · rfl
    · rfl
    · rfl

theorem scanValue_number {arrays objects : JsonScanner Value} {head : Char}
    {rest : List Char} (plain : head ∉ ['"', '\x7b', '['])
    (noConstant : matchConstant (head :: rest) = none) :
    scanValue floatRepr arrays objects (head :: rest) =
      scanNumber floatRepr (head :: rest) := by
  simp only [List.mem_cons, List.not_mem_nil, or_false, not_or] at plain
  rw [scanValue, noConstant]
  · exact fun _ same => plain.1 (List.cons.inj same).1
  · exact fun _ same => plain.2.1 (List.cons.inj same).1
  · exact fun _ same => plain.2.2 (List.cons.inj same).1

theorem matchConstant_digit {digit : Char} (rest : List Char)
    (isDigit : isAsciiDigit digit = true) :
    matchConstant (digit :: rest) = none ∧
      matchConstant ('-' :: digit :: rest) = none := by
  have differs : ∀ other, isAsciiDigit other = false →
      (other == digit) = false := fun other notDigit =>
    beq_false_of_ne (ne_of_isAsciiDigit isDigit notDigit).symm
  simp [matchConstant, jsonConstants, List.isPrefixOf?, differs, isAsciiDigit]

theorem IsInteger.begins {integer : List Char} (isInteger : IsInteger integer)
    (rest : List Char) :
    ∃ digit behind, isAsciiDigit digit = true ∧
      (integer ++ rest = digit :: behind ∨
        integer ++ rest = '-' :: digit :: behind) := by
  obtain ⟨digits, natural, rfl | rfl⟩ := isInteger
  · obtain ⟨first, others, rfl, isDigit⟩ := natural.head
    exact ⟨first, _, isDigit, .inl rfl⟩
  · obtain ⟨first, others, rfl, isDigit⟩ := natural.head
    exact ⟨first, _, isDigit, .inr rfl⟩

/-- What begins like a number is read as one. -/
theorem scanOnce_number {integer : List Char} (isInteger : IsInteger integer)
    (rest : List Char) :
    scanOnce floatRepr depth (integer ++ rest) =
      scanNumber floatRepr (integer ++ rest) := by
  obtain ⟨arrays, objects, dispatch⟩ := scanOnce_eq floatRepr depth
  obtain ⟨digit, behind, isDigit, text | text⟩ := isInteger.begins rest
  · rw [dispatch, text]
    apply scanValue_number
    · simp [ne_of_isAsciiDigit isDigit, isAsciiDigit]
    · exact (matchConstant_digit behind isDigit).1
  · rw [dispatch, text]
    apply scanValue_number
    · decide
    · exact (matchConstant_digit behind isDigit).2

theorem opensValue_number {integer : List Char} (isInteger : IsInteger integer)
    (rest : List Char) : OpensValue (integer ++ rest) := by
  obtain ⟨digit, behind, isDigit, text | text⟩ := isInteger.begins rest
  · refine ⟨digit, behind, text, ?_, ?_⟩
    · simp [isJsonSpace, ne_of_isAsciiDigit isDigit, isAsciiDigit]
    · simp [ne_of_isAsciiDigit isDigit, isAsciiDigit]
  · exact ⟨'-', _, text, by decide, by decide⟩

theorem readsBack_int {value : Int} (printable : Printable value) :
    ReadsBack style floatRepr depth (.int value) := by
  have isInteger := isInteger_toString value
  refine .of_text (intText_of_printable printable) ?_ ?_
  · have opens := opensValue_number isInteger []
    rwa [List.append_nil] at opens
  · intro rest ends
    rw [scanOnce_number isInteger rest]
    exact reads_int printable rest ends

theorem floatstr_of_finite {repr : String}
    (isFloat : IsFloatRepr floatRepr repr) : floatstr repr = repr := by
  obtain ⟨-, integer, fraction, exponent, isInteger, -, -, -, text⟩ := isFloat
  rw [List.append_assoc] at text
  obtain ⟨digit, behind, isDigit, begins⟩ :=
    isInteger.begins (fraction ++ exponent)
  rw [← text] at begins
  have differs : ∀ word ∈ ["nan", "inf", "-inf"], repr ≠ word := by
    rintro word known rfl
    simp only [List.mem_cons, List.not_mem_nil, or_false] at known
    obtain rfl | rfl | rfl := known
    · rcases begins with begins | begins
      · exact ne_of_isAsciiDigit isDigit rfl (List.cons.inj begins).1.symm
      · exact absurd (List.cons.inj begins).1 (by decide)
    · rcases begins with begins | begins
      · exact ne_of_isAsciiDigit isDigit rfl (List.cons.inj begins).1.symm
      · exact absurd (List.cons.inj begins).1 (by decide)
    · rcases begins with begins | begins
      · exact ne_of_isAsciiDigit isDigit rfl (List.cons.inj begins).1.symm
      · exact ne_of_isAsciiDigit isDigit rfl
          (List.cons.inj (List.cons.inj begins).2).1.symm
  simp only [List.forall_mem_cons, List.not_mem_nil, false_implies,
    implies_true, and_true] at differs
  rw [floatstr, if_neg differs.1, if_neg differs.2.1, if_neg differs.2.2]

theorem readsBack_float {repr : String}
    (known : repr ∈ ["nan", "inf", "-inf"] ∨ IsFloatRepr floatRepr repr) :
    ReadsBack style floatRepr depth (.float repr) := by
  rcases known with special | isFloat
  · simp only [List.mem_cons, List.not_mem_nil, or_false] at special
    obtain rfl | rfl | rfl := special
    · exact readsBack_constant ['N', 'a', 'N']
        (by simp [jsonConstants]) rfl rfl
    · exact readsBack_constant
        ['I', 'n', 'f', 'i', 'n', 'i', 't', 'y']
        (by simp [jsonConstants]) rfl rfl
    · exact readsBack_constant
        ['-', 'I', 'n', 'f', 'i', 'n', 'i', 't', 'y']
        (by simp [jsonConstants]) rfl rfl
  · have written : jsonDumps style depth (.float repr) = .ok repr := by
      rw [jsonDumps, floatstr_of_finite isFloat]
    have reads := reads_float isFloat
    obtain ⟨-, integer, fraction, exponent, isInteger, -, -, -, text⟩ := isFloat
    rw [List.append_assoc] at text
    refine .of_text written ?_ ?_
    · rw [text]
      exact opensValue_number isInteger _
    · intro rest ends
      rw [text, List.append_assoc, scanOnce_number isInteger,
        ← List.append_assoc, ← text]
      exact reads rest ends

theorem readsBack_str (text : String) :
    ReadsBack style floatRepr depth (.str text) := by
  obtain ⟨arrays, objects, dispatch⟩ := scanOnce_eq floatRepr depth
  obtain ⟨escaped, written, reads⟩ := toList_encode style text
  have encoded : jsonDumps style depth (.str text) = .ok (style.encode text) :=
    rfl
  refine .of_text encoded ?_ ?_
  · exact ⟨'"', escaped, written, by decide, by decide⟩
  · intro rest _
    rw [written, dispatch, List.cons_append, scanValue, reads rest trivial]
    rfl

end Scalars

section Lists

theorem endsNumber_cons {character : Char} (rest : List Char)
    (notDigit : isAsciiDigit character = false)
    (plain : character ∉ ['.', 'e', 'E']) : EndsNumber (character :: rest) := by
  rintro other ⟨⟩
  exact ⟨notDigit, plain⟩

theorem skipSpace_blanks {blanks text : List Char}
    (blank : ∀ character ∈ blanks, isJsonSpace character = true)
    (opens : OpensValue text) (rest : List Char) :
    skipSpace (blanks ++ (text ++ rest)) = text ++ rest := by
  obtain ⟨head, tail, rfl, notSpace, -⟩ := opens
  rw [skipSpace, List.dropWhile_append_of_pos blank, List.cons_append,
    List.dropWhile_cons_of_neg (by simp [notSpace])]

theorem skipSpace_cons {character : Char} (rest : List Char)
    (notSpace : isJsonSpace character = false) :
    skipSpace (character :: rest) = character :: rest := by
  rw [skipSpace, List.dropWhile_cons_of_neg (by simp [notSpace])]

theorem length_le_intercalate {α : Type} {write : α → List Char}
    (separator : List Char) {parts : List α}
    (filled : ∀ part ∈ parts, write part ≠ []) :
    parts.length ≤ (List.intercalate separator (parts.map write)).length := by
  induction parts with
  | nil => exact Nat.zero_le _
  | cons part parts induction =>
      rw [List.forall_mem_cons] at filled
      have positive := List.length_pos_iff.mpr filled.1
      cases parts with
      | nil =>
          rw [List.map_singleton, List.intercalate_singleton]
          exact positive
      | cons next parts =>
          have others := induction filled.2
          rw [List.map_cons, List.map_cons, List.intercalate_cons_cons,
            ← List.map_cons, List.length_append, List.length_append,
            List.length_cons]
          omega

/-- The parts of an array or an object are read back from what is written
behind its opening. -/
theorem reads_parts {α β : Type} {scan : JsonScanner β} {write : α → List Char}
    {convert : α → β} (closing : Char) {blanks : List Char}
    (closes : closing = ']' ∨ closing = '\x7d')
    (blank : ∀ character ∈ blanks, isJsonSpace character = true)
    {parts : List α} (opens : ∀ part ∈ parts, OpensValue (write part) ∧
      ∀ rest, (write part ++ rest).head? ≠ some closing)
    (reads : ∀ part ∈ parts,
      Reads scan EndsNumber (write part) (some (convert part))) :
    Reads (scanParts closing scan) (fun _ => True)
      (List.intercalate (',' :: blanks) (parts.map write) ++ [closing])
      (some (parts.map convert)) := by
  have known : isJsonSpace closing = false ∧ closing ≠ ',' ∧
      isAsciiDigit closing = false ∧ closing ∉ ['.', 'e', 'E'] := by
    obtain rfl | rfl := closes
    · decide
    · decide
  intro rest _
  cases parts with
  | nil =>
      rw [List.map_nil, List.intercalate_nil, List.nil_append,
        List.singleton_append, scanParts, skipSpace_cons rest known.1]
      exact if_pos rfl
  | cons part parts =>
      have filled : ∀ other ∈ part :: parts, write other ≠ [] := by
        intro other member
        obtain ⟨head, tail, written, -⟩ := (opens other member).1
        rw [written]
        exact List.cons_ne_nil head tail
      have length := length_le_intercalate (',' :: blanks) filled
      have comma : ∀ rest, EndsNumber (',' :: rest) ∧
          skipSpace (',' :: rest) = ',' :: rest := fun rest =>
        ⟨endsNumber_cons rest rfl (by decide), skipSpace_cons rest rfl⟩
      have closed : ∀ rest, EndsNumber (closing :: rest) ∧
          skipSpace (closing :: rest) = closing :: rest := fun rest =>
        ⟨endsNumber_cons rest known.2.2.1 known.2.2.2,
          skipSpace_cons rest known.1⟩
      have list : ∀ fuel, (part :: parts).length ≤ fuel →
          Reads (Scanner.list ⟨',', closing, skipSpace⟩ .outOfFuel
            expectingComma scan fuel) (fun _ => True)
            (List.intercalate (',' :: blanks) ((part :: parts).map write) ++
              [closing]) ((part :: parts).map fun part =>
                some (convert part)) :=
        fun fuel enough => reads_list (Ne.symm known.2.1) comma closed
          (List.cons_ne_nil part parts)
          (fun other member => skipSpace_blanks blank (opens other member).1)
          reads enough
      obtain ⟨behind, text⟩ := intercalate_map_cons write (',' :: blanks) part
        parts
      obtain ⟨opened, differs⟩ := opens part List.mem_cons_self
      rw [text, List.length_append] at length
      have spaces := skipSpace_blanks (List.forall_mem_nil _) opened
        (behind ++ ([closing] ++ rest))
      rw [List.nil_append] at spaces
      have enough : (part :: parts).length ≤
          (write part ++ (behind ++ ([closing] ++ rest))).length + 1 := by
        rw [List.length_append, List.length_append]
        omega
      have listed := list _ enough rest trivial
      rw [text, List.append_assoc, List.append_assoc] at listed ⊢
      rw [scanParts, spaces]
      dsimp only
      rw [if_neg (differs _), listed]
      have converted := mapM_id_some ((part :: parts).map convert)
      rw [List.map_map] at converted
      exact congrArg (fun read => Except.ok (read, rest)) converted

theorem JsonStyle.text_list {items : List Value} (standard : style.Standard)
    (each : ∀ item ∈ items, ReadsBack style floatRepr depth item) :
    ∃ blanks, (∀ blank ∈ blanks, isJsonSpace blank = true) ∧
      jsonDumps style (depth + 1) (.list items) = .ok (String.ofList
        ('[' :: (List.intercalate (',' :: blanks)
          (items.map (style.text depth)) ++ [']']))) := by
  obtain ⟨blanks, separator, blank⟩ := standard.item
  have texts : jsonItems style depth items =
      .ok (items.map fun item => String.ofList (style.text depth item)) := by
    clear separator
    induction items with
    | nil => rfl
    | cons item rest induction =>
        rw [List.forall_mem_cons] at each
        rw [jsonItems, each.1.writes, induction each.2]
        rfl
  refine ⟨blanks, blank, jsonDumps_list_ok_iff.mpr ⟨depth, _, rfl, texts, ?_⟩⟩
  apply String.toList_inj.mp
  rw [String.toList_append, String.toList_append, toList_join, separator,
    List.map_map, String.toList_ofList]
  simp [Function.comp_def]

theorem readsBack_list {items : List Value} (standard : style.Standard)
    (each : ∀ item ∈ items, ReadsBack style floatRepr depth item) :
    ReadsBack style floatRepr (depth + 1) (.list items) := by
  obtain ⟨blanks, blank, written⟩ := JsonStyle.text_list standard each
  have parts := reads_parts ']' (.inl rfl) blank
    (fun item member => ⟨(each item member).opens, ?_⟩)
    (fun item member => (each item member).reads)
  · refine .of_text written ?_ ?_
    · rw [String.toList_ofList]
      exact ⟨'[', _, rfl, by decide, by decide⟩
    · intro rest _
      rw [String.toList_ofList, List.cons_append, scanOnce, scanValue,
        scanArray, parts rest trivial, JsonStyle.arranged, arrangedItems_eq]
      rfl
  · intro rest
    obtain ⟨head, tail, text, -, others⟩ := (each item member).opens
    rw [text, List.cons_append, List.head?_cons]
    rintro ⟨⟩
    exact others (by simp)

/-- The characters of a member of an object. -/
def JsonStyle.memberText (style : JsonStyle) (room : Nat)
    (entry : String × Value) : List Char :=
  (style.encode entry.1).toList ++ (style.keySeparator.toList ++
    style.text room entry.2)

theorem reads_member {entry : String × Value} (standard : style.Standard)
    (back : ReadsBack style floatRepr depth entry.2) :
    OpensValue (style.memberText depth entry) ∧
      Reads (scanMember (scanOnce floatRepr depth)) EndsNumber
        (style.memberText depth entry)
        (some (entry.1, style.arranged entry.2)) := by
  obtain ⟨blanks, separator, blank⟩ := standard.key
  obtain ⟨escaped, written, reads⟩ := toList_encode style entry.1
  rw [JsonStyle.memberText, written, separator]
  constructor
  · exact ⟨'"', _, rfl, by decide, by decide⟩
  · intro rest ends
    rw [List.append_assoc, List.append_assoc, List.cons_append, scanMember,
      reads _ trivial]
    simp only [bind, Except.bind, List.cons_append]
    rw [skipSpace_cons _ (by decide), List.head?_cons, if_pos rfl,
      List.tail_cons, skipSpace_blanks blank back.opens,
      back.reads rest ends]
    rfl

theorem JsonStyle.text_dict {entries : List (String × Value)}
    (standard : style.Standard)
    (each : ∀ entry ∈ entries, ReadsBack style floatRepr depth entry.2) :
    ∃ blanks, (∀ blank ∈ blanks, isJsonSpace blank = true) ∧
      jsonDumps style (depth + 1) (.dict entries) = .ok (String.ofList
        ('\x7b' :: (List.intercalate (',' :: blanks)
          ((style.ordered entries).map (style.memberText depth)) ++
            ['\x7d']))) := by
  obtain ⟨blanks, separator, blank⟩ := standard.item
  have texts : ∀ members : List (String × Value),
      (∀ entry ∈ members, ReadsBack style floatRepr depth entry.2) →
      jsonMembers style (members.map fun entry =>
        (entry.1, jsonDumps style depth entry.2)) =
          .ok (members.map fun entry =>
            String.ofList (style.memberText depth entry)) := by
    intro members each
    induction members with
    | nil => rfl
    | cons entry rest induction =>
        rw [List.forall_mem_cons] at each
        have text : style.encode entry.1 ++ style.keySeparator ++
            String.ofList (style.text depth entry.2) =
              String.ofList (style.memberText depth entry) := by
          apply String.toList_inj.mp
          simp [JsonStyle.memberText]
        rw [List.map_cons, jsonMembers, each.1.writes, induction each.2,
          List.map_cons, ← text]
        rfl
  have written := texts _ fun entry member =>
    each entry ((ordered_perm style entries).mem_iff.mp member)
  rw [← ordered_map, ← jsonEntries_eq] at written
  refine ⟨blanks, blank, jsonDumps_dict_ok_iff.mpr
    ⟨depth, _, rfl, written, ?_⟩⟩
  apply String.toList_inj.mp
  rw [String.toList_append, String.toList_append, toList_join, separator,
    List.map_map, String.toList_ofList]
  simp [Function.comp_def]

theorem readsBack_dict {entries : List (String × Value)}
    (standard : style.Standard) (distinct : (entries.map Prod.fst).Nodup)
    (each : ∀ entry ∈ entries, ReadsBack style floatRepr depth entry.2) :
    ReadsBack style floatRepr (depth + 1) (.dict entries) := by
  have permuted := ordered_perm style entries
  obtain ⟨blanks, blank, written⟩ := JsonStyle.text_dict standard each
  have parts := reads_parts '\x7d' (.inr rfl) blank
    (fun entry member => ⟨(reads_member standard
      (each entry (permuted.mem_iff.mp member))).1, ?_⟩)
    (fun entry member => (reads_member standard
      (each entry (permuted.mem_iff.mp member))).2)
  · refine .of_text written ?_ ?_
    · rw [String.toList_ofList]
      exact ⟨'\x7b', _, rfl, by decide, by decide⟩
    · intro rest _
      have keys : (((style.ordered entries).map fun entry =>
          (entry.1, style.arranged entry.2)).map Prod.fst).Nodup := by
        rw [List.map_map]
        exact (permuted.map Prod.fst).nodup_iff.mpr distinct
      rw [String.toList_ofList, List.cons_append, scanOnce, scanValue,
        scanObject, parts rest trivial, JsonStyle.arranged, arrangedEntries_eq,
        ordered_map]
      simp only [bind, Except.bind, Option.map_some, dictOf_of_nodup keys]
      rfl
  · intro rest
    obtain ⟨escaped, text, -⟩ := toList_encode style entry.1
    rw [JsonStyle.memberText, text, List.cons_append, List.cons_append,
      List.head?_cons]
    rintro ⟨⟩

end Lists

theorem Loadable.readsBack {value : Value}
    (loadable : Loadable floatRepr depth value) (standard : style.Standard) :
    ReadsBack style floatRepr depth value := by
  induction loadable with
  | null =>
      exact readsBack_constant ['n', 'u', 'l', 'l']
        (by simp [jsonConstants]) rfl rfl
  | bool value =>
      cases value with
      | true =>
          exact readsBack_constant ['t', 'r', 'u', 'e']
            (by simp [jsonConstants]) rfl rfl
      | false =>
          exact readsBack_constant ['f', 'a', 'l', 's', 'e']
            (by simp [jsonConstants]) rfl rfl
  | int printable => exact readsBack_int printable
  | float known => exact readsBack_float known
  | str text => exact readsBack_str text
  | list each induction =>
      exact readsBack_list standard fun item member => induction item member
  | dict distinct each induction =>
      exact readsBack_dict standard distinct fun entry member =>
        induction entry member

theorem Loadable.writes {value : Value}
    (loadable : Loadable floatRepr depth value) (standard : style.Standard) :
    ∃ text, jsonDumps style depth value = .ok text :=
  ⟨_, (loadable.readsBack standard).writes⟩

/-- What is written is loaded again, with its keys in the order of the text. -/
theorem jsonLoads_written {value : Value} {text : String} {room : Nat}
    (standard : style.Standard) (loadable : Loadable floatRepr depth value)
    (written : jsonDumps style room value = .ok text) :
    jsonLoads floatRepr depth text = .ok (some (style.arranged value)) := by
  have back := loadable.readsBack standard
  have reads := back.reads [] (by simp [EndsNumber])
  obtain ⟨head, tail, opens, notSpace, others⟩ := back.opens
  have same : style.text depth value = text.toList := by
    rw [jsonDumps_unique written back.writes, String.toList_ofList]
  rw [List.append_nil] at reads
  rw [same] at reads opens
  have mark : text.toList.head? ≠ some '\ufeff' := by
    rw [opens, List.head?_cons]
    rintro ⟨⟩
    exact others (by simp)
  have spaces : skipSpace text.toList = text.toList := by
    rw [opens]
    exact skipSpace_cons tail notSpace
  have decoded : decodeJson floatRepr depth text.toList =
      .ok (some (style.arranged value)) := by
    rw [decodeJson, spaces, reads]
    rfl
  rw [jsonLoads]
  simp only [if_neg mark, decoded]

theorem loadsWith_written {lone : String → Except Exc Value} {value : Value}
    {text : String} {room : Nat} (standard : style.Standard)
    (loadable : Loadable floatRepr depth value)
    (written : jsonDumps style room value = .ok text) :
    loadsWith lone floatRepr depth text = .ok (style.arranged value) := by
  rw [loadsWith, jsonLoads_written standard loadable written]

end PipelineOps.Python
