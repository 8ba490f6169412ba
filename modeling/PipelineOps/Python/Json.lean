import PipelineOps.Library.Fallible
import PipelineOps.Python.Value

namespace PipelineOps.Python

open PipelineOps.Library

/-! `json.dumps`. -/

def hexDigits (code : Nat) : List Char :=
  [Nat.digitChar (code / 4096 % 16), Nat.digitChar (code / 256 % 16),
    Nat.digitChar (code / 16 % 16), Nat.digitChar (code % 16)]

/-- One UTF-16 unit. -/
def escapeUnit (unit : Nat) : List Char := '\\' :: 'u' :: hexDigits unit

def escapeChar (character : Char) : List Char :=
  let code := character.toNat
  if character = '"' then ['\\', '"']
  else if character = '\\' then ['\\', '\\']
  else if character = '\n' then ['\\', 'n']
  else if character = '\r' then ['\\', 'r']
  else if character = '\t' then ['\\', 't']
  else if code = 0x0C then ['\\', 'f']
  else if code = 0x08 then ['\\', 'b']
  else if 0x20 ≤ code ∧ code ≤ 0x7E then [character]
  else if code < 0x10000 then escapeUnit code
  else
    escapeUnit (0xD800 + (code - 0x10000) / 1024) ++
      escapeUnit (0xDC00 + (code - 0x10000) % 1024)

/-- `py_encode_basestring_ascii`. -/
def encodeBasestringAscii (text : String) : String :=
  String.ofList ('"' :: text.toList.flatMap escapeChar ++ ['"'])

/-- The text of a float, from its `repr`. -/
def floatstr (repr : String) : String :=
  if repr = "nan" then "NaN"
  else if repr = "inf" then "Infinity"
  else if repr = "-inf" then "-Infinity"
  else repr

def sortedItems {α : Type} (items : List (String × α)) : List (String × α) :=
  items.insertionSort fun first second => first.1 ≤ second.1

/-- The options of `json.dumps`. -/
structure JsonStyle where
  ensureAscii : Bool
  itemSeparator : String
  keySeparator : String
  sortKeys : Bool

/-- `json.dumps(value, sort_keys=True, separators=(",", ":"))`. -/
def canonicalStyle : JsonStyle := ⟨true, ",", ":", true⟩

/-- `ESCAPE_DCT`, where `ensure_ascii` is off. -/
def escapeControl (character : Char) : List Char :=
  if character.toNat < 0x20 ∨ character = '"' ∨ character = '\\' then
    escapeChar character
  else [character]

/-- `py_encode_basestring`. -/
def encodeBasestring (text : String) : String :=
  String.ofList ('"' :: text.toList.flatMap escapeControl ++ ['"'])

def JsonStyle.encode (style : JsonStyle) (text : String) : String :=
  if style.ensureAscii then encodeBasestringAscii text
  else encodeBasestring text

def JsonStyle.ordered {α : Type} (style : JsonStyle)
    (items : List (String × α)) : List (String × α) :=
  if style.sortKeys then sortedItems items else items

/-- `JSONEncoder.default`, which takes two calls. -/
def notSerializable (room : Nat) (value : Value) : Except Exc String :=
  Value.descend room "" fun room =>
    Value.descend room " while calling a Python object" fun _ =>
      .error (.typeError ("Object of type " ++ value.typeName ++
        " is not JSON serializable"))

/-- The entries of an object in their order, up to the first value that cannot
be written. -/
def jsonMembers (style : JsonStyle) :
    List (String × Except Exc String) → Except Exc (List String)
  | [] => .ok []
  | (key, written) :: rest => do
      let text ← written
      let texts ← jsonMembers style rest
      pure ((style.encode key ++ style.keySeparator ++ text) :: texts)

mutual
/-- `json.dumps(value)`, where so many arrays and objects may be entered. -/
def jsonDumps (style : JsonStyle) (room : Nat) : Value → Except Exc String
  | .null => .ok "null"
  | .bool value => .ok (if value then "true" else "false")
  | .int value => Value.intText value
  | .float repr => .ok (floatstr repr)
  | .str text => .ok (style.encode text)
  | .list items =>
      Value.descend room " while encoding a JSON object" fun room => do
        let texts ← jsonItems style room items
        pure ("[" ++ join style.itemSeparator texts ++ "]")
  | .dict entries =>
      Value.descend room " while encoding a JSON object" fun room => do
        let texts ← jsonMembers style
          (style.ordered (jsonEntries style room entries))
        pure ("\x7b" ++ join style.itemSeparator texts ++ "\x7d")
  | .datetime value => notSerializable room (.datetime value)
  | .object text => notSerializable room (.object text)

def jsonItems (style : JsonStyle) (room : Nat) :
    List Value → Except Exc (List String)
  | [] => .ok []
  | item :: rest => do
      let text ← jsonDumps style room item
      let texts ← jsonItems style room rest
      pure (text :: texts)

def jsonEntries (style : JsonStyle) (room : Nat) : List (String × Value) →
    List (String × Except Exc String)
  | [] => []
  | (key, value) :: rest =>
      (key, jsonDumps style room value) :: jsonEntries style room rest
end

section Written

theorem sortedItems_map {α β : Type} (convert : α → β)
    (items : List (String × α)) :
    sortedItems (items.map fun item => (item.1, convert item.2)) =
      (sortedItems items).map fun item => (item.1, convert item.2) := by
  unfold sortedItems
  apply Eq.symm
  apply List.map_insertionSort
  intro first _ second _
  exact Iff.rfl

theorem mem_sortedItems {α : Type} {items : List (String × α)}
    {item : String × α} : item ∈ sortedItems items ↔ item ∈ items :=
  List.mem_insertionSort _

variable (style : JsonStyle)

theorem ordered_map {α β : Type} (convert : α → β)
    (items : List (String × α)) :
    style.ordered (items.map fun item => (item.1, convert item.2)) =
      (style.ordered items).map fun item => (item.1, convert item.2) := by
  rw [JsonStyle.ordered, JsonStyle.ordered]
  split
  · exact sortedItems_map convert items
  · rfl

variable {style} {room : Nat} {text : String}

theorem mem_ordered {α : Type} {items : List (String × α)}
    {item : String × α} : item ∈ style.ordered items ↔ item ∈ items := by
  rw [JsonStyle.ordered]
  split
  · exact mem_sortedItems
  · exact Iff.rfl

theorem notSerializable_error (room : Nat) (value : Value) :
    ∃ exc, notSerializable room value = .error exc := by
  cases room with
  | zero => exact ⟨_, rfl⟩
  | succ room => cases room <;> exact ⟨_, rfl⟩

theorem jsonDumps_list_ok_iff {items : List Value} :
    jsonDumps style room (.list items) = .ok text ↔
      ∃ inner texts, room = inner + 1 ∧
        jsonItems style inner items = .ok texts ∧
        "[" ++ join style.itemSeparator texts ++ "]" = text := by
  rw [jsonDumps, Value.descend_ok_iff]
  simp only [bind_ok_iff, pure, Except.pure, Except.ok.injEq,
    exists_and_left]

theorem jsonDumps_dict_ok_iff {entries : List (String × Value)} :
    jsonDumps style room (.dict entries) = .ok text ↔
      ∃ inner texts, room = inner + 1 ∧ jsonMembers style
          (style.ordered (jsonEntries style inner entries)) = .ok texts ∧
        "\x7b" ++ join style.itemSeparator texts ++ "\x7d" = text := by
  rw [jsonDumps, Value.descend_ok_iff]
  simp only [bind_ok_iff, pure, Except.pure, Except.ok.injEq,
    exists_and_left]

theorem jsonEntries_eq (entries : List (String × Value)) :
    jsonEntries style room entries =
      entries.map fun entry => (entry.1, jsonDumps style room entry.2) := by
  induction entries with
  | nil => rfl
  | cons entry rest induction =>
      rw [jsonEntries, induction]
      rfl

theorem jsonMembers_of_forall₂
    {members others : List (String × Except Exc String)} {texts : List String}
    (more : List.Forall₂ (fun member other =>
      member.1 = other.1 ∧ ∀ text, member.2 = .ok text → other.2 = .ok text)
        members others)
    (written : jsonMembers style members = .ok texts) :
    jsonMembers style others = .ok texts := by
  induction more generalizing texts with
  | nil => exact written
  | @cons member other members others pair rest induction =>
      obtain ⟨key, first⟩ := member
      obtain ⟨otherKey, second⟩ := other
      obtain ⟨keys, kept⟩ := pair
      obtain ⟨text, own, written⟩ := bind_ok_iff.mp written
      obtain ⟨texts, others, written⟩ := bind_ok_iff.mp written
      obtain rfl : key = otherKey := keys
      exact bind_ok_iff.mpr ⟨text, kept text own,
        bind_ok_iff.mpr ⟨texts, induction others, written⟩⟩

mutual
/-- With more room, no other text is written. -/
theorem jsonDumps_mono : (value : Value) → ∀ {room more text},
    room ≤ more → jsonDumps style room value = .ok text →
      jsonDumps style more value = .ok text
  | .null, _, _, _, _, written | .bool _, _, _, _, _, written
  | .int _, _, _, _, _, written | .float _, _, _, _, _, written
  | .str _, _, _, _, _, written => written
  | .datetime value, room, _, _, _, written => by
      obtain ⟨exc, failed⟩ := notSerializable_error room (.datetime value)
      rw [jsonDumps, failed] at written
      cases written
  | .object text, room, _, _, _, written => by
      obtain ⟨exc, failed⟩ := notSerializable_error room (.object text)
      rw [jsonDumps, failed] at written
      cases written
  | .list items, _, more, _, grows, written => by
      obtain ⟨inner, texts, rfl, listed, joined⟩ :=
        jsonDumps_list_ok_iff.mp written
      obtain ⟨more, rfl⟩ : ∃ less, more = less + 1 := ⟨more - 1, by omega⟩
      exact jsonDumps_list_ok_iff.mpr
        ⟨more, texts, rfl, jsonItems_mono items (by omega) listed, joined⟩
  | .dict entries, _, more, _, grows, written => by
      obtain ⟨inner, texts, rfl, listed, joined⟩ :=
        jsonDumps_dict_ok_iff.mp written
      obtain ⟨more, rfl⟩ : ∃ less, more = less + 1 := ⟨more - 1, by omega⟩
      refine jsonDumps_dict_ok_iff.mpr ⟨more, texts, rfl, ?_, joined⟩
      refine jsonMembers_of_forall₂ ?_ listed
      rw [jsonEntries_eq, jsonEntries_eq, ordered_map, ordered_map,
        List.forall₂_map_left_iff, List.forall₂_map_right_iff,
        List.forall₂_same]
      intro entry member
      rw [mem_ordered] at member
      exact ⟨rfl, fun text own =>
        jsonEntry_mono entries member (by omega) own⟩

theorem jsonItems_mono : (items : List Value) → ∀ {room more texts},
    room ≤ more → jsonItems style room items = .ok texts →
      jsonItems style more items = .ok texts
  | [], _, _, _, _, written => written
  | item :: rest, _, _, _, grows, written => by
      obtain ⟨text, own, written⟩ := bind_ok_iff.mp written
      obtain ⟨texts, others, written⟩ := bind_ok_iff.mp written
      exact bind_ok_iff.mpr ⟨text, jsonDumps_mono item grows own,
        bind_ok_iff.mpr ⟨texts, jsonItems_mono rest grows others, written⟩⟩

theorem jsonEntry_mono : (entries : List (String × Value)) →
    ∀ {entry room more text}, entry ∈ entries → room ≤ more →
      jsonDumps style room entry.2 = .ok text →
        jsonDumps style more entry.2 = .ok text
  | [], _, _, _, _, member, _, _ => nomatch member
  | (key, value) :: rest, _, _, _, _, member, grows, written => by
      rcases List.mem_cons.mp member with rfl | later
      · exact jsonDumps_mono value grows written
      · exact jsonEntry_mono rest later grows written
end

theorem jsonDumps_unique {value : Value} {other : String} {more : Nat}
    (written : jsonDumps style room value = .ok text)
    (again : jsonDumps style more value = .ok other) : text = other := by
  have left := jsonDumps_mono value (Nat.le_max_left room more) written
  have right := jsonDumps_mono value (Nat.le_max_right room more) again
  exact Except.ok.inj (left.symm.trans right)

end Written

end PipelineOps.Python
