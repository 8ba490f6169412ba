import PipelineOps.Graph.PoisonedCollection
import PipelineOps.Python.JsonLoaded

namespace PipelineOps.Graph

open PipelineOps.Library
open PipelineOps.Python
open PipelineOps.Tools

/-! The reason column, read by the decoder of the interpreter. -/

/-- The interpreter with the decoder of CPython. -/
def decoding (lone : String → Except Exc Value) (floatRepr : String → String)
    (depth room : Nat) : Interpreter where
  jsonLoads := loadsWith lone floatRepr depth
  room := room

variable {lone : String → Except Exc Value} {floatRepr : String → String}
  {depth room : Nat}

theorem jsonLoads_decoding (text : String) :
    (decoding lone floatRepr depth room).jsonLoads text =
      loadsWith lone floatRepr depth text := rfl

section Texts

variable {python : Interpreter} {width : Nat}

mutual
theorem hasRepr_of_loadable : (value : Value) → ∀ {width room},
    Loadable floatRepr width value → width ≤ room →
      ∃ text, value.repr room = .ok text
  | .null, _, _, _, _ => ⟨_, rfl⟩
  | .bool _, _, _, _, _ => ⟨_, rfl⟩
  | .int value, _, _, loadable, _ => by
      cases loadable with
      | int printable =>
          exact ⟨toString value, intText_of_printable printable⟩
  | .float _, _, _, _, _ => ⟨_, rfl⟩
  | .str _, _, _, _, _ => ⟨_, rfl⟩
  | .datetime _, _, _, loadable, _ => nomatch loadable
  | .object _, _, _, loadable, _ => nomatch loadable
  | .list items, _, room, loadable, within => by
      cases loadable with
      | @list width _ each =>
          obtain ⟨inner, rfl⟩ : ∃ inner, room = inner + 1 :=
            ⟨room - 1, by omega⟩
          obtain ⟨texts, written⟩ :=
            hasReprs_of_loadable items each (Nat.le_of_succ_le_succ within)
          rw [Value.repr, written]
          exact ⟨_, rfl⟩
  | .dict entries, _, room, loadable, within => by
      cases loadable with
      | @dict width _ distinct each =>
          obtain ⟨inner, rfl⟩ : ∃ inner, room = inner + 1 :=
            ⟨room - 1, by omega⟩
          obtain ⟨texts, written⟩ := entriesHaveReprs_of_loadable entries each
            (Nat.le_of_succ_le_succ within)
          rw [Value.repr, written]
          exact ⟨_, rfl⟩

theorem hasReprs_of_loadable : (items : List Value) → ∀ {width room},
    (∀ item ∈ items, Loadable floatRepr width item) → width ≤ room →
      ∃ texts, Value.reprItems (room + 1) items = .ok texts
  | [], _, _, _, _ => ⟨[], rfl⟩
  | item :: rest, _, _, each, within => by
      rw [List.forall_mem_cons] at each
      obtain ⟨text, written⟩ := hasRepr_of_loadable item each.1 within
      obtain ⟨texts, others⟩ := hasReprs_of_loadable rest each.2 within
      rw [Value.reprItems, Value.descend, written, others]
      exact ⟨_, rfl⟩

theorem entriesHaveReprs_of_loadable : (entries : List (String × Value)) →
    ∀ {width room}, (∀ entry ∈ entries, Loadable floatRepr width entry.2) →
      width ≤ room →
        ∃ texts, Value.reprEntries (room + 1) entries = .ok texts
  | [], _, _, _, _ => ⟨[], rfl⟩
  | (key, value) :: rest, _, _, each, within => by
      rw [List.forall_mem_cons] at each
      obtain ⟨text, written⟩ := hasRepr_of_loadable value each.1 within
      obtain ⟨texts, others⟩ := entriesHaveReprs_of_loadable rest each.2 within
      rw [Value.reprEntries, Value.descend, written, others]
      exact ⟨_, rfl⟩
end

theorem hasText_of_loadable {value : Value}
    (loadable : Loadable floatRepr width value) (within : width ≤ python.room) :
    HasText python value := by
  obtain ⟨text, written⟩ := hasRepr_of_loadable value loadable within
  cases value with
  | str text => exact ⟨text, rfl⟩
  | datetime value => nomatch loadable
  | null => exact ⟨text, written⟩
  | bool value => exact ⟨text, written⟩
  | int value => exact ⟨text, written⟩
  | float repr => exact ⟨text, written⟩
  | list items => exact ⟨text, written⟩
  | dict entries => exact ⟨text, written⟩
  | object text => nomatch loadable

/-- Every entry of the record is a JSON value, nested at most so deep. -/
def JsonRecord (floatRepr : String → String) (width : Nat)
    (record : BadRecord) : Prop :=
  ∀ entry ∈ record, Loadable floatRepr width entry.2

theorem loadable_lookup {entries : List (String × Value)} {key : String}
    {value : Value} (each : ∀ entry ∈ entries, Loadable floatRepr width entry.2)
    (found : entries.lookup key = some value) :
    Loadable floatRepr width value := by
  obtain ⟨before, after, rfl, -⟩ := List.lookup_eq_some_iff.mp found
  exact each (key, value) (by simp)

theorem loadable_get {entries : List (String × Value)} (key : String)
    (each : ∀ entry ∈ entries, Loadable floatRepr width entry.2) :
    Loadable floatRepr width (Value.get entries key) := by
  rw [Value.get]
  cases found : entries.lookup key with
  | none => exact .null
  | some value => exact loadable_lookup each found

theorem hasText_getOr {record : BadRecord} (key default : String)
    (json : JsonRecord floatRepr width record) (within : width ≤ python.room) :
    HasText python (getOr record key (.str default)) := by
  rw [getOr]
  cases found : record.lookup key with
  | none => exact ⟨default, rfl⟩
  | some value =>
      exact hasText_of_loadable (loadable_lookup json found) within

theorem readsTexts_of_loadable {entries : List (String × Value)}
    (each : ∀ entry ∈ entries, Loadable floatRepr width entry.2)
    (within : width ≤ python.room) (keys : List String) :
    ReadsTexts python entries keys := by
  induction keys with
  | nil => trivial
  | cons key rest induction =>
      exact ⟨.inr (hasText_of_loadable (loadable_get key each) within),
        fun _ => induction⟩

end Texts

section Aborts

/-- The reason is a text that the interpreter refuses to decode: with an
integer that is too long, or nested too deep. -/
def RefusedReason (depth : Nat) (record : BadRecord) : Prop :=
  ∃ text, Value.get record "reason" = .str text ∧
    (HasLongInteger text.toList ∨
      depth < text.toList.countP fun character =>
        character = '[' || character = '\x7b')

/-- No text of the reason has a lone surrogate. -/
def ReadableReason (floatRepr : String → String) (depth : Nat)
    (record : BadRecord) : Prop :=
  ∀ text, Value.get record "reason" = .str text →
    jsonLoads floatRepr depth text ≠ .ok none

theorem loadsReason_of_not_refused {record : BadRecord}
    (accepted : ¬ RefusedReason depth record)
    (readable : ReadableReason floatRepr depth record) :
    LoadsReason (decoding lone floatRepr depth room)
      (Value.get record "reason") := by
  intro text reason
  rw [jsonLoads_decoding, loadsWith]
  cases loaded : jsonLoads floatRepr depth text with
  | ok read =>
      cases read with
      | none => exact absurd loaded (readable text reason)
      | some value => trivial
  | error exc =>
      rcases jsonLoads_error_cases loaded with
        ⟨problem, left, -, rfl⟩ | ⟨-, long⟩ | ⟨-, deep⟩
      · rfl
      · exact absurd ⟨text, reason, .inl long⟩ accepted
      · exact absurd ⟨text, reason, .inr deep⟩ accepted

theorem parsedReason_loadable (law : FloatLaw floatRepr)
    (shallow : depth ≤ room + 1) {reason : Value}
    (loadable : Loadable floatRepr room reason)
    (readable : ∀ text, reason = .str text →
      jsonLoads floatRepr depth text ≠ .ok none) :
    ∃ inner ≤ room, ∀ entry ∈
      parsedReasonOf (decoding lone floatRepr depth room) reason,
        Loadable floatRepr inner entry.2 := by
  cases loadable with
  | str text =>
      rw [parsedReasonOf, jsonLoads_decoding, loadsWith]
      cases loaded : jsonLoads floatRepr depth text with
      | error exc => exact ⟨0, Nat.zero_le _, by simp⟩
      | ok read =>
          cases read with
          | none => exact absurd loaded (readable text rfl)
          | some value =>
              have known := loadable_of_loaded law loaded
              cases known with
              | dict distinct each => exact ⟨_, by omega, each⟩
              | _ => exact ⟨0, Nat.zero_le _, by simp⟩
  | @dict inner entries distinct each => exact ⟨inner, by omega, each⟩
  | _ => exact ⟨0, Nat.zero_le _, by simp [parsedReasonOf]⟩

theorem digestible_of_accepted (law : FloatLaw floatRepr)
    (shallow : depth ≤ room + 1) {records : List BadRecord}
    (json : ∀ record ∈ records, JsonRecord floatRepr room record)
    (readable : ∀ record ∈ records, ReadableReason floatRepr depth record)
    (accepted : ∀ record ∈ records, ¬ RefusedReason depth record) :
    Digestible (decoding lone floatRepr depth room) defaultCaps records where
  keyed record member := by
    obtain ⟨inner, within, each⟩ := parsedReason_loadable law shallow
      (loadable_get "reason" (json record member)) (readable record member)
    exact ⟨hasText_getOr _ _ (json record member) (Nat.le_refl _),
      loadsReason_of_not_refused (accepted record member)
        (readable record member),
      readsTexts_of_loadable each within _⟩
  sampled key record sampled := by
    rw [sampledRecords] at sampled
    have member : record ∈ records :=
      List.mem_of_mem_filter (List.mem_of_mem_take sampled)
    exact hasText_getOr _ _ (json record member) (Nat.le_refl _)

/-- Rows of JSON values that are not nested too deep for their texts abort the
collection only by a reason that the interpreter refuses to decode. -/
theorem aborted_by_reason (law : FloatLaw floatRepr)
    (shallow : depth ≤ room + 1) {state : State} {records : List BadRecord}
    (lists : ListsRows state records)
    (json : ∀ record ∈ records, JsonRecord floatRepr room record)
    (readable : ∀ record ∈ records, ReadableReason floatRepr depth record)
    (aborted : ¬ ∃ updates,
      Collect.run (decoding lone floatRepr depth room) state = .ok updates) :
    ∃ record ∈ records, RefusedReason depth record := by
  by_contra none
  have accepted : ∀ record ∈ records, ¬ RefusedReason depth record :=
    fun record member refused => none ⟨record, member, refused⟩
  exact aborted ((collect_ok_iff lists).mpr
    (digestible_of_accepted law shallow json readable accepted))

end Aborts

/-- A reason of one array inside another, where one array may be opened. -/
theorem aborted_by_reason_nested :
    ∃ record ∈ [reasonRecord "[[]]"], RefusedReason 1 record := by
  have refused : (decoding unreadable id 1 1).jsonLoads "[[]]" =
      .error ⟨.recursionError, "maximum recursion depth exceeded while " ++
        "decoding a JSON array from a unicode string"⟩ := rfl
  have json : ∀ record ∈ [reasonRecord "[[]]"], JsonRecord id 1 record := by
    simp only [List.forall_mem_singleton, JsonRecord, reasonRecord]
    exact .str "[[]]"
  have readable : ∀ record ∈ [reasonRecord "[[]]"],
      ReadableReason id 1 record := by
    rw [List.forall_mem_singleton]
    rintro text ⟨⟩
    intro loaded
    rw [jsonLoads_decoding, loadsWith, loaded] at refused
    cases refused
  exact aborted_by_reason floatLaw_id (by decide) (reasonState_lists "[[]]")
    json readable fun returned => not_digestible_of_refused refused (by decide)
      ((collect_ok_iff (reasonState_lists "[[]]")).mp returned)

section Encoded

/-- A reason that names what is wrong. -/
def TellsReason (python : Interpreter) (entries : List (String × Value)) :
    Prop :=
  ∃ reason, reasonText python entries ["detail", "rule", "reason"] "" =
    .ok reason ∧ strip reason ≠ ""

/-- A reason with what is wrong, and its text as JSON with keys unsorted. -/
def EncodedReason (python : Interpreter) (floatRepr : String → String)
    (depth : Nat) (reason encoded : Value) : Prop :=
  ∃ style room entries text, JsonStyle.Standard style ∧
    style.sortKeys = false ∧ reason = .dict entries ∧ encoded = .str text ∧
    Loadable floatRepr depth reason ∧ TellsReason python entries ∧
    jsonDumps style room reason = .ok text

/-- The same records, of which the reasons of some are encoded. -/
abbrev EncodedRecords (python : Interpreter) (floatRepr : String → String)
    (depth : Nat) : List BadRecord → List BadRecord → Prop :=
  List.Forall₂ (AgreeUpTo "reason" (EncodedReason python floatRepr depth))

variable {reason encoded : Value} {record other : BadRecord}
  {records others : List BadRecord}

theorem extract_encoded
    (same : EncodedReason (decoding lone floatRepr depth room) floatRepr depth
      reason encoded) :
    extractFieldAndReason (decoding lone floatRepr depth room) encoded =
      extractFieldAndReason (decoding lone floatRepr depth room) reason := by
  obtain ⟨style, written, entries, text, standard, unsorted, rfl, rfl, loadable,
    ⟨told, read, filled⟩, dumped⟩ := same
  have decoded : (decoding lone floatRepr depth room).jsonLoads text =
      .ok (.dict entries) := by
    rw [← arranged_of_unsorted unsorted (.dict entries)]
    exact loadsWith_written standard loadable dumped
  have parsed : parseReason (decoding lone floatRepr depth room) (.str text) =
      .ok (entries, text) := by
    rw [parseReason, decoded]
  rw [extractFieldAndReason, extractFieldAndReason, parsed, parseReason]
  simp only [bind, Except.bind, read, if_neg filled]

theorem violationKey_encoded
    (agree : AgreeUpTo "reason" (EncodedReason
      (decoding lone floatRepr depth room) floatRepr depth) record other) :
    violationKey (decoding lone floatRepr depth room) other =
      violationKey (decoding lone floatRepr depth room) record := by
  have reasons :
      extractFieldAndReason (decoding lone floatRepr depth room)
          (Value.get other "reason") =
        extractFieldAndReason (decoding lone floatRepr depth room)
          (Value.get record "reason") := by
    rcases agree.lookup_key with same | ⟨first, second, left, right, apart⟩
    · rw [Value.get, Value.get, same]
    · rw [Value.get, Value.get, left, right]
      exact extract_encoded apart
  rw [violationKey, violationKey, reasons, getOr, getOr,
    agree.lookup_of_ne (by decide)]

theorem groupRecord_encoded {caps : SummaryCaps} {violations : List Violation}
    (agree : AgreeUpTo "reason" (EncodedReason
      (decoding lone floatRepr depth room) floatRepr depth) record other) :
    groupRecord (decoding lone floatRepr depth room) caps violations other =
      groupRecord (decoding lone floatRepr depth room) caps violations
        record := by
  rw [groupRecord, groupRecord, violationKey_encoded agree, getOr, getOr,
    agree.lookup_of_ne (by decide)]

theorem groupRecords_encoded (caps : SummaryCaps) (violations : List Violation)
    (same : EncodedRecords (decoding lone floatRepr depth room) floatRepr depth
      records others) :
    groupRecords (decoding lone floatRepr depth room) caps violations others =
      groupRecords (decoding lone floatRepr depth room) caps violations
        records := by
  induction same generalizing violations with
  | nil => rfl
  | cons agree rest induction =>
      rw [groupRecords, groupRecords, groupRecord_encoded agree]
      exact congrArg _ (funext induction)

/-- The summary is the same whether the reasons come decoded or as texts. -/
theorem summarize_encoded {caps : SummaryCaps}
    (same : EncodedRecords (decoding lone floatRepr depth room) floatRepr depth
      records others) :
    summarizeBadRecords (decoding lone floatRepr depth room) caps others =
      summarizeBadRecords (decoding lone floatRepr depth room) caps
        records := by
  have length := same.length_eq
  have grouped := groupRecords_encoded caps [] same
  cases same with
  | nil => rfl
  | cons agree rest =>
      rw [summarizeBadRecords, summarizeBadRecords, grouped, length]
      · simp
      · simp

end Encoded

/-- A reason with a detail, and its text without blanks. -/
theorem summarize_encoded_detail :
    summarizeBadRecords (decoding unreadable id 1 1) defaultCaps
        [[("reason", .str "\x7b\"detail\":\"null wallet\"\x7d")]] =
      summarizeBadRecords (decoding unreadable id 1 1) defaultCaps
        [[("reason", .dict [("detail", .str "null wallet")])]] := by
  apply summarize_encoded
  apply List.Forall₂.cons _ List.Forall₂.nil
  apply AgreeUpTo.changed _ AgreeUpTo.nil
  refine ⟨compactStyle, 1, _, _, ⟨⟨[], rfl, by simp⟩, ⟨[], rfl, by simp⟩⟩, rfl,
    rfl, rfl, ?_, ⟨"null wallet", rfl, by decide⟩, rfl⟩
  exact .dict (by simp) (by simpa using .str "null wallet")

end PipelineOps.Graph
