import PipelineOps.Tools.BadRecordsSummary

namespace PipelineOps.Tools

open PipelineOps.Library
open PipelineOps.Python

/-! Which bad records abort their aggregation. -/

section Digestible

/-- `str(value)` returns. -/
def HasText (python : Interpreter) (value : Value) : Prop :=
  ∃ text, value.toStr python.room = .ok text

/-- A value behind which the loop over the keys of a reason looks on. -/
def Blank (python : Interpreter) (value : Value) : Prop :=
  value = .null ∨
    ∃ text, value.toStr python.room = .ok text ∧ strip text = ""

/-- The values of a parsed reason have texts, up to the first that is not
blank. -/
def ReadsTexts (python : Interpreter) (parsedReason : List (String × Value)) :
    List String → Prop
  | [] => True
  | key :: rest =>
      (Value.get parsedReason key = .null ∨
        HasText python (Value.get parsedReason key)) ∧
      (Blank python (Value.get parsedReason key) →
        ReadsTexts python parsedReason rest)

/-- The `parsed_reason` of a raw reason that is not rejected. -/
def parsedReasonOf (python : Interpreter) :
    Value → List (String × Value)
  | .dict entries => entries
  | .str rawReason =>
      match python.jsonLoads rawReason with
      | .ok (.dict entries) => entries
      | _ => []
  | _ => []

/-- `json.loads` reads a raw reason, or finds it malformed. -/
def LoadsReason (python : Interpreter) (rawReason : Value) : Prop :=
  ∀ text, rawReason = .str text →
    Ends (fun _ => True) (fun exc => exc.cls = .jsonDecodeError)
      (python.jsonLoads text)

structure DigestibleRecord (python : Interpreter) (record : BadRecord) :
    Prop where
  sourceTable : HasText python (getOr record "source_table" (.str "unknown"))
  loads : LoadsReason python (Value.get record "reason")
  texts : ReadsTexts python
    (parsedReasonOf python (Value.get record "reason"))
    ["detail", "rule", "reason"]

/-- No record is poison, neither by its key nor as a sample. -/
structure Digestible (python : Interpreter) (caps : SummaryCaps)
    (records : List BadRecord) : Prop where
  keyed : ∀ record ∈ records, DigestibleRecord python record
  sampled : ∀ key, ∀ record ∈ sampledRecords python caps records key,
    HasText python (getOr record "record_json" (.str ""))

variable {python : Interpreter} {caps : SummaryCaps}
  {parsedReason : List (String × Value)}

theorem reasonText_ok_iff {keys : List String} {text : String} :
    (∃ reason, reasonText python parsedReason keys text = .ok reason) ↔
      ReadsTexts python parsedReason keys := by
  induction keys generalizing text with
  | nil => simp [reasonText, ReadsTexts]
  | cons key rest induction =>
      rw [reasonText, ReadsTexts]
      by_cases null : Value.get parsedReason key = .null
      · simp only [null, Value.isNull, if_true]
        rw [induction]
        simp [Blank]
      · have value : (Value.get parsedReason key).isNull = false := by
          rw [Bool.eq_false_iff, Ne, Value.isNull_iff]
          exact null
        simp only [value, null, false_or, HasText, Blank]
        cases written : (Value.get parsedReason key).toStr python.room with
        | error exc => simp [bind, Except.bind]
        | ok reason =>
            by_cases blank : strip reason = ""
            · simp [bind, Except.bind, blank, induction]
            · simp [bind, Except.bind, blank, pure, Except.pure]

theorem parseReason_ok_iff {rawReason : Value} :
    (∃ parsed, parseReason python rawReason = .ok parsed) ↔
      LoadsReason python rawReason := by
  cases rawReason with
  | str text =>
      simp only [LoadsReason, Value.str.injEq, forall_eq']
      cases loaded : python.jsonLoads text with
      | ok value => cases value <;> simp [parseReason, loaded]
      | error exc =>
          by_cases malformed : exc.cls = .jsonDecodeError
          · simp [parseReason, loaded, malformed]
          · simp [parseReason, loaded, malformed]
  | _ => simp [parseReason, LoadsReason]

theorem parseReason_entries {rawReason : Value}
    {parsed : List (String × Value) × String}
    (returned : parseReason python rawReason = .ok parsed) :
    parsed.1 = parsedReasonOf python rawReason := by
  cases rawReason with
  | str text =>
      cases loaded : python.jsonLoads text with
      | ok value =>
          cases value <;>
            simp [parseReason, parsedReasonOf, loaded] at returned ⊢ <;>
            rw [← returned]
      | error exc =>
          simp only [parseReason, loaded] at returned
          split at returned
          · simp [parsedReasonOf, loaded, ← Except.ok.inj returned]
          · cases returned
  | _ => simp [parsedReasonOf, ← Except.ok.inj returned]

theorem extractFieldAndReason_ok_iff {rawReason : Value} :
    (∃ pair, extractFieldAndReason python rawReason = .ok pair) ↔
      LoadsReason python rawReason ∧
        ReadsTexts python (parsedReasonOf python rawReason)
          ["detail", "rule", "reason"] := by
  have pairs : ∀ parsed : List (String × Value) × String, ∀ reason : String,
      ∃ pair, (if strip reason = "" then
          (pure (fieldText (Value.get parsed.1 "field"),
            if parsed.2 = "" then "unknown" else parsed.2) :
              Except Exc (String × String))
        else pure (fieldText (Value.get parsed.1 "field"), reason)) =
          .ok pair := by
    intro parsed reason
    split <;> exact ⟨_, rfl⟩
  rw [← parseReason_ok_iff, extractFieldAndReason, bind_returns_iff]
  constructor
  · intro extracted
    obtain ⟨parsed, loaded, extracted⟩ := extracted
    obtain ⟨reason, written, -⟩ := bind_returns_iff.mp extracted
    rw [← parseReason_entries loaded]
    exact ⟨⟨parsed, loaded⟩, reasonText_ok_iff.mp ⟨reason, written⟩⟩
  · intro readable
    obtain ⟨⟨parsed, loaded⟩, texts⟩ := readable
    rw [← parseReason_entries loaded] at texts
    obtain ⟨reason, written⟩ := reasonText_ok_iff.mpr texts
    exact ⟨parsed, loaded,
      bind_returns_iff.mpr ⟨reason, written, pairs parsed reason⟩⟩

theorem violationKey_ok_iff {record : BadRecord} :
    (∃ key, violationKey python record = .ok key) ↔
      DigestibleRecord python record := by
  rw [violationKey, bind_returns_iff]
  constructor
  · intro keyed
    obtain ⟨table, named, keyed⟩ := keyed
    obtain ⟨pair, extracted, -⟩ := bind_returns_iff.mp keyed
    obtain ⟨loads, texts⟩ := extractFieldAndReason_ok_iff.mp ⟨pair, extracted⟩
    exact ⟨⟨table, named⟩, loads, texts⟩
  · intro digestible
    obtain ⟨table, named⟩ := digestible.sourceTable
    obtain ⟨pair, extracted⟩ := extractFieldAndReason_ok_iff.mpr
      ⟨digestible.loads, digestible.texts⟩
    exact ⟨table, named,
      bind_returns_iff.mpr ⟨pair, extracted, ⟨_, rfl⟩⟩⟩

theorem abbreviate_ok_iff {value : Value} {maxLength : Int} :
    (∃ sample, abbreviate python value maxLength = .ok sample) ↔
      HasText python value := by
  rw [abbreviate, bind_returns_iff, HasText]
  simp [pure, Except.pure]

end Digestible

section Aggregation

variable {python : Interpreter} {caps : SummaryCaps}
  {records rest : List BadRecord} {violations : List Violation}

theorem sampledRecords_append {key : ViolationKey} {record : BadRecord}
    (sampled : record ∈ sampledRecords python caps records key) :
    record ∈ sampledRecords python caps (records ++ rest) key := by
  rw [sampledRecords, recordsOf, group, List.filter_append, List.take_append]
  exact List.mem_append_left _ sampled

theorem Digestible.of_append
    (digestible : Digestible python caps (records ++ rest)) :
    Digestible python caps records where
  keyed record member :=
    digestible.keyed record (List.mem_append_left rest member)
  sampled key record sampled :=
    digestible.sampled key record (sampledRecords_append sampled)

/-- One digestible record more is counted. -/
theorem groupRecord_returns
    (tallied : Tallied python caps records violations) {record : BadRecord}
    (digestible : Digestible python caps (records ++ [record])) :
    ∃ after, groupRecord python caps violations record = .ok after := by
  obtain ⟨key, keyed⟩ :=
    violationKey_ok_iff.mpr (digestible.keyed record (by simp))
  rw [groupRecord, bind_returns_iff]
  refine ⟨key, keyed, ?_⟩
  split
  · rename_i room
    rw [bind_returns_iff]
    have shown : record ∈
        sampledRecords python caps (records ++ [record]) key := by
      rw [tallied.length_samplesOf] at room
      rw [sampledRecords_concat (keyOf_of_ok keyed), if_pos (by omega)]
      exact List.mem_append_right _ (List.mem_singleton_self record)
    obtain ⟨sample, abbreviated⟩ :=
      abbreviate_ok_iff.mpr (digestible.sampled key record shown)
    exact ⟨sample, abbreviated, _, rfl⟩
  · exact ⟨_, rfl⟩

theorem groupRecords_returns
    (tallied : Tallied python caps records violations)
    (digestible : Digestible python caps (records ++ rest)) :
    ∃ after, groupRecords python caps violations rest = .ok after := by
  induction rest generalizing records violations with
  | nil => exact ⟨violations, rfl⟩
  | cons record rest induction =>
      rw [List.append_cons] at digestible
      obtain ⟨next, counted⟩ :=
        groupRecord_returns tallied digestible.of_append
      rw [groupRecords, bind_returns_iff]
      exact ⟨next, counted,
        induction (tallied.groupRecord counted) digestible⟩

theorem forall₂_hasText {shown : List String} {sampled : List BadRecord}
    (isSample : List.Forall₂ (IsSample python caps) sampled shown) :
    ∀ record ∈ sampled,
      HasText python (getOr record "record_json" (.str "")) := by
  induction isSample with
  | nil => simp
  | cons first rest induction =>
      rw [List.forall_mem_cons]
      exact ⟨abbreviate_ok_iff.mp ⟨_, first⟩, induction⟩

theorem digestible_of_tallied
    (tallied : Tallied python caps records violations) :
    Digestible python caps records where
  keyed record member :=
    violationKey_ok_iff.mp ⟨_, tallied.keyed record member⟩
  sampled key := forall₂_hasText (tallied.forall₂_samples key)

/-- The loop counts all records exactly when none of them is poison. -/
theorem groupRecords_ok_iff :
    (∃ violations, groupRecords python caps [] records = .ok violations) ↔
      Digestible python caps records := by
  constructor
  · intro returned
    obtain ⟨violations, grouped⟩ := returned
    exact digestible_of_tallied (tallied_nil.groupRecords grouped)
  · intro digestible
    exact groupRecords_returns tallied_nil digestible

/-- The records are summarized, each of them counted. -/
def CountsEvery (python : Interpreter) (caps : SummaryCaps)
    (records : List BadRecord) : Prop :=
  ∃ summary, summarizeBadRecords python caps records = .ok summary ∧
    entryOf summary "total_records" = .int records.length

theorem summarizeBadRecords_ok_iff :
    (∃ summary, summarizeBadRecords python caps records = .ok summary) ↔
      Digestible python caps records := by
  rw [← groupRecords_ok_iff]
  cases records with
  | nil => exact iff_of_true ⟨_, rfl⟩ ⟨[], rfl⟩
  | cons record rest =>
      rw [summarizeBadRecords, bind_returns_iff]
      · constructor
        · intro returned
          obtain ⟨violations, grouped, -⟩ := returned
          exact ⟨violations, grouped⟩
        · intro returned
          obtain ⟨violations, grouped⟩ := returned
          exact ⟨violations, grouped, _, rfl⟩
      · simp

theorem total_of_summary {summary : Value}
    (returned : summarizeBadRecords python caps records = .ok summary) :
    entryOf summary "total_records" = .int records.length := by
  cases records with
  | nil =>
      rw [← Except.ok.inj returned]
      rfl
  | cons record rest =>
      obtain ⟨violations, -, returned⟩ := bind_ok_iff.mp returned
      rw [← Except.ok.inj returned]
      rfl

theorem countsEvery_iff :
    CountsEvery python caps records ↔ Digestible python caps records := by
  rw [← summarizeBadRecords_ok_iff]
  constructor
  · intro counts
    obtain ⟨summary, returned, -⟩ := counts
    exact ⟨summary, returned⟩
  · intro returned
    obtain ⟨summary, returned⟩ := returned
    exact ⟨summary, returned, total_of_summary returned⟩

end Aggregation

end PipelineOps.Tools
