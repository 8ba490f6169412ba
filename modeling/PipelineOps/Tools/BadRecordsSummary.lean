import Mathlib.Data.String.Basic
import PipelineOps.Library.Fallible
import PipelineOps.Library.Ranking
import PipelineOps.Tools.BadRecords

namespace PipelineOps.Tools

open PipelineOps.Library
open PipelineOps.Python

/-! The summary of bad records, against what it is to aggregate. -/

abbrev BadRecord := List (String × Value)

/-- The key of a record that has one. -/
def keyOf (python : Interpreter) (record : BadRecord) : ViolationKey :=
  match violationKey python record with
  | .ok key => key
  | .error _ => ⟨"", "", ""⟩

def recordsOf (python : Interpreter) (records : List BadRecord)
    (key : ViolationKey) : List BadRecord :=
  group (keyOf python) records key

/-- The records of a key whose `record_json` is shown. -/
def sampledRecords (python : Interpreter) (caps : SummaryCaps)
    (records : List BadRecord) (key : ViolationKey) : List BadRecord :=
  (recordsOf python records key).take caps.maxSamplesPerType.toNat

def IsSample (python : Interpreter) (caps : SummaryCaps) (record : BadRecord)
    (sample : String) : Prop :=
  abbreviate python (getOr record "record_json" (.str ""))
    caps.maxRecordJsonLength = .ok sample

/-- Counts descending, then texts ascending. -/
abbrev Rank := Lex (Int × Lex (String × Lex (String × String)))

def rank (count : Nat) (key : ViolationKey) : Rank :=
  toLex (-(count : Int),
    toLex (key.sourceTable, toLex (key.field, key.reason)))

def rankOf (python : Interpreter) (records : List BadRecord)
    (key : ViolationKey) : Rank :=
  rank (recordsOf python records key).length key

theorem rank_key_injective {count other : Nat} {key another : ViolationKey}
    (same : rank count key = rank other another) : key = another := by
  have parts := Prod.mk.inj (toLex.injective same)
  have texts := Prod.mk.inj (toLex.injective parts.2)
  have reasons := Prod.mk.inj (toLex.injective texts.2)
  cases key
  cases another
  simp_all

theorem precedes_iff {left right : Violation} :
    left.precedes right = true ↔
      rank left.count left.key ≤ rank right.count right.key := by
  have reasons : decide (left.key.reason ≤ right.key.reason) = true ↔
      left.key.reason ≤ right.key.reason := decide_eq_true_iff
  have fields := lex_le_iff left.key.field right.key.field reasons
  have tables := lex_le_iff left.key.sourceTable right.key.sourceTable fields
  have counts := lex_le_iff (-(left.count : Int)) (-(right.count : Int)) tables
  have same : -(left.count : Int) = -(right.count : Int) ↔
      left.count = right.count := by omega
  have more : -(left.count : Int) < -(right.count : Int) ↔
      right.count < left.count := by omega
  rw [rank, rank, ← counts, Violation.precedes]
  simp only [ne_eq, same, more]

instance precedes_total : Std.Total fun left right : Violation =>
    left.precedes right = true where
  total left right := by
    rw [precedes_iff, precedes_iff]
    exact le_total _ _

instance precedes_trans : IsTrans Violation fun left right =>
    left.precedes right = true where
  trans first second third before after := by
    rw [precedes_iff] at before after ⊢
    exact le_trans before after

theorem sortedViolations_pairwise (violations : List Violation) :
    (sortedViolations violations).Pairwise fun left right =>
      rank left.count left.key ≤ rank right.count right.key := by
  have sorted := List.pairwise_insertionSort
    (fun left right : Violation => left.precedes right = true) violations
  exact sorted.imp precedes_iff.mp

/-! What the loop keeps about the records it has seen. -/

section Counting

variable {key other : ViolationKey} {samples : List String}
  {violations : List Violation}

theorem map_key_countViolation :
    (countViolation key samples violations).map Violation.key =
      if key ∈ violations.map Violation.key then
        violations.map Violation.key
      else violations.map Violation.key ++ [key] := by
  induction violations with
  | nil => rfl
  | cons violation rest induction =>
      rw [countViolation]
      by_cases same : violation.key = key
      · simp [same]
      · rw [if_neg same, List.map_cons, induction]
        by_cases member : key ∈ rest.map Violation.key <;>
          simp [member, Ne.symm same]

theorem nodup_countViolation
    (unique : (violations.map Violation.key).Nodup) :
    ((countViolation key samples violations).map Violation.key).Nodup := by
  rw [map_key_countViolation]
  split
  · exact unique
  · rename_i fresh
    simpa [List.nodup_append, unique] using fresh

def violationOf (violations : List Violation) (key : ViolationKey) :
    Option Violation :=
  violations.find? fun violation => violation.key = key

/-- One record more under its key. -/
def recount (found : Option Violation) (key : ViolationKey)
    (samples : List String) : Violation :=
  match found with
  | none => ⟨key, 1, samples⟩
  | some violation =>
      ⟨key, violation.count + 1, violation.samples ++ samples⟩

theorem violationOf_countViolation :
    violationOf (countViolation key samples violations) other =
      if key = other then
        some (recount (violationOf violations key) key samples)
      else violationOf violations other := by
  unfold violationOf
  induction violations with
  | nil => by_cases same : key = other <;> simp [countViolation, same, recount]
  | cons violation rest induction =>
      rw [countViolation]
      by_cases found : violation.key = key
      · subst found
        by_cases same : violation.key = other <;> simp [same, recount]
      · rw [if_neg found, List.find?_cons, List.find?_cons, List.find?_cons,
          induction]
        by_cases same : key = other
        · subst same
          simp [found]
        · simp [same]

end Counting

section Grouping

variable {python : Interpreter} {caps : SummaryCaps}
  {records : List BadRecord} {violations : List Violation}

/-- What is kept under a key once `records` have been seen. -/
structure Stored (python : Interpreter) (caps : SummaryCaps)
    (records : List BadRecord) (key : ViolationKey) (violation : Violation) :
    Prop where
  named : violation.key = key
  positive : 0 < violation.count
  count : violation.count = (recordsOf python records key).length
  samples : List.Forall₂ (IsSample python caps)
    (sampledRecords python caps records key) violation.samples

/-- The invariant of the loop. -/
structure Tallied (python : Interpreter) (caps : SummaryCaps)
    (records : List BadRecord) (violations : List Violation) : Prop where
  keyed : ∀ record ∈ records,
    violationKey python record = .ok (keyOf python record)
  unique : (violations.map Violation.key).Nodup
  absent : ∀ key, violationOf violations key = none →
    recordsOf python records key = []
  stored : ∀ key violation, violationOf violations key = some violation →
    Stored python caps records key violation

theorem groupRecord_ok {record : BadRecord} {after : List Violation}
    (grouped : groupRecord python caps violations record = .ok after) :
    ∃ key samples, violationKey python record = .ok key ∧
      after = countViolation key samples violations ∧
      ((samplesOf violations key).length < caps.maxSamplesPerType.toNat ∧
          (∃ sample, samples = [sample] ∧ IsSample python caps record sample) ∨
        ¬ (samplesOf violations key).length <
            caps.maxSamplesPerType.toNat ∧ samples = []) := by
  obtain ⟨key, keyed, grouped⟩ := bind_ok_iff.mp grouped
  refine ⟨key, ?_⟩
  by_cases room :
      ((samplesOf violations key).length : Int) < caps.maxSamplesPerType
  · rw [if_pos room] at grouped
    obtain ⟨sample, abbreviated, grouped⟩ := bind_ok_iff.mp grouped
    obtain rfl := Except.ok.inj grouped
    exact ⟨[sample], keyed, rfl, .inl ⟨by omega, sample, rfl, abbreviated⟩⟩
  · rw [if_neg room] at grouped
    obtain rfl := Except.ok.inj grouped
    exact ⟨[], keyed, rfl, .inr ⟨by omega, rfl⟩⟩

theorem keyOf_of_ok {record : BadRecord} {key : ViolationKey}
    (keyed : violationKey python record = .ok key) :
    keyOf python record = key := by
  rw [keyOf, keyed]

theorem samplesOf_eq (key : ViolationKey) :
    samplesOf violations key =
      ((violationOf violations key).map Violation.samples).getD [] := by
  rw [samplesOf, violationOf]
  cases violations.find? fun violation => violation.key = key <;> rfl

/-- As many samples are kept as the cap allows. -/
theorem Tallied.length_samplesOf
    (tallied : Tallied python caps records violations)
    (key : ViolationKey) :
    (samplesOf violations key).length =
      min caps.maxSamplesPerType.toNat
        (recordsOf python records key).length := by
  rw [samplesOf_eq]
  cases found : violationOf violations key with
  | none => simp [tallied.absent key found]
  | some violation =>
      have samples := (tallied.stored key violation found).samples
      rw [Option.map_some, Option.getD_some, ← samples.length_eq,
        sampledRecords, List.length_take]

theorem Tallied.forall₂_samples
    (tallied : Tallied python caps records violations)
    (key : ViolationKey) :
    List.Forall₂ (IsSample python caps) (sampledRecords python caps records key)
      (((violationOf violations key).map Violation.samples).getD []) := by
  cases found : violationOf violations key with
  | none =>
      rw [sampledRecords, tallied.absent key found, List.take_nil]
      exact .nil
  | some violation => exact (tallied.stored key violation found).samples

theorem recordsOf_concat_self {record : BadRecord} {key : ViolationKey}
    (keyed : keyOf python record = key) :
    recordsOf python (records ++ [record]) key =
      recordsOf python records key ++ [record] := by
  rw [recordsOf, group_concat, if_pos keyed, recordsOf]

theorem recordsOf_concat_of_ne {record : BadRecord} {key : ViolationKey}
    (differs : keyOf python record ≠ key) :
    recordsOf python (records ++ [record]) key =
      recordsOf python records key := by
  rw [recordsOf, group_concat, if_neg differs, recordsOf]

theorem sampledRecords_concat {record : BadRecord} {key : ViolationKey}
    (keyed : keyOf python record = key) :
    sampledRecords python caps (records ++ [record]) key =
      sampledRecords python caps records key ++
        (if (recordsOf python records key).length <
          caps.maxSamplesPerType.toNat then [record] else []) := by
  rw [sampledRecords, recordsOf_concat_self keyed, List.take_append]
  apply congrArg
  split
  · rename_i room
    apply List.take_of_length_le
    rw [List.length_singleton]
    omega
  · rename_i full
    rw [Nat.sub_eq_zero_of_le (by omega), List.take_zero]

/-- A record of another key leaves what is kept under a key. -/
theorem Stored.concat_of_ne {record : BadRecord} {key : ViolationKey}
    {violation : Violation}
    (stored : Stored python caps records key violation)
    (differs : keyOf python record ≠ key) :
    Stored python caps (records ++ [record]) key violation where
  named := stored.named
  positive := stored.positive
  count := by rw [recordsOf_concat_of_ne differs, stored.count]
  samples := by
    rw [sampledRecords, recordsOf_concat_of_ne differs]
    exact stored.samples

theorem Tallied.stored_recount
    (tallied : Tallied python caps records violations)
    {record : BadRecord} {samples : List String}
    (added : List.Forall₂ (IsSample python caps)
      (if (recordsOf python records (keyOf python record)).length <
        caps.maxSamplesPerType.toNat then [record] else []) samples) :
    Stored python caps (records ++ [record]) (keyOf python record)
      (recount (violationOf violations (keyOf python record))
        (keyOf python record) samples) := by
  have sampling := List.rel_append
    (tallied.forall₂_samples (keyOf python record)) added
  dsimp only at sampling
  rw [← sampledRecords_concat rfl] at sampling
  have grown : (recordsOf python (records ++ [record])
        (keyOf python record)).length =
      (recordsOf python records (keyOf python record)).length + 1 := by
    rw [recordsOf_concat_self rfl, List.length_append, List.length_singleton]
  cases before : violationOf violations (keyOf python record) with
  | none =>
      rw [before] at sampling
      rw [tallied.absent _ before] at grown
      exact ⟨rfl, Nat.one_pos, grown.symm, sampling⟩
  | some violation =>
      rw [before] at sampling
      have stored := tallied.stored _ violation before
      refine ⟨rfl, Nat.succ_pos _, ?_, sampling⟩
      rw [grown, ← stored.count]
      rfl

theorem Tallied.groupRecord
    (tallied : Tallied python caps records violations)
    {record : BadRecord} {after : List Violation}
    (grouped : Tools.groupRecord python caps violations record = .ok after) :
    Tallied python caps (records ++ [record]) after := by
  obtain ⟨key, samples, keyed, rfl, sampled⟩ := groupRecord_ok grouped
  obtain rfl := keyOf_of_ok keyed
  rw [tallied.length_samplesOf] at sampled
  have added : List.Forall₂ (IsSample python caps)
      (if (recordsOf python records (keyOf python record)).length <
        caps.maxSamplesPerType.toNat then [record] else []) samples := by
    rcases sampled with ⟨room, sample, rfl, isSample⟩ | ⟨full, rfl⟩
    · rw [if_pos (by omega)]
      exact .cons isSample .nil
    · rw [if_neg (by omega)]
      exact .nil
  constructor
  · intro other member
    rcases List.mem_append.mp member with earlier | last
    · exact tallied.keyed other earlier
    · obtain rfl := List.mem_singleton.mp last
      exact keyed
  · exact nodup_countViolation tallied.unique
  · intro other absent
    rw [violationOf_countViolation] at absent
    split at absent
    · cases absent
    · rename_i differs
      rw [recordsOf_concat_of_ne differs]
      exact tallied.absent other absent
  · intro other violation found
    rw [violationOf_countViolation] at found
    split at found
    · rename_i same
      subst same
      obtain rfl := Option.some.inj found
      exact tallied.stored_recount added
    · rename_i differs
      exact (tallied.stored other violation found).concat_of_ne differs

theorem Tallied.groupRecords
    (tallied : Tallied python caps records violations)
    {rest : List BadRecord} {after : List Violation}
    (grouped : Tools.groupRecords python caps violations rest =
      .ok after) :
    Tallied python caps (records ++ rest) after := by
  induction rest generalizing records violations with
  | nil =>
      obtain rfl := Except.ok.inj grouped
      rwa [List.append_nil]
  | cons record rest induction =>
      obtain ⟨next, first, grouped⟩ := bind_ok_iff.mp grouped
      rw [List.append_cons]
      exact induction (tallied.groupRecord first) grouped

theorem tallied_nil : Tallied python caps [] [] where
  keyed := by simp
  unique := List.nodup_nil
  absent := fun _ _ => rfl
  stored := by simp [violationOf]

end Grouping

section Summary

variable {python : Interpreter} {caps : SummaryCaps}
  {records : List BadRecord} {violations : List Violation}

theorem Tallied.stored_of_mem
    (tallied : Tallied python caps records violations)
    {violation : Violation} (member : violation ∈ violations) :
    Stored python caps records violation.key violation := by
  apply tallied.stored
  unfold violationOf
  have unique := tallied.unique
  clear tallied
  induction violations with
  | nil => cases member
  | cons first rest induction =>
      rw [List.map_cons, List.nodup_cons] at unique
      rcases List.mem_cons.mp member with rfl | later
      · simp
      · have differs : first.key ≠ violation.key := by
          intro same
          exact unique.1 (same ▸ List.mem_map_of_mem later)
        rw [List.find?_cons_of_neg (by simpa using differs)]
        exact induction later unique.2

theorem Tallied.mem_keys_iff
    (tallied : Tallied python caps records violations)
    (key : ViolationKey) :
    key ∈ violations.map Violation.key ↔
      ∃ record ∈ records, keyOf python record = key := by
  constructor
  · intro member
    obtain ⟨violation, listed, rfl⟩ := List.mem_map.mp member
    have stored := tallied.stored_of_mem listed
    have filled : recordsOf python records violation.key ≠ [] := by
      intro empty
      have count := stored.count
      rw [empty, List.length_nil] at count
      exact absurd stored.positive (by omega)
    rw [recordsOf, Ne, group_eq_nil_iff] at filled
    push Not at filled
    exact filled
  · intro seen
    obtain ⟨record, member, named⟩ := seen
    cases found : violationOf violations key with
    | none =>
        have unseen := tallied.absent key found
        rw [recordsOf, group_eq_nil_iff] at unseen
        exact absurd named (unseen record member)
    | some violation =>
        have stored := tallied.stored key violation found
        rw [← stored.named]
        exact List.mem_map_of_mem (List.mem_of_find?_eq_some found)

theorem Tallied.rankOf_eq (tallied : Tallied python caps records violations)
    {violation : Violation} (member : violation ∈ violations) :
    rankOf python records violation.key =
      rank violation.count violation.key := by
  rw [rankOf, ← (tallied.stored_of_mem member).count]

/-- The sorted keys are the ranking of the keys of the records. -/
theorem Tallied.ranking (tallied : Tallied python caps records violations) :
    IsRanking (rankOf python records) (keyOf python) records
      ((sortedViolations violations).map Violation.key) where
  increasing := by
    have perm : (sortedViolations violations).Perm violations :=
      List.perm_insertionSort _ violations
    have unique := (perm.map Violation.key).nodup_iff.mpr tallied.unique
    have distinct := List.pairwise_map.mp unique
    rw [List.pairwise_map]
    apply (sortedViolations_pairwise violations).and distinct |>.imp_of_mem
    intro first second firstMember secondMember ordered
    obtain ⟨le, differs⟩ := ordered
    rw [tallied.rankOf_eq (perm.mem_iff.mp firstMember),
      tallied.rankOf_eq (perm.mem_iff.mp secondMember)]
    apply lt_of_le_of_ne le
    exact fun same => differs (rank_key_injective same)
  mem_iff := by
    intro key
    rw [← tallied.mem_keys_iff]
    exact ((List.perm_insertionSort _ violations).map _).mem_iff

/-- The entry of a key in the summary of `records`, with these samples. -/
def summaryType (python : Interpreter) (caps : SummaryCaps)
    (records : List BadRecord) (key : ViolationKey) (samples : List String) :
    Value :=
  .dict
    [("source_table",
        .str (abbreviateText key.sourceTable caps.maxTableLength)),
      ("field", .str (abbreviateText key.field caps.maxFieldLength)),
      ("reason", .str (abbreviateText key.reason caps.maxReasonLength)),
      ("count", .int (recordsOf python records key).length),
      ("samples_truncated", .bool (caps.maxSamplesPerType.toNat <
        (recordsOf python records key).length)),
      ("samples", .list (samples.map fun recordJson =>
        .dict [("record_json", .str recordJson)]))]

/-- The summary of records whose keys are ranked so, with the samples of those
that are kept. -/
structure Summarizes (python : Interpreter) (caps : SummaryCaps)
    (records : List BadRecord) (ranked : List ViolationKey)
    (samples : List (List String)) (summary : Value) : Prop where
  keyed : ∀ record ∈ records,
    violationKey python record = .ok (keyOf python record)
  ranking : IsRanking (rankOf python records) (keyOf python) records
    ranked
  sampled : List.Forall₂
    (fun key shown => List.Forall₂ (IsSample python caps)
      (sampledRecords python caps records key) shown)
    (ranked.take caps.maxTypeCount.toNat) samples
  summary : summary = .dict
    [("total_records", .int records.length),
      ("type_count", .int (ranked.take caps.maxTypeCount.toNat).length),
      ("types_truncated", .bool (caps.maxTypeCount.toNat < ranked.length)),
      ("types", .list (List.zipWith (summaryType python caps records)
        (ranked.take caps.maxTypeCount.toNat) samples))]

theorem violationType_eq {key : ViolationKey} {violation : Violation}
    (stored : Stored python caps records key violation) :
    violationType caps violation =
      summaryType python caps records key violation.samples := by
  have shown := stored.samples.length_eq
  rw [sampledRecords, List.length_take, ← stored.count] at shown
  have truncated : violation.samples.length < violation.count ↔
      caps.maxSamplesPerType.toNat < violation.count := by omega
  rw [violationType, summaryType, stored.named, ← stored.count]
  simp only [truncated]

theorem summarizeBadRecords_summarizes (limited : 0 ≤ caps.maxTypeCount)
    {summary : Value}
    (returned : summarizeBadRecords python caps records = .ok summary) :
    ∃ ranked samples,
      Summarizes python caps records ranked samples summary := by
  cases records with
  | nil =>
      obtain rfl := Except.ok.inj returned
      refine ⟨[], [], ?_⟩
      constructor
      · simp
      · exact ⟨.nil, by simp⟩
      · rw [List.take_nil]
        exact .nil
      · simp [badRecordsSummary]
  | cons record rest =>
      obtain ⟨violations, grouped, returned⟩ := bind_ok_iff.mp returned
      obtain rfl := Except.ok.inj returned
      have tallied : Tallied python caps (record :: rest) violations :=
        tallied_nil.groupRecords grouped
      have perm : (sortedViolations violations).Perm violations :=
        List.perm_insertionSort _ violations
      have selected : sliceTo caps.maxTypeCount (sortedViolations violations) =
          (sortedViolations violations).take caps.maxTypeCount.toNat := by
        rw [sliceTo, if_pos limited]
      have stored : ∀ violation ∈
          (sortedViolations violations).take caps.maxTypeCount.toNat,
          Stored python caps (record :: rest) violation.key violation := by
        intro violation member
        exact tallied.stored_of_mem
          (perm.mem_iff.mp (List.mem_of_mem_take member))
      refine ⟨(sortedViolations violations).map Violation.key,
        ((sortedViolations violations).take caps.maxTypeCount.toNat).map
          Violation.samples, tallied.keyed, tallied.ranking, ?_, ?_⟩
      · rw [← List.map_take, List.forall₂_map_left_iff,
          List.forall₂_map_right_iff, List.forall₂_same]
        exact fun violation member => (stored violation member).samples
      · have truncated : caps.maxTypeCount < (violations.length : Int) ↔
            caps.maxTypeCount.toNat < violations.length := by omega
        have types :
            ((sortedViolations violations).take caps.maxTypeCount.toNat).map
                (violationType caps) =
              ((sortedViolations violations).take caps.maxTypeCount.toNat).map
                fun violation => summaryType python caps (record :: rest)
                  violation.key violation.samples :=
          List.map_congr_left fun violation member =>
            violationType_eq (stored violation member)
        rw [← List.map_take, List.zipWith_map, List.zipWith_self, selected,
          List.length_map, List.length_map, perm.length_eq, badRecordsSummary,
          List.length_map, types]
        simp only [truncated]

end Summary

def entryOf (value : Value) (key : String) : Value :=
  match value with
  | .dict entries => Value.get entries key
  | _ => .null

def itemsOf : Value → List Value
  | .list items => items
  | _ => []

def typesOf (summary : Value) : List Value := itemsOf (entryOf summary "types")

def countOf (type : Value) : Nat :=
  match entryOf type "count" with
  | .int count => count.toNat
  | _ => 0

def FitsIn (maxLength : Int) (value : Value) : Prop :=
  ∃ text, value = .str text ∧ text.toList.length ≤ maxLength.toNat

structure TextsWithin (caps : SummaryCaps) (type : Value) : Prop where
  sourceTable : FitsIn caps.maxTableLength (entryOf type "source_table")
  field : FitsIn caps.maxFieldLength (entryOf type "field")
  reason : FitsIn caps.maxReasonLength (entryOf type "reason")
  samples : ∀ sample ∈ itemsOf (entryOf type "samples"),
    FitsIn caps.maxRecordJsonLength (entryOf sample "record_json")

def eraseSamples : Value → Value
  | .dict entries => .dict (entries.filter fun entry => entry.1 ≠ "samples")
  | type => type

/-- A summary but for the samples of its types. -/
def withoutSamples (summary : Value) : Value :=
  .dict
    [("total_records", entryOf summary "total_records"),
      ("type_count", entryOf summary "type_count"),
      ("types_truncated", entryOf summary "types_truncated"),
      ("types", .list ((typesOf summary).map eraseSamples))]

section Caps

theorem length_abbreviateText (text : String) (maxLength : Int) :
    (abbreviateText text maxLength).toList.length ≤ maxLength.toNat := by
  unfold abbreviateText
  dsimp only
  split
  · assumption
  · split
    · simp
    · simp
      omega

theorem fitsIn_abbreviateText (text : String) (maxLength : Int) :
    FitsIn maxLength (.str (abbreviateText text maxLength)) :=
  ⟨_, rfl, length_abbreviateText text maxLength⟩

theorem IsSample.fits {python : Interpreter} {caps : SummaryCaps}
    {record : BadRecord} {sample : String}
    (isSample : IsSample python caps record sample) :
    FitsIn caps.maxRecordJsonLength (.str sample) := by
  obtain ⟨text, -, abbreviated⟩ := bind_ok_iff.mp isSample
  obtain rfl := Except.ok.inj abbreviated
  exact fitsIn_abbreviateText text _

end Caps

section Consequences

variable {python : Interpreter} {caps : SummaryCaps}
  {records others : List BadRecord} {ranked : List ViolationKey}
  {samples : List (List String)} {summary : Value}

theorem Summarizes.typesOf_eq
    (summarizes : Summarizes python caps records ranked samples summary) :
    typesOf summary = List.zipWith (summaryType python caps records)
      (ranked.take caps.maxTypeCount.toNat) samples := by
  rw [summarizes.summary]
  rfl

theorem fitsIn_samples {shown : List String} {sampled : List BadRecord}
    (isSample : List.Forall₂ (IsSample python caps) sampled shown) :
    ∀ recordJson ∈ shown,
      FitsIn caps.maxRecordJsonLength (.str recordJson) := by
  induction isSample with
  | nil => simp
  | cons first rest induction =>
      rw [List.forall_mem_cons]
      exact ⟨first.fits, induction⟩

theorem summaryType_textsWithin {key : ViolationKey} {shown : List String}
    {sampled : List BadRecord}
    (isSample : List.Forall₂ (IsSample python caps) sampled shown) :
    TextsWithin caps (summaryType python caps records key shown) where
  sourceTable := fitsIn_abbreviateText ..
  field := fitsIn_abbreviateText ..
  reason := fitsIn_abbreviateText ..
  samples := by
    intro sample member
    obtain ⟨recordJson, listed, rfl⟩ := List.mem_map.mp member
    exact fitsIn_samples isSample recordJson listed

theorem Summarizes.textsWithin
    (summarizes : Summarizes python caps records ranked samples summary) :
    ∀ type ∈ typesOf summary, TextsWithin caps type := by
  rw [summarizes.typesOf_eq]
  have sampled := summarizes.sampled
  clear summarizes
  generalize ranked.take caps.maxTypeCount.toNat = kept at sampled ⊢
  induction sampled with
  | nil => simp
  | cons isSample rest induction =>
      rw [List.zipWith_cons_cons, List.forall_mem_cons]
      exact ⟨summaryType_textsWithin isSample, induction⟩

theorem zipWith_left {α β γ : Type} (convert : α → γ) {left : List α}
    {right : List β} (same : left.length = right.length) :
    List.zipWith (fun first _ => convert first) left right =
      left.map convert := by
  induction left generalizing right with
  | nil => rfl
  | cons first rest induction =>
      cases right with
      | nil => simp at same
      | cons second others =>
          rw [List.zipWith_cons_cons, List.map_cons,
            induction (Nat.succ.inj same)]

/-- The emitted counts are those of the kept keys. -/
theorem Summarizes.counts
    (summarizes : Summarizes python caps records ranked samples summary) :
    (typesOf summary).map countOf =
      (ranked.take caps.maxTypeCount.toNat).map fun key =>
        (recordsOf python records key).length := by
  rw [summarizes.typesOf_eq, List.map_zipWith]
  exact zipWith_left _ summarizes.sampled.length_eq

theorem Summarizes.sum_counts
    (summarizes : Summarizes python caps records ranked samples summary)
    (complete : entryOf summary "types_truncated" = .bool false) :
    ((typesOf summary).map countOf).sum = records.length := by
  have all : ranked.length ≤ caps.maxTypeCount.toNat := by
    rw [summarizes.summary] at complete
    have truncated := Value.bool.inj complete
    simpa using truncated
  rw [summarizes.counts, List.take_of_length_le all,
    ← summarizes.ranking.sum_length]
  rfl

theorem count_le_of_rank {count other : Nat} {key another : ViolationKey}
    (before : rank count key ≤ rank other another) : other ≤ count := by
  unfold rank at before
  rw [Prod.Lex.toLex_le_toLex] at before
  dsimp only at before
  omega

theorem Summarizes.kept_counts
    (summarizes : Summarizes python caps records ranked samples summary)
    {kept dropped : ViolationKey}
    (keeps : kept ∈ ranked.take caps.maxTypeCount.toNat)
    (drops : dropped ∈ ranked.drop caps.maxTypeCount.toNat) :
    (recordsOf python records dropped).length ≤
      (recordsOf python records kept).length :=
  count_le_of_rank (summarizes.ranking.take_lt_drop _ keeps drops).le

theorem length_recordsOf_perm (perm : records.Perm others)
    (key : ViolationKey) :
    (recordsOf python records key).length =
      (recordsOf python others key).length :=
  (group_perm perm _ key).length_eq

/-- The entry of a key in a summary, but for its samples. -/
def erasedType (python : Interpreter) (caps : SummaryCaps)
    (records : List BadRecord) (key : ViolationKey) : Value :=
  eraseSamples (summaryType python caps records key [])

theorem eraseSamples_summaryType (key : ViolationKey) (shown : List String) :
    eraseSamples (summaryType python caps records key shown) =
      erasedType python caps records key := rfl

theorem erasedType_perm (perm : records.Perm others) :
    erasedType python caps records = erasedType python caps others := by
  funext key
  rw [erasedType, erasedType, summaryType, summaryType,
    length_recordsOf_perm perm]

/-- But for the samples, a summary is made of its ranking and the counts. -/
theorem Summarizes.withoutSamples_eq
    (summarizes : Summarizes python caps records ranked samples summary) :
    withoutSamples summary = .dict
      [("total_records", .int records.length),
        ("type_count",
          .int (ranked.take caps.maxTypeCount.toNat).length),
        ("types_truncated",
          .bool (caps.maxTypeCount.toNat < ranked.length)),
        ("types", .list ((ranked.take caps.maxTypeCount.toNat).map
          (erasedType python caps records)))] := by
  have shown := summarizes.sampled.length_eq
  have erased : List.map eraseSamples
      (List.zipWith (summaryType python caps records)
        (ranked.take caps.maxTypeCount.toNat) samples) =
      (ranked.take caps.maxTypeCount.toNat).map
        (erasedType python caps records) := by
    rw [List.map_zipWith]
    simp only [eraseSamples_summaryType]
    exact zipWith_left _ shown
  rw [summarizes.summary, ← erased]
  rfl

/-- The order of the records shows in nothing but the samples. -/
theorem Summarizes.perm {another : Value} {reranked : List ViolationKey}
    {resampled : List (List String)}
    (summarizes : Summarizes python caps records ranked samples summary)
    (again : Summarizes python caps others reranked resampled another)
    (perm : records.Perm others) :
    withoutSamples summary = withoutSamples another := by
  have ranks : rankOf python records = rankOf python others := by
    funext key
    rw [rankOf, rankOf, length_recordsOf_perm perm]
  have ranking := summarizes.ranking
  rw [ranks] at ranking
  obtain rfl := ranking.unique again.ranking perm
  rw [summarizes.withoutSamples_eq, again.withoutSamples_eq, perm.length_eq,
    erasedType_perm perm]

/-- The summary of any records is their aggregation. -/
theorem summarizeBadRecords_aggregates (limited : 0 ≤ caps.maxTypeCount)
    (returned : summarizeBadRecords python caps records = .ok summary) :
    ∃ ranked samples, Summarizes python caps records ranked samples summary ∧
      (∀ type ∈ typesOf summary, TextsWithin caps type) ∧
      (entryOf summary "types_truncated" = .bool false →
        ((typesOf summary).map countOf).sum = records.length) ∧
      (∀ kept ∈ ranked.take caps.maxTypeCount.toNat,
        ∀ dropped ∈ ranked.drop caps.maxTypeCount.toNat,
          (recordsOf python records dropped).length ≤
            (recordsOf python records kept).length) ∧
      ∀ others another, records.Perm others →
        summarizeBadRecords python caps others = .ok another →
        withoutSamples summary = withoutSamples another := by
  obtain ⟨ranked, samples, summarizes⟩ :=
    summarizeBadRecords_summarizes limited returned
  refine ⟨ranked, samples, summarizes, summarizes.textsWithin,
    summarizes.sum_counts, ?_, ?_⟩
  · intro kept keeps dropped drops
    exact summarizes.kept_counts keeps drops
  · intro others another perm again
    obtain ⟨reranked, resampled, summarized⟩ :=
      summarizeBadRecords_summarizes limited again
    exact summarizes.perm summarized perm

end Consequences

def nullWalletRecords : List BadRecord :=
  [[("source_table", .str "bronze.wallet"), ("record_json", .str "1"),
      ("reason", .dict [("field", .str "user_id"), ("rule", .str "not_null")])],
    [("source_table", .str "bronze.wallet"), ("record_json", .str "2"),
      ("reason", .dict [("field", .str "user_id"), ("rule", .str "not_null")])]]

def noJson : Interpreter where
  jsonLoads _ := .error ⟨.jsonDecodeError, "Expecting value"⟩
  room := 900

def tradeRecords : List BadRecord :=
  [("source_table", .str "bronze.trade"), ("record_json", .str "3"),
      ("reason", .str "late")] :: nullWalletRecords

def tradeCaps : SummaryCaps :=
  { defaultCaps with maxTypeCount := 1, maxSamplesPerType := 1 }

/-- The summary of the three records, where one type is dropped. -/
def tradeSummary : Value :=
  .dict
    [("total_records", .int 3), ("type_count", .int 1),
      ("types_truncated", .bool true),
      ("types", .list
        [.dict
          [("source_table", .str "bronze.wallet"), ("field", .str "user_id"),
            ("reason", .str "not_null"), ("count", .int 2),
            ("samples_truncated", .bool true),
            ("samples", .list [.dict [("record_json", .str "1")]])]])]

theorem summarizeBadRecords_aggregates_trade :
    ∃ ranked samples,
      Summarizes noJson tradeCaps tradeRecords ranked samples tradeSummary ∧
      (∀ type ∈ typesOf tradeSummary, TextsWithin tradeCaps type) ∧
      ∃ kept ∈ ranked.take 1, ∃ dropped ∈ ranked.drop 1,
        (recordsOf noJson tradeRecords dropped).length ≤
          (recordsOf noJson tradeRecords kept).length := by
  have returned : summarizeBadRecords noJson tradeCaps tradeRecords =
      .ok tradeSummary := rfl
  obtain ⟨ranked, samples, summarizes, within, -, larger, -⟩ :=
    summarizeBadRecords_aggregates (by decide) returned
  refine ⟨ranked, samples, summarizes, within, ?_⟩
  have shape := summarizes.summary
  simp only [tradeSummary, Value.dict.injEq, List.cons.injEq, Prod.mk.injEq,
    Value.bool.injEq, true_and] at shape
  have truncated : 1 < ranked.length := of_decide_eq_true shape.2.2.1.symm
  match ranked with
  | kept :: dropped :: rest =>
      exact ⟨kept, by simp, dropped, by simp,
        larger kept (by simp [tradeCaps]) dropped (by simp [tradeCaps])⟩

end PipelineOps.Tools
