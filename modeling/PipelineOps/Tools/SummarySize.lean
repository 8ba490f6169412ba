import PipelineOps.Python.JsonStyle
import PipelineOps.Tools.PoisonRecords

namespace PipelineOps.Tools

open PipelineOps.Library
open PipelineOps.Python

/-! How many bytes a summary takes as readable JSON. -/

section Texts

/-- No character of the text takes more bytes than `most`, escaped and
encoded. -/
def CostsAtMost (most : Nat) (text : String) : Prop :=
  ∀ character ∈ text.toList, writtenSize character ≤ most

theorem costsAtMost_six (text : String) : CostsAtMost 6 text :=
  fun character _ => writtenSize_le character

theorem sum_writtenSize_le {characters : List Char} {most : Nat}
    (costs : ∀ character ∈ characters, writtenSize character ≤ most) :
    (characters.map writtenSize).sum ≤ characters.length * most := by
  induction characters with
  | nil => simp
  | cons character rest induction =>
      rw [List.forall_mem_cons] at costs
      have bounded := induction costs.2
      rw [List.map_cons, List.sum_cons, List.length_cons, Nat.succ_mul]
      omega

theorem textSize_le {text : String} {most length : Nat}
    (costs : CostsAtMost most text) (short : text.toList.length ≤ length) :
    textSize text ≤ length * most + 2 := by
  have sum := sum_writtenSize_le costs
  have wider : text.toList.length * most ≤ length * most :=
    Nat.mul_le_mul_right most short
  rw [textSize]
  omega

theorem writesBetween_text {text : String} {room most length : Nat}
    (costs : CostsAtMost most text) (short : text.toList.length ≤ length) :
    WritesBetween readableStyle room 0 (length * most + 2) (.str text) :=
  (writesBetween_str rfl text).mono (Nat.zero_le _) (textSize_le costs short)

end Texts

section Bound

theorem mem_of_sampled {python : Interpreter} {caps : SummaryCaps}
    {records : List BadRecord} {key : ViolationKey} {record : BadRecord}
    (sampled : record ∈ sampledRecords python caps records key) :
    record ∈ records :=
  List.mem_of_mem_filter (List.mem_of_mem_take sampled)

/-- The texts that an entry of `types` shows cost at most so much a
character. -/
structure TextsCost (most : Nat) (type : Value) : Prop where
  sourceTable : ∀ text, entryOf type "source_table" = .str text →
    CostsAtMost most text
  field : ∀ text, entryOf type "field" = .str text → CostsAtMost most text
  reason : ∀ text, entryOf type "reason" = .str text → CostsAtMost most text
  samples : ∀ sample ∈ itemsOf (entryOf type "samples"), ∀ text,
    entryOf sample "record_json" = .str text → CostsAtMost most text

theorem textsCost_six (type : Value) : TextsCost 6 type where
  sourceTable text _ := costsAtMost_six text
  field text _ := costsAtMost_six text
  reason text _ := costsAtMost_six text
  samples _ _ text _ := costsAtMost_six text

variable {python : Interpreter} {records : List BadRecord}
  {key : ViolationKey} {shown : List String} {room most : Nat}

/-- One entry more of a readable object. -/
theorem entriesBetween_readable (name : String) (size : Nat)
    (named : textSize name = size) {value : Value}
    {entries : List (String × Value)} {low high restLow restHigh : Nat}
    (writes : WritesBetween readableStyle room low high value)
    (rest : EntriesBetween readableStyle room restLow restHigh entries) :
    EntriesBetween readableStyle room (low + restLow)
      (size + 4 + high + restHigh) ((name, value) :: entries) := by
  have encoded : (readableStyle.encode name).utf8ByteSize = size := by
    rw [← named]
    exact utf8ByteSize_encodeBasestring name
  have separators : readableStyle.keySeparator.utf8ByteSize = 2 ∧
      readableStyle.itemSeparator.utf8ByteSize = 2 := ⟨rfl, rfl⟩
  obtain ⟨texts, written, atLeast, atMost⟩ := entriesBetween_cons writes rest
  exact ⟨texts, written, atLeast, by omega⟩

theorem textSize_typeKeys :
    textSize "source_table" = 14 ∧ textSize "field" = 7 ∧
      textSize "reason" = 8 ∧ textSize "count" = 7 ∧
      textSize "samples_truncated" = 19 ∧ textSize "samples" = 9 := by
  decide +kernel

theorem textSize_summaryKeys :
    textSize "total_records" = 15 ∧ textSize "type_count" = 12 ∧
      textSize "types_truncated" = 17 ∧ textSize "types" = 7 := by
  decide +kernel

theorem textSize_recordJson : textSize "record_json" = 13 := by
  decide +kernel

def sampleValue (recordJson : String) : Value :=
  .dict [("record_json", .str recordJson)]

theorem writesBetween_sample {recordJson : String}
    (costs : CostsAtMost most recordJson)
    (short : recordJson.toList.length ≤ 240) :
    WritesBetween readableStyle (room + 1) 0 (21 + 240 * most)
      (sampleValue recordJson) := by
  have text : WritesBetween readableStyle room 0 (240 * most + 2)
      (.str recordJson) := writesBetween_text costs short
  have entries := (entriesBetween_readable "record_json" 13
    textSize_recordJson text entriesBetween_nil).dict rfl
  exact entries.mono (by omega) (by omega)

theorem writesBetween_samples (few : shown.length ≤ 10)
    (costs : ∀ recordJson ∈ shown, CostsAtMost most recordJson)
    (short : ∀ recordJson ∈ shown, recordJson.toList.length ≤ 240) :
    WritesBetween readableStyle (room + 2) 0 (232 + 2400 * most)
      (.list (shown.map sampleValue)) := by
  have each : ∀ sample ∈ shown.map sampleValue,
      WritesBetween readableStyle (room + 1) 0 (21 + 240 * most) sample := by
    rw [List.forall_mem_map]
    intro recordJson member
    exact writesBetween_sample (costs recordJson member)
      (short recordJson member)
  have separator : readableStyle.itemSeparator.utf8ByteSize = 2 := rfl
  have total := Nat.mul_le_mul_right (21 + 240 * most + 2) few
  apply (writesBetween_list each).mono (Nat.zero_le _)
  rw [List.length_map, separator]
  omega

theorem writesBetween_summaryType {tableLow tableHigh fieldLow fieldHigh
    reasonLow reasonHigh samplesLow samplesHigh : Nat}
    (few : (recordsOf python records key).length < 10 ^ 6)
    (table : WritesBetween readableStyle room tableLow tableHigh
      (.str (abbreviateText key.sourceTable 80)))
    (field : WritesBetween readableStyle room fieldLow fieldHigh
      (.str (abbreviateText key.field 80)))
    (reason : WritesBetween readableStyle room reasonLow reasonHigh
      (.str (abbreviateText key.reason 160)))
    (samples : WritesBetween readableStyle room samplesLow samplesHigh
      (.list (shown.map sampleValue))) :
    WritesBetween readableStyle (room + 1)
      (tableLow + fieldLow + reasonLow + samplesLow)
      (tableHigh + fieldHigh + reasonHigh + samplesHigh + 101)
      (summaryType python defaultCaps records key shown) := by
  obtain ⟨sourceTable, fieldKey, reasonKey, count, truncated, samplesKey⟩ :=
    textSize_typeKeys
  have entries :=
    entriesBetween_readable "source_table" 14 sourceTable table
      (entriesBetween_readable "field" 7 fieldKey field
        (entriesBetween_readable "reason" 8 reasonKey reason
          (entriesBetween_readable "count" 7 count
            (writesBetween_nat (by decide) (by decide) few)
            (entriesBetween_readable "samples_truncated" 19 truncated
              (writesBetween_bool (decide
                (defaultCaps.maxSamplesPerType.toNat <
                  (recordsOf python records key).length)))
              (entriesBetween_readable "samples" 9 samplesKey samples
                entriesBetween_nil)))))
  exact (entries.dict rfl).mono (by omega) (by omega)

theorem writesBetween_costed
    (few : (recordsOf python records key).length < 10 ^ 6)
    (samples : WritesBetween readableStyle room 0 (232 + 2400 * most)
      (.list (shown.map sampleValue)))
    (costs : TextsCost most
      (summaryType python defaultCaps records key shown)) :
    WritesBetween readableStyle (room + 1) 0 (339 + 2720 * most)
      (summaryType python defaultCaps records key shown) := by
  have table : (abbreviateText key.sourceTable 80).toList.length ≤ 80 :=
    length_abbreviateText key.sourceTable 80
  have field : (abbreviateText key.field 80).toList.length ≤ 80 :=
    length_abbreviateText key.field 80
  have reason : (abbreviateText key.reason 160).toList.length ≤ 160 :=
    length_abbreviateText key.reason 160
  have written := writesBetween_summaryType few
    (writesBetween_text (costs.sourceTable _ rfl) table)
    (writesBetween_text (costs.field _ rfl) field)
    (writesBetween_text (costs.reason _ rfl) reason) samples
  exact written.mono (Nat.zero_le _) (by omega)

/-- A summary around its types. -/
theorem writesBetween_summary {total typesLow typesHigh : Nat}
    {types : List Value} {truncated : Bool} (few : total < 10 ^ 6)
    (kept : types.length ≤ 50)
    (written :
      WritesBetween readableStyle room typesLow typesHigh (.list types)) :
    WritesBetween readableStyle (room + 1) typesLow (typesHigh + 148)
      (badRecordsSummary total truncated types) := by
  obtain ⟨totalRecords, typeCount, typesTruncated, typesKey⟩ :=
    textSize_summaryKeys
  have count :
      WritesBetween readableStyle room 0 2 (.int types.length) :=
    writesBetween_nat (by decide) (by decide) (by omega)
  have entries :=
    entriesBetween_readable "total_records" 15 totalRecords
      (writesBetween_nat (by decide) (by decide) few)
      (entriesBetween_readable "type_count" 12 typeCount count
        (entriesBetween_readable "types_truncated" 17 typesTruncated
          (writesBetween_bool truncated)
          (entriesBetween_readable "types" 7 typesKey written
            entriesBetween_nil)))
  exact (entries.dict rfl).mono (by omega) (by omega)

theorem writesBetween_type {sampled : List BadRecord}
    (few : records.length < 10 ^ 6)
    (isSample : List.Forall₂ (IsSample python defaultCaps) sampled shown)
    (capped : sampled.length ≤ 10)
    (costs : TextsCost most
      (summaryType python defaultCaps records key shown)) :
    WritesBetween readableStyle (room + 3) 0 (339 + 2720 * most)
      (summaryType python defaultCaps records key shown) := by
  have own : (recordsOf python records key).length ≤ records.length :=
    List.length_filter_le _ _
  have length := isSample.length_eq
  apply writesBetween_costed (by omega) _ costs
  apply writesBetween_samples (by omega)
  · intro recordJson member
    exact costs.samples (sampleValue recordJson) (List.mem_map_of_mem member)
      recordJson rfl
  · intro recordJson member
    obtain ⟨text, same, short⟩ := fitsIn_samples isSample recordJson member
    rw [Value.str.inj same]
    exact short

variable {ranked : List ViolationKey} {samples : List (List String)}
  {summary : Value}

theorem writesBetween_types
    (summarizes : Summarizes python defaultCaps records ranked samples
      summary) (few : records.length < 10 ^ 6)
    (costs : ∀ type ∈ typesOf summary, TextsCost most type) :
    ∀ type ∈ typesOf summary,
      WritesBetween readableStyle (room + 3) 0 (339 + 2720 * most) type := by
  have sampled := summarizes.sampled
  rw [summarizes.typesOf_eq] at costs ⊢
  clear summarizes
  generalize ranked.take defaultCaps.maxTypeCount.toNat = kept at *
  induction sampled with
  | nil => simp
  | @cons key shown kept samples isSample rest induction =>
      rw [List.zipWith_cons_cons, List.forall_mem_cons] at costs ⊢
      refine ⟨writesBetween_type few isSample ?_ costs.1, induction costs.2⟩
      rw [sampledRecords]
      exact List.length_take_le _ _

/-- The summary is made around its types. -/
theorem Summarizes.shape
    (summarizes : Summarizes python defaultCaps records ranked samples
      summary) :
    summary = badRecordsSummary records.length
      (decide (defaultCaps.maxTypeCount.toNat < ranked.length))
      (typesOf summary) ∧
    (typesOf summary).length =
      (ranked.take defaultCaps.maxTypeCount.toNat).length := by
  have counted : (typesOf summary).length =
      (ranked.take defaultCaps.maxTypeCount.toNat).length := by
    rw [summarizes.typesOf_eq, List.length_zipWith,
      ← summarizes.sampled.length_eq, Nat.min_self]
  refine ⟨?_, counted⟩
  rw [badRecordsSummary, counted, summarizes.typesOf_eq]
  exact summarizes.summary

/-- A summary takes so many bytes a character, and little besides. -/
theorem summarySize_le (few : records.length < 10 ^ 6)
    (returned : summarizeBadRecords python defaultCaps records =
      .ok summary) :
    (∀ most, (∀ type ∈ typesOf summary, TextsCost most type) →
      WritesBetween readableStyle (room + 5) 0 (17200 + 136000 * most)
        summary) ∧
    WritesBetween readableStyle (room + 5) 0 833200 summary := by
  obtain ⟨ranked, samples, summarizes⟩ :=
    summarizeBadRecords_summarizes (by decide) returned
  obtain ⟨shape, counted⟩ := summarizes.shape
  have bound : ∀ most, (∀ type ∈ typesOf summary, TextsCost most type) →
      WritesBetween readableStyle (room + 5) 0 (17200 + 136000 * most)
        summary := by
    intro most costs
    have each : ∀ type ∈ typesOf summary,
        WritesBetween readableStyle (room + 3) 0 (339 + 2720 * most) type :=
      writesBetween_types summarizes few costs
    have kept : (typesOf summary).length ≤ 50 :=
      counted.le.trans (List.length_take_le _ _)
    have separator : readableStyle.itemSeparator.utf8ByteSize = 2 := rfl
    have total := Nat.mul_le_mul_right (339 + 2720 * most + 2) kept
    have types : WritesBetween readableStyle (room + 4) 0
        (17052 + 136000 * most) (.list (typesOf summary)) := by
      apply (writesBetween_list each).mono (Nat.zero_le _)
      rw [separator]
      omega
    rw [shape]
    exact (writesBetween_summary few kept types).mono (Nat.zero_le _)
      (by omega)
  refine ⟨bound, ?_⟩
  exact bound 6 fun type _ => textsCost_six type

def nullWalletSummary : Value :=
  badRecordsSummary 2 false
    [violationType defaultCaps
      ⟨⟨"bronze.wallet", "user_id", "not_null"⟩, 2, ["1", "2"]⟩]

theorem summarySize_le_nullWallet :
    (∀ most, (∀ type ∈ typesOf nullWalletSummary, TextsCost most type) →
      WritesBetween readableStyle 5 0 (17200 + 136000 * most)
        nullWalletSummary) ∧
    WritesBetween readableStyle 5 0 833200 nullWalletSummary := by
  have returned :
      summarizeBadRecords noJson defaultCaps nullWalletRecords =
        .ok nullWalletSummary := by
    rfl
  exact @summarySize_le _ _ 0 _ (by decide) returned

end Bound

section WideRecords

/-! Fifty records of distinct types, full of control characters that take six
bytes each. -/

def controls (length : Nat) : String :=
  String.ofList (List.replicate length '\x01')

def tableName (index : Nat) : String :=
  String.ofList (Char.ofNat (0x4E00 + index) :: List.replicate 79 '\x01')

def wideRecord (index : Nat) : BadRecord :=
  [("source_table", .str (tableName index)),
    ("reason", .dict [("field", .str (controls 80)),
      ("detail", .str (controls 160))]),
    ("record_json", .str (controls 240))]

def wideRecords : List BadRecord := (List.range 50).map wideRecord

theorem length_wideRecords : wideRecords.length = 50 := by
  rw [wideRecords, List.length_map, List.length_range]

def wideKey (index : Nat) : ViolationKey :=
  ⟨tableName index, controls 80, controls 160⟩

theorem length_controls (length : Nat) :
    (controls length).toList.length = length := by
  rw [controls, String.toList_ofList, List.length_replicate]

theorem textSize_controls (length : Nat) :
    textSize (controls length) = 6 * length + 2 := by
  have six : writtenSize '\x01' = 6 := by decide
  rw [textSize, controls, String.toList_ofList, List.map_replicate, six,
    List.sum_replicate_nat]
  omega

theorem strip_controls (length : Nat) :
    strip (controls (length + 2)) = controls (length + 2) := by
  rw [strip, controls, String.toList_ofList, List.replicate_succ,
    List.replicate_succ', ← List.cons_append]
  rw [stripBy_of_ends (by decide) (by decide)]

theorem controls_ne_empty (length : Nat) : controls (length + 2) ≠ "" := by
  intro empty
  have characters := congrArg (fun text => text.toList.length) empty
  simp [length_controls] at characters

theorem abbreviateText_of_short {text : String} {maxLength : Int}
    (short : text.toList.length ≤ maxLength.toNat) :
    abbreviateText text maxLength = text := by
  rw [abbreviateText]
  exact if_pos short

theorem extract_controls :
    extractFieldAndReason noJson (.dict [("field", .str (controls 80)),
      ("detail", .str (controls 160))]) =
        .ok (controls 80, controls 160) := by
  have field : fieldText (.str (controls 80)) = controls 80 := by
    have kept : strip (controls 80) = controls 80 := strip_controls 78
    rw [fieldText, kept, if_neg (controls_ne_empty 78)]
  have filled : strip (controls 160) ≠ "" := by
    have kept : strip (controls 160) = controls 160 := strip_controls 158
    rw [kept]
    exact controls_ne_empty 158
  have reason : reasonText noJson [("field", .str (controls 80)),
      ("detail", .str (controls 160))] ["detail", "rule", "reason"] "" =
        .ok (controls 160) :=
    bind_ok_iff.mpr ⟨controls 160, rfl, if_pos filled⟩
  refine bind_ok_iff.mpr ⟨_, rfl, bind_ok_iff.mpr ⟨_, reason, ?_⟩⟩
  rw [if_neg filled]
  exact congrArg (fun text => Except.ok (text, controls 160)) field

theorem keyOf_wideRecord (index : Nat) :
    keyOf noJson (wideRecord index) = wideKey index :=
  keyOf_of_ok (bind_ok_iff.mpr ⟨tableName index, rfl,
    bind_ok_iff.mpr ⟨_, extract_controls, rfl⟩⟩)

theorem wideRecords_digestible :
    Digestible noJson defaultCaps wideRecords := by
  have keyed : ∀ record ∈ wideRecords, DigestibleRecord noJson record := by
    rw [wideRecords, List.forall_mem_map]
    intro index _
    refine ⟨⟨_, rfl⟩, ?_, ?_⟩
    · intro text raw
      cases raw
    · exact ⟨.inr ⟨_, rfl⟩,
        fun _ => ⟨.inl rfl, fun _ => ⟨.inl rfl, fun _ => trivial⟩⟩⟩
  refine ⟨keyed, ?_⟩
  intro key record sampled
  obtain ⟨index, -, rfl⟩ := List.mem_map.mp (mem_of_sampled sampled)
  exact ⟨_, rfl⟩

theorem wideKeys_nodup : ((List.range 50).map wideKey).Nodup := by
  have initials : (((List.range 50).map wideKey).map fun key =>
      key.sourceTable.toList.head?) =
        (List.range 50).map fun index =>
          some (Char.ofNat (0x4E00 + index)) := by
    rw [List.map_map]
    apply List.map_congr_left
    intro index _
    simp [wideKey, tableName]
  apply List.Nodup.of_map fun key : ViolationKey => key.sourceTable.toList.head?
  rw [initials]
  decide

theorem isSample_wideRecord {index : Nat} {sample : String}
    (isSample : IsSample noJson defaultCaps (wideRecord index) sample) :
    sample = controls 240 := by
  have own : abbreviate noJson (.str (controls 240)) 240 = .ok sample :=
    isSample
  have kept : abbreviateText (controls 240) 240 = controls 240 :=
    abbreviateText_of_short (length_controls 240).le
  rw [← kept]
  exact (Except.ok.inj own).symm

theorem shown_controls {sampled : List BadRecord} {shown : List String}
    (isSample : List.Forall₂ (IsSample noJson defaultCaps) sampled shown)
    (wide : ∀ record ∈ sampled, record ∈ wideRecords) :
    ∀ recordJson ∈ shown, recordJson = controls 240 := by
  induction isSample with
  | nil => simp
  | cons first rest induction =>
      rw [List.forall_mem_cons] at wide ⊢
      obtain ⟨index, -, rfl⟩ := List.mem_map.mp wide.1
      exact ⟨isSample_wideRecord first, induction wide.2⟩

theorem writesBetween_wideSamples {shown : List String} {room : Nat}
    (filled : 1 ≤ shown.length) (few : shown.length ≤ 10)
    (same : ∀ recordJson ∈ shown, recordJson = controls 240) :
    WritesBetween readableStyle (room + 2) 1442 14652
      (.list (shown.map sampleValue)) := by
  have each : ∀ sample ∈ shown.map sampleValue,
      WritesBetween readableStyle (room + 1) 1442 1463 sample := by
    rw [List.forall_mem_map]
    intro recordJson member
    rw [same recordJson member]
    have text : WritesBetween readableStyle room _ _ (.str (controls 240)) :=
      writesBetween_str rfl (controls 240)
    have entries := (entriesBetween_readable "record_json" 13
      textSize_recordJson text entriesBetween_nil).dict rfl
    rw [textSize_controls] at entries
    exact entries.mono (by omega) (by omega)
  have separator : readableStyle.itemSeparator.utf8ByteSize = 2 := rfl
  apply (writesBetween_list each).mono
  · rw [List.length_map]
    omega
  · rw [List.length_map, separator]
    omega

theorem textSize_tableName {index : Nat} (within : index < 50) :
    479 ≤ textSize (tableName index) ∧ textSize (tableName index) ≤ 482 := by
  have three : ∀ index < 50, 3 ≤ writtenSize (Char.ofNat (0x4E00 + index)) := by
    decide
  have six : writtenSize '\x01' = 6 := by decide
  have initial := three index within
  have bounded := writtenSize_le (Char.ofNat (0x4E00 + index))
  rw [textSize, tableName, String.toList_ofList, List.map_cons, List.sum_cons,
    List.map_replicate, six, List.sum_replicate_nat]
  omega

theorem wideType_between {index room : Nat} {shown : List String}
    (within : index < 50)
    (samples : WritesBetween readableStyle room 1442 14652
      (.list (shown.map sampleValue))) :
    WritesBetween readableStyle (room + 1) 3365 20000
      (summaryType noJson defaultCaps wideRecords (wideKey index) shown) := by
  have table : abbreviateText (tableName index) 80 = tableName index :=
    abbreviateText_of_short (by simp [tableName])
  have field : abbreviateText (controls 80) 80 = controls 80 :=
    abbreviateText_of_short (length_controls 80).le
  have reason : abbreviateText (controls 160) 160 = controls 160 :=
    abbreviateText_of_short (length_controls 160).le
  have few :
      (recordsOf noJson wideRecords (wideKey index)).length < 10 ^ 6 := by
    have own := List.length_filter_le
      (fun record => keyOf noJson record = wideKey index) wideRecords
    exact own.trans_lt (by rw [length_wideRecords]; decide)
  have wide := textSize_tableName within
  have written :=
    @writesBetween_summaryType noJson wideRecords (wideKey index) shown
      room _ _ _ _ _ _ _ _ few (writesBetween_str rfl _)
      (writesBetween_str rfl _) (writesBetween_str rfl _) samples
  dsimp only [wideKey] at written
  rw [table, field, reason, textSize_controls, textSize_controls] at written
  exact written.mono (by omega) (by omega)

theorem sampled_wide {index : Nat} (within : index < 50) :
    1 ≤ (sampledRecords noJson defaultCaps wideRecords
      (wideKey index)).length := by
  have member : wideRecord index ∈
      recordsOf noJson wideRecords (wideKey index) := by
    rw [recordsOf, group, List.mem_filter]
    exact ⟨List.mem_map_of_mem (List.mem_range.mpr within),
      decide_eq_true (keyOf_wideRecord index)⟩
  have filled := List.length_pos_of_mem member
  have cap : defaultCaps.maxSamplesPerType.toNat = 10 := rfl
  rw [sampledRecords, List.length_take, cap]
  omega

theorem ranked_wide {ranked : List ViolationKey}
    (ranking : IsRanking (rankOf noJson wideRecords) (keyOf noJson) wideRecords
      ranked) : 50 ≤ ranked.length ∧ ∀ key ∈ ranked, ∃ index < 50,
        wideKey index = key := by
  constructor
  · have known : (List.range 50).map wideKey ⊆ ranked := by
      intro key member
      obtain ⟨index, within, rfl⟩ := List.mem_map.mp member
      exact (ranking.mem_iff _).mpr ⟨wideRecord index,
        List.mem_map_of_mem within, keyOf_wideRecord index⟩
    have counted := (List.subperm_of_subset wideKeys_nodup known).length_le
    rwa [List.length_map, List.length_range] at counted
  · intro key member
    obtain ⟨record, listed, named⟩ := (ranking.mem_iff key).mp member
    obtain ⟨index, within, rfl⟩ := List.mem_map.mp listed
    rw [keyOf_wideRecord] at named
    exact ⟨index, List.mem_range.mp within, named⟩

theorem wideTypes_between {ranked : List ViolationKey}
    {samples : List (List String)} {summary : Value} {room : Nat}
    (summarizes : Summarizes noJson defaultCaps wideRecords ranked samples
      summary) :
    ∀ type ∈ typesOf summary,
      WritesBetween readableStyle (room + 3) 3365 20000 type := by
  have named : ∀ key ∈ ranked.take defaultCaps.maxTypeCount.toNat,
      ∃ index < 50, wideKey index = key := by
    intro key member
    exact (ranked_wide summarizes.ranking).2 key (List.mem_of_mem_take member)
  have sampled := summarizes.sampled
  rw [summarizes.typesOf_eq]
  clear summarizes
  generalize ranked.take defaultCaps.maxTypeCount.toNat = kept at *
  induction sampled with
  | nil => simp
  | @cons key shown kept samples isSample rest induction =>
      rw [List.forall_mem_cons] at named
      rw [List.zipWith_cons_cons, List.forall_mem_cons]
      obtain ⟨index, within, rfl⟩ := named.1
      refine ⟨wideType_between within ?_, induction named.2⟩
      have length := isSample.length_eq
      have capped : (sampledRecords noJson defaultCaps wideRecords
          (wideKey index)).length ≤ 10 := List.length_take_le _ _
      have own := sampled_wide within
      exact writesBetween_wideSamples (by omega) (by omega)
        (shown_controls isSample fun record => mem_of_sampled)

theorem wideSummary_between {ranked : List ViolationKey}
    {samples : List (List String)} {summary : Value} {room : Nat}
    (summarizes : Summarizes noJson defaultCaps wideRecords ranked samples
      summary) :
    ∃ text, jsonDumps readableStyle (room + 5) summary = .ok text ∧
      160000 < text.utf8ByteSize := by
  obtain ⟨shape, counted⟩ := summarizes.shape
  have each : ∀ type ∈ typesOf summary,
      WritesBetween readableStyle (room + 3) 3365 20000 type :=
    wideTypes_between summarizes
  have kept : (typesOf summary).length = 50 := by
    have known := (ranked_wide summarizes.ranking).1
    have cap : defaultCaps.maxTypeCount.toNat = 50 := rfl
    rw [counted, List.length_take, cap]
    omega
  have types := writesBetween_list each
  rw [kept] at types
  have few : wideRecords.length < 10 ^ 6 := by
    rw [length_wideRecords]
    decide
  obtain ⟨text, written, atLeast, -⟩ :=
    writesBetween_summary few kept.le types
  refine ⟨text, ?_, by omega⟩
  rw [shape]
  exact written

/-- Control characters take a summary past 160,000 bytes. -/
theorem wideRecords_exceed :
    ∃ records summary text, records.length < 10 ^ 6 ∧
      summarizeBadRecords noJson defaultCaps records = .ok summary ∧
      jsonDumps readableStyle noJson.room summary = .ok text ∧
      160000 < text.utf8ByteSize := by
  obtain ⟨summary, returned⟩ :=
    summarizeBadRecords_ok_iff.mpr wideRecords_digestible
  obtain ⟨ranked, samples, summarizes⟩ :=
    summarizeBadRecords_summarizes (by decide) returned
  obtain ⟨text, written, large⟩ := wideSummary_between summarizes
  exact ⟨wideRecords, summary, text, by rw [length_wideRecords]; decide,
    returned, written, large⟩

end WideRecords

end PipelineOps.Tools
