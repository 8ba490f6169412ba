import PipelineOps.Python.Value

namespace PipelineOps.Tools

open PipelineOps.Python

structure SummaryCaps where
  maxTypeCount : Int
  maxSamplesPerType : Int
  maxTableLength : Int
  maxFieldLength : Int
  maxReasonLength : Int
  maxRecordJsonLength : Int

def defaultCaps : SummaryCaps where
  maxTypeCount := 50
  maxSamplesPerType := 10
  maxTableLength := 80
  maxFieldLength := 80
  maxReasonLength := 160
  maxRecordJsonLength := 240

structure ViolationKey where
  sourceTable : String
  field : String
  reason : String
  deriving DecidableEq

/-- The entries of `grouped_counts` and `grouped_samples` under one key. A
sample is its `record_json`. -/
structure Violation where
  key : ViolationKey
  count : Nat
  samples : List String

def getOr (record : List (String × Value)) (key : String) (default : Value) :
    Value :=
  (record.lookup key).getD default

def sliceTo {α : Type} (stop : Int) (items : List α) : List α :=
  if 0 ≤ stop then items.take stop.toNat
  else items.take (items.length - stop.natAbs)

def normalizeText (python : Interpreter) (value : Value) : Except Exc String :=
  value.toStr python.room

def abbreviateText (text : String) (maxLength : Int) : String :=
  let maxLength := maxLength.toNat
  let characters := text.toList
  if characters.length ≤ maxLength then text
  else if maxLength ≤ 3 then String.ofList (characters.take maxLength)
  else String.ofList (characters.take (maxLength - 3)) ++ "..."

def abbreviate (python : Interpreter) (value : Value) (maxLength : Int) :
    Except Exc String := do
  let text ← value.toStr python.room
  pure (abbreviateText text maxLength)

/-- The loop over `("detail", "rule", "reason")`. -/
def reasonText (python : Interpreter) (parsedReason : List (String × Value)) :
    List String → String → Except Exc String
  | [], text => .ok text
  | reasonKey :: rest, text =>
      let value := Value.get parsedReason reasonKey
      if value.isNull then reasonText python parsedReason rest text
      else do
        let text ← value.toStr python.room
        if strip text ≠ "" then pure text
        else reasonText python parsedReason rest text

/-- The `parsed_reason` and the `original_reason_text` of a raw reason. -/
def parseReason (python : Interpreter) :
    Value → Except Exc (List (String × Value) × String)
  | .dict entries => .ok (entries, "")
  | .str rawReason =>
      match python.jsonLoads rawReason with
      | .ok (.dict entries) => .ok (entries, rawReason)
      | .ok _ => .ok ([], rawReason)
      | .error exc =>
          if exc.cls = .jsonDecodeError then .ok ([], rawReason)
          else .error exc
  | _ => .ok ([], "")

/-- `field_text`: a text that is not blank, or `unknown`. -/
def fieldText : Value → String
  | .str field => if strip field = "" then "unknown" else field
  | _ => "unknown"

def extractFieldAndReason (python : Interpreter) (rawReason : Value) :
    Except Exc (String × String) := do
  let (parsedReason, originalReasonText) ← parseReason python rawReason
  let field := fieldText (Value.get parsedReason "field")
  let reason ←
    reasonText python parsedReason ["detail", "rule", "reason"] ""
  if strip reason = "" then
    pure (field,
      if originalReasonText = "" then "unknown" else originalReasonText)
  else pure (field, reason)

def violationKey (python : Interpreter) (record : List (String × Value)) :
    Except Exc ViolationKey := do
  let sourceTable ←
    normalizeText python (getOr record "source_table" (.str "unknown"))
  let (field, reason) ←
    extractFieldAndReason python (Value.get record "reason")
  pure ⟨sourceTable, field, reason⟩

def samplesOf (violations : List Violation) (key : ViolationKey) :
    List String :=
  match violations.find? fun violation => violation.key = key with
  | some violation => violation.samples
  | none => []

/-- `grouped_counts[key] += 1`, and `samples` appended under the key. A new key
goes behind the others. -/
def countViolation (key : ViolationKey) (samples : List String) :
    List Violation → List Violation
  | [] => [⟨key, 1, samples⟩]
  | violation :: rest =>
      if violation.key = key then
        ⟨key, violation.count + 1, violation.samples ++ samples⟩ :: rest
      else violation :: countViolation key samples rest

def groupRecord (python : Interpreter) (caps : SummaryCaps)
    (violations : List Violation) (record : List (String × Value)) :
    Except Exc (List Violation) := do
  let key ← violationKey python record
  if ((samplesOf violations key).length : Int) < caps.maxSamplesPerType then
    let sample ← abbreviate python (getOr record "record_json" (.str ""))
      caps.maxRecordJsonLength
    pure (countViolation key [sample] violations)
  else pure (countViolation key [] violations)

def groupRecords (python : Interpreter) (caps : SummaryCaps) :
    List Violation → List (List (String × Value)) →
      Except Exc (List Violation)
  | violations, [] => .ok violations
  | violations, record :: rest => do
      let violations ← groupRecord python caps violations record
      groupRecords python caps violations rest

/-- The order of the sort key `(-count, table, field, reason)`. -/
def Violation.precedes (left right : Violation) : Bool :=
  if left.count ≠ right.count then right.count < left.count
  else if left.key.sourceTable ≠ right.key.sourceTable then
    left.key.sourceTable < right.key.sourceTable
  else if left.key.field ≠ right.key.field then
    left.key.field < right.key.field
  else left.key.reason ≤ right.key.reason

def sortedViolations (violations : List Violation) : List Violation :=
  violations.insertionSort fun left right => left.precedes right

def violationType (caps : SummaryCaps) (violation : Violation) : Value :=
  .dict
    [("source_table",
        .str (abbreviateText violation.key.sourceTable caps.maxTableLength)),
      ("field", .str (abbreviateText violation.key.field caps.maxFieldLength)),
      ("reason",
        .str (abbreviateText violation.key.reason caps.maxReasonLength)),
      ("count", .int violation.count),
      ("samples_truncated", .bool (violation.samples.length < violation.count)),
      ("samples", .list (violation.samples.map fun recordJson =>
        .dict [("record_json", .str recordJson)]))]

def badRecordsSummary (total : Nat) (truncated : Bool) (types : List Value) :
    Value :=
  .dict
    [("total_records", .int total), ("type_count", .int types.length),
      ("types_truncated", .bool truncated), ("types", .list types)]

def summarizeBadRecords (python : Interpreter) (caps : SummaryCaps)
    (badRecords : List (List (String × Value))) : Except Exc Value :=
  match badRecords with
  | [] => .ok (badRecordsSummary 0 false [])
  | _ => do
      let violations ← groupRecords python caps [] badRecords
      let selected := sliceTo caps.maxTypeCount (sortedViolations violations)
      pure (badRecordsSummary badRecords.length
        (caps.maxTypeCount < violations.length)
        (selected.map (violationType caps)))

end PipelineOps.Tools
