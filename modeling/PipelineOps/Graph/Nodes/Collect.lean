import Mathlib.Data.List.Dedup
import PipelineOps.Graph.State
import PipelineOps.Library.Fallible
import PipelineOps.Tools.BadRecords

namespace PipelineOps.Graph.Collect

open PipelineOps.Library
open PipelineOps.Python
open PipelineOps.Tools

def writeFields : List String :=
  ["exceptions", "dq_tags", "bad_records_summary"]

def expectList (value : Value) (fieldName : String) :
    Except Exc (List Value) :=
  match value with
  | .null => .ok []
  | .list items => .ok items
  | _ => .error ⟨.collectPermanentError, fieldName ++ " must be a list"⟩

def dictRows (rows : List Value) : List (List (String × Value)) :=
  rows.filterMap fun row =>
    match row with
    | .dict entries => some entries
    | _ => none

def collectExceptions (rawExceptions : List Value) : List Value :=
  (dictRows rawExceptions).map Value.dict

def collectDqTags (rawDqStatus : List Value) : List String :=
  sortedTexts ((dictRows rawDqStatus).filterMap fun row =>
    match Value.get row "dq_tag" with
    | .str tag => if tag = "" then none else some tag
    | _ => none).dedup

def classifyCollectError (exc : Exc) : Exc :=
  let text := strip exc.message
  let message := if text = "" then exc.className else text
  if exc.cls = .timeoutError ∨ exc.cls = .connectionError then
    ⟨.collectTransientError, message⟩
  else if exc.cls = .collectTransientError ∨
      exc.cls = .collectPermanentError then exc
  else ⟨.collectPermanentError, message⟩

/-- The body of the `try` statement. -/
def collect (python : Interpreter) (state : State) : Except Exc Updates := do
  let rawExceptions ←
    expectList (State.get state "exception_ledger") "exception_ledger"
  let rawDqStatus ← expectList (State.get state "dq_status") "dq_status"
  let rawBadRecords ← expectList (State.get state "bad_records") "bad_records"
  let badRecordsSummary ←
    summarizeBadRecords python defaultCaps (dictRows rawBadRecords)
  pure (.ofList
    [("exceptions", .list (collectExceptions rawExceptions)),
      ("dq_tags", .list ((collectDqTags rawDqStatus).map Value.str)),
      ("bad_records_summary", badRecordsSummary)])

def run (python : Interpreter) (state : State) : Except Exc Updates :=
  match collect python state with
  | .ok updates => .ok updates
  | .error exc => .error (classifyCollectError exc)

theorem mem_dictRows_iff {rows : List Value}
    {entries : List (String × Value)} :
    entries ∈ dictRows rows ↔ .dict entries ∈ rows := by
  simp only [dictRows, List.mem_filterMap]
  constructor
  · intro found
    obtain ⟨row, member, found⟩ := found
    cases row with
    | dict other =>
        obtain rfl := Option.some.inj found
        exact member
    | _ => cases found
  · intro member
    exact ⟨.dict entries, member, rfl⟩

theorem mem_collectDqTags_iff {rawDqStatus : List Value} {tag : String} :
    tag ∈ collectDqTags rawDqStatus ↔
      tag ≠ "" ∧ ∃ entries, .dict entries ∈ rawDqStatus ∧
        Value.get entries "dq_tag" = .str tag := by
  simp only [collectDqTags, sortedTexts, List.mem_insertionSort,
    List.mem_dedup, List.mem_filterMap, mem_dictRows_iff]
  constructor
  · intro kept
    obtain ⟨entries, member, kept⟩ := kept
    split at kept
    · rename_i text same
      split at kept
      · cases kept
      · rename_i filled
        obtain rfl := Option.some.inj kept
        exact ⟨filled, entries, member, same⟩
    · cases kept
  · intro known
    obtain ⟨filled, entries, member, same⟩ := known
    exact ⟨entries, member, by simp [same, filled]⟩

theorem run_ok_iff {python : Interpreter} {state : State}
    {updates : Updates} :
    run python state = .ok updates ↔
      collect python state = .ok updates := by
  rw [run]
  cases collect python state <;> simp

theorem run_result {python : Interpreter} {state : State} {updates : Updates}
    (returned : run python state = .ok updates) :
    ∃ rawExceptions rawDqStatus badRecordsSummary,
      expectList (State.get state "exception_ledger") "exception_ledger" =
        .ok rawExceptions ∧
      expectList (State.get state "dq_status") "dq_status" = .ok rawDqStatus ∧
      updates = .ofList
        [("exceptions", .list (collectExceptions rawExceptions)),
          ("dq_tags", .list ((collectDqTags rawDqStatus).map Value.str)),
          ("bad_records_summary", badRecordsSummary)] := by
  have collected := run_ok_iff.mp returned
  rw [collect] at collected
  obtain ⟨rawExceptions, ledger, collected⟩ := bind_ok_iff.mp collected
  obtain ⟨rawDqStatus, dqStatus, collected⟩ := bind_ok_iff.mp collected
  obtain ⟨rawBadRecords, -, collected⟩ := bind_ok_iff.mp collected
  obtain ⟨badRecordsSummary, -, collected⟩ := bind_ok_iff.mp collected
  exact ⟨rawExceptions, rawDqStatus, badRecordsSummary, ledger, dqStatus,
    (Except.ok.inj collected).symm⟩

theorem run_within {python : Interpreter} {state : State} {updates : Updates}
    (returned : run python state = .ok updates) :
    updates.Within (· ∈ writeFields) := by
  obtain ⟨-, -, -, -, -, rfl⟩ := run_result returned
  exact Dict.within_ofList (by simp [writeFields])

end PipelineOps.Graph.Collect
