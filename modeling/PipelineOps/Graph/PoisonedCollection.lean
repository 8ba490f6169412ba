import PipelineOps.Graph.Nodes.Collect
import PipelineOps.Tools.PoisonRecords

namespace PipelineOps.Graph

open PipelineOps.Library
open PipelineOps.Python
open PipelineOps.Tools

/-! What a poison record does to the collection. -/

section Collection

/-- A state with lists of rows, of which these are the bad records. -/
structure ListsRows (state : State) (records : List BadRecord) : Prop where
  ledger : ∃ rows, State.get state "exception_ledger" = .list rows
  dqStatus : ∃ rows, State.get state "dq_status" = .list rows
  badRecords : ∃ rows, State.get state "bad_records" = .list rows ∧
    Collect.dictRows rows = records

variable {python : Interpreter} {records : List BadRecord} {state : State}

theorem collect_ok_iff (lists : ListsRows state records) :
    (∃ updates, Collect.run python state = .ok updates) ↔
      Digestible python defaultCaps records := by
  obtain ⟨ledger, ledgerRows⟩ := lists.ledger
  obtain ⟨dqRows, dqStatus⟩ := lists.dqStatus
  obtain ⟨rows, badRecords, rfl⟩ := lists.badRecords
  simp only [Collect.run_ok_iff, Collect.collect, ledgerRows, dqStatus,
    badRecords, Collect.expectList, bind_returns_iff, Except.ok.injEq,
    exists_eq_left']
  rw [← summarizeBadRecords_ok_iff]
  constructor
  · intro returned
    obtain ⟨summary, summarized, -⟩ := returned
    exact ⟨summary, summarized⟩
  · intro returned
    obtain ⟨summary, summarized⟩ := returned
    exact ⟨summary, summarized, _, rfl⟩

/-- The records are counted, and the collection goes through, exactly when no
record is poison. -/
theorem poisonRecords_iff :
    (CountsEvery python defaultCaps records ↔
      Digestible python defaultCaps records) ∧
    ∀ state, ListsRows state records →
      ((∃ updates, Collect.run python state = .ok updates) ↔
        Digestible python defaultCaps records) := by
  refine ⟨countsEvery_iff, ?_⟩
  intro state lists
  exact collect_ok_iff lists

end Collection

/-- A reason that is one integer of 4301 digits. -/
def longInteger : String := String.ofList (List.replicate 4301 '1')

/-- An interpreter that refuses the integer of this text, and reads no other
text. -/
def refuses (integer : String) : Interpreter where
  jsonLoads text :=
    if text = integer then
      .error (.valueError ("Exceeds the limit (4300 digits) for integer " ++
        "string conversion: value has 4301 digits; use " ++
        "sys.set_int_max_str_digits() to increase the limit"))
    else .error ⟨.jsonDecodeError, "Expecting value"⟩
  room := 900

theorem refuses_integer (integer : String) :
    ∃ exc, (refuses integer).jsonLoads integer = .error exc ∧
      exc.cls ≠ .jsonDecodeError :=
  ⟨_, if_pos rfl, by decide⟩

def reasonRecord (reason : String) : BadRecord := [("reason", .str reason)]

def reasonState (reason : String) : State :=
  .ofList
    [("exception_ledger", .list []), ("dq_status", .list []),
      ("bad_records", .list [.dict (reasonRecord reason)])]

theorem reasonState_lists (reason : String) :
    ListsRows (reasonState reason) [reasonRecord reason] :=
  ⟨⟨[], rfl⟩, ⟨[], rfl⟩, _, rfl, rfl⟩

theorem not_digestible_of_refused {python : Interpreter} {reason : String}
    {exc : Exc} (refused : python.jsonLoads reason = .error exc)
    (unforeseen : exc.cls ≠ .jsonDecodeError) :
    ¬ Digestible python defaultCaps [reasonRecord reason] := by
  intro digestible
  have loads := (digestible.keyed (reasonRecord reason) (by simp)).loads
    reason rfl
  rw [refused] at loads
  exact unforeseen loads

/-- One record whose reason is an integer out of the digit limit aborts the
collection. -/
theorem longInteger_aborts :
    ¬ CountsEvery (refuses longInteger) defaultCaps [reasonRecord longInteger] ∧
      ListsRows (reasonState longInteger) [reasonRecord longInteger] ∧
      ¬ ∃ updates, Collect.run (refuses longInteger)
        (reasonState longInteger) = .ok updates := by
  obtain ⟨exc, refused, unforeseen⟩ := refuses_integer longInteger
  have poison := not_digestible_of_refused refused unforeseen
  have lists := reasonState_lists longInteger
  exact ⟨fun counts => poison (countsEvery_iff.mp counts), lists,
    fun returned => poison ((collect_ok_iff lists).mp returned)⟩

end PipelineOps.Graph
