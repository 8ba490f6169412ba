import PipelineOps.Runtime.AgentRunner

namespace PipelineOps.Runtime

open PipelineOps.Library
open PipelineOps.Python
open PipelineOps.Graph

/-! Calls of any number of runners on one database, and what a history of calls
leaves in the registry. -/

inductive Call where
  | invoke (initialState : State)
  | resume (incidentId : Value) (payload : Option State)

namespace Call

def dialogue (room : Nat) : Call → RunnerCall State
  | .invoke initialState => Runtime.invoke room initialState
  | .resume incidentId payload => Runtime.resume room incidentId payload

def incident : Call → Value
  | .invoke initialState => State.get initialState "incident_id"
  | .resume incidentId _ => incidentId

def payload : Call → State
  | .invoke initialState => initialState
  | .resume _ payload => payload.getD .empty

def defaultStatus : Call → String
  | .invoke _ => "running"
  | .resume _ _ => "resumed"

def status (call : Call) (merged : State) : String :=
  statusValue (State.get merged "final_status") call.defaultStatus

end Call

/-- The database, the clock and the graphs. A graph may return or raise
anything, and a refused upsert leaves the table alone. -/
inductive Serves : IncidentRegistry → (request : RunnerRequest) →
    RunnerAnswer request → IncidentRegistry → Prop
  | graph (registry : IncidentRegistry) (payload : State) (threadId : Value)
      (result : Except Exc (Option State)) :
      Serves registry (.graphInvoke payload threadId) result registry
  | clock (registry : IncidentRegistry) (text : String) :
      Serves registry .now text registry
  | accepted (registry : IncidentRegistry) (incidentId : String)
      (row : RegistryRow) :
      Serves registry (.upsert incidentId row) (.ok ())
        (registry.upsert mergeRow incidentId row)
  | refused (registry : IncidentRegistry) (incidentId : String)
      (row : RegistryRow) (exc : Exc) :
      Serves registry (.upsert incidentId row) (.error exc) registry

def upserted : Dialogue.Exchange RunnerAnswer → Option (String × RegistryRow)
  | ⟨.upsert incidentId row, .ok ()⟩ => some (incidentId, row)
  | _ => none

/-- Only an upsert that succeeds changes the registry. -/
theorem Serves.registry_eq {registry after : IncidentRegistry}
    {request : RunnerRequest} {answer : RunnerAnswer request}
    (serves : Serves registry request answer after) :
    after = match upserted ⟨request, answer⟩ with
      | some write => registry.upsert mergeRow write.1 write.2
      | none => registry := by
  cases serves <;> rfl

section Calls

/-- What is recorded of a call that returns `merged`. -/
structure Records (room : Nat) (call : Call) (merged : State)
    (incidentId : String) (row : RegistryRow) : Prop where
  named : call.incident = .str incidentId
  pipeline :
    optionalText room (State.get merged "pipeline") = .ok row.pipeline
  detectedAt :
    optionalText room (State.get merged "detected_at") = .ok row.detectedAt
  fingerprint :
    optionalText room (State.get merged "fingerprint") = .ok row.fingerprint
  status : row.status = call.status merged

theorem requireIncidentId_ok_iff {state : State} {incidentId : String} :
    requireIncidentId state = .ok incidentId ↔
      State.get state "incident_id" = .str incidentId ∧ incidentId ≠ "" := by
  rw [requireIncidentId]
  cases State.get state "incident_id" with
  | str text =>
      simp only [guard_ok_iff, Except.ok.injEq, Value.str.injEq]
      constructor
      · intro accepted
        obtain ⟨filled, rfl⟩ := accepted
        exact ⟨rfl, filled⟩
      · intro given
        obtain ⟨rfl, filled⟩ := given
        exact ⟨filled, rfl⟩
  | _ => simp

variable {room : Nat}

theorem registryRow_ok {state : State} {defaultStatus now : String}
    {row : RegistryRow}
    (returned : registryRow room state defaultStatus now = .ok row) :
    optionalText room (State.get state "pipeline") = .ok row.pipeline ∧
      optionalText room (State.get state "detected_at") =
        .ok row.detectedAt ∧
      optionalText room (State.get state "fingerprint") =
        .ok row.fingerprint ∧
      row.status =
        statusValue (State.get state "final_status") defaultStatus := by
  simp only [registryRow, bind_ok_iff] at returned
  obtain ⟨pipeline, pipelineText, detectedAt, detectedAtText, fingerprint,
    fingerprintText, returned⟩ := returned
  obtain rfl := Except.ok.inj returned
  exact ⟨pipelineText, detectedAtText, fingerprintText, rfl⟩

variable {call : Call} {trace : List (Dialogue.Exchange RunnerAnswer)}
  {rest : RunnerCall State}

/-- So far a call has either recorded nothing, or recorded what it returned. -/
def Recorded (room : Nat) (call : Call)
    (trace : List (Dialogue.Exchange RunnerAnswer)) (rest : RunnerCall State) :
    Prop :=
  (trace.filterMap upserted = [] ∧ ∀ merged, rest ≠ .done (.ok merged)) ∨
  ∃ merged incidentId row, trace.filterMap upserted = [(incidentId, row)] ∧
    rest = .done (.ok merged) ∧ Records room call merged incidentId row

theorem Recorded.cons {exchange : Dialogue.Exchange RunnerAnswer}
    (silent : upserted exchange = none)
    (recorded : Recorded room call trace rest) :
    Recorded room call (exchange :: trace) rest := by
  rw [Recorded, List.filterMap_cons_none silent]
  exact recorded

theorem recorded_done {exc : Exc}
    (reaches : (Dialogue.done (.error exc)).Reaches trace rest) :
    Recorded room call trace rest := by
  obtain ⟨rfl, rfl⟩ := Dialogue.reaches_done_iff.mp reaches
  exact .inl ⟨rfl, nofun⟩

theorem recorded_upsert {merged : State} {incidentId : String}
    {row : RegistryRow} (records : Records room call merged incidentId row)
    (reaches : ((Dialogue.ask (.upsert incidentId row) .done :
      RunnerCall Unit).bind fun
        | .error exc => .done (.error exc)
        | .ok () => .done (.ok merged)).Reaches trace rest) :
    Recorded room call trace rest := by
  rcases Dialogue.reaches_ask_iff.mp reaches with
    ⟨rfl, rfl⟩ | ⟨answer, others, rfl, further⟩
  · exact .inl ⟨rfl, nofun⟩
  · cases answer with
    | error exc => exact (recorded_done further).cons rfl
    | ok done =>
        obtain ⟨rfl, rfl⟩ := Dialogue.reaches_done_iff.mp further
        exact .inr ⟨merged, incidentId, row, rfl, rfl, records⟩

theorem recorded_upsertIncidentRegistry {merged : State}
    (named : State.get merged "incident_id" = call.incident)
    (reaches : ((upsertIncidentRegistry room merged call.defaultStatus).bind fun
        | .error exc => .done (.error exc)
        | .ok () => .done (.ok merged)).Reaches trace rest) :
    Recorded room call trace rest := by
  rw [upsertIncidentRegistry] at reaches
  cases required : requireIncidentId merged with
  | error exc =>
      rw [required] at reaches
      exact recorded_done reaches
  | ok incidentId =>
      rw [required] at reaches
      rcases Dialogue.reaches_ask_iff.mp reaches with
        ⟨rfl, rfl⟩ | ⟨now, others, rfl, further⟩
      · exact .inl ⟨rfl, nofun⟩
      · apply Recorded.cons rfl
        dsimp only at further
        cases returned : registryRow room merged call.defaultStatus now with
        | error exc =>
            rw [returned] at further
            exact recorded_done further
        | ok row =>
            rw [returned] at further
            obtain ⟨pipeline, detectedAt, fingerprint, status⟩ :=
              registryRow_ok returned
            have incident := (requireIncidentId_ok_iff.mp required).1
            exact recorded_upsert ⟨named.symm.trans incident, pipeline,
              detectedAt, fingerprint, status⟩ further

theorem Call.dialogue_cases (call : Call) (room : Nat) :
    (∃ exc, call.dialogue room = .done (.error exc)) ∨
    call.dialogue room =
      invokeGraph room call.payload call.incident call.defaultStatus := by
  cases call with
  | invoke initialState =>
      rw [Call.dialogue, Runtime.invoke]
      cases required : requireIncidentId initialState with
      | error exc => exact .inl ⟨exc, rfl⟩
      | ok incidentId =>
          apply Or.inr
          rw [Call.incident, (requireIncidentId_ok_iff.mp required).1]
          rfl
  | resume incidentId payload => exact .inr rfl

theorem Call.recorded (reaches : (call.dialogue room).Reaches trace rest) :
    Recorded room call trace rest := by
  rcases call.dialogue_cases room with ⟨exc, same⟩ | same
  · rw [same] at reaches
    exact recorded_done reaches
  · rw [same] at reaches
    rcases Dialogue.reaches_ask_iff.mp reaches with
      ⟨rfl, rfl⟩ | ⟨result, others, rfl, further⟩
    · exact .inl ⟨rfl, nofun⟩
    · cases result with
      | error exc => exact (recorded_done further).cons rfl
      | ok result =>
          exact (recorded_upsertIncidentRegistry rfl further).cons rfl

end Calls

section Runs

variable {ι : Type} [DecidableEq ι] {room : Nat} {calls : ι → Call}
  {events : List (ι × Dialogue.Exchange RunnerAnswer)}
  {after : Shared ι RunnerAnswer (Except Exc State) IncidentRegistry}

def initial (room : Nat) (calls : ι → Call) :
    Shared ι RunnerAnswer (Except Exc State) IncidentRegistry where
  process index := (calls index).dialogue room
  partner := .empty

structure Completion (ι : Type) where
  index : ι
  merged : State

def completion
    (after : Shared ι RunnerAnswer (Except Exc State) IncidentRegistry)
    (event : ι × Dialogue.Exchange RunnerAnswer) : Option (Completion ι) :=
  match upserted event.2, after.process event.1 with
  | some _, .done (.ok merged) => some ⟨event.1, merged⟩
  | _, _ => none

/-- The calls that have returned, in the order of their upserts. -/
def completions (events : List (ι × Dialogue.Exchange RunnerAnswer))
    (after : Shared ι RunnerAnswer (Except Exc State) IncidentRegistry) :
    List (Completion ι) :=
  events.filterMap (completion after)

theorem served_replay {registry final : IncidentRegistry}
    {trace : List (Dialogue.Exchange RunnerAnswer)}
    (served : Dialogue.Served Serves registry trace final) :
    final = registry.replay mergeRow (trace.filterMap upserted) := by
  induction served with
  | nil registry => rfl
  | @cons before middle after request answer trace step rest induction =>
      rw [induction, step.registry_eq]
      cases wrote : upserted ⟨request, answer⟩ with
      | none => rw [List.filterMap_cons_none wrote]
      | some write => rw [List.filterMap_cons_some wrote]; rfl

theorem recorded_process
    (turns : Shared.Turns Serves (initial room calls) events after)
    (index : ι) :
    Recorded room (calls index) (Shared.share index events)
      (after.process index) :=
  Call.recorded (turns.reaches index)

theorem records_of_upserted
    (turns : Shared.Turns Serves (initial room calls) events after)
    {event : ι × Dialogue.Exchange RunnerAnswer} (member : event ∈ events)
    {write : String × RegistryRow} (wrote : upserted event.2 = some write) :
    ∃ merged, after.process event.1 = .done (.ok merged) ∧
      Records room (calls event.1) merged write.1 write.2 := by
  have own : write ∈ (Shared.share event.1 events).filterMap upserted :=
    List.mem_filterMap.mpr ⟨_, Shared.mem_share_iff.mpr member, wrote⟩
  rcases recorded_process turns event.1 with
    ⟨silent, -⟩ | ⟨merged, incidentId, row, only, returned, records⟩
  · rw [silent] at own
    cases own
  · rw [only] at own
    obtain rfl := List.mem_singleton.mp own
    exact ⟨merged, returned, records⟩

omit [DecidableEq ι] in
theorem completion_eq_none {event : ι × Dialogue.Exchange RunnerAnswer}
    (silent : upserted event.2 = none) : completion after event = none := by
  simp [completion, silent]

theorem completions_records
    (turns : Shared.Turns Serves (initial room calls) events after) :
    List.Forall₂
      (fun completed write => Records room (calls completed.index)
        completed.merged write.1 write.2)
      (completions events after)
      ((events.map Prod.snd).filterMap upserted) := by
  have each : ∀ part ⊆ events, List.Forall₂
      (fun completed write => Records room (calls completed.index)
        completed.merged write.1 write.2)
      (completions part after)
      ((part.map Prod.snd).filterMap upserted) := by
    intro part included
    induction part with
    | nil => exact .nil
    | cons event rest induction =>
        obtain ⟨member, included⟩ := List.cons_subset.mp included
        cases wrote : upserted event.2 with
        | none =>
            rw [completions,
              List.filterMap_cons_none (completion_eq_none wrote),
              List.map_cons, List.filterMap_cons_none wrote]
            exact induction included
        | some write =>
            obtain ⟨merged, returned, records⟩ :=
              records_of_upserted turns member wrote
            have completed : completion after event =
                some ⟨event.1, merged⟩ := by
              simp [completion, wrote, returned]
            rw [completions, List.filterMap_cons_some completed,
              List.map_cons, List.filterMap_cons_some wrote]
            exact .cons records (induction included)
  exact each events (List.Subset.refl events)

omit [DecidableEq ι] in
theorem completion_eq_some_iff {event : ι × Dialogue.Exchange RunnerAnswer}
    {completed : Completion ι} :
    completion after event = some completed ↔
      event.1 = completed.index ∧ (upserted event.2).isSome ∧
        after.process completed.index = .done (.ok completed.merged) := by
  obtain ⟨index, merged⟩ := completed
  rw [completion]
  constructor
  · intro found
    split at found
    · rename_i write returned wrote left
      obtain ⟨rfl, rfl⟩ := Completion.mk.inj (Option.some.inj found)
      exact ⟨rfl, by rw [wrote]; rfl, left⟩
    · cases found
  · intro given
    obtain ⟨rfl, wrote, left⟩ := given
    obtain ⟨write, wrote⟩ := Option.isSome_iff_exists.mp wrote
    rw [wrote, left]

theorem mem_completions_iff
    (turns : Shared.Turns Serves (initial room calls) events after) {index : ι}
    {merged : State} :
    ⟨index, merged⟩ ∈ completions events after ↔
      after.process index = .done (.ok merged) := by
  simp only [completions, List.mem_filterMap, completion_eq_some_iff]
  constructor
  · intro completed
    obtain ⟨event, -, -, -, left⟩ := completed
    exact left
  · intro left
    rcases recorded_process turns index with
      ⟨-, open_⟩ | ⟨-, incidentId, row, only, -, -⟩
    · exact absurd left (open_ merged)
    · have own : (incidentId, row) ∈
          (Shared.share index events).filterMap upserted := by
        rw [only]
        exact List.mem_singleton_self _
      obtain ⟨exchange, member, wrote⟩ := List.mem_filterMap.mp own
      exact ⟨(index, exchange), Shared.mem_share_iff.mp member, rfl,
        by rw [wrote]; rfl, left⟩

omit [DecidableEq ι] in
theorem completions_sublist :
    ((completions events after).map Completion.index).Sublist
      ((Shared.marks upserted events).map Prod.fst) := by
  induction events with
  | nil => exact .refl _
  | cons event rest induction =>
      rw [completions] at induction ⊢
      cases wrote : upserted event.2 with
      | none =>
          rw [List.filterMap_cons_none (completion_eq_none wrote),
            Shared.marks_cons_of_none wrote]
          exact induction
      | some write =>
          rw [Shared.marks_cons_of_some wrote, List.map_cons]
          cases completed : completion after event with
          | none =>
              rw [List.filterMap_cons_none completed]
              exact induction.cons _
          | some returned =>
              rw [List.filterMap_cons_some completed, List.map_cons,
                (completion_eq_some_iff.mp completed).1]
              exact induction.cons_cons _

theorem nodup_completions
    (turns : Shared.Turns Serves (initial room calls) events after) :
    ((completions events after).map Completion.index).Nodup := by
  apply completions_sublist.nodup
  apply Shared.nodup_marks
  intro index
  rcases recorded_process turns index with
    ⟨silent, -⟩ | ⟨merged, incidentId, row, only, -, -⟩
  · rw [silent]
    exact Nat.zero_le 1
  · rw [only]
    exact Nat.le_refl 1

end Runs

/-! What the registry says of an incident, in terms of the calls for it. -/

section Law

variable {ι : Type} {room : Nat} {calls : ι → Call}
  {history : List (Completion ι)} {incidentId : String}

def concerning (calls : ι → Call) (incidentId : String)
    (history : List (Completion ι)) : List (Completion ι) :=
  history.filter fun completed =>
    (calls completed.index).incident.isText incidentId

namespace Completion

def terminalStatus (completed : Completion ι) : Option String :=
  match State.get completed.merged "final_status" with
  | .str text => if terminalStatuses.contains text then some text else none
  | _ => none

def supplied (key : String) (completed : Completion ι) : Option Value :=
  match State.get completed.merged key with
  | .null => none
  | value => some value

/-- A call that does not close its incident leaves it as its result says, or
else as running or resumed. -/
def Leaves (calls : ι → Call) (completed : Completion ι) (status : String) :
    Prop :=
  status ∈ openStatuses ∧
    State.get completed.merged "final_status" = .str status ∨
  (∀ text ∈ openStatuses,
    State.get completed.merged "final_status" ≠ .str text) ∧
    status = (calls completed.index).defaultStatus

end Completion

/-- The row of an incident for which the calls `completed` have returned, in
this order. -/
structure RowLaw (room : Nat) (calls : ι → Call)
    (completed : List (Completion ι)) (row : RegistryRow) : Prop where
  allowed : row.status ∈ allowedRegistryStatuses
  returned : completed ≠ []
  closed : ∀ status,
    (completed.filterMap Completion.terminalStatus).getLast? = some status →
      row.status = status
  opened : completed.filterMap Completion.terminalStatus = [] →
    ∀ last, completed.getLast? = some last → last.Leaves calls row.status
  pipeline : row.pipeline.map Except.ok =
    (completed.filterMap (Completion.supplied "pipeline")).getLast?.map
      (Value.toStr room)
  detectedAt : row.detectedAt.map Except.ok =
    (completed.filterMap (Completion.supplied "detected_at")).getLast?.map
      (Value.toStr room)
  fingerprint : row.fingerprint.map Except.ok =
    (completed.filterMap (Completion.supplied "fingerprint")).getLast?.map
      (Value.toStr room)

/-- The status that a call records. -/
def Completion.status (calls : ι → Call) (completed : Completion ι) : String :=
  (calls completed.index).status completed.merged

theorem Call.defaultStatus_open (call : Call) :
    call.defaultStatus ∈ openStatuses := by
  cases call <;> simp [Call.defaultStatus, openStatuses]

theorem open_allowed {status : String} (opened : status ∈ openStatuses) :
    allowedRegistryStatuses.contains status = true := by
  simp only [openStatuses, List.mem_cons, List.not_mem_nil, or_false] at opened
  rcases opened with rfl | rfl <;> decide

theorem statusValue_allowed {value : Value} {default : String}
    (opened : default ∈ openStatuses) :
    statusValue value default ∈ allowedRegistryStatuses := by
  have given : default ∈ allowedRegistryStatuses :=
    List.contains_iff_mem.mp (open_allowed opened)
  cases value with
  | str text =>
      rw [statusValue]
      split
      · rename_i known
        exact List.contains_iff_mem.mp known
      · exact given
  | _ => exact given

theorem open_iff_of_allowed {status : String}
    (allowed : status ∈ allowedRegistryStatuses) :
    openStatuses.contains status = !terminalStatuses.contains status := by
  simp only [allowedRegistryStatuses, List.mem_cons, List.not_mem_nil,
    or_false] at allowed
  rcases allowed with rfl | rfl | rfl | rfl | rfl | rfl <;> decide

theorem Completion.status_allowed (completed : Completion ι) :
    completed.status calls ∈ allowedRegistryStatuses :=
  statusValue_allowed (Call.defaultStatus_open _)

theorem Completion.terminalStatus_eq (completed : Completion ι) :
    completed.terminalStatus =
      if terminalStatuses.contains (completed.status calls) then
        some (completed.status calls)
      else none := by
  have undecided :
      (calls completed.index).defaultStatus ∉ terminalStatuses := by
    cases calls completed.index <;> simp [Call.defaultStatus, terminalStatuses]
  rw [Completion.terminalStatus, Completion.status, Call.status]
  cases State.get completed.merged "final_status" with
  | str text =>
      by_cases known : text ∈ allowedRegistryStatuses
      · simp [statusValue, known]
      · have unknown : text ∉ terminalStatuses :=
          fun terminal => known (List.mem_cons_of_mem _
            (List.mem_cons_of_mem _ terminal))
        simp [statusValue, known, unknown, undecided]
  | _ => simp [statusValue, undecided]

theorem open_of_unclosed {completed : Completion ι}
    (unclosed : completed.terminalStatus = none) :
    completed.status calls ∈ openStatuses := by
  rw [Completion.terminalStatus_eq] at unclosed
  have allowed : completed.status calls ∈ allowedRegistryStatuses :=
    completed.status_allowed
  have known := open_iff_of_allowed allowed
  split at unclosed
  · cases unclosed
  · next opens =>
      rw [Bool.not_eq_true] at opens
      rw [opens] at known
      exact List.contains_iff_mem.mp known

/-- A call that closes nothing leaves the status that it records. -/
theorem Completion.leaves {completed : Completion ι}
    (unclosed : completed.terminalStatus = none) :
    completed.Leaves calls (completed.status calls) := by
  have opens : completed.status calls ∈ openStatuses :=
    open_of_unclosed unclosed
  by_cases own : State.get completed.merged "final_status" =
      .str (completed.status calls)
  · exact .inl ⟨opens, own⟩
  · refine .inr ⟨?_, ?_⟩
    · intro text listed given
      apply own
      rw [Completion.status, Call.status, given, statusValue,
        if_pos (open_allowed listed)]
    · rw [Completion.status, Call.status] at own ⊢
      cases given : State.get completed.merged "final_status" with
      | str text =>
          rw [given, statusValue] at own
          rw [statusValue]
          split at own
          · exact absurd rfl own
          · next unknown => rw [if_neg unknown]
      | _ => rfl

theorem filter_status (calls : ι → Call) (completed : List (Completion ι)) :
    (completed.map (Completion.status calls)).filter
        (terminalStatuses.contains ·) =
      completed.filterMap Completion.terminalStatus := by
  induction completed with
  | nil => rfl
  | cons first rest induction =>
      rw [List.map_cons]
      by_cases terminal :
          terminalStatuses.contains (first.status calls) = true
      · rw [List.filter_cons_of_pos terminal, induction,
          List.filterMap_cons_some
            ((first.terminalStatus_eq).trans (if_pos terminal))]
      · rw [List.filter_cons_of_neg terminal, induction,
          List.filterMap_cons_none
            ((first.terminalStatus_eq).trans (if_neg terminal))]

theorem records_rowsOf (incidentId : String)
    {writes : List (String × RegistryRow)}
    (pairs : List.Forall₂
      (fun completed write => Records room (calls completed.index)
        completed.merged write.1 write.2) history writes) :
    List.Forall₂
      (fun completed row => Records room (calls completed.index)
        completed.merged incidentId row)
      (concerning calls incidentId history)
      (Table.rowsOf incidentId writes) := by
  induction pairs with
  | nil => exact .nil
  | cons records rest induction =>
      rename_i completed write history writes
      obtain ⟨name, row⟩ := write
      by_cases same : name = incidentId
      · subst same
        have named := Value.isText_iff.mpr records.named
        rw [concerning, List.filter_cons, if_pos named,
          Table.rowsOf_cons_self]
        exact .cons records induction
      · have other : ¬ (calls completed.index).incident.isText incidentId := by
          rw [records.named, Value.isText_iff]
          exact fun named => same (Value.str.inj named)
        rw [concerning, List.filter_cons, if_neg other,
          Table.rowsOf_cons_of_ne same]
        exact induction

/-- What a column records of a call is the text of what the call supplies. -/
theorem map_supplied {completed : Completion ι} {key : String}
    {column : Option String}
    (recorded :
      optionalText room (State.get completed.merged key) = .ok column) :
    (completed.supplied key).map (Value.toStr room) =
      column.map Except.ok := by
  rw [Completion.supplied]
  cases given : State.get completed.merged key with
  | null =>
      rw [given] at recorded
      obtain rfl := Except.ok.inj recorded
      rfl
  | _ =>
      rw [given, optionalText] at recorded
      · obtain ⟨text, written, rfl⟩ := map_ok_iff.mp recorded
        exact congrArg some written
      · simp

theorem map_filterMap_supplied {column : RegistryRow → Option String}
    {key : String} {completed : List (Completion ι)} {rows : List RegistryRow}
    (pairs : List.Forall₂ (fun completed row =>
      (Completion.supplied key completed).map (Value.toStr room) =
        (column row).map Except.ok) completed rows) :
    (completed.filterMap (Completion.supplied key)).map (Value.toStr room) =
      (rows.map column).reduceOption.map Except.ok := by
  induction pairs with
  | nil => rfl
  | @cons completed row history rows pair rest induction =>
      rw [List.map_cons]
      cases written : column row with
      | none =>
          rw [written, Option.map_none, Option.map_eq_none_iff] at pair
          rw [List.filterMap_cons_none pair, List.reduceOption_cons_of_none,
            induction]
      | some text =>
          rw [written, Option.map_some, Option.map_eq_some_iff] at pair
          obtain ⟨value, supplied, shown⟩ := pair
          rw [List.filterMap_cons_some supplied, List.reduceOption_cons_of_some,
            List.map_cons, List.map_cons, induction, shown]

theorem collapse_supplied {column : RegistryRow → Option String} {key : String}
    {completed : List (Completion ι)} {rows : List RegistryRow}
    {row : RegistryRow}
    (apart : ∀ stored excluded, column (mergeRow stored excluded) =
      coalesce (column stored) (column excluded))
    (pairs : List.Forall₂ (fun completed row =>
      (Completion.supplied key completed).map (Value.toStr room) =
        (column row).map Except.ok) completed rows)
    (stored : collapse mergeRow rows = some row) :
    (column row).map Except.ok =
      (completed.filterMap (Completion.supplied key)).getLast?.map
        (Value.toStr room) := by
  have collapsed := collapse_column apart rows
  rw [stored, Option.map_some] at collapsed
  have joined := collapse_coalesce (rows.map column)
  rw [← collapsed, Option.join_some] at joined
  rw [joined, ← List.getLast?_map, ← List.getLast?_map,
    map_filterMap_supplied pairs]

theorem collapse_status {completed : List (Completion ι)}
    {rows : List RegistryRow} {row : RegistryRow}
    (same : completed.map (Completion.status calls) =
      rows.map RegistryRow.status)
    (stored : collapse mergeRow rows = some row) :
    collapse (retain (terminalStatuses.contains ·))
      (completed.map (Completion.status calls)) = some row.status := by
  have retained : ∀ status ∈ completed.map (Completion.status calls),
      ∀ old, mergeStatus old status =
        retain (terminalStatuses.contains ·) old status := by
    intro status member old
    obtain ⟨source, -, rfl⟩ := List.mem_map.mp member
    rw [mergeStatus, open_iff_of_allowed source.status_allowed]
    rfl
  have collapsed : (collapse mergeRow rows).map RegistryRow.status =
      collapse mergeStatus (rows.map RegistryRow.status) :=
    collapse_column (fun _ _ => rfl) rows
  rw [stored, Option.map_some, ← same, collapse_congr retained] at collapsed
  exact collapsed.symm

theorem map_status_eq {completed : List (Completion ι)}
    {rows : List RegistryRow}
    (pairs : List.Forall₂ (fun completed row => Records room
      (calls completed.index) completed.merged incidentId row) completed rows) :
    completed.map (Completion.status calls) = rows.map RegistryRow.status := by
  induction pairs with
  | nil => rfl
  | cons records rest induction =>
      rw [List.map_cons, List.map_cons, induction, records.status]
      rfl

theorem rowLaw_of_records {completed : List (Completion ι)}
    {rows : List RegistryRow} {row : RegistryRow}
    (pairs : List.Forall₂
      (fun completed row => Records room (calls completed.index)
        completed.merged incidentId row) completed rows)
    (stored : collapse mergeRow rows = some row) :
    RowLaw room calls completed row := by
  have status := collapse_status (map_status_eq pairs) stored
  have source := mem_of_collapse_retain status
  have told := status
  rw [collapse_retain, filter_status] at told
  exact {
    allowed := by
      obtain ⟨completed, -, same⟩ := List.mem_map.mp source
      exact same ▸ completed.status_allowed
    returned := by
      rintro rfl
      cases source
    closed := by
      intro terminal last
      rw [last, Option.some_or] at told
      exact (Option.some.inj told).symm
    opened := by
      intro unclosed last ends
      have silent : last.terminalStatus = none :=
        List.filterMap_eq_nil_iff.mp unclosed last (List.mem_of_getLast? ends)
      rw [unclosed, List.getLast?_nil, Option.none_or, List.getLast?_map, ends,
        Option.map_some] at told
      rw [← Option.some.inj told]
      exact last.leaves silent
    pipeline := collapse_supplied (fun _ _ => rfl)
      (pairs.imp fun _ _ records => map_supplied records.pipeline) stored
    detectedAt := collapse_supplied (fun _ _ => rfl)
      (pairs.imp fun _ _ records => map_supplied records.detectedAt) stored
    fingerprint := collapse_supplied (fun _ _ => rfl)
      (pairs.imp fun _ _ records => map_supplied records.fingerprint) stored }

end Law

/-- What the database holds of an incident once the calls `history` have
returned. -/
structure IncidentLaw {ι : Type} (room : Nat) (calls : ι → Call)
    (history : List (Completion ι)) (registry : IncidentRegistry)
    (incidentId : String) : Prop where
  unique : (registry.rows.filter fun entry => entry.1 = incidentId).length ≤ 1
  absent : registry.find incidentId = none ↔
    concerning calls incidentId history = []
  present : ∀ row, registry.find incidentId = some row →
    RowLaw room calls (concerning calls incidentId history) row

section Law

variable {ι : Type} [DecidableEq ι] {room : Nat} {calls : ι → Call}
  {events : List (ι × Dialogue.Exchange RunnerAnswer)}
  {after : Shared ι RunnerAnswer (Except Exc State) IncidentRegistry}

theorem incidentLaw_of_turns
    (turns : Shared.Turns Serves (initial room calls) events after)
    (incidentId : String) :
    IncidentLaw room calls (completions events after) after.partner
      incidentId := by
  have pairs := records_rowsOf incidentId (completions_records turns)
  have found : after.partner.find incidentId = collapse mergeRow
      (Table.rowsOf incidentId ((events.map Prod.snd).filterMap upserted)) := by
    rw [served_replay turns.served]
    exact Table.find_replay ..
  refine ⟨Table.length_filter_le_one _ _, ?_, fun row stored => ?_⟩
  · rw [found, collapse_eq_none_iff, ← List.length_eq_zero_iff,
      ← pairs.length_eq, List.length_eq_zero_iff]
  · rw [found] at stored
    exact rowLaw_of_records pairs stored

theorem find_of_turn
    (turns : Shared.Turns Serves (initial room calls) events after)
    {event : ι × Dialogue.Exchange RunnerAnswer}
    {final : Shared ι RunnerAnswer (Except Exc State) IncidentRegistry}
    (turn : Shared.Turn Serves after event final) {incidentId : String}
    (other : (calls event.1).incident ≠ .str incidentId) :
    final.partner.find incidentId = after.partner.find incidentId := by
  have registry := turn.partner.registry_eq
  cases wrote : upserted event.2 with
  | none =>
      rw [wrote] at registry
      rw [registry]
  | some write =>
      obtain ⟨merged, -, records⟩ :=
        records_of_upserted (turns.concat turn) (by simp) wrote
      have differs : incidentId ≠ write.1 := by
        intro same
        subst same
        exact other records.named
      rw [wrote] at registry
      rw [registry, Table.find_upsert, if_neg differs]

/-- However the calls of all runners interleave, the registry tells their
history. -/
theorem incidentRegistry_history
    (turns : Shared.Turns Serves (initial room calls) events after) :
    (∀ index merged, ⟨index, merged⟩ ∈ completions events after ↔
        after.process index = .done (.ok merged)) ∧
      ((completions events after).map Completion.index).Nodup ∧
      (∀ incidentId, IncidentLaw room calls (completions events after)
        after.partner incidentId) ∧
      ∀ event final, Shared.Turn Serves after event final →
        ∀ incidentId, (calls event.1).incident ≠ .str incidentId →
          final.partner.find incidentId = after.partner.find incidentId :=
  ⟨fun _ _ => mem_completions_iff turns, nodup_completions turns,
    incidentLaw_of_turns turns,
    fun _ _ turn _ other => find_of_turn turns turn other⟩

end Law

def startState : State :=
  .ofList [("incident_id", .str "inc-1"), ("pipeline", .str "pipeline_silver")]

/-- An incident is resumed while its first call still runs. -/
def overlapCalls : Bool → Call
  | false => .invoke startState
  | true => .resume (.str "inc-1") none

def overlapEvents : List (Bool × Dialogue.Exchange RunnerAnswer) :=
  [(false, ⟨.graphInvoke startState (.str "inc-1"),
      .ok (some (.ofList [("final_status", .str "resolved")]))⟩),
    (true, ⟨.graphInvoke .empty (.str "inc-1"), .ok none⟩),
    (false, ⟨.now, "2026-02-01T03:00:00+00:00"⟩),
    (true, ⟨.now, "2026-02-01T03:00:01+00:00"⟩),
    (false, ⟨.upsert "inc-1"
      ⟨some "pipeline_silver", none, none, "resolved",
        "2026-02-01T03:00:00+00:00"⟩, .ok ()⟩),
    (true, ⟨.upsert "inc-1"
      ⟨none, none, none, "resumed", "2026-02-01T03:00:01+00:00"⟩, .ok ()⟩)]

theorem overlap_turns :
    ∃ after,
      Shared.Turns Serves (initial 900 overlapCalls) overlapEvents after ∧
      (after.partner.find "inc-1").map RegistryRow.status = some "resolved" :=
  ⟨_, .cons (.ask rfl (.graph ..)) <| .cons (.ask rfl (.graph ..)) <|
      .cons (.ask rfl (.clock ..)) <| .cons (.ask rfl (.clock ..)) <|
      .cons (.ask rfl (.accepted ..)) <| .cons (.ask rfl (.accepted ..)) <|
      .nil _, rfl⟩

theorem incidentRegistry_history_overlap :
    ∃ after,
      Shared.Turns Serves (initial 900 overlapCalls) overlapEvents after ∧
      IncidentLaw 900 overlapCalls (completions overlapEvents after)
        after.partner "inc-1" := by
  obtain ⟨after, turns, -⟩ := overlap_turns
  exact ⟨after, turns, (incidentRegistry_history turns).2.2.1 "inc-1"⟩

end PipelineOps.Runtime
