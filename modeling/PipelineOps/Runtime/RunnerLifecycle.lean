import PipelineOps.Runtime.IncidentHistory

namespace PipelineOps.Runtime

open PipelineOps.Library
open PipelineOps.Python
open PipelineOps.Graph

/-! The calls that one runner takes before and after it is closed. -/

structure Runner where
  closed : Bool
  registry : IncidentRegistry

namespace Runner

def close (runner : Runner) : Runner := { runner with closed := true }

def upsert (runner : Runner) (incidentId : String) (row : RegistryRow) :
    Runner :=
  { runner with registry := runner.registry.upsert mergeRow incidentId row }

end Runner

def closedDatabase : Exc :=
  ⟨.other "ProgrammingError", "Cannot operate on a closed database."⟩

/-- The graph may return or raise anything. The connection of a closed runner
is closed. -/
inductive RunnerServes : Runner → (request : RunnerRequest) →
    RunnerAnswer request → Runner → Prop
  | graph (runner : Runner) (payload : State) (threadId : Value)
      (result : Except Exc (Option State)) :
      RunnerServes runner (.graphInvoke payload threadId) result runner
  | clock (runner : Runner) (text : String) :
      RunnerServes runner .now text runner
  | accepted {runner : Runner} (opened : runner.closed = false)
      (incidentId : String) (row : RegistryRow) :
      RunnerServes runner (.upsert incidentId row) (.ok ())
        (runner.upsert incidentId row)
  | refused {runner : Runner} (closed : runner.closed = true)
      (incidentId : String) (row : RegistryRow) :
      RunnerServes runner (.upsert incidentId row) (.error closedDatabase)
        runner

/-- One call, from its start to its end. -/
structure CallRun where
  room : Nat
  call : Call
  before : Runner
  trace : List (Dialogue.Exchange RunnerAnswer)
  returned : Except Exc State
  after : Runner
  path : (call.dialogue room).Path trace returned
  served : Dialogue.Served RunnerServes before trace after

/-- The calls of a runner that is used, and closed at any time. -/
inductive Lifecycle : Runner → List CallRun → Runner → Prop
  | nil (runner : Runner) : Lifecycle runner [] runner
  | call {run : CallRun} {runs : List CallRun} {final : Runner}
      (rest : Lifecycle run.after runs final) :
      Lifecycle run.before (run :: runs) final
  | close {runner : Runner} {runs : List CallRun} {final : Runner}
      (rest : Lifecycle runner.close runs final) : Lifecycle runner runs final

/-- The graph was invoked with these arguments and returned `result`. -/
def GraphReturned (trace : List (Dialogue.Exchange RunnerAnswer))
    (payload : State) (threadId : Value) (result : Option State) : Prop :=
  ⟨.graphInvoke payload threadId, .ok result⟩ ∈ trace

def mergedState (payload : State) (threadId : Value) (result : Option State) :
    State :=
  (payload.update (result.getD .empty)).set "incident_id" threadId

/-- If the graph returned, so does the call, under the id of the thread, and the
registry has the row of the run. -/
def CallRun.Recorded (run : CallRun) : Prop :=
  ∀ payload threadId result, GraphReturned run.trace payload threadId result →
    ∃ incidentId row, threadId = .str incidentId ∧
      run.returned = .ok (mergedState payload threadId result) ∧
      Records run.room run.call (mergedState payload threadId result)
        incidentId row ∧
      run.after.registry =
        run.before.registry.upsert mergeRow incidentId row

/-- The columns of the registry row can be built from the state. -/
def HasTexts (room : Nat) (state : State) : Prop :=
  ∀ key ∈ ["pipeline", "detected_at", "fingerprint"],
    ∃ text, optionalText room (State.get state key) = .ok text

structure Recordable (room : Nat) (call : Call) (runner : Runner)
    (result : Option State) : Prop where
  opened : runner.closed = false
  named : ∃ incidentId, call.incident = .str incidentId ∧ incidentId ≠ ""
  texts : HasTexts room (call.payload.update (result.getD .empty))

section Calls

variable {room : Nat} {before after : Runner}
  {trace : List (Dialogue.Exchange RunnerAnswer)}
  {returned : Except Exc State}

theorem registryRow_returns_iff {state : State} (defaultStatus now : String) :
    (∃ row, registryRow room state defaultStatus now = .ok row) ↔
      HasTexts room state := by
  constructor
  · intro built
    obtain ⟨row, returned⟩ := built
    obtain ⟨pipeline, detectedAt, fingerprint, -⟩ := registryRow_ok returned
    intro key member
    simp only [List.mem_cons, List.not_mem_nil, or_false] at member
    rcases member with rfl | rfl | rfl
    · exact ⟨_, pipeline⟩
    · exact ⟨_, detectedAt⟩
    · exact ⟨_, fingerprint⟩
  · intro texts
    obtain ⟨pipeline, pipelineText⟩ := texts "pipeline" (by simp)
    obtain ⟨detectedAt, detectedAtText⟩ := texts "detected_at" (by simp)
    obtain ⟨fingerprint, fingerprintText⟩ := texts "fingerprint" (by simp)
    simp only [registryRow, bind_ok_iff]
    exact ⟨_, _, pipelineText, _, detectedAtText, _, fingerprintText, rfl⟩

theorem get_set_of_ne {state : State} {key other : String} (value : Value)
    (differs : key ≠ other) :
    State.get (state.set other value) key = State.get state key := by
  apply State.get_eq_of_find
  exact if_neg differs

theorem hasTexts_mergedState_iff {payload : State} {threadId : Value}
    {result : Option State} :
    HasTexts room (mergedState payload threadId result) ↔
      HasTexts room (payload.update (result.getD .empty)) := by
  apply forall_congr'
  intro key
  apply imp_congr_right
  intro member
  have differs : key ≠ "incident_id" := by
    intro same
    subst same
    simp at member
  rw [mergedState, get_set_of_ne threadId differs]

theorem requireIncidentId_mergedState {payload : State} {threadId : Value}
    {result : Option State} {incidentId : String} :
    requireIncidentId (mergedState payload threadId result) = .ok incidentId ↔
      threadId = .str incidentId ∧ incidentId ≠ "" := by
  rw [requireIncidentId_ok_iff]
  rfl

/-- The upsert refuses the state, or it reads the clock, and builds the row or
asks the database for it. -/
theorem upsert_path {merged : State} {defaultStatus : String}
    (path : ((upsertIncidentRegistry room merged defaultStatus).bind fun
        | .error exc => .done (.error exc)
        | .ok () => .done (.ok merged)).Path trace returned) :
    (∃ exc, requireIncidentId merged = .error exc ∧ trace = [] ∧
        returned = .error exc) ∨
      ∃ incidentId now, requireIncidentId merged = .ok incidentId ∧
        ((∃ exc, registryRow room merged defaultStatus now = .error exc ∧
            trace = [⟨.now, now⟩] ∧ returned = .error exc) ∨
          ∃ row answer, registryRow room merged defaultStatus now = .ok row ∧
            trace = [⟨.now, now⟩, ⟨.upsert incidentId row, answer⟩] ∧
            returned = answer.map fun _ => merged) := by
  rw [upsertIncidentRegistry] at path
  cases required : requireIncidentId merged with
  | error exc =>
      rw [required] at path
      obtain ⟨rfl, rfl⟩ := Dialogue.path_done_iff.mp path
      exact .inl ⟨exc, rfl, rfl, rfl⟩
  | ok incidentId =>
      rw [required] at path
      cases path with
      | ask rest =>
          rename_i trace now
          refine .inr ⟨incidentId, now, rfl, ?_⟩
          cases built : registryRow room merged defaultStatus now with
          | error exc =>
              simp only [built] at rest
              obtain ⟨rfl, rfl⟩ := Dialogue.path_done_iff.mp rest
              exact .inl ⟨exc, rfl, rfl, rfl⟩
          | ok row =>
              simp only [built] at rest
              cases rest with
              | ask last =>
                  rename_i trace answer
                  refine .inr ⟨row, answer, rfl, ?_⟩
                  cases answer with
                  | error exc =>
                      obtain ⟨rfl, rfl⟩ := Dialogue.path_done_iff.mp last
                      exact ⟨rfl, rfl⟩
                  | ok done =>
                      obtain ⟨rfl, rfl⟩ := Dialogue.path_done_iff.mp last
                      exact ⟨rfl, rfl⟩

theorem upsert_silent {merged : State} {defaultStatus : String}
    (path : ((upsertIncidentRegistry room merged defaultStatus).bind fun
        | .error exc => .done (.error exc)
        | .ok () => .done (.ok merged)).Path trace returned) (payload : State)
    (threadId : Value) (result : Option State) :
    ¬ GraphReturned trace payload threadId result := by
  rcases upsert_path path with
    ⟨_, _, rfl, _⟩ | ⟨_, _, _, ⟨_, _, rfl, _⟩ | ⟨_, _, _, rfl, _⟩⟩ <;>
  simp [GraphReturned]

/-- The upsert takes place exactly when it can, and only then does the call
return. -/
theorem upsert_run {merged : State} {defaultStatus : String}
    (path : ((upsertIncidentRegistry room merged defaultStatus).bind fun
        | .error exc => .done (.error exc)
        | .ok () => .done (.ok merged)).Path trace returned)
    (served : Dialogue.Served RunnerServes before trace after) :
    (∃ incidentId row now, before.closed = false ∧
        requireIncidentId merged = .ok incidentId ∧
        registryRow room merged defaultStatus now = .ok row ∧
        returned = .ok merged ∧ after = before.upsert incidentId row) ∨
      (∃ exc, returned = .error exc) ∧
        ¬ (before.closed = false ∧
          (∃ incidentId, requireIncidentId merged = .ok incidentId) ∧
          HasTexts room merged) := by
  rcases upsert_path path with
    ⟨exc, required, rfl, rfl⟩ | ⟨incidentId, now, required, ended⟩
  · refine .inr ⟨⟨exc, rfl⟩, ?_⟩
    intro recordable
    obtain ⟨-, ⟨incidentId, named⟩, -⟩ := recordable
    cases required.symm.trans named
  · rcases ended with ⟨exc, built, rfl, rfl⟩ | ⟨row, answer, built, rfl, rfl⟩
    · refine .inr ⟨⟨exc, rfl⟩, ?_⟩
      intro recordable
      obtain ⟨row, other⟩ :=
        (registryRow_returns_iff defaultStatus now).mpr recordable.2.2
      cases built.symm.trans other
    · cases served with
      | cons clock answered =>
          cases clock
          cases Dialogue.served_singleton_iff.mp answered with
          | accepted opened =>
              exact .inl
                ⟨incidentId, row, now, opened, required, built, rfl, rfl⟩
          | refused closed =>
              refine .inr ⟨⟨_, rfl⟩, ?_⟩
              intro recordable
              cases closed.symm.trans recordable.1

/-- The graph is invoked once, with what the call was given, and the upsert
follows when it has returned. -/
theorem CallRun.graphReturned (run : CallRun) {payload : State}
    {threadId : Value} {result : Option State}
    (graph : GraphReturned run.trace payload threadId result) :
    payload = run.call.payload ∧ threadId = run.call.incident ∧
      ∃ rest, ((upsertIncidentRegistry run.room
          (mergedState payload threadId result)
          run.call.defaultStatus).bind fun
            | .error exc => .done (.error exc)
            | .ok () => .done (.ok (mergedState payload threadId result))).Path
              rest run.returned ∧
        Dialogue.Served RunnerServes run.before rest run.after := by
  obtain ⟨room, call, before, trace, returned, after, path, served⟩ := run
  dsimp only at graph ⊢
  rcases call.dialogue_cases room with ⟨exc, same⟩ | same
  · rw [same] at path
    obtain ⟨rfl, rfl⟩ := Dialogue.path_done_iff.mp path
    cases graph
  · rw [same, invokeGraph] at path
    cases path with
    | ask rest =>
        rename_i trace answer
        cases served with
        | cons step served =>
            cases step
            cases answer with
            | error exc =>
                obtain ⟨rfl, rfl⟩ := Dialogue.path_done_iff.mp rest
                cases List.mem_singleton.mp graph
            | ok returned =>
                rcases List.mem_cons.mp graph with head | later
                · obtain ⟨request, answer⟩ := Sigma.mk.inj head
                  obtain ⟨rfl, rfl⟩ := RunnerRequest.graphInvoke.inj request
                  obtain rfl := Except.ok.inj (eq_of_heq answer)
                  exact ⟨rfl, rfl, trace, rest, served⟩
                · exact absurd later (upsert_silent rest _ _ _)

theorem CallRun.recordable_iff (run : CallRun) {payload : State}
    {threadId : Value} {result : Option State}
    (graph : GraphReturned run.trace payload threadId result) :
    Recordable run.room run.call run.before result ↔
      run.before.closed = false ∧
        (∃ incidentId, requireIncidentId
          (mergedState payload threadId result) = .ok incidentId) ∧
        HasTexts run.room (mergedState payload threadId result) := by
  obtain ⟨rfl, rfl, -⟩ := run.graphReturned graph
  rw [hasTexts_mergedState_iff]
  simp only [requireIncidentId_mergedState]
  exact ⟨fun recordable => ⟨recordable.opened, recordable.named,
    recordable.texts⟩, fun checks => ⟨checks.1, checks.2.1, checks.2.2⟩⟩

/-- One call, recorded exactly when it is recordable. -/
theorem CallRun.recorded_iff (run : CallRun) :
    run.Recorded ↔ ∀ payload threadId result,
      GraphReturned run.trace payload threadId result →
        Recordable run.room run.call run.before result := by
  apply forall_congr'
  intro payload
  apply forall_congr'
  intro threadId
  apply forall_congr'
  intro result
  apply imp_congr_right
  intro graph
  rw [run.recordable_iff graph]
  obtain ⟨samePayload, sameThread, rest, path, served⟩ :=
    run.graphReturned graph
  rcases upsert_run path served with
    ⟨incidentId, row, now, opened, required, built, returned, after⟩ |
    ⟨⟨exc, raised⟩, unrecordable⟩
  · obtain ⟨named, -⟩ := requireIncidentId_mergedState.mp required
    obtain ⟨pipeline, detectedAt, fingerprint, status⟩ := registryRow_ok built
    constructor
    · intro recorded
      exact ⟨opened, ⟨incidentId, required⟩,
        (registryRow_returns_iff _ now).mp ⟨row, built⟩⟩
    · intro recordable
      refine ⟨incidentId, row, named, returned, ?_, by rw [after]; rfl⟩
      exact ⟨sameThread.symm.trans named, pipeline, detectedAt, fingerprint,
        status⟩
  · constructor
    · intro recorded
      obtain ⟨incidentId, row, -, returned, -⟩ := recorded
      cases raised.symm.trans returned
    · intro recordable
      exact absurd recordable unrecordable

/-- No statement removes a row. -/
theorem served_find_isSome
    (served : Dialogue.Served RunnerServes before trace after)
    {incidentId : String}
    (stored : (before.registry.find incidentId).isSome) :
    (after.registry.find incidentId).isSome := by
  induction served with
  | nil runner => exact stored
  | cons step rest induction =>
      apply induction
      cases step with
      | graph payload threadId result => exact stored
      | clock text => exact stored
      | accepted opened written row =>
          rw [Runner.upsert, Table.find_upsert]
          split
          · rfl
          · exact stored
      | refused closed written row => exact stored

end Calls

/-- No call and no closing removes a row. -/
theorem Lifecycle.find_isSome {runner final : Runner} {runs : List CallRun}
    (life : Lifecycle runner runs final) {incidentId : String}
    (stored : (runner.registry.find incidentId).isSome) :
    (final.registry.find incidentId).isSome := by
  induction life with
  | nil runner => exact stored
  | call rest induction =>
      rename_i run runs final
      exact induction (served_find_isSome run.served stored)
  | close rest induction => exact induction stored

/-- The run is recorded, and its row is still there at the end. -/
def CallRun.RecordedFor (run : CallRun) (final : Runner) : Prop :=
  run.Recorded ∧ ∀ payload threadId result,
    GraphReturned run.trace payload threadId result →
      ∃ incidentId, threadId = .str incidentId ∧
        (final.registry.find incidentId).isSome

theorem CallRun.Recorded.for {run : CallRun} (recorded : run.Recorded)
    {runs : List CallRun} {final : Runner}
    (rest : Lifecycle run.after runs final) : run.RecordedFor final := by
  refine ⟨recorded, ?_⟩
  intro payload threadId result graph
  obtain ⟨incidentId, row, named, -, -, registry⟩ :=
    recorded payload threadId result graph
  refine ⟨incidentId, named, rest.find_isSome ?_⟩
  rw [registry, Table.find_upsert, if_pos rfl]
  rfl

/-- Over the whole life of a runner, every finished graph run is recorded under
its thread exactly when every call that gets that far is recordable. -/
theorem finishedRuns_recorded_iff {runner final : Runner}
    {runs : List CallRun} (life : Lifecycle runner runs final) :
    (∀ run ∈ runs, run.RecordedFor final) ↔
      ∀ run ∈ runs, ∀ payload threadId result,
        GraphReturned run.trace payload threadId result →
          Recordable run.room run.call run.before result := by
  induction life with
  | nil runner => simp
  | call rest induction =>
      rw [List.forall_mem_cons, List.forall_mem_cons, induction,
        ← CallRun.recorded_iff]
      apply and_congr_left
      intro _
      exact ⟨fun recorded => recorded.1, fun recorded => recorded.for rest⟩
  | close rest induction => exact induction

def openRunner : Runner := ⟨false, .empty⟩

def unnamedTrace : List (Dialogue.Exchange RunnerAnswer) :=
  [⟨.graphInvoke .empty (.str ""), .ok none⟩]

theorem unnamedTrace_path :
    ((Call.resume (.str "") none).dialogue 900).Path unnamedTrace
      (.error (.valueError "incident_id is required")) :=
  .ask (.done _)

def unnamedResume : CallRun where
  room := 900
  call := .resume (.str "") none
  before := openRunner
  trace := unnamedTrace
  returned := .error (.valueError "incident_id is required")
  after := openRunner
  path := unnamedTrace_path
  served := .cons (.graph ..) (.nil _)

theorem unnamedResume_life :
    Lifecycle openRunner [unnamedResume] openRunner :=
  @Lifecycle.call unnamedResume [] openRunner (.nil _)

def startedRow : RegistryRow :=
  ⟨some "pipeline_silver", none, none, "running", "2026-02-01T03:00:00+00:00"⟩

def startedTrace : List (Dialogue.Exchange RunnerAnswer) :=
  [⟨.graphInvoke startState (.str "inc-1"), .ok none⟩,
    ⟨.now, "2026-02-01T03:00:00+00:00"⟩,
    ⟨.upsert "inc-1" startedRow, .ok ()⟩]

theorem startedTrace_path :
    ((Call.invoke startState).dialogue 900).Path startedTrace
      (.ok (mergedState startState (.str "inc-1") none)) :=
  .ask (.ask (.ask (.done _)))

def startedRun : CallRun where
  room := 900
  call := .invoke startState
  before := openRunner
  trace := startedTrace
  returned := .ok (mergedState startState (.str "inc-1") none)
  after := openRunner.upsert "inc-1" startedRow
  path := startedTrace_path
  served := .cons (.graph ..) (.cons (.clock ..)
    (.cons (.accepted rfl _ _) (.nil _)))

/-- A runner that is closed behind its one call. -/
theorem startedRun_life :
    Lifecycle openRunner [startedRun] startedRun.after.close :=
  @Lifecycle.call startedRun [] _ (.close (.nil _))

theorem startedRun_recordable {payload : State} {threadId : Value}
    {result : Option State}
    (graph : GraphReturned startedRun.trace payload threadId result) :
    Recordable 900 startedRun.call openRunner result := by
  simp only [GraphReturned, startedRun, startedTrace, List.mem_cons,
    List.not_mem_nil, or_false] at graph
  rcases graph with same | same | same
  · obtain ⟨-, answer⟩ := Sigma.mk.inj same
    obtain rfl := Except.ok.inj (eq_of_heq answer)
    refine ⟨rfl, ⟨"inc-1", rfl, by decide⟩, ?_⟩
    intro key member
    simp only [List.mem_cons, List.not_mem_nil, or_false] at member
    rcases member with rfl | rfl | rfl <;> exact ⟨_, rfl⟩
  · cases (Sigma.mk.inj same).1
  · cases (Sigma.mk.inj same).1

/-- The call of a runner that is closed behind it stays recorded. -/
theorem finishedRuns_recorded_iff_started :
    startedRun.RecordedFor startedRun.after.close := by
  have recorded := (finishedRuns_recorded_iff startedRun_life).mpr
    fun run member payload threadId result graph => by
      obtain rfl := List.mem_singleton.mp member
      exact startedRun_recordable graph
  exact recorded startedRun (List.mem_singleton_self _)

/-- The graph runs under an empty id, which only the upsert refuses. -/
theorem unnamedResume_unrecorded :
    ∃ runner runs final, Lifecycle runner runs final ∧
      ¬ ∀ run ∈ runs, run.RecordedFor final := by
  refine ⟨openRunner, [unnamedResume], openRunner, unnamedResume_life, ?_⟩
  intro recorded
  have graph : GraphReturned unnamedResume.trace .empty (.str "") none :=
    List.mem_singleton_self _
  obtain ⟨incidentId, row, -, returned, -⟩ :=
    (recorded unnamedResume (List.mem_singleton_self _)).1 _ _ _ graph
  cases returned

end PipelineOps.Runtime
