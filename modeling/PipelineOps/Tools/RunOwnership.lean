import PipelineOps.Tools.JobService
import PipelineOps.Tools.RetryDiscipline

namespace PipelineOps.Tools

open PipelineOps.Library
open PipelineOps.Python
open PipelineOps.Orchestrator

/-! Whose run a live call reports, when runs of the job come and go. -/

/-- The runs of the job that are active now, and those that the call has
started so far. -/
structure JobRuns where
  active : List RunId
  started : List RunId

namespace JobRuns

def start (runs : JobRuns) (runId : RunId) : JobRuns where
  active := runId :: runs.active
  started := runId :: runs.started

/-- Any runs end meanwhile, and runs that the call did not start begin. -/
structure Passes (before after : JobRuns) : Prop where
  started : after.started = before.started
  begun : ∀ runId ∈ after.active,
    runId ∈ before.active ∨ runId ∉ before.started

end JobRuns

section Serving

variable {python : Interpreter} {call : JobCall}

inductive Answers (python : Interpreter) (call : JobCall) :
    JobRuns → HttpRequest → UrlOpenOutcome → JobRuns → Prop
  | started {runs : JobRuns} {runId : RunId} {outcome : UrlOpenOutcome}
      (fresh : runId ∉ runs.active ∧ runId ∉ runs.started)
      (answer : Announces python runId outcome ∨
        RunNowFails python call outcome) :
      Answers python call runs call.runNowRequest outcome (runs.start runId)
  | refused {runs : JobRuns} {outcome : UrlOpenOutcome}
      (answer : RunNowFails python call outcome) :
      Answers python call runs call.runNowRequest outcome runs
  | listed {runs : JobRuns} {runId : RunId} {outcome : UrlOpenOutcome}
      {payload run : JsonObject} {others : List Value}
      (answer : readResponse python outcome = .ok payload)
      (first : Value.get payload "runs" = .list (.dict run :: others))
      (named : Value.get run "run_id" = .int runId.val)
      (active : runId ∈ runs.active) :
      Answers python call runs call.runsListRequest outcome runs
  | listedNone {runs : JobRuns} {outcome : UrlOpenOutcome}
      {payload : JsonObject}
      (answer : readResponse python outcome = .ok payload)
      (none : Value.get payload "runs" = .null ∨
        Value.get payload "runs" = .list [])
      (idle : runs.active = []) :
      Answers python call runs call.runsListRequest outcome runs
  | probeFailed {runs : JobRuns} {outcome : UrlOpenOutcome}
      (answer : ProbeFails python outcome) :
      Answers python call runs call.runsListRequest outcome runs

/-- Time passes, and then the request is answered. -/
def ServesRuns (python : Interpreter) (call : JobCall) (before : JobRuns)
    (request : HttpRequest) (outcome : UrlOpenOutcome) (after : JobRuns) :
    Prop :=
  ∃ middle, before.Passes middle ∧
    Answers python call middle request outcome after

theorem runNowResult_announced (call : JobCall) {runId : RunId}
    {outcome : UrlOpenOutcome}
    (announces : Announces python runId outcome) :
    runNowResult python call outcome =
      .ok (call.submitted (toString (runId.val : Int))) := by
  obtain ⟨payload, answer, named⟩ := announces
  rw [runNowResult, answer]
  simp only [Except.bind, submittedRun, named, RunId.toStr]
  rfl

theorem probeResult_listed {runId : RunId} {outcome : UrlOpenOutcome}
    {payload run : JsonObject} {others : List Value}
    (answer : readResponse python outcome = .ok payload)
    (first : Value.get payload "runs" = .list (.dict run :: others))
    (named : Value.get run "run_id" = .int runId.val) :
    probeResult python outcome = some (toString (runId.val : Int)) := by
  rw [probeResult, answer]
  simp only [Except.bind, activeRunId, first, named, RunId.toStr]
  rfl

theorem probeResult_listedNone {outcome : UrlOpenOutcome} {payload : JsonObject}
    (answer : readResponse python outcome = .ok payload)
    (empty : Value.get payload "runs" = .null ∨
      Value.get payload "runs" = .list []) :
    probeResult python outcome = none := by
  rw [probeResult, answer]
  rcases empty with empty | empty <;>
    simp [Except.bind, activeRunId, empty, Except.toOption]

theorem probeResult_failed {outcome : UrlOpenOutcome}
    (fails : ProbeFails python outcome) :
    probeResult python outcome = none := by
  rw [probeResult]
  rcases probed : (readResponse python outcome).bind (activeRunId python) with
    exc | _ | runId
  · rfl
  · rfl
  · exact absurd probed (fails runId)

/-- A run-now request that returns a run has started that run. -/
theorem ServesRuns.started {before after : JobRuns} {outcome : UrlOpenOutcome}
    {value : Value}
    (serves : ServesRuns python call before call.runNowRequest outcome after)
    (result : runNowResult python call outcome = .ok value) :
    ∃ runId ∈ after.started,
      value = call.submitted (toString (runId.val : Int)) := by
  obtain ⟨middle, -, answers⟩ := serves
  have failing : ¬ RunNowFails python call outcome := by
    intro fails
    obtain ⟨exc, failed⟩ := fails
    cases result.symm.trans failed
  generalize same : call.runNowRequest = request at answers
  cases answers with
  | @started runId _ fresh answer =>
      refine ⟨runId, List.mem_cons_self, ?_⟩
      have announced := runNowResult_announced call
        (answer.resolve_right failing)
      exact Except.ok.inj (result.symm.trans announced)
  | refused answer => exact absurd answer failing
  | listed answer first named active =>
      exact absurd same runNowRequest_ne_runsListRequest
  | listedNone answer none idle =>
      exact absurd same runNowRequest_ne_runsListRequest
  | probeFailed answer => exact absurd same runNowRequest_ne_runsListRequest

/-- A probe that finds a run names one that is active just then. -/
theorem ServesRuns.active {before after : JobRuns} {probe : UrlOpenOutcome}
    {found : String}
    (serves : ServesRuns python call before call.runsListRequest probe after)
    (active : probeResult python probe = some found) :
    ∃ runId ∈ after.active, found = toString (runId.val : Int) := by
  obtain ⟨middle, -, answers⟩ := serves
  generalize same : call.runsListRequest = request at answers
  cases answers with
  | started fresh answer =>
      exact absurd same.symm runNowRequest_ne_runsListRequest
  | refused answer => exact absurd same.symm runNowRequest_ne_runsListRequest
  | @listed runId _ _ _ _ answer first named listed =>
      have named := probeResult_listed answer first named
      exact ⟨runId, listed, Option.some.inj (active.symm.trans named)⟩
  | listedNone answer none idle =>
      cases active.symm.trans (probeResult_listedNone answer none)
  | probeFailed answer => cases active.symm.trans (probeResult_failed answer)

/-- The request is a run-now request that timed out or failed with a 5xx, and
the probe behind it found the run. -/
def FoundBehind (python : Interpreter) (call : JobCall)
    (trace : List HttpExchange) (jobRunId : String) : Prop :=
  ∃ earlier outcome probe,
    trace = earlier ++
      [runNowExchange call outcome, runsListExchange call probe] ∧
    (runNowFailure python call outcome).isSome ∧
    probeResult python probe = some jobRunId

theorem JobCall.submitted_inj {first second : String}
    (same : call.submitted first = call.submitted second) : first = second := by
  simpa [JobCall.submitted] using same

/-- A reported run was started by this call, or it was active when a probe
behind a lost run-now request listed it. -/
theorem reported_run_owned_or_active {env : SecretEnv} {base : BaseModel}
    {jobs : JobsConfig} {action : Value} {parameters : JsonObject}
    {foreign : List RunId} {final : JobRuns} {trace : List HttpExchange}
    {jobRunId : String}
    (prepared : prepareDatabricksJob python env base jobs action parameters =
      .ok (.inr call))
    (path : (runDatabricksJob python env base jobs action parameters).Path
      trace (.ok (call.submitted jobRunId)))
    (served : Dialogue.Served (ServesRuns python call) ⟨foreign, []⟩ trace
      final) :
    ∃ runId : RunId, jobRunId = toString (runId.val : Int) ∧
      (runId ∈ final.started ∨
        runId ∈ final.active ∧
          FoundBehind python call trace jobRunId) := by
  rw [runDatabricksJob, prepared] at path
  rcases (submitLoop_submission _ _ _ _ path).returns rfl with
    ⟨earlier, outcome, rfl, result⟩ |
    ⟨earlier, outcome, probe, kind, found, rfl, failed, active, same⟩
  · obtain ⟨middle, -, last⟩ := Dialogue.served_append_iff.mp served
    have step := Dialogue.served_singleton_iff.mp last
    obtain ⟨runId, started, same⟩ := ServesRuns.started step result
    exact ⟨runId, JobCall.submitted_inj same, .inl started⟩
  · obtain rfl := JobCall.submitted_inj same
    have split : earlier ++
        [runNowExchange call outcome, runsListExchange call probe] =
        (earlier ++ [runNowExchange call outcome]) ++
          [runsListExchange call probe] := by simp
    rw [split] at served
    obtain ⟨middle, -, last⟩ := Dialogue.served_append_iff.mp served
    have step := Dialogue.served_singleton_iff.mp last
    obtain ⟨runId, listed, named⟩ := ServesRuns.active step active
    exact ⟨runId, named, .inr ⟨listed, earlier, outcome, probe, rfl,
      by rw [failed]; rfl, active⟩⟩

end Serving

def activeRunJson : Interpreter where
  jsonLoads text :=
    if text = "\x7b\"runs\": [\x7b\"run_id\": 7\x7d]\x7d" then
      .ok (.dict [("runs", .list [.dict [("run_id", .int 7)]])])
    else .error ⟨.jsonDecodeError, "Expecting value"⟩
  room := 900

def scheduledRuns : JobRuns := ⟨[⟨7, by decide⟩], []⟩

def adoptedTrace : List HttpExchange :=
  [⟨retryCall.runNowRequest, .urlError "timed out"⟩,
    ⟨retryCall.runsListRequest,
      .body "\x7b\"runs\": [\x7b\"run_id\": 7\x7d]\x7d"⟩]

theorem adoptedTrace_path :
    (runDatabricksJob activeRunJson liveEnv (fun _ => none) defaultJobs
      (.str "retry_pipeline") retryParameters).Path adoptedTrace
        (.ok (retryCall.submitted "7")) := by
  rw [runDatabricksJob_retry, submitLoop.eq_def]
  exact .ask (.ask (.done _))

theorem adoptedTrace_served :
    Dialogue.Served (ServesRuns activeRunJson retryCall) scheduledRuns
      adoptedTrace scheduledRuns := by
  have still : scheduledRuns.Passes scheduledRuns :=
    ⟨rfl, fun _ active => .inl active⟩
  have refused : ServesRuns activeRunJson retryCall scheduledRuns
      retryCall.runNowRequest (.urlError "timed out") scheduledRuns :=
    ⟨scheduledRuns, still, .refused ⟨_, rfl⟩⟩
  have listed : ServesRuns activeRunJson retryCall scheduledRuns
      retryCall.runsListRequest
      (.body "\x7b\"runs\": [\x7b\"run_id\": 7\x7d]\x7d") scheduledRuns :=
    ⟨scheduledRuns, still, .listed rfl rfl rfl List.mem_cons_self⟩
  exact .cons refused (.cons listed (.nil _))

theorem reported_run_owned_or_active_adopted :
    ∃ runId : RunId, "7" = toString (runId.val : Int) ∧
      (runId ∈ scheduledRuns.started ∨
        runId ∈ scheduledRuns.active ∧
          FoundBehind activeRunJson retryCall adoptedTrace "7") :=
  reported_run_owned_or_active rfl adoptedTrace_path adoptedTrace_served

/-- A scheduled run is reported for one that was never started. -/
theorem scheduled_run_reported :
    ∃ jobRunId,
      (runDatabricksJob activeRunJson liveEnv (fun _ => none) defaultJobs
        (.str "retry_pipeline") retryParameters).Path adoptedTrace
          (.ok (retryCall.submitted jobRunId)) ∧
      Dialogue.Served (ServesRuns activeRunJson retryCall) scheduledRuns
        adoptedTrace scheduledRuns ∧
      ¬ ∃ runId ∈ scheduledRuns.started,
        jobRunId = toString ((runId : RunId).val : Int) := by
  refine ⟨"7", adoptedTrace_path, adoptedTrace_served, ?_⟩
  intro owned
  obtain ⟨runId, started, -⟩ := owned
  cases started

end PipelineOps.Tools
