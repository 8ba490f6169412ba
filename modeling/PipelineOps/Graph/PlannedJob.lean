import PipelineOps.Graph.ExecutionGate
import PipelineOps.Tools.RunOwnership

namespace PipelineOps.Graph

open PipelineOps.Library
open PipelineOps.Python
open PipelineOps.Orchestrator
open PipelineOps.Tools

/-! What of an approved plan arrives in the snapshot and in the request. -/

def pipelineOf : Value → Value
  | .dict entries => Value.get entries "pipeline"
  | _ => .null

/-- The pipeline that a rollback is to restore. -/
def snapshotPipeline (updates : Updates) : Value :=
  pipelineOf (State.get updates "pre_execute_table_version")

def jobPipeline (updates : Updates) : Value :=
  pipelineOf (State.get updates "execution_result")

section Results

variable {python : Interpreter} {env : SecretEnv} {base : BaseModel}
  {jobs : JobsConfig} {action : Value} {parameters : JsonObject}

theorem pipelineOf_submitted (call : JobCall) (jobRunId : String) :
    pipelineOf (call.submitted jobRunId) = .str call.pipeline := rfl

/-- The job that is only printed is the one of the plan. -/
theorem prepareDatabricksJob_dryRun {result : Value}
    (prepared : prepareDatabricksJob python env base jobs action parameters =
      .ok (.inl result)) :
    pipelineOf result = Value.get parameters "pipeline" := by
  simp only [prepareDatabricksJob, guard_ok_iff] at prepared
  obtain ⟨-, -, prepared⟩ := prepared
  cases named : Value.get parameters "pipeline" with
  | str pipeline =>
      simp only [named, guard_ok_iff, bind_ok_iff] at prepared
      obtain ⟨-, executeMode, -, prepared⟩ := prepared
      cases job : jobs.refreshJobId base pipeline with
      | none =>
          simp only [job] at prepared
          cases prepared
      | some refreshJobId =>
          simp only [job] at prepared
          by_cases dryRun : executeMode = "dry-run"
          · rw [if_pos dryRun] at prepared
            obtain rfl := Sum.inl.inj (Except.ok.inj prepared)
            rfl
          · rw [if_neg dryRun] at prepared
            obtain ⟨auth, -, live⟩ := bind_ok_iff.mp prepared
            cases live
  | _ =>
      simp only [named] at prepared
      cases prepared

/-- Wherever the result comes from, it is about the pipeline of the plan. -/
theorem runDatabricksJob_pipeline {trace : List HttpExchange} {result : Value}
    (path : (runDatabricksJob python env base jobs action parameters).Path
      trace (.ok result)) :
    pipelineOf result = Value.get parameters "pipeline" := by
  rw [runDatabricksJob] at path
  rcases prepared :
      prepareDatabricksJob python env base jobs action parameters with
    exc | finished | call
  · rw [prepared] at path
    cases path
  · rw [prepared] at path
    cases path
    exact prepareDatabricksJob_dryRun prepared
  · rw [prepared] at path
    rw [(prepareDatabricksJob_ready prepared).pipeline]
    rcases (submitLoop_submission _ _ _ _ path).returns rfl with
      ⟨-, outcome, -, response⟩ | ⟨-, -, -, -, runId, -, -, -, rfl⟩
    · obtain ⟨runId, rfl⟩ := runNowResult_ok response
      exact pipelineOf_submitted call runId
    · exact pipelineOf_submitted call runId

end Results

section Snapshot

variable {python : Interpreter} {env : SecretEnv} {base : BaseModel}
  {jobs : JobsConfig} {state : State} {plan : Execute.ApprovedPlan}

theorem run_job {trace : List HttpExchange} {updates : Updates}
    (path : (Execute.run python env base jobs state).Path trace
      (.ok updates))
    (approved : Execute.approvedPlan state = .ok plan)
    (job : plan.action ≠ .str "skip_and_report") :
    ∃ executionResult, updates = Execute.result plan executionResult ∧
      (runDatabricksJob python env base jobs plan.action
        plan.parameters).Path trace (.ok executionResult) := by
  have skips : ¬ plan.action.isText "skip_and_report" = true := by
    rw [Value.isText_iff]
    exact job
  simp only [Execute.run, approved, if_neg skips] at path
  obtain ⟨executed, first, second, rfl, ran, behind⟩ :=
    Dialogue.path_bind_iff.mp path
  obtain ⟨rfl, returned⟩ := Dialogue.path_done_iff.mp behind
  obtain ⟨executionResult, rfl, rfl⟩ := map_ok_iff.mp returned
  exact ⟨executionResult, rfl, by rwa [List.append_nil]⟩

/-- The snapshot and the job are about the pipeline of the plan. -/
def SnapshotConcernsJob (plan : Execute.ApprovedPlan) (updates : Updates) :
    Prop :=
  jobPipeline updates = Value.get plan.parameters "pipeline" ∧
    snapshotPipeline updates = Value.get plan.parameters "pipeline"

theorem snapshotConcernsJob_iff {trace : List HttpExchange} {updates : Updates}
    (path : (Execute.run python env base jobs state).Path trace
      (.ok updates))
    (approved : Execute.approvedPlan state = .ok plan)
    (job : plan.action ≠ .str "skip_and_report") :
    SnapshotConcernsJob plan updates ↔
      State.get state "pipeline" = Value.get plan.parameters "pipeline" := by
  obtain ⟨executionResult, rfl, ran⟩ := run_job path approved job
  have concerns : jobPipeline (Execute.result plan executionResult) =
      Value.get plan.parameters "pipeline" := runDatabricksJob_pipeline ran
  have snapshot : snapshotPipeline (Execute.result plan executionResult) =
      State.get state "pipeline" := by
    obtain ⟨actionPlan, passed⟩ := Execute.approvedPlan_ok_iff.mp approved
    rw [passed.pipeline]
    rfl
  unfold SnapshotConcernsJob
  rw [and_iff_right concerns, snapshot]

end Snapshot

section Request

variable {python : Interpreter} {env : SecretEnv} {base : BaseModel}
  {jobs : JobsConfig} {state : State} {plan : Execute.ApprovedPlan}

/-- A state with an approved backfill that the process submits. -/
structure LiveBackfill (python : Interpreter) (env : SecretEnv)
    (base : BaseModel) (jobs : JobsConfig) (state : State)
    (plan : Execute.ApprovedPlan) : Prop where
  approved : Execute.approvedPlan state = .ok plan
  backfill : plan.action = .str "backfill_silver"
  live : ∃ call, prepareDatabricksJob python env base jobs plan.action
    plan.parameters = .ok (.inr call)

/-- Every run-now request of the trace is answered with a run. -/
def RunNowsSucceed (python : Interpreter) (trace : List HttpExchange) : Prop :=
  ∀ exchange ∈ trace, isRunNow exchange = true →
    ∃ runId, Announces python runId exchange.2

/-- The law of two runs: other parameters make for other requests. -/
def RequestsDiffer (first second : List HttpExchange) : Prop :=
  first.map Sigma.fst ≠ second.map Sigma.fst

theorem runNowFailure_announced (call : JobCall) {runId : RunId}
    {outcome : UrlOpenOutcome} (announces : Announces python runId outcome) :
    runNowFailure python call outcome = none := by
  rw [runNowFailure, runNowResult_announced call announces]

theorem submission_requests {call : JobCall} {left : FailureKind → Nat}
    {trace : List HttpExchange} {returned : Except Exc Value}
    (runs : Submission python call left trace returned)
    (succeed : RunNowsSucceed python trace) :
    trace.map Sigma.fst = [call.runNowRequest] := by
  have first : ∀ outcome rest, trace = runNowExchange call outcome :: rest →
      runNowFailure python call outcome = none := by
    intro outcome rest same
    subst same
    obtain ⟨runId, announces⟩ :=
      succeed (runNowExchange call outcome) List.mem_cons_self rfl
    exact runNowFailure_announced call announces
  cases runs with
  | stopped final => rfl
  | found failed active => cases failed.symm.trans (first _ _ rfl)
  | exhausted failed inactive spent =>
      cases failed.symm.trans (first _ _ rfl)
  | again failed inactive retries rest =>
      cases failed.symm.trans (first _ _ rfl)

/-- One request is sent, with nothing of the parameters but the job of their
pipeline. -/
theorem LiveBackfill.requests
    (backfill : LiveBackfill python env base jobs state plan)
    {trace : List HttpExchange} {updates : Updates}
    (path : (Execute.run python env base jobs state).Path trace
      (.ok updates))
    (succeed : RunNowsSucceed python trace) :
    ∃ call, Ready python env base jobs plan.action plan.parameters call ∧
      trace.map Sigma.fst = [call.runNowRequest] := by
  obtain ⟨call, prepared⟩ := backfill.live
  have job : plan.action ≠ .str "skip_and_report" := by
    rw [backfill.backfill]
    simp
  obtain ⟨executionResult, -, ran⟩ := run_job path backfill.approved job
  rw [runDatabricksJob, prepared] at ran
  exact ⟨call, prepareDatabricksJob_ready prepared,
    submission_requests (submitLoop_submission _ _ _ _ ran) succeed⟩

theorem runNowRequest_eq_of_pipeline {action other : Value}
    {parameters others : JsonObject} {first second : JobCall}
    (ready : Ready python env base jobs action parameters first)
    (another : Ready python env base jobs other others second)
    (pipeline : Value.get parameters "pipeline" =
      Value.get others "pipeline") :
    first.runNowRequest = second.runNowRequest := by
  have named : first.pipeline = second.pipeline := by
    rw [ready.pipeline, another.pipeline] at pipeline
    exact Value.str.inj pipeline
  have job : first.jobId = second.jobId := by
    have found := ready.job
    rw [named, another.job] at found
    exact (Option.some.inj found).symm
  have auth : (first.baseUrl, first.token) = (second.baseUrl, second.token) :=
    Except.ok.inj (ready.auth.symm.trans another.auth)
  obtain ⟨baseUrl, token⟩ := Prod.mk.inj auth
  rw [JobCall.runNowRequest, JobCall.runNowRequest, job, baseUrl, token]

/-- Whatever the dates and run modes of two backfills are, their requests are
the same. -/
theorem backfill_requests_same {otherState : State}
    {otherPlan : Execute.ApprovedPlan} {first second : List HttpExchange}
    {updates otherUpdates : Updates}
    (backfill : LiveBackfill python env base jobs state plan)
    (otherBackfill : LiveBackfill python env base jobs otherState otherPlan)
    (pipeline : Value.get plan.parameters "pipeline" =
      Value.get otherPlan.parameters "pipeline")
    (path : (Execute.run python env base jobs state).Path first
      (.ok updates))
    (otherPath : (Execute.run python env base jobs otherState).Path second
      (.ok otherUpdates))
    (succeed : RunNowsSucceed python first)
    (otherSucceed : RunNowsSucceed python second) :
    ¬ RequestsDiffer first second := by
  obtain ⟨call, ready, requests⟩ := backfill.requests path succeed
  obtain ⟨otherCall, otherReady, otherRequests⟩ :=
    otherBackfill.requests otherPath otherSucceed
  unfold RequestsDiffer
  rw [requests, otherRequests,
    runNowRequest_eq_of_pipeline ready otherReady pipeline]
  exact not_not.mpr rfl

end Request

def runIdTrace : List HttpExchange :=
  [⟨retryCall.runNowRequest, .body "\x7b\"run_id\": 42\x7d"⟩]

/-- The state of an incident of `pipeline`, with an approved plan. -/
def plannedState (pipeline action : String) (parameters : JsonObject) : State :=
  .ofList
    [("pipeline", .str pipeline),
      ("human_decision", .str "approve"),
      ("action_plan", .dict
        [("action", .str action), ("parameters", .dict parameters)])]

def crossedPlan : Execute.ApprovedPlan :=
  ⟨.str "pipeline_a", .str "retry_pipeline", retryParameters⟩

theorem run_crossed :
    (Execute.run runIdJson liveEnv (fun _ => none) defaultJobs
      (plannedState "pipeline_a" "retry_pipeline" retryParameters)).Path
        runIdTrace
        (.ok (Execute.result crossedPlan (retryCall.submitted "42"))) := by
  have submits : Execute.run runIdJson liveEnv (fun _ => none) defaultJobs
      (plannedState "pipeline_a" "retry_pipeline" retryParameters) =
        (submitLoop runIdJson retryCall maxTimeoutRetries max5xxRetries).bind
          fun executionResult => .done
            (executionResult.map (Execute.result crossedPlan)) := rfl
  rw [submits, submitLoop.eq_def]
  exact .ask (.done _)

theorem snapshotConcernsJob_crossed :
    SnapshotConcernsJob crossedPlan
        (Execute.result crossedPlan (retryCall.submitted "42")) ↔
      Value.str "pipeline_a" = Value.str "pipeline_silver" :=
  snapshotConcernsJob_iff run_crossed rfl (by simp [crossedPlan])

/-- The snapshot is of the pipeline of the incident, the job of another. -/
theorem snapshot_of_other_pipeline :
    ∃ updates,
      (Execute.run runIdJson liveEnv (fun _ => none) defaultJobs
        (plannedState "pipeline_a" "retry_pipeline" retryParameters)).Path
          runIdTrace (.ok updates) ∧
      Execute.approvedPlan
        (plannedState "pipeline_a" "retry_pipeline" retryParameters) =
          .ok crossedPlan ∧
      ¬ SnapshotConcernsJob crossedPlan updates := by
  refine ⟨_, run_crossed, rfl, ?_⟩
  intro concerns
  have same : Value.str "pipeline_a" = Value.str "pipeline_silver" :=
    concerns.2
  exact absurd (Value.str.inj same) (by decide)

def backfillParameters (dateKst : String) : JsonObject :=
  [("pipeline", .str "pipeline_silver"), ("date_kst", .str dateKst),
    ("run_mode", .str "full")]

def backfillPlan (dateKst : String) : Execute.ApprovedPlan :=
  ⟨.str "pipeline_silver", .str "backfill_silver", backfillParameters dateKst⟩

def backfillState (dateKst : String) : State :=
  plannedState "pipeline_silver" "backfill_silver" (backfillParameters dateKst)

theorem validateActionPlan_backfill (dateKst : String) :
    validateActionPlan (.str "backfill_silver") (backfillParameters dateKst) =
      validateDateKst (.str dateKst) := rfl

theorem backfillState_approved {dateKst : String}
    (valid : validateDateKst (.str dateKst) = .ok ()) :
    Execute.approvedPlan (backfillState dateKst) =
      .ok (backfillPlan dateKst) := by
  apply Execute.approvedPlan_ok_iff.mpr
  refine ⟨[("action", .str "backfill_silver"),
    ("parameters", .dict (backfillParameters dateKst))], ?_⟩
  constructor
  · rfl
  · rfl
  · rfl
  · rfl
  · rfl
  · simp [backfillPlan]
  · rfl
  · exact (validateActionPlan_backfill dateKst).trans valid

theorem backfillState_live {dateKst : String}
    (valid : validateDateKst (.str dateKst) = .ok ()) :
    LiveBackfill runIdJson liveEnv (fun _ => none) defaultJobs
      (backfillState dateKst)
      (backfillPlan dateKst) :=
  ⟨backfillState_approved valid, rfl, _, rfl⟩

/-- Its request is the one that a retry of the pipeline would send. -/
theorem run_backfill {dateKst : String}
    (valid : validateDateKst (.str dateKst) = .ok ()) :
    ∃ updates,
      (Execute.run runIdJson liveEnv (fun _ => none) defaultJobs
        (backfillState dateKst)).Path runIdTrace (.ok updates) := by
  have submits : runDatabricksJob runIdJson liveEnv (fun _ => none) defaultJobs
      (backfillPlan dateKst).action (backfillPlan dateKst).parameters =
        submitLoop runIdJson
          { retryCall with action := .str "backfill_silver" }
          maxTimeoutRetries max5xxRetries := rfl
  have skips : ¬ (backfillPlan dateKst).action.isText "skip_and_report" =
      true := by
    simp [backfillPlan, Value.isText]
  rw [Execute.run, backfillState_approved valid]
  simp only [if_neg skips]
  rw [submits, submitLoop.eq_def]
  exact ⟨_, .ask (.done _)⟩

theorem runIdTrace_succeeds : RunNowsSucceed runIdJson runIdTrace := by
  intro exchange member posts
  obtain rfl := List.mem_singleton.mp member
  exact ⟨42, _, rfl, rfl⟩

theorem validateDateKst_february :
    validateDateKst (.str "2026-02-23") = .ok () ∧
      validateDateKst (.str "2026-02-24") = .ok () := by
  constructor <;> decide

theorem backfill_requests_same_dated :
    ¬ RequestsDiffer runIdTrace runIdTrace := by
  obtain ⟨firstValid, secondValid⟩ := validateDateKst_february
  obtain ⟨updates, path⟩ := run_backfill firstValid
  obtain ⟨otherUpdates, otherPath⟩ := run_backfill secondValid
  exact backfill_requests_same (backfillState_live firstValid)
    (backfillState_live secondValid) rfl path otherPath runIdTrace_succeeds
    runIdTrace_succeeds

/-- Two dates, one request. -/
theorem backfill_date_dropped :
    ∃ updates otherUpdates,
      LiveBackfill runIdJson liveEnv (fun _ => none) defaultJobs
        (backfillState "2026-02-23") (backfillPlan "2026-02-23") ∧
      LiveBackfill runIdJson liveEnv (fun _ => none) defaultJobs
        (backfillState "2026-02-24") (backfillPlan "2026-02-24") ∧
      (Execute.run runIdJson liveEnv (fun _ => none) defaultJobs
        (backfillState "2026-02-23")).Path runIdTrace (.ok updates) ∧
      (Execute.run runIdJson liveEnv (fun _ => none) defaultJobs
        (backfillState "2026-02-24")).Path runIdTrace (.ok otherUpdates) ∧
      RunNowsSucceed runIdJson runIdTrace ∧
      ¬ RequestsDiffer runIdTrace runIdTrace := by
  obtain ⟨firstValid, secondValid⟩ := validateDateKst_february
  obtain ⟨updates, path⟩ := run_backfill firstValid
  obtain ⟨otherUpdates, otherPath⟩ := run_backfill secondValid
  exact ⟨updates, otherUpdates, backfillState_live firstValid,
    backfillState_live secondValid, path, otherPath, runIdTrace_succeeds,
    fun differ => differ rfl⟩

end PipelineOps.Graph
