import PipelineOps.Graph.Nodes.Execute
import PipelineOps.Tools.JobStatus

namespace PipelineOps.Graph

open PipelineOps.Library
open PipelineOps.Python
open PipelineOps.Orchestrator
open PipelineOps.Tools

/-- All that stands between a state and a request to Databricks: the plan, the
decision, and the secret that puts the process into the live mode. -/
structure Authorization (env : SecretEnv) (jobs : JobsConfig)
    (state : State) where
  actionPlan : JsonObject
  action : String
  parameters : JsonObject
  expectedSchema : List String
  pipeline : String
  config : PipelineJobConfig
  proposed : State.get state "action_plan" = .dict actionPlan
  actionField : actionPlan.lookup "action" = some (.str action)
  parametersField : actionPlan.lookup "parameters" = some (.dict parameters)
  approved : State.get state "human_decision" = .str "approve"
  contract : validateActionPlanContract actionPlan = .ok ()
  valid : validateActionPlan (.str action) parameters = .ok ()
  submits : action = "backfill_silver" ∨ action = "retry_pipeline"
  schema : actionParameterSchema.lookup action = some expectedSchema
  fits : MatchesSchema expectedSchema parameters
  named : parameters.lookup "pipeline" = some (.str pipeline)
  known : pipeline ∈
    ["pipeline_silver", "pipeline_b", "pipeline_c", "pipeline_a"]
  configured : jobs.field? pipeline = some config
  live : ∃ secret, getSecret env "agent-execute-mode" = .ok secret ∧
    replaceChar '_' '-' (lower (strip secret)) = "live"

/-- The request names the job in its payload or in its form-encoded query. -/
inductive Concerns (jobId : Int) (request : HttpRequest) : Prop
  | runNow {baseUrl : String} (method : request.method = "POST")
      (url : request.url = baseUrl ++ "/api/2.1/jobs/run-now")
      (payload : request.payload = some [("job_id", .int jobId)])
  | listActive {baseUrl query : String} (method : request.method = "GET")
      (url : request.url = baseUrl ++ "/api/2.1/jobs/runs/list?" ++ query)
      (payload : request.payload = none)
      (decodes : FormEncoding.decode query.toList =
        asked [("job_id", toString jobId), ("active_only", "true"),
          ("limit", "1")])

theorem concerns_of_requests {call : JobCall} {request : HttpRequest}
    (asked : call.Requests request) : Concerns call.jobId request := by
  rcases asked with rfl | rfl
  · exact .runNow rfl rfl rfl
  · exact .listActive rfl runsListRequest_url rfl (decode_urlencode _)

section Gate

variable {python : Interpreter} {env : SecretEnv} {base : BaseModel}
  {jobs : JobsConfig} {state : State}

/-- The schemas of the two actions that submit a job ask for a pipeline and
leave no room for an execute mode. -/
theorem schema_submits {action : String} {expectedSchema : List String}
    (submits : action ∈ supportedActions)
    (schema : actionParameterSchema.lookup action = some expectedSchema) :
    "pipeline" ∈ expectedSchema ∧ "execute_mode" ∉ expectedSchema := by
  simp only [supportedActions, List.mem_cons, List.not_mem_nil, or_false]
    at submits
  rcases submits with rfl | rfl
  · obtain rfl := Option.some.inj schema
    decide
  · obtain rfl := Option.some.inj schema
    decide

/-- The checks of `execute` and those of `run_databricks_job` together. -/
theorem exists_authorization (plain : base.WithoutJobs)
    {actionPlan : JsonObject} {plan : Execute.ApprovedPlan} {call : JobCall}
    (passed : Execute.Passed state actionPlan plan)
    (ready : Ready python env base jobs plan.action plan.parameters call) :
    ∃ authorization : Authorization env jobs state,
      authorization.config.refresh = call.jobId := by
  obtain ⟨action, supported, same⟩ := ready.supported
  have valid := passed.valid
  rw [same] at valid
  obtain ⟨name, expectedSchema, named, schema, fits, -⟩ :=
    validateActionPlan_ok_iff.mp valid
  obtain rfl := Value.str.inj named
  obtain ⟨asksPipeline, leavesMode⟩ := schema_submits supported schema
  obtain ⟨pipeline, found⟩ := fits.lookup asksPipeline
  have target : pipeline = call.pipeline := by
    have read := ready.pipeline
    rw [Value.get, found, Option.getD_some] at read
    exact Value.str.inj read
  obtain ⟨config, configured, job⟩ :=
    JobsConfig.refreshJobId_eq_some plain ready.job
  exact ⟨{
      actionPlan, action, parameters := plan.parameters, expectedSchema
      pipeline := call.pipeline, config
      proposed := passed.proposed
      actionField := same ▸ passed.action
      parametersField := passed.parameters
      approved := passed.approved
      contract := passed.contract
      valid, schema, fits, configured
      submits := by simpa [supportedActions] using supported
      named := target ▸ found
      known := JobsConfig.field?_mem configured
      live := resolveExecuteMode_secret (fits.lookup_eq_none leavesMode)
        ready.live },
    job⟩

theorem run_authorized (plain : base.WithoutJobs) :
    (∃ returned,
      Execute.run python env base jobs state = .done returned) ∨
    ∃ authorization : Authorization env jobs state,
      (Execute.run python env base jobs state).Asks
        (Concerns authorization.config.refresh) := by
  rw [Execute.run]
  cases approved : Execute.approvedPlan state with
  | error exc => exact .inl ⟨_, rfl⟩
  | ok plan =>
      obtain ⟨actionPlan, passed⟩ := Execute.approvedPlan_ok_iff.mp approved
      dsimp only
      split
      · exact .inl ⟨_, rfl⟩
      · rcases runDatabricksJob_cases with ⟨result, same⟩ | ⟨call, ready, same⟩
        · rw [same]
          exact .inl ⟨_, rfl⟩
        · obtain ⟨authorization, job⟩ := exists_authorization plain passed ready
          rw [same]
          refine .inr ⟨authorization, Dialogue.Asks.bind ?_ fun _ => trivial⟩
          exact (submitLoop_asks _ _).mono fun request asked =>
            job ▸ concerns_of_requests asked

/-- However secrets and HTTP behave, a request is sent only with authorization
and only about the configured job; otherwise `execute` returns or raises
without one. -/
theorem requests_authorized (plain : base.WithoutJobs) :
    (∀ trace returned,
      (Execute.run python env base jobs state).Path trace returned →
        trace ≠ [] →
        ∃ authorization : Authorization env jobs state,
          ∀ exchange ∈ trace,
            Concerns authorization.config.refresh exchange.1) ∧
      (IsEmpty (Authorization env jobs state) →
        ∃ returned,
          Execute.run python env base jobs state = .done returned) := by
  rcases run_authorized plain with ⟨returned, same⟩ | ⟨authorization, asks⟩
  · refine ⟨fun trace other path asked => ?_, fun _ => ⟨returned, same⟩⟩
    rw [same] at path
    exact absurd (Dialogue.path_done_iff.mp path).1 asked
  · exact ⟨fun trace returned path _ => ⟨authorization, asks.path path⟩,
      fun unauthorized => unauthorized.elim authorization⟩

end Gate

def retryState : State :=
  .ofList
    [("pipeline", .str "pipeline_silver"),
      ("human_decision", .str "approve"),
      ("action_plan", .dict
        [("action", .str "retry_pipeline"),
          ("parameters", .dict retryParameters)])]

theorem run_approved :
    (Execute.run runIdJson liveEnv (fun _ => none) defaultJobs
      retryState).Path
        [⟨retryCall.runNowRequest, .body "\x7b\"run_id\": 42\x7d"⟩]
        (.ok (Execute.result
          ⟨.str "pipeline_silver", .str "retry_pipeline", retryParameters⟩
          (retryCall.submitted "42"))) := by
  have submits : Execute.run runIdJson liveEnv (fun _ => none) defaultJobs
      retryState =
        (submitLoop runIdJson retryCall maxTimeoutRetries max5xxRetries).bind
          fun executionResult => .done (executionResult.map (Execute.result
            ⟨.str "pipeline_silver", .str "retry_pipeline",
              retryParameters⟩)) := rfl
  rw [submits, submitLoop.eq_def]
  exact .ask (.done _)

theorem requests_authorized_retry :
    ∃ authorization : Authorization liveEnv defaultJobs retryState,
      Concerns authorization.config.refresh retryCall.runNowRequest := by
  have plain : BaseModel.WithoutJobs fun _ => none :=
    fun _ _ _ found => nomatch found
  obtain ⟨authorization, concerns⟩ :=
    (requests_authorized plain).1 _ _ run_approved (List.cons_ne_nil _ _)
  exact ⟨authorization, concerns _ (List.mem_singleton_self _)⟩

end PipelineOps.Graph
