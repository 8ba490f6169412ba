import PipelineOps.Library.Dialogue
import PipelineOps.Library.Fallible
import PipelineOps.Orchestrator.Config
import PipelineOps.Orchestrator.Secrets
import PipelineOps.Tools.BadRecords

namespace PipelineOps.Tools

open PipelineOps.Library
open PipelineOps.Python
open PipelineOps.Orchestrator

def supportedActions : List String := ["backfill_silver", "retry_pipeline"]

def supportedExecuteModes : List String := ["dry-run", "live"]

def maxTimeoutRetries : Nat := 2

def max5xxRetries : Nat := 2

/-- What `_http_json_request` hands to `urlopen`. -/
structure HttpRequest where
  method : String
  url : String
  token : String
  payload : Option (List (String × Value))
  timeoutSeconds : Nat

/-- How `urlopen`, the reading and the decoding of the response end. -/
inductive UrlOpenOutcome where
  | body (rawBody : String)
  /-- An `HTTPError`: what reading its body gives, and its `reason`. -/
  | httpError (code : Int) (detail : Except Exc String) (reason : String)
  /-- A `URLError`, by the text of its `reason`. -/
  | urlError (reason : String)
  | raised (exc : Exc)

abbrev JsonObject := List (String × Value)

abbrev HttpAnswer (_ : HttpRequest) : Type := UrlOpenOutcome

abbrev HttpExchange := Dialogue.Exchange HttpAnswer

abbrev HttpCall (α : Type) := Dialogue HttpAnswer (Except Exc α)

def requestTimedOut : Exc := ⟨.timeoutError, "Databricks request timed out"⟩

def readResponse (python : Interpreter) : UrlOpenOutcome →
    Except Exc JsonObject
  | .body rawBody =>
      if rawBody = "" then .ok []
      else
        match python.jsonLoads rawBody with
        | .ok (.dict decoded) => .ok decoded
        | .ok _ => .error
            (.runtimeError "Databricks response must be a JSON object")
        | .error exc => .error exc
  | .httpError _ (.error exc) _ => .error exc
  | .httpError code (.ok detail) reason => .error
      ⟨.databricksHttpError (some code), "Databricks API error status=" ++
        toString code ++ ": " ++ (if detail = "" then reason else detail)⟩
  | .urlError reason =>
      if containsText "timed out" (lower reason) then .error requestTimedOut
      else .error ⟨.databricksHttpError none,
        "Databricks request failed: " ++ reason⟩
  | .raised exc =>
      if exc.cls = .timeoutError then .error requestTimedOut else .error exc

def httpJsonRequest (python : Interpreter) (request : HttpRequest) :
    HttpCall JsonObject :=
  .ask request fun outcome => .done (readResponse python outcome)

def isHttp5xxError (exc : Exc) : Bool :=
  match exc.cls with
  | .databricksHttpError (some statusCode) =>
      500 ≤ statusCode && statusCode < 600
  | _ => false

/-- The mode carried by the parameters, or else the secret. -/
def rawExecuteMode (env : SecretEnv) (parameters : JsonObject) :
    Except Exc Value :=
  match Value.get parameters "execute_mode" with
  | .null => (getSecret env "agent-execute-mode").map Value.str
  | rawMode => .ok rawMode

def resolveExecuteMode (python : Interpreter) (env : SecretEnv)
    (parameters : JsonObject) : Except Exc String := do
  let rawMode ← rawExecuteMode env parameters
  let text ← rawMode.toStr python.room
  let normalized := replaceChar '_' '-' (lower (strip text))
  if supportedExecuteModes.contains normalized then pure normalized
  else .error (.valueError ("Unsupported execute_mode: " ++ text))

def loadDatabricksAuth (env : SecretEnv) : Except Exc (String × String) := do
  let rawBaseUrl ← getSecret env "databricks-host"
  let rawToken ← getSecret env "databricks-agent-token"
  let baseUrl := rstripChar '/' (strip rawBaseUrl)
  let token := strip rawToken
  if baseUrl = "" then .error (.valueError "Missing databricks-host secret")
  else if token = "" then
    .error (.valueError "Missing databricks-agent-token secret")
  else pure (baseUrl, token)

/-- What `run_databricks_job` has at hand when the live loop starts. -/
structure JobCall where
  action : Value
  pipeline : String
  jobId : Int
  baseUrl : String
  token : String

namespace JobCall

def runNowRequest (call : JobCall) : HttpRequest where
  method := "POST"
  url := call.baseUrl ++ "/api/2.1/jobs/run-now"
  token := call.token
  payload := some [("job_id", .int call.jobId)]
  timeoutSeconds := 20

def runsListRequest (call : JobCall) : HttpRequest where
  method := "GET"
  url := call.baseUrl ++ "/api/2.1/jobs/runs/list?job_id=" ++
    toString call.jobId ++ "&active_only=true&limit=1"
  token := call.token
  payload := none
  timeoutSeconds := 10

def submitted (call : JobCall) (jobRunId : String) : Value :=
  .dict
    [("status", .str "submitted"), ("action", call.action),
      ("pipeline", .str call.pipeline), ("job_id", .int call.jobId),
      ("job_run_id", .str jobRunId)]

end JobCall

/-- The run id that `_find_active_run_id_for_job` reads from a payload. -/
def activeRunId (python : Interpreter) (payload : JsonObject) :
    Except Exc (Option String) :=
  match Value.get payload "runs" with
  | .list (.dict firstRun :: _) =>
      match Value.get firstRun "run_id" with
      | .null => .ok none
      | runId => (runId.toStr python.room).map some
  | _ => .ok none

def findActiveRunIdForJob (python : Interpreter) (call : JobCall) :
    HttpCall (Option String) :=
  (httpJsonRequest python call.runsListRequest).bind fun response =>
    .done (response.bind (activeRunId python))

def submittedRun (python : Interpreter) (call : JobCall)
    (payload : JsonObject) : Except Exc Value :=
  match Value.get payload "run_id" with
  | .null => .error
      (.runtimeError "Databricks run-now response missing run_id")
  | runId => (runId.toStr python.room).map call.submitted

def runNow (python : Interpreter) (call : JobCall) : HttpCall Value :=
  (httpJsonRequest python call.runNowRequest).bind fun response =>
    .done (response.bind (submittedRun python call))

/-- The probe of a handler: its own failure counts as no active run. -/
def probeActiveRun (python : Interpreter) (call : JobCall) :
    Dialogue HttpAnswer (Option String) :=
  (findActiveRunIdForJob python call).bind fun
    | .ok activeRunId => .done activeRunId
    | .error _ => .done none

/-- A handler of the loop: without an active run and a retry left it raises. The
waits before a retry are left out. -/
def recover (python : Interpreter) (call : JobCall) (exhausted : String)
    (retry : Option (HttpCall Value)) : HttpCall Value :=
  (probeActiveRun python call).bind fun
    | some activeRunId => .done (.ok (call.submitted activeRunId))
    | none =>
        match retry with
        | none => .done (.error (.runtimeError exhausted))
        | some next => next

def submitLoop (python : Interpreter) (call : JobCall)
    (timeoutRetriesLeft api5xxRetriesLeft : Nat) : HttpCall Value :=
  (runNow python call).bind fun
    | .ok result => .done (.ok result)
    | .error exc =>
        if exc.cls = .timeoutError then
          recover python call "Databricks run-now timed out after retries"
            (match timeoutRetriesLeft with
            | 0 => none
            | left + 1 =>
                some (submitLoop python call left api5xxRetriesLeft))
        else if isHttp5xxError exc then
          recover python call
            "Databricks run-now failed with 5xx after retries"
            (match api5xxRetriesLeft with
            | 0 => none
            | left + 1 =>
                some (submitLoop python call timeoutRetriesLeft left))
        else .done (.error exc)
termination_by timeoutRetriesLeft + api5xxRetriesLeft

/-- Everything before the loop: a finished result, or the call to submit. -/
def prepareDatabricksJob (python : Interpreter) (env : SecretEnv)
    (base : BaseModel) (jobs : JobsConfig) (action : Value)
    (parameters : JsonObject) : Except Exc (Value ⊕ JobCall) :=
  if !action.hashable then
    .error (.typeError ("unhashable type: '" ++ action.typeName ++ "'"))
  else if !supportedActions.any action.isText then
    -- an action with a hash holds no other objects
    .error (Value.mention (action.toStr 0) fun name =>
      .valueError ("Unsupported action: " ++ name))
  else
    match Value.get parameters "pipeline" with
    | .str pipeline =>
        if pipeline = "" then
          .error (.valueError "parameters.pipeline is required")
        else do
          let executeMode ← resolveExecuteMode python env parameters
          match jobs.refreshJobId base pipeline with
          | none => .error (.valueError ("Unknown pipeline: " ++ pipeline))
          | some refreshJobId =>
              if executeMode = "dry-run" then
                pure (.inl (.dict
                  [("status", .str "dry_run"), ("action", action),
                    ("pipeline", .str pipeline),
                    ("job_id", .int refreshJobId),
                    ("parameters", .dict parameters)]))
              else do
                let (baseUrl, token) ← loadDatabricksAuth env
                pure (.inr ⟨action, pipeline, refreshJobId, baseUrl, token⟩)
    | _ => .error (.valueError "parameters.pipeline is required")

def runDatabricksJob (python : Interpreter) (env : SecretEnv)
    (base : BaseModel) (jobs : JobsConfig) (action : Value)
    (parameters : JsonObject) : HttpCall Value :=
  match prepareDatabricksJob python env base jobs action parameters with
  | .error exc => .done (.error exc)
  | .ok (.inl result) => .done (.ok result)
  | .ok (.inr call) =>
      submitLoop python call maxTimeoutRetries max5xxRetries

section Prepared

variable {python : Interpreter} {env : SecretEnv} {base : BaseModel}
  {jobs : JobsConfig} {action : Value} {parameters : JsonObject}

theorem resolveExecuteMode_ok_iff {executeMode : String} :
    resolveExecuteMode python env parameters = .ok executeMode ↔
      ∃ rawMode text, rawExecuteMode env parameters = .ok rawMode ∧
        rawMode.toStr python.room = .ok text ∧
        replaceChar '_' '-' (lower (strip text)) = executeMode ∧
        executeMode ∈ supportedExecuteModes := by
  simp only [resolveExecuteMode, bind_ok_iff]
  apply exists_congr
  intro rawMode
  constructor
  · intro resolves
    obtain ⟨raw, text, shown, resolved⟩ := resolves
    split at resolved
    · rename_i supported
      obtain rfl := Except.ok.inj resolved
      exact ⟨text, raw, shown, rfl, List.contains_iff_mem.mp supported⟩
    · cases resolved
  · intro supports
    obtain ⟨text, raw, shown, rfl, supported⟩ := supports
    refine ⟨raw, text, shown, ?_⟩
    rw [if_pos (List.contains_iff_mem.mpr supported)]
    rfl

/-- Without an `execute_mode` of their own the parameters leave the mode to the
secret. -/
theorem resolveExecuteMode_secret
    (absent : parameters.lookup "execute_mode" = none) {executeMode : String}
    (resolved : resolveExecuteMode python env parameters = .ok executeMode) :
    ∃ secret, getSecret env "agent-execute-mode" = .ok secret ∧
      replaceChar '_' '-' (lower (strip secret)) = executeMode := by
  obtain ⟨rawMode, text, raw, shown, normalized, -⟩ :=
    resolveExecuteMode_ok_iff.mp resolved
  have carried : Value.get parameters "execute_mode" = .null := by
    rw [Value.get, absent, Option.getD_none]
  rw [rawExecuteMode, carried] at raw
  obtain ⟨secret, found, rfl⟩ := map_ok_iff.mp raw
  obtain rfl := Except.ok.inj shown
  exact ⟨secret, found, normalized⟩

structure Ready (python : Interpreter) (env : SecretEnv) (base : BaseModel)
    (jobs : JobsConfig) (action : Value) (parameters : JsonObject)
    (call : JobCall) : Prop where
  supported : ∃ name ∈ supportedActions, action = .str name
  pipeline : Value.get parameters "pipeline" = .str call.pipeline
  live : resolveExecuteMode python env parameters = .ok "live"
  job : jobs.refreshJobId base call.pipeline = some call.jobId
  auth : loadDatabricksAuth env = .ok (call.baseUrl, call.token)

theorem prepareDatabricksJob_ready {call : JobCall}
    (prepared : prepareDatabricksJob python env base jobs action parameters =
      .ok (.inr call)) :
    Ready python env base jobs action parameters call := by
  simp only [prepareDatabricksJob, guard_ok_iff] at prepared
  obtain ⟨-, supported, prepared⟩ := prepared
  cases named : Value.get parameters "pipeline" with
  | str pipeline =>
      simp only [named, guard_ok_iff, bind_ok_iff] at prepared
      obtain ⟨-, executeMode, resolved, prepared⟩ := prepared
      cases job : jobs.refreshJobId base pipeline with
      | none =>
          simp only [job] at prepared
          cases prepared
      | some refreshJobId =>
          simp only [job] at prepared
          by_cases dryRun : executeMode = "dry-run"
          · rw [if_pos dryRun] at prepared
            cases prepared
          · rw [if_neg dryRun] at prepared
            obtain ⟨⟨baseUrl, token⟩, auth, prepared⟩ :=
              bind_ok_iff.mp prepared
            obtain rfl := Sum.inr.inj (Except.ok.inj prepared)
            have live : executeMode = "live" := by
              obtain ⟨-, -, -, -, -, mode⟩ :=
                resolveExecuteMode_ok_iff.mp resolved
              simpa [supportedExecuteModes, dryRun] using mode
            exact ⟨by simpa using supported, named, live ▸ resolved, job, auth⟩
  | _ =>
      simp only [named] at prepared
      cases prepared

end Prepared

/-! What a live call asks for. -/

namespace JobCall

def Requests (call : JobCall) (request : HttpRequest) : Prop :=
  request = call.runNowRequest ∨ request = call.runsListRequest

end JobCall

section Requests

variable {python : Interpreter} {call : JobCall}

theorem runNow_eq :
    runNow python call = .ask call.runNowRequest fun outcome =>
      .done ((readResponse python outcome).bind
        (submittedRun python call)) := rfl

theorem probeActiveRun_eq :
    probeActiveRun python call = .ask call.runsListRequest fun outcome =>
      .done ((readResponse python outcome).bind
        (activeRunId python)).toOption.join := by
  apply congrArg (Dialogue.ask call.runsListRequest)
  funext outcome
  dsimp only [Dialogue.bind]
  cases (readResponse python outcome).bind (activeRunId python) <;> rfl

theorem runNow_asks : (runNow python call).Asks call.Requests :=
  ⟨.inl rfl, fun _ => trivial⟩

theorem probeActiveRun_asks :
    (probeActiveRun python call).Asks call.Requests := by
  apply Dialogue.Asks.bind
  · exact ⟨.inr rfl, fun _ => trivial⟩
  · intro found
    cases found <;> trivial

theorem recover_asks {exhausted : String} {retry : Option (HttpCall Value)}
    (retries : ∀ next ∈ retry, next.Asks call.Requests) :
    (recover python call exhausted retry).Asks call.Requests := by
  apply probeActiveRun_asks.bind
  intro found
  cases found with
  | some activeRunId => trivial
  | none =>
      cases retry with
      | none => trivial
      | some next => exact retries next rfl

/-- A retry that is left goes on with one fewer. -/
theorem mem_retry_iff {α : Type} {loop : Nat → α} {retriesLeft : Nat}
    {next : α} :
    (next ∈ (match retriesLeft with
      | 0 => none
      | left + 1 => some (loop left) : Option α)) ↔
      ∃ left, retriesLeft = left + 1 ∧ loop left = next := by
  cases retriesLeft with
  | zero => simp
  | succ left => simp

/-- The loop submits the job and looks for active runs of it, nothing else. -/
theorem submitLoop_asks (timeoutRetriesLeft api5xxRetriesLeft : Nat) :
    (submitLoop python call timeoutRetriesLeft api5xxRetriesLeft).Asks
      call.Requests := by
  induction timeoutRetriesLeft, api5xxRetriesLeft using submitLoop.induct with
  | case1 timeoutRetriesLeft api5xxRetriesLeft timedOut failed =>
      rw [submitLoop.eq_def]
      apply runNow_asks.bind
      intro response
      cases response with
      | ok result => trivial
      | error exc =>
          dsimp only
          split
          · apply recover_asks
            intro next retry
            obtain ⟨left, rfl, rfl⟩ := mem_retry_iff.mp retry
            exact timedOut
          · split
            · apply recover_asks
              intro next retry
              obtain ⟨left, rfl, rfl⟩ := mem_retry_iff.mp retry
              exact failed
            · trivial

/-- A call that is not ready for Databricks ends without a request. -/
theorem runDatabricksJob_cases {env : SecretEnv} {base : BaseModel}
    {jobs : JobsConfig} {action : Value} {parameters : JsonObject} :
    (∃ result, runDatabricksJob python env base jobs action parameters =
      .done result) ∨
    ∃ call, Ready python env base jobs action parameters call ∧
      runDatabricksJob python env base jobs action parameters =
        submitLoop python call maxTimeoutRetries max5xxRetries := by
  rw [runDatabricksJob]
  rcases prepared :
      prepareDatabricksJob python env base jobs action parameters with
    exc | result | call
  · exact .inl ⟨_, rfl⟩
  · exact .inl ⟨_, rfl⟩
  · exact .inr ⟨call, prepareDatabricksJob_ready prepared, rfl⟩

end Requests

/-! The rule of the loop, for any partner: `idle` holds before each run-now
request and `pending` before each probe. -/

section Rule

variable {python : Interpreter} {call : JobCall} {σ : Type}
  {serves : σ → HttpRequest → UrlOpenOutcome → σ → Prop}
  {idle pending : σ → Prop} {post : Except Exc Value → σ → Prop}

theorem wp_recover {exhausted : String} {retry : Option (HttpCall Value)}
    {state : σ}
    (probe : Dialogue.Wp serves (probeActiveRun python call)
      (fun found after =>
        match found with
        | some activeRunId => post (.ok (call.submitted activeRunId)) after
        | none => idle after ∧ ∀ exc, post (.error exc) after) state)
    (retries : ∀ next ∈ retry, ∀ after, idle after →
      Dialogue.Wp serves next post after) :
    Dialogue.Wp serves (recover python call exhausted retry) post state := by
  rw [recover.eq_def, Dialogue.wp_bind]
  apply probe.mono
  intro found after probed
  cases found with
  | some activeRunId => exact probed
  | none =>
      cases retry with
      | none => exact probed.2 _
      | some next => exact retries next rfl after probed.1

theorem wp_submitLoop
    (submits : ∀ state, idle state →
      Dialogue.Wp serves (runNow python call)
        (fun response after => post response after ∧
          ∀ exc, response = .error exc → pending after) state)
    (probes : ∀ state, pending state →
      Dialogue.Wp serves (probeActiveRun python call)
        (fun found after =>
          match found with
          | some activeRunId => post (.ok (call.submitted activeRunId)) after
          | none => idle after ∧ ∀ exc, post (.error exc) after) state)
    (timeoutRetriesLeft api5xxRetriesLeft : Nat) :
    ∀ state, idle state →
      Dialogue.Wp serves
        (submitLoop python call timeoutRetriesLeft api5xxRetriesLeft)
        post state := by
  induction timeoutRetriesLeft, api5xxRetriesLeft using submitLoop.induct with
  | case1 timeoutRetriesLeft api5xxRetriesLeft timedOut failed =>
      intro state ready
      rw [submitLoop.eq_def, Dialogue.wp_bind]
      apply (submits state ready).mono
      intro response after submitted
      obtain ⟨holds, waits⟩ := submitted
      cases response with
      | ok result => exact holds
      | error exc =>
          dsimp only
          have probe := probes after (waits exc rfl)
          split
          · apply wp_recover probe
            intro next retry
            obtain ⟨left, rfl, rfl⟩ := mem_retry_iff.mp retry
            exact timedOut
          · split
            · apply wp_recover probe
              intro next retry
              obtain ⟨left, rfl, rfl⟩ := mem_retry_iff.mp retry
              exact failed
            · exact holds

end Rule

def liveEnv : SecretEnv where
  environ := .ofList
    [("SECRET_AGENT_EXECUTE_MODE", "Live"),
      ("SECRET_DATABRICKS_HOST", "https://host/"),
      ("SECRET_DATABRICKS_AGENT_TOKEN", "token")]
  dbutils := .error (.runtimeError "dbutils is not available")

def retryParameters : JsonObject :=
  [("pipeline", .str "pipeline_silver"), ("run_mode", .str "full")]

def retryCall : JobCall where
  action := .str "retry_pipeline"
  pipeline := "pipeline_silver"
  jobId := 101001
  baseUrl := "https://host"
  token := "token"

def runIdJson : Interpreter where
  jsonLoads text :=
    if text = "\x7b\"run_id\": 42\x7d" then .ok (.dict [("run_id", .int 42)])
    else .error ⟨.jsonDecodeError, "Expecting value"⟩
  room := 900

theorem runDatabricksJob_retry (python : Interpreter) :
    runDatabricksJob python liveEnv (fun _ => none) defaultJobs
        (.str "retry_pipeline") retryParameters =
      submitLoop python retryCall maxTimeoutRetries max5xxRetries := rfl

end PipelineOps.Tools
