import PipelineOps.Python.JsonRoundTrip
import PipelineOps.Python.Urlencode
import PipelineOps.Tools.DatabricksJobs

namespace PipelineOps.Tools

open PipelineOps.Library
open PipelineOps.Python
open PipelineOps.Orchestrator

/-! `check_job_status`, and what the service reads from the requests of the two
functions. -/

def mapLifecycleToStatus (lifeCycleState : String) : String :=
  if ["PENDING", "RUNNING", "QUEUED", "TERMINATING"].contains
      lifeCycleState then "running"
  else if lifeCycleState = "TERMINATED" then "finished"
  else if ["SKIPPED", "INTERNAL_ERROR"].contains lifeCycleState then "failed"
  else "unknown"

def runsGetRequest (baseUrl token runId : String) : HttpRequest where
  method := "GET"
  url := baseUrl ++ "/api/2.1/jobs/runs/get?" ++ urlencode [("run_id", runId)]
  token := token
  payload := none
  timeoutSeconds := 10

def jobStatus (python : Interpreter) (runId : String) (payload : JsonObject) :
    Except Exc Value := do
  let state :=
    match Value.get payload "state" with
    | .dict rawState => rawState
    | _ => []
  let lifeCycleState ← ((Value.get state "life_cycle_state").orElse
    (.str "UNKNOWN")).toStr python.room
  pure (.dict
    [("status", .str (mapLifecycleToStatus lifeCycleState)),
      ("job_run_id", .str runId), ("life_cycle_state", .str lifeCycleState),
      ("result_state", Value.get state "result_state")])

/-- Everything before the request: a finished result, or the run to ask about
and the request. -/
def prepareJobStatus (python : Interpreter) (env : SecretEnv)
    (jobRunId : Value) : Except Exc (Value ⊕ String × HttpRequest) := do
  let text ← jobRunId.toStr python.room
  let runId := strip text
  if runId = "" then .error (.valueError "job_run_id is required")
  else do
    let executeMode ← resolveExecuteMode python env []
    if executeMode = "dry-run" then
      pure (.inl (.dict
        [("status", .str "dry_run"), ("job_run_id", .str runId),
          ("life_cycle_state", .str "UNKNOWN"), ("result_state", .null)]))
    else do
      let (baseUrl, token) ← loadDatabricksAuth env
      pure (.inr (runId, runsGetRequest baseUrl token runId))

def checkJobStatus (python : Interpreter) (env : SecretEnv)
    (jobRunId : Value) : HttpCall Value :=
  match prepareJobStatus python env jobRunId with
  | .error exc => .done (.error exc)
  | .ok (.inl result) => .done (.ok result)
  | .ok (.inr (runId, request)) =>
      (httpJsonRequest python request).bind fun response =>
        .done (response.bind (jobStatus python runId))

/-- The style of `json.dumps(payload)`. -/
def defaultStyle : JsonStyle := ⟨true, ", ", ": ", false⟩

/-- The body that goes with the request. A payload holds no other objects. -/
def HttpRequest.data (request : HttpRequest) : Except Exc (Option String) :=
  match request.payload with
  | none => .ok none
  | some payload => (jsonDumps defaultStyle 1 (.dict payload)).map some

/-- What a client can ask the service for. -/
inductive ServiceRequest where
  | runNow (jobId : Int)
  | listActive (jobId : Int)
  | getRun (runId : String)

def asked (query : List (String × String)) : List (Bytes × Bytes) :=
  query.map fun entry => (utf8 entry.1.toList, utf8 entry.2.toList)

/-- How the service reads a request under its base URL: a JSON body, decoded
with any recursion limit, or a form-encoded query. -/
inductive Reads (baseUrl : String) (request : HttpRequest) :
    ServiceRequest → Prop
  | runNow {jobId : Int} {body : String} (method : request.method = "POST")
      (url : request.url = baseUrl ++ "/api/2.1/jobs/run-now")
      (data : request.data = .ok (some body))
      (decodes : ∀ floatRepr depth, jsonLoads floatRepr (depth + 1) body =
        .ok (some (.dict [("job_id", .int jobId)]))) :
      Reads baseUrl request (.runNow jobId)
  | listActive {jobId : Int} {query : String} (method : request.method = "GET")
      (url : request.url = baseUrl ++ "/api/2.1/jobs/runs/list?" ++ query)
      (data : request.data = .ok none)
      (decodes : FormEncoding.decode query.toList =
        asked [("job_id", toString jobId), ("active_only", "true"),
          ("limit", "1")]) :
      Reads baseUrl request (.listActive jobId)
  | getRun {runId query : String} (method : request.method = "GET")
      (url : request.url = baseUrl ++ "/api/2.1/jobs/runs/get?" ++ query)
      (data : request.data = .ok none)
      (decodes : FormEncoding.decode query.toList =
        asked [("run_id", runId)]) :
      Reads baseUrl request (.getRun runId)

section Reading

variable {baseUrl : String} {request : HttpRequest}

theorem asked_injective {name value other : String}
    {rest others : List (String × String)}
    (same : asked ((name, value) :: rest) = asked ((name, other) :: others)) :
    value = other :=
  utf8_injective (Prod.mk.inj (List.cons.inj same).1).2

theorem query_inj {path query other : String}
    (same : baseUrl ++ path ++ query = baseUrl ++ path ++ other) :
    query = other :=
  (String.append_right_inj _).mp same

theorem list_ne_get {query other : String} :
    baseUrl ++ "/api/2.1/jobs/runs/list?" ++ query ≠
      baseUrl ++ "/api/2.1/jobs/runs/get?" ++ other := by
  intro same
  rw [String.append_assoc, String.append_assoc] at same
  have paths := congrArg String.toList ((String.append_right_inj _).mp same)
  simp at paths

/-- The service reads a request in one way. -/
theorem Reads.unique {meant read : ServiceRequest}
    (left : Reads baseUrl request meant)
    (right : Reads baseUrl request read) : meant = read := by
  cases left with
  | runNow method url data decodes =>
      cases right with
      | runNow _ _ otherData otherDecodes =>
          rw [data] at otherData
          obtain rfl := Option.some.inj (Except.ok.inj otherData)
          have same := (decodes id 0).symm.trans (otherDecodes id 0)
          simpa using Option.some.inj (Except.ok.inj same)
      | listActive otherMethod => simp [method] at otherMethod
      | getRun otherMethod => simp [method] at otherMethod
  | listActive method url data decodes =>
      cases right with
      | runNow otherMethod => simp [method] at otherMethod
      | listActive _ otherUrl _ otherDecodes =>
          obtain rfl := query_inj (url.symm.trans otherUrl)
          have same := asked_injective (decodes.symm.trans otherDecodes)
          rw [toString_int_injective (congrArg String.toList same)]
      | getRun _ otherUrl => exact absurd (url.symm.trans otherUrl) list_ne_get
  | getRun method url data decodes =>
      cases right with
      | runNow otherMethod => simp [method] at otherMethod
      | listActive _ otherUrl =>
          exact absurd (otherUrl.symm.trans url) list_ne_get
      | getRun _ otherUrl _ otherDecodes =>
          obtain rfl := query_inj (url.symm.trans otherUrl)
          rw [asked_injective (decodes.symm.trans otherDecodes)]

end Reading

section Requests

variable {call : JobCall}

theorem standard_defaultStyle : defaultStyle.Standard :=
  ⟨⟨[' '], rfl, by simp [isJsonSpace]⟩, ⟨[' '], rfl, by simp [isJsonSpace]⟩⟩

theorem reads_runNowRequest (printable : Printable call.jobId) :
    Reads call.baseUrl call.runNowRequest (.runNow call.jobId) := by
  have loadable : ∀ floatRepr depth, Loadable floatRepr (depth + 1)
      (.dict [("job_id", .int call.jobId)]) := by
    intro floatRepr depth
    refine .dict (by simp) ?_
    simpa using .int printable
  obtain ⟨body, written⟩ := (loadable id 0).writes standard_defaultStyle
  have data : call.runNowRequest.data = .ok (some body) := by
    rw [HttpRequest.data, JobCall.runNowRequest]
    simp only [written]
    rfl
  refine .runNow rfl rfl data fun floatRepr depth => ?_
  rw [jsonLoads_written standard_defaultStyle (loadable floatRepr depth)
    written, arranged_of_unsorted rfl]

theorem quotePlus_toString (value : Int) :
    quotePlus (toString value) = toString value := by
  apply quotePlus_of_safe
  intro character member
  have intChar := isIntChar_of_mem character member
  simp only [isIntChar, Bool.or_eq_true, beq_iff_eq,
    Char.isDigit_iff_toNat] at intChar
  have code : character.toNat = 45 ∨
      48 ≤ character.toNat ∧ character.toNat ≤ 57 := by
    rcases intChar with digit | rfl
    · exact .inr digit
    · exact .inl rfl
  have byte : (UInt8.ofNat character.toNat).toNat = character.toNat := by
    rw [UInt8.toNat_ofNat', Nat.mod_eq_of_lt (by omega)]
  refine ⟨UInt8.ofNat character.toNat, ?_, ?_⟩
  · rw [alwaysSafe_iff, byte]
    simp only [List.mem_cons, List.not_mem_nil, or_false]
    omega
  · rw [byte, Char.ofNat_toNat]

/-- The query of `_find_active_run_id_for_job` is what `urlencode` writes. -/
theorem runsListRequest_url :
    call.runsListRequest.url = call.baseUrl ++ "/api/2.1/jobs/runs/list?" ++
      urlencode [("job_id", toString call.jobId), ("active_only", "true"),
        ("limit", "1")] := by
  have names : quotePlus "job_id" = "job_id" ∧
      quotePlus "active_only" = "active_only" ∧
      quotePlus "true" = "true" ∧ quotePlus "limit" = "limit" ∧
      quotePlus "1" = "1" := by decide
  obtain ⟨jobId, activeOnly, yes, limit, one⟩ := names
  simp only [urlencode, List.map_cons, List.map_nil, join, jobId, activeOnly,
    yes, limit, one, quotePlus_toString, JobCall.runsListRequest,
    String.append_assoc]
  rfl

theorem reads_runsListRequest :
    Reads call.baseUrl call.runsListRequest (.listActive call.jobId) :=
  .listActive rfl runsListRequest_url rfl (decode_urlencode _)

theorem reads_runsGetRequest (baseUrl token runId : String) :
    Reads baseUrl (runsGetRequest baseUrl token runId) (.getRun runId) :=
  .getRun rfl rfl rfl (decode_urlencode _)

theorem Reads.iff {baseUrl : String} {request : HttpRequest}
    {meant : ServiceRequest} (reads : Reads baseUrl request meant)
    (read : ServiceRequest) : Reads baseUrl request read ↔ read = meant := by
  constructor
  · exact fun other => other.unique reads
  · intro same
    exact same ▸ reads

end Requests

section Main

variable {python : Interpreter} {env : SecretEnv} {base : BaseModel}
  {jobs : JobsConfig} {action jobRunId : Value} {parameters : JsonObject}

theorem prepareJobStatus_request {runId : String} {request : HttpRequest}
    (prepared : prepareJobStatus python env jobRunId =
      .ok (.inr (runId, request))) :
    ∃ text baseUrl token, jobRunId.toStr python.room = .ok text ∧
      runId = strip text ∧
      resolveExecuteMode python env [] = .ok "live" ∧
      loadDatabricksAuth env = .ok (baseUrl, token) ∧
      request = runsGetRequest baseUrl token runId := by
  simp only [prepareJobStatus, bind_ok_iff, guard_ok_iff] at prepared
  obtain ⟨text, shown, filled, executeMode, resolved, prepared⟩ := prepared
  by_cases dryRun : executeMode = "dry-run"
  · rw [if_pos dryRun] at prepared
    cases prepared
  · rw [if_neg dryRun] at prepared
    obtain ⟨⟨baseUrl, token⟩, auth, prepared⟩ := bind_ok_iff.mp prepared
    obtain ⟨rfl, rfl⟩ := Prod.mk.inj (Sum.inr.inj (Except.ok.inj prepared))
    have live : executeMode = "live" := by
      obtain ⟨-, -, -, -, -, mode⟩ := resolveExecuteMode_ok_iff.mp resolved
      simpa [supportedExecuteModes, dryRun] using mode
    exact ⟨text, baseUrl, token, shown, rfl, live ▸ resolved, auth, rfl⟩

/-- Every request of the two functions is read by the service as it is meant,
and as nothing else: about the configured job, or about the given run. -/
theorem requests_read
    (printable : ∀ pipeline jobId,
      jobs.refreshJobId base pipeline = some jobId → Printable jobId) :
    (∀ trace returned,
      (runDatabricksJob python env base jobs action parameters).Path trace
        returned →
      ∀ exchange ∈ trace, ∃ call,
        Ready python env base jobs action parameters call ∧
        ∃ meant ∈ [.runNow call.jobId, .listActive call.jobId],
          ∀ read, Reads call.baseUrl exchange.1 read ↔ read = meant) ∧
    ∀ trace returned,
      (checkJobStatus python env jobRunId).Path trace returned →
      trace = [] ∨
        ∃ text baseUrl token request outcome,
          jobRunId.toStr python.room = .ok text ∧
          resolveExecuteMode python env [] = .ok "live" ∧
          loadDatabricksAuth env = .ok (baseUrl, token) ∧
          trace = [⟨request, outcome⟩] ∧
          ∀ read, Reads baseUrl request read ↔ read = .getRun (strip text) := by
  constructor
  · intro trace returned path exchange member
    rcases @runDatabricksJob_cases python env base jobs action parameters
      with ⟨result, same⟩ | ⟨call, ready, same⟩
    · rw [same] at path
      obtain ⟨rfl, -⟩ := Dialogue.path_done_iff.mp path
      cases member
    · rw [same] at path
      refine ⟨call, ready, ?_⟩
      rcases (submitLoop_asks _ _).path path exchange member with
        runNow | runsList
      · rw [runNow]
        exact ⟨_, by simp,
          (reads_runNowRequest (printable _ _ ready.job)).iff⟩
      · rw [runsList]
        exact ⟨_, by simp, reads_runsListRequest.iff⟩
  · intro trace returned path
    rw [checkJobStatus] at path
    rcases prepared : prepareJobStatus python env jobRunId with
      exc | result | ⟨runId, request⟩
    · rw [prepared] at path
      exact .inl (Dialogue.path_done_iff.mp path).1
    · rw [prepared] at path
      exact .inl (Dialogue.path_done_iff.mp path).1
    · rw [prepared] at path
      obtain ⟨text, baseUrl, token, shown, rfl, live, auth, rfl⟩ :=
        prepareJobStatus_request prepared
      cases path with
      | ask rest =>
          obtain ⟨rfl, -⟩ := Dialogue.path_done_iff.mp rest
          exact .inr ⟨text, baseUrl, token, _, _, shown, live, auth, rfl,
            (reads_runsGetRequest baseUrl token _).iff⟩

end Main

theorem defaultJobs_printable (pipeline : String) (jobId : Int)
    (job : defaultJobs.refreshJobId (fun _ => none) pipeline = some jobId) :
    Printable jobId := by
  have plain : BaseModel.WithoutJobs fun _ => none :=
    fun _ _ _ found => nomatch found
  obtain ⟨config, field, rfl⟩ := JobsConfig.refreshJobId_eq_some plain job
  have small : config.refresh.natAbs < 10 ^ 6 := by
    have known := JobsConfig.field?_mem field
    simp only [List.mem_cons, List.not_mem_nil, or_false] at known
    rcases known with rfl | rfl | rfl | rfl <;>
      · cases field
        decide
  exact lt_of_lt_of_le small (Nat.pow_le_pow_right (by omega) (by decide))

/-- A status query for an id with a reserved character and blanks around it. -/
theorem requests_read_reserved :
    ∃ text baseUrl token request outcome,
      Value.toStr runIdJson.room (.str " 7&x ") = .ok text ∧
      resolveExecuteMode runIdJson liveEnv [] = .ok "live" ∧
      loadDatabricksAuth liveEnv = .ok (baseUrl, token) ∧
      [(⟨runsGetRequest "https://host" "token" "7&x", .body ""⟩ :
        HttpExchange)] = [⟨request, outcome⟩] ∧
      ∀ read, Reads baseUrl request read ↔ read = .getRun (strip text) := by
  have path : (checkJobStatus runIdJson liveEnv (.str " 7&x ")).Path
      [⟨runsGetRequest "https://host" "token" "7&x", .body ""⟩]
      (.ok (.dict
        [("status", .str "unknown"), ("job_run_id", .str "7&x"),
          ("life_cycle_state", .str "UNKNOWN"), ("result_state", .null)])) :=
    .ask (.done _)
  rcases (@requests_read runIdJson liveEnv (fun _ => none) defaultJobs
      (.str "retry_pipeline") (.str " 7&x ") retryParameters
      defaultJobs_printable).2 _ _ path with silent | asks
  · cases silent
  · exact asks

end PipelineOps.Tools
