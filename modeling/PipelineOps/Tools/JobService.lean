import PipelineOps.Tools.DatabricksJobs

namespace PipelineOps.Tools

open PipelineOps.Library
open PipelineOps.Python
open PipelineOps.Orchestrator

/-! The other side of a live call: the service that runs the job. -/

/-- Run ids are 64-bit integers. -/
abbrev RunId := Fin 0x8000000000000000

/-- The runs of the job, and how often a list request has failed. All runs that
are active when the call begins, or that it starts, stay active. -/
structure JobService where
  foreign : List RunId
  started : List RunId
  failedProbes : Nat

namespace JobService

def active (service : JobService) : List RunId :=
  service.started ++ service.foreign

def start (service : JobService) (runId : RunId) : JobService :=
  { service with started := runId :: service.started }

def failProbe (service : JobService) : JobService :=
  { service with failedProbes := service.failedProbes + 1 }

@[simp] theorem started_start (service : JobService) (runId : RunId) :
    (service.start runId).started = runId :: service.started := rfl

@[simp] theorem failedProbes_start (service : JobService) (runId : RunId) :
    (service.start runId).failedProbes = service.failedProbes := rfl

@[simp] theorem started_failProbe (service : JobService) :
    service.failProbe.started = service.started := rfl

@[simp] theorem failedProbes_failProbe (service : JobService) :
    service.failProbe.failedProbes = service.failedProbes + 1 := rfl

end JobService

section Serving

variable {python : Interpreter} {call : JobCall}

/-- The answer to a run-now request names the run. -/
def Announces (python : Interpreter) (runId : RunId)
    (outcome : UrlOpenOutcome) : Prop :=
  ∃ payload, readResponse python outcome = .ok payload ∧
    Value.get payload "run_id" = .int runId.val

/-- Nothing of use comes back from a run-now request: the response is lost,
late or an error, or it names no run. -/
def RunNowFails (python : Interpreter) (call : JobCall)
    (outcome : UrlOpenOutcome) : Prop :=
  ∃ exc, (readResponse python outcome).bind (submittedRun python call) =
    .error exc

def ProbeFails (python : Interpreter) (outcome : UrlOpenOutcome) : Prop :=
  ∀ runId, (readResponse python outcome).bind (activeRunId python) ≠
    .ok (some runId)

inductive Serves (python : Interpreter) (call : JobCall) :
    JobService → HttpRequest → UrlOpenOutcome → JobService → Prop
  /-- The request starts a run, whether or not this is heard of. -/
  | started {service : JobService} {runId : RunId} {outcome : UrlOpenOutcome}
      (fresh : runId ∉ service.active)
      (answer : Announces python runId outcome ∨
        RunNowFails python call outcome) :
      Serves python call service call.runNowRequest outcome
        (service.start runId)
  /-- The request does not arrive or is refused. -/
  | refused {service : JobService} {outcome : UrlOpenOutcome}
      (answer : RunNowFails python call outcome) :
      Serves python call service call.runNowRequest outcome service
  /-- The answer, limited to one run, lists any of the active ones. -/
  | listed {service : JobService} {runId : RunId} {outcome : UrlOpenOutcome}
      {payload run : JsonObject} {others : List Value}
      (answer : readResponse python outcome = .ok payload)
      (runs : Value.get payload "runs" = .list (.dict run :: others))
      (named : Value.get run "run_id" = .int runId.val)
      (active : runId ∈ service.active) :
      Serves python call service call.runsListRequest outcome service
  | listedNone {service : JobService} {outcome : UrlOpenOutcome}
      {payload : JsonObject}
      (answer : readResponse python outcome = .ok payload)
      (runs : Value.get payload "runs" = .null ∨
        Value.get payload "runs" = .list [])
      (idle : service.active = []) :
      Serves python call service call.runsListRequest outcome service
  | probeFailed {service : JobService} {outcome : UrlOpenOutcome}
      (answer : ProbeFails python outcome) :
      Serves python call service call.runsListRequest outcome
        service.failProbe

theorem RunId.toStr (runId : RunId) (room : Nat) :
    (Value.int runId.val).toStr room = .ok (toString (runId.val : Int)) := by
  have digits : (Nat.repr runId.val).length ≤ 19 :=
    (Nat.length_repr_le_iff (by decide)).mpr
      (Nat.lt_trans runId.isLt (by decide))
  have short : ¬ Value.intMaxStrDigits <
      (toString (runId.val : Int).natAbs).length :=
    Nat.not_lt.mpr (Nat.le_trans digits (by decide))
  rw [Value.toStr, Value.repr, Value.intText, if_neg short]
  all_goals simp

theorem runNowRequest_ne_runsListRequest :
    call.runNowRequest ≠ call.runsListRequest := by
  intro same
  have posts : "POST" = "GET" := congrArg HttpRequest.method same
  exact absurd posts (by decide)

theorem Serves.runNow {service after : JobService} {outcome : UrlOpenOutcome}
    (serves : Serves python call service call.runNowRequest outcome after) :
    (∃ runId, runId ∉ service.active ∧ after = service.start runId ∧
      (Announces python runId outcome ∨
        RunNowFails python call outcome)) ∨
    after = service ∧ RunNowFails python call outcome := by
  generalize same : call.runNowRequest = request at serves
  cases serves with
  | started fresh answer => exact .inl ⟨_, fresh, rfl, answer⟩
  | refused answer => exact .inr ⟨rfl, answer⟩
  | listed answer runs named active =>
      exact absurd same runNowRequest_ne_runsListRequest
  | listedNone answer runs idle =>
      exact absurd same runNowRequest_ne_runsListRequest
  | probeFailed answer => exact absurd same runNowRequest_ne_runsListRequest

theorem Serves.runsList {service after : JobService} {outcome : UrlOpenOutcome}
    (serves :
      Serves python call service call.runsListRequest outcome after) :
    (∃ runId ∈ service.active, after = service ∧
      (readResponse python outcome).bind (activeRunId python) =
        .ok (some (toString (runId.val : Int)))) ∨
    (service.active = [] ∧ after = service ∧
      (readResponse python outcome).bind (activeRunId python) = .ok none) ∨
    (after = service.failProbe ∧ ProbeFails python outcome) := by
  generalize same : call.runsListRequest = request at serves
  cases serves with
  | started fresh answer =>
      exact absurd same.symm runNowRequest_ne_runsListRequest
  | refused answer =>
      exact absurd same.symm runNowRequest_ne_runsListRequest
  | listed answer runs named active =>
      refine .inl ⟨_, active, rfl, ?_⟩
      rw [answer]
      simp only [Except.bind, activeRunId, runs, named, RunId.toStr]
      rfl
  | listedNone answer runs idle =>
      refine .inr (.inl ⟨idle, rfl, ?_⟩)
      rw [answer]
      rcases runs with runs | runs <;> simp [Except.bind, activeRunId, runs]
  | probeFailed answer => exact .inr (.inr ⟨rfl, answer⟩)

theorem wp_runNow {service : JobService}
    {post : Except Exc Value → JobService → Prop}
    (announced : ∀ runId ∉ service.active,
      post (.ok (call.submitted (toString (runId.val : Int))))
        (service.start runId))
    (lost : ∀ runId ∉ service.active, ∀ exc,
      post (.error exc) (service.start runId))
    (refused : ∀ exc, post (.error exc) service) :
    Dialogue.Wp (Serves python call) (runNow python call) post
      service := by
  rw [runNow_eq]
  intro outcome after serves
  rw [Dialogue.Wp]
  rcases serves.runNow with
    ⟨runId, fresh, rfl, ⟨payload, answer, named⟩ | ⟨exc, failed⟩⟩ |
    ⟨rfl, exc, failed⟩
  · have response : (readResponse python outcome).bind
        (submittedRun python call) =
          .ok (call.submitted (toString (runId.val : Int))) := by
      rw [answer]
      simp only [Except.bind, submittedRun, named, RunId.toStr]
      rfl
    rw [response]
    exact announced runId fresh
  · rw [failed]
    exact lost runId fresh exc
  · rw [failed]
    exact refused exc

theorem wp_probeActiveRun {service : JobService}
    {post : Option String → JobService → Prop}
    (listed : ∀ runId ∈ service.active,
      post (some (toString (runId.val : Int))) service)
    (listedNone : service.active = [] → post none service)
    (failed : post none service.failProbe) :
    Dialogue.Wp (Serves python call) (probeActiveRun python call) post
      service := by
  rw [probeActiveRun_eq]
  intro outcome after serves
  rw [Dialogue.Wp]
  rcases serves.runsList with
    ⟨runId, active, rfl, found⟩ | ⟨idle, rfl, found⟩ | ⟨rfl, unread⟩
  · rw [found]
    exact listed runId active
  · rw [found]
    exact listedNone idle
  · have nothing : ((readResponse python outcome).bind
        (activeRunId python)).toOption.join = none := by
      rcases probed : (readResponse python outcome).bind
        (activeRunId python) with exc | _ | runId
      · rfl
      · rfl
      · exact absurd probed (unread runId)
    rw [nothing]
    exact failed

/-- There is a failed list request for each run, but for `ahead` many. -/
def Accounted (ahead : Nat) (service : JobService) : Prop :=
  service.started.length ≤ service.failedProbes + ahead

theorem Accounted.succ {ahead : Nat} {service : JobService}
    (accounted : Accounted ahead service) : Accounted (ahead + 1) service :=
  Nat.le_succ_of_le accounted

theorem Accounted.start {ahead : Nat} {service : JobService}
    (accounted : Accounted ahead service) (runId : RunId) :
    Accounted (ahead + 1) (service.start runId) := by
  unfold Accounted at accounted ⊢
  rw [JobService.started_start, JobService.failedProbes_start,
    List.length_cons]
  omega

theorem Accounted.failProbe {ahead : Nat} {service : JobService}
    (accounted : Accounted (ahead + 1) service) :
    Accounted ahead service.failProbe := by
  unfold Accounted at accounted ⊢
  rw [JobService.started_failProbe, JobService.failedProbes_failProbe]
  omega

theorem runNow_accounted {service : JobService}
    (accounted : Accounted 0 service) :
    Dialogue.Wp (Serves python call) (runNow python call)
      (fun response after => Accounted 1 after ∧
        ∀ exc, response = .error exc → Accounted 1 after) service := by
  apply wp_runNow
  · intro runId fresh
    exact ⟨accounted.start runId, fun _ _ => accounted.start runId⟩
  · intro runId fresh exc
    exact ⟨accounted.start runId, fun _ _ => accounted.start runId⟩
  · intro exc
    exact ⟨accounted.succ, fun _ _ => accounted.succ⟩

theorem probeActiveRun_accounted {service : JobService}
    (accounted : Accounted 1 service) :
    Dialogue.Wp (Serves python call) (probeActiveRun python call)
      (fun found after =>
        match found with
        | some _ => Accounted 1 after
        | none => Accounted 0 after ∧ ∀ _ : Exc, Accounted 1 after)
      service := by
  apply wp_probeActiveRun
  · intro runId active
    exact accounted
  · intro idle
    have unstarted : service.started = [] := (List.append_eq_nil_iff.mp idle).1
    refine ⟨?_, fun _ => accounted⟩
    rw [Accounted, unstarted]
    exact Nat.zero_le _
  · exact ⟨accounted.failProbe, fun _ => accounted.failProbe.succ⟩

/-- A live call starts at most one run more than list requests fail. -/
theorem startedRuns_le {env : SecretEnv} {base : BaseModel} {jobs : JobsConfig}
    {action : Value} {parameters : JsonObject} {foreign : List RunId}
    {final : JobService} {trace : List HttpExchange}
    {returned : Except Exc Value}
    (prepared : prepareDatabricksJob python env base jobs action parameters =
      .ok (.inr call))
    (path : (runDatabricksJob python env base jobs action parameters).Path
      trace returned)
    (served : Dialogue.Served (Serves python call) ⟨foreign, [], 0⟩ trace
      final) :
    final.started.length ≤ final.failedProbes + 1 := by
  simp only [runDatabricksJob, prepared] at path
  have holds : Dialogue.Wp (Serves python call)
      (submitLoop python call maxTimeoutRetries max5xxRetries)
      (fun _ after => Accounted 1 after) ⟨foreign, [], 0⟩ :=
    wp_submitLoop (fun _ => runNow_accounted)
      (fun _ => probeActiveRun_accounted) _ _ _ (Nat.zero_le _)
  exact Dialogue.wp_iff.mp holds trace returned final path served

end Serving

def lostTrace : List HttpExchange :=
  [⟨retryCall.runNowRequest, .urlError "timed out"⟩,
    ⟨retryCall.runsListRequest, .urlError "timed out"⟩,
    ⟨retryCall.runNowRequest, .body "\x7b\"run_id\": 42\x7d"⟩]

def lostService : JobService where
  foreign := []
  started := [42, 41]
  failedProbes := 1

theorem lostTrace_path :
    (runDatabricksJob runIdJson liveEnv (fun _ => none) defaultJobs
      (.str "retry_pipeline") retryParameters).Path lostTrace
        (.ok (retryCall.submitted "42")) := by
  rw [runDatabricksJob_retry, submitLoop.eq_def]
  refine .ask (.ask ?_)
  change (submitLoop runIdJson retryCall 1 2).Path _ _
  rw [submitLoop.eq_def]
  exact .ask (.done _)

theorem lostTrace_served :
    Dialogue.Served (Serves runIdJson retryCall) ⟨[], [], 0⟩ lostTrace
      lostService := by
  have lost : Serves runIdJson retryCall ⟨[], [], 0⟩ retryCall.runNowRequest
      (.urlError "timed out") ⟨[], [41], 0⟩ :=
    .started (by decide) (.inr ⟨_, rfl⟩)
  have unlisted : Serves runIdJson retryCall ⟨[], [41], 0⟩
      retryCall.runsListRequest (.urlError "timed out") ⟨[], [41], 1⟩ :=
    .probeFailed fun _ => nofun
  have answered : Serves runIdJson retryCall ⟨[], [41], 1⟩
      retryCall.runNowRequest (.body "\x7b\"run_id\": 42\x7d")
      lostService :=
    .started (by decide) (.inl ⟨_, rfl, rfl⟩)
  exact .cons lost (.cons unlisted (.cons answered (.nil _)))

theorem startedRuns_le_lost :
    lostService.started.length ≤ lostService.failedProbes + 1 :=
  startedRuns_le rfl lostTrace_path lostTrace_served

/-- A run starts unheard of, the probe fails, and the retry starts another. -/
theorem lost_run_started_again :
    ∃ returned,
      (runDatabricksJob runIdJson liveEnv (fun _ => none) defaultJobs
        (.str "retry_pipeline") retryParameters).Path lostTrace returned ∧
      Dialogue.Served (Serves runIdJson retryCall) ⟨[], [], 0⟩ lostTrace
        lostService ∧
      ¬ lostService.started.length ≤ 1 :=
  ⟨_, lostTrace_path, lostTrace_served, by decide⟩

end PipelineOps.Tools
