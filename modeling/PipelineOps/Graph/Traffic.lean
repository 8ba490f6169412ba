import PipelineOps.Graph.Approval
import PipelineOps.Graph.ExecutionGate
import PipelineOps.Library.Effects
import PipelineOps.Tools.RetryDiscipline

namespace PipelineOps.Graph

open PipelineOps.Library
open PipelineOps.Python
open PipelineOps.Orchestrator
open PipelineOps.Tools

/-- What a visit says to Databricks. -/
def exchanges (deployment : Deployment) (clock : Nat) (visit : GraphVisit) :
    List HttpExchange :=
  match visit.node with
  | .execute =>
      ((Execute.run deployment.python (deployment.env clock)
        deployment.base deployment.jobs visit.state).converse
          (deployment.respond clock) []).1
  | _ => []

def traffic (deployment : Deployment) (others : Nodes) (state : State) :
    List HttpExchange :=
  Workflow.effects (exchanges deployment) 0
    (shimRun (deployed deployment others) state).visits

/-- The ways to `triage`, with and without the analysis. -/
def diagnoses : List (List NodeName) :=
  [[.detect, .collect], [.detect, .collect, .analyze]]

/-- The ways to a node that keep off the loop of the modifications. -/
def waysTo : NodeName → List (List NodeName)
  | .detect => [[]]
  | .collect => [[.detect]]
  | .analyze => [[.detect, .collect]]
  | .triage => diagnoses
  | .propose => diagnoses.map (· ++ [.triage])
  | .interrupt => diagnoses.map (· ++ [.triage, .propose])
  | .execute => diagnoses.map (· ++ [.triage, .propose, .interrupt])
  | .verify => diagnoses.map (· ++ [.triage, .propose, .interrupt, .execute])
  | .rollback | .postmortem =>
      diagnoses.map (· ++ [.triage, .propose, .interrupt, .execute, .verify])
  | .reportOnly =>
      [.detect] :: (diagnoses.map (· ++ [.triage]) ++
        diagnoses.map (· ++ [.triage, .propose, .interrupt]))
  | .start | .finish => []

theorem way_of_edge {node later : NodeName}
    (edge : some later ∈ successors node) :
    node = .interrupt ∧ later = .propose ∨
      ∀ way ∈ waysTo node, way ++ [node] ∈ waysTo later :=
  of_edge (fun node later => node = .interrupt ∧ later = .propose ∨
      ∀ way ∈ waysTo node, way ++ [node] ∈ waysTo later)
    (fun node => by cases node <;> decide) edge

def Closing (node : NodeName) : Prop :=
  node = .verify ∨ node = .rollback ∨ node = .postmortem

theorem closing_of_edge {node later : NodeName}
    (edge : some later ∈ successors node)
    (executes : node = .execute ∨ Closing node) : Closing later := by
  rw [successors_eq] at edge
  rcases executes with rfl | rfl | rfl | rfl
  · obtain rfl := Option.some.inj (List.mem_singleton.mp edge)
    exact .inl rfl
  · simp only [List.mem_cons, Option.some.injEq, reduceCtorEq, or_false,
      List.not_mem_nil] at edge
    exact .inr edge.symm
  · simp at edge
  · simp at edge

section Runs

variable {nodes : Nodes} {state : State} {before rest : List GraphVisit}
  {visit : GraphVisit}

theorem waysTo_visit (writes : WritesOnly nodes)
    (unmodified : ¬ Modified nodes state)
    (visits : (shimRun nodes state).visits = before ++ visit :: rest) :
    before.map Visit.node ∈ waysTo visit.node := by
  apply Workflow.run_way (fun node way => way ∈ waysTo node)
    (List.mem_singleton_self []) _ visits
  intro earlier member later follows
  rcases way_of_edge (follows_mem_successors follows) with
    ⟨interrupt, propose⟩ | extends_way
  · have closer := rank_decreases writes unmodified member follows
    rw [interrupt, propose] at closer
    exact absurd closer (by decide)
  · exact extends_way

theorem execute_once
    (visits : (shimRun nodes state).visits = before ++ visit :: rest)
    (execute : visit.node = .execute) :
    (∀ later ∈ rest, Closing later.node) ∧
      ∀ other ∈ before ++ rest, other.node ≠ .execute := by
  apply Workflow.run_once (· = .execute) Closing _ _ visits execute
  · exact fun _ _ follows executes =>
      closing_of_edge (follows_mem_successors follows) executes
  · intro node closing executes
    subst executes
    rcases closing with same | same | same <;> cases same

theorem approved_of_execute (writes : WritesOnly nodes)
    (visits : (shimRun nodes state).visits = before ++ visit :: rest)
    (execute : visit.node = .execute) :
    State.get state "human_decision" = .str "approve" := by
  obtain ⟨front, earlier, rfl, follows⟩ :=
    shimRun_predecessor visits (by rw [execute]; decide)
  have member : earlier ∈ (shimRun nodes state).visits := by
    rw [visits]
    simp
  have interrupt : earlier.node = .interrupt := by
    apply source_of_edge (follows_mem_successors follows)
    rw [execute]
    rfl
  obtain ⟨updates, -, -, routed⟩ := leads_iff.mp follows.2
  rw [interrupt, execute, nextNode_interrupt_execute_iff,
    follows_get writes follows (humanDecision_unwritten earlier.node),
    visits_get writes humanDecision_unwritten earlier member] at routed
  exact routed

end Runs

theorem exchanges_of_ne {deployment : Deployment} {clock : Nat}
    {visit : GraphVisit} (other : visit.node ≠ .execute) :
    exchanges deployment clock visit = [] := by
  rw [exchanges]
  split
  · exact absurd ‹_› other
  · rfl

theorem exchanges_of_execute {deployment : Deployment} {clock : Nat}
    {visit : GraphVisit} (execute : visit.node = .execute) :
    exchanges deployment clock visit =
      ((Execute.run deployment.python (deployment.env clock)
        deployment.base deployment.jobs visit.state).converse
          (deployment.respond clock) []).1 := by
  rw [exchanges, execute]

section Execute

variable {python : Interpreter} {env : SecretEnv} {base : BaseModel}
  {jobs : JobsConfig} {state : State} {actionPlan : JsonObject}
  {plan : Execute.ApprovedPlan} {call : JobCall}

theorem run_of_prepared (passed : Execute.Passed state actionPlan plan)
    (prepared : prepareDatabricksJob python env base jobs plan.action
      plan.parameters = .ok (.inr call)) :
    Execute.run python env base jobs state =
      (submitLoop python call maxTimeoutRetries max5xxRetries).bind
        fun executionResult =>
          .done (executionResult.map (Execute.result plan)) := by
  have approved : Execute.approvedPlan state = .ok plan :=
    Execute.approvedPlan_ok_iff.mpr ⟨actionPlan, passed⟩
  obtain ⟨name, supported, action⟩ :=
    (prepareDatabricksJob_ready prepared).supported
  have submits : plan.action.isText "skip_and_report" = false := by
    rw [action]
    simp only [supportedActions, List.mem_cons, List.not_mem_nil, or_false]
      at supported
    rcases supported with rfl | rfl <;> rfl
  simp only [Execute.run, approved, submits, Bool.false_eq_true, if_false,
    runDatabricksJob, prepared]

/-- The submission behind an approved plan, or else no request. -/
theorem run_submits :
    (∃ returned,
      Execute.run python env base jobs state = .done returned) ∨
    ∃ actionPlan plan call, Execute.Passed state actionPlan plan ∧
      prepareDatabricksJob python env base jobs plan.action plan.parameters =
        .ok (.inr call) := by
  rw [Execute.run]
  cases approved : Execute.approvedPlan state with
  | error exc => exact .inl ⟨_, rfl⟩
  | ok plan =>
      obtain ⟨actionPlan, passed⟩ := Execute.approvedPlan_ok_iff.mp approved
      dsimp only
      split
      · exact .inl ⟨_, rfl⟩
      · rw [runDatabricksJob]
        rcases prepared : prepareDatabricksJob python env base jobs plan.action
            plan.parameters with exc | result | call
        · exact .inl ⟨_, rfl⟩
        · exact .inl ⟨_, rfl⟩
        · exact .inr ⟨actionPlan, plan, call, passed, prepared⟩

end Execute

/-- Where a run submits a job, for which plan, and what comes of it. -/
structure RunSubmission (deployment : Deployment) (others : Nodes)
    (state : State) where
  before : List GraphVisit
  visit : GraphVisit
  rest : List GraphVisit
  visits : (shimRun (deployed deployment others) state).visits =
    before ++ visit :: rest
  execute : visit.node = .execute
  approved : State.get state "human_decision" = .str "approve"
  way : before.map Visit.node ∈ waysTo .execute
  closing : ∀ later ∈ rest, Closing later.node
  authorization : Authorization (deployment.env before.length) deployment.jobs
    visit.state
  plan : Execute.ApprovedPlan
  passed : Execute.Passed visit.state authorization.actionPlan plan
  call : JobCall
  prepared : prepareDatabricksJob deployment.python
    (deployment.env before.length) deployment.base deployment.jobs plan.action
      plan.parameters = .ok (.inr call)
  configured : call.jobId = authorization.config.refresh
  returned : Except Exc Value
  discipline : SubmissionDiscipline deployment.python call
    (traffic deployment others state) returned
  result : visit.result = returned.map (Execute.result plan)

theorem traffic_of_execute {deployment : Deployment} {others : Nodes}
    {state : State} {before rest : List GraphVisit} {visit : GraphVisit}
    (visits : (shimRun (deployed deployment others) state).visits =
      before ++ visit :: rest)
    (execute : visit.node = .execute) :
    traffic deployment others state =
      ((Execute.run deployment.python (deployment.env before.length)
        deployment.base deployment.jobs visit.state).converse
          (deployment.respond before.length) []).1 := by
  rw [traffic, visits, Workflow.effects_eq_of_silent fun other inner clock =>
      exchanges_of_ne ((execute_once visits execute).2 other inner),
    Nat.zero_add, exchanges_of_execute execute]

theorem submission_of_traffic {deployment : Deployment} {others : Nodes}
    {state : State} (plain : deployment.base.WithoutJobs)
    (writes : WritesOnly others)
    (speaks : traffic deployment others state ≠ []) :
    Nonempty (RunSubmission deployment others state) := by
  have keeps : WritesOnly (deployed deployment others) :=
    deployed_writesOnly writes
  obtain ⟨visit, member, clock, emits⟩ := Workflow.exists_of_effects speaks
  have execute : visit.node = .execute := by
    by_contra other
    exact emits (exchanges_of_ne other)
  obtain ⟨before, rest, visits⟩ := List.append_of_mem member
  have approved := approved_of_execute keeps visits execute
  have unmodified : ¬ Modified (deployed deployment others) state := by
    intro modified
    have both := modified.1.symm.trans approved
    exact absurd (Value.str.inj both) (by decide)
  have way := waysTo_visit keeps unmodified visits
  rw [execute] at way
  have spoken := traffic_of_execute visits execute
  have performed := Workflow.run_performed visits
  rw [Nat.zero_add, execute] at performed
  change (Dialogue.converse _ _ _).2 = _ at performed
  rcases @run_submits deployment.python (deployment.env before.length)
      deployment.base deployment.jobs visit.state with
    ⟨returned, same⟩ | ⟨actionPlan, plan, call, passed, prepared⟩
  · rw [spoken, same] at speaks
    exact absurd rfl speaks
  · obtain ⟨authorization, job⟩ := exists_authorization plain passed
      (prepareDatabricksJob_ready prepared)
    obtain rfl : authorization.actionPlan = actionPlan :=
      Value.dict.inj (authorization.proposed.symm.trans passed.proposed)
    rw [run_of_prepared passed prepared, Dialogue.converse_bind]
      at spoken performed
    obtain ⟨trace, extended, path⟩ := Dialogue.converse_path
      (deployment.respond before.length)
      (submitLoop deployment.python call maxTimeoutRetries max5xxRetries) []
    have whole : traffic deployment others state = trace :=
      spoken.trans extended
    exact ⟨{
      before, visit, rest, visits, execute, approved, way
      closing := (execute_once visits execute).1
      authorization, plan, passed, call, prepared
      configured := job.symm
      returned := _
      discipline := whole ▸ (submitLoop_submission _ _ _ _ path).discipline
      result := performed.symm }⟩

theorem speaks_of_prepared {deployment : Deployment} {others : Nodes}
    {state : State} {before rest : List GraphVisit} {visit : GraphVisit}
    (visits : (shimRun (deployed deployment others) state).visits =
      before ++ visit :: rest)
    (execute : visit.node = .execute) {actionPlan : JsonObject}
    {plan : Execute.ApprovedPlan} {call : JobCall}
    (passed : Execute.Passed visit.state actionPlan plan)
    (prepared : prepareDatabricksJob deployment.python
      (deployment.env before.length) deployment.base deployment.jobs plan.action
        plan.parameters = .ok (.inr call)) :
    traffic deployment others state ≠ [] := by
  rw [traffic_of_execute visits execute, run_of_prepared passed prepared,
    Dialogue.converse_bind]
  obtain ⟨trace, extended, path⟩ := Dialogue.converse_path
    (deployment.respond before.length)
    (submitLoop deployment.python call maxTimeoutRetries max5xxRetries) []
  change (Dialogue.converse _ _ _).1 ≠ []
  rw [extended]
  exact (submitLoop_submission _ _ _ _ path).ne_nil

/-- Whatever the other nodes do and however secrets and HTTP behave, a run of
the graph says nothing to Databricks, or all it says is one submission of its
approved plan. -/
theorem speaks_iff_submission {deployment : Deployment} {others : Nodes}
    {state : State} (plain : deployment.base.WithoutJobs)
    (writes : WritesOnly others) :
    traffic deployment others state ≠ [] ↔
      Nonempty (RunSubmission deployment others state) := by
  constructor
  · exact submission_of_traffic plain writes
  · intro submits
    obtain ⟨submission⟩ := submits
    exact speaks_of_prepared submission.visits submission.execute
      submission.passed submission.prepared

/-- The live mode with a service that starts every run at once. -/
def liveDeployment : Deployment where
  python := runIdJson
  env _ := liveEnv
  base _ := none
  jobs := defaultJobs
  pipelines := defaultPipelines
  respond _ _ _ := .body "\x7b\"run_id\": 42\x7d"

theorem liveDeployment_speaks :
    traffic liveDeployment (scripted retryScript)
      (decidedState (.str "approve")) ≠ [] := by
  let run := shimRun (deployed liveDeployment (scripted retryScript))
    (decidedState (.str "approve"))
  have reached : ∃ current, run.visits = run.visits.take 6 ++
      ((shim (deployed liveDeployment (scripted retryScript))).run 94 6
        .execute current).visits ∧
      ∃ plan call, Execute.approvedPlan current = .ok plan ∧
        prepareDatabricksJob runIdJson liveEnv (fun _ => none) defaultJobs
          plan.action plan.parameters = .ok (.inr call) :=
    ⟨_, rfl, _, _, rfl, rfl⟩
  obtain ⟨current, visits, plan, call, approved, prepared⟩ := reached
  obtain ⟨actionPlan, passed⟩ := Execute.approvedPlan_ok_iff.mp approved
  obtain ⟨visit, execute, rfl, -, ⟨outcome, -, equation⟩ |
    ⟨next, later, -, equation⟩⟩ := Workflow.run_succ
      (shim (deployed liveDeployment (scripted retryScript))) 93 6 .execute
      current
  all_goals
    rw [equation] at visits
    exact speaks_of_prepared visits execute passed prepared

theorem speaks_iff_submission_retry :
    traffic liveDeployment (scripted retryScript)
        (decidedState (.str "approve")) ≠ [] ∧
      Nonempty (RunSubmission liveDeployment (scripted retryScript)
        (decidedState (.str "approve"))) := by
  have plain : BaseModel.WithoutJobs fun _ => none :=
    fun _ _ _ found => nomatch found
  exact ⟨liveDeployment_speaks,
    (speaks_iff_submission plain retryScript_writesOnly).mp
      liveDeployment_speaks⟩

end PipelineOps.Graph
