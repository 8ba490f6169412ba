import PipelineOps.Graph.Termination

namespace PipelineOps.Graph

open PipelineOps.Library
open PipelineOps.Python

def Proposes (visit : GraphVisit) (plan : Value) : Prop :=
  visit.node = .triage ∧ ∃ updates, visit.result = .ok updates ∧
    updates.find "action_plan" = some plan

/-- No plan is executed that `triage` wrote when the decision to approve was
already there. -/
def ApprovalFollowsProposal (run : GraphRun) : Prop :=
  ∀ before proposal middle execution rest plan,
    run.visits = before ++ proposal :: (middle ++ execution :: rest) →
    Proposes proposal plan → execution.node = .execute →
    execution.state.find "action_plan" = some plan →
      State.get proposal.state "human_decision" ≠ .str "approve"

/-- The interrupt is reached with a plan that `triage` wrote in this run, and
with a decision to approve that the run was started with. -/
def PreApproved (nodes : Nodes) (state : State) : Prop :=
  State.get state "human_decision" = .str "approve" ∧
    ∃ before proposal middle interrupt rest plan,
      (shimRun nodes state).visits =
        before ++ proposal :: (middle ++ interrupt :: rest) ∧
      Proposes proposal plan ∧ interrupt.node = .interrupt

/-- A node behind `triage`, where nothing rewrites the plan. -/
def BehindTriage (node : NodeName) : Prop :=
  node ∉ [.start, .detect, .collect, .analyze, .triage]

instance : DecidablePred BehindTriage :=
  fun node => inferInstanceAs (Decidable (node ∉ _))

theorem behindTriage_step {node later : NodeName}
    (edge : some later ∈ successors node)
    (behind : BehindTriage node ∨ node = .triage) : BehindTriage later :=
  of_edge (fun node later =>
      BehindTriage node ∨ node = .triage → BehindTriage later)
    (fun node => by cases node <;> decide) edge behind

theorem BehindTriage.unwritten {node : NodeName} (behind : BehindTriage node) :
    "action_plan" ∉ writeFields node := by
  have table : BehindTriage node → "action_plan" ∉ writeFields node := by
    cases node <;> decide
  exact table behind

variable {nodes : Nodes} {state : State}

theorem proposed_find (writes : WritesOnly nodes)
    {before rest : List GraphVisit} {proposal : GraphVisit} {plan : Value}
    (visits : (shimRun nodes state).visits = before ++ proposal :: rest)
    (proposes : Proposes proposal plan) :
    ∀ later ∈ rest, BehindTriage later.node ∧
      later.state.find "action_plan" = some plan := by
  obtain ⟨triage, updates, result, written⟩ := proposes
  apply Workflow.run_invariant_after (fun node (current : State) =>
    BehindTriage node ∧ current.find "action_plan" = some plan) visits
  · intro later follows
    obtain ⟨other, same, merged, -⟩ := leads_iff.mp follows.2
    rw [result] at same
    cases same
    rw [merged]
    exact ⟨behindTriage_step (follows_mem_successors follows) (.inr triage),
      Dict.find_update_of_some written⟩
  · intro earlier later follows held
    obtain ⟨behind, found⟩ := held
    rw [follows_find writes follows behind.unwritten]
    exact ⟨behindTriage_step (follows_mem_successors follows) (.inl behind),
      found⟩

theorem execution_interrupt {before middle rest : List GraphVisit}
    {proposal execution : GraphVisit}
    (visits : (shimRun nodes state).visits =
      before ++ proposal :: (middle ++ execution :: rest))
    (triage : proposal.node = .triage) (execute : execution.node = .execute) :
    ∃ front interrupt, middle = front ++ [interrupt] ∧
      interrupt.node = .interrupt := by
  have linked : ∀ earlier : GraphVisit, (shim nodes).Follows earlier execution →
      earlier.node = .interrupt := by
    intro earlier follows
    apply source_of_edge (follows_mem_successors follows)
    rw [execute]
    rfl
  rcases List.eq_nil_or_concat' middle with rfl | ⟨front, interrupt, rfl⟩
  · have interrupted := linked proposal (Workflow.run_follows visits)
    rw [triage] at interrupted
    cases interrupted
  · have regrouped : (shimRun nodes state).visits =
        (before ++ proposal :: front) ++ interrupt :: execution :: rest := by
      rw [visits]
      simp
    exact ⟨front, interrupt, rfl, linked interrupt
      (Workflow.run_follows regrouped)⟩

theorem interrupt_approved (writes : WritesOnly nodes)
    (noOp : ∀ clock current, nodes .interrupt clock current =
      interruptNode current)
    (approve : State.get state "human_decision" = .str "approve")
    {before rest : List GraphVisit} {interrupt : GraphVisit}
    (visits : (shimRun nodes state).visits = before ++ interrupt :: rest)
    (node : interrupt.node = .interrupt) :
    ∃ execution tail, rest = execution :: tail ∧
      execution.node = .execute := by
  have within : (shimRun nodes state).outcome ≠ .exhausted := by
    apply unmodified_within writes
    intro modified
    obtain ⟨modify, -⟩ := modified
    rw [approve] at modify
    exact absurd (Value.str.inj modify) (by decide)
  have member : interrupt ∈ (shimRun nodes state).visits := by
    rw [visits]
    exact List.mem_append_right _ List.mem_cons_self
  have called := Workflow.run_called interrupt member
  have result : interrupt.result = .ok Dict.empty := by
    obtain ⟨clock, performed⟩ := called
    rw [node] at performed
    exact performed.symm.trans (noOp clock interrupt.state)
  have leads :
      (shim nodes).Leads interrupt (some .execute) interrupt.state := by
    refine leads_iff.mpr ⟨Dict.empty, result, rfl, ?_⟩
    rw [node, nextNode_interrupt_execute_iff,
      visits_get writes humanDecision_unwritten interrupt member]
    exact approve
  obtain ⟨execution, tail, rfl, execute, -⟩ :=
    Workflow.run_continues within visits leads
  exact ⟨execution, tail, rfl, execute⟩

/-- A decision to approve that is there from the start authorises whatever plan
the run comes up with. -/
theorem approvalFollowsProposal_iff {deployment : Deployment} {others : Nodes}
    (writes : WritesOnly others) :
    ApprovalFollowsProposal (shimRun (deployed deployment others) state) ↔
      ¬ PreApproved (deployed deployment others) state := by
  have keeps : WritesOnly (deployed deployment others) :=
    deployed_writesOnly writes
  constructor
  · intro law undecided
    obtain ⟨approve, before, proposal, middle, interrupt, rest, plan, visits,
      proposes, node⟩ := undecided
    have regrouped : (shimRun (deployed deployment others) state).visits =
        (before ++ proposal :: middle) ++ interrupt :: rest := by
      rw [visits]
      simp
    obtain ⟨execution, tail, rfl, execute⟩ :=
      interrupt_approved keeps (fun _ _ => rfl) approve regrouped node
    have found := proposed_find keeps visits proposes execution (by simp)
    have decided := law before proposal (middle ++ [interrupt]) execution tail
      plan (by rw [visits]; simp) proposes execute found.2
    rw [visits_get keeps humanDecision_unwritten proposal
      (by rw [visits]; simp)] at decided
    exact decided approve
  · intro fresh before proposal middle execution rest plan visits proposes
      execute _ approve
    obtain ⟨front, interrupt, rfl, node⟩ :=
      execution_interrupt visits proposes.1 execute
    rw [visits_get keeps humanDecision_unwritten proposal
      (by rw [visits]; simp)] at approve
    exact fresh ⟨approve, before, proposal, front, interrupt,
      execution :: rest, plan, by rw [visits]; simp, proposes, node⟩

def retryPlan : Value :=
  .dict
    [("action", .str "retry_pipeline"),
      ("parameters", .dict
        [("pipeline", .str "pipeline_silver"), ("run_mode", .str "full")])]

def retryScript : NodeName → List (String × Value)
  | .triage => [("action_plan", retryPlan)]
  | .verify => [("final_status", .str "resolved")]
  | _ => []

theorem retryScript_writesOnly : WritesOnly (scripted retryScript) :=
  scripted_writesOnly fun node => by cases node <;> decide

def decidedState (decision : Value) : State :=
  .ofList
    [("pipeline", .str "pipeline_silver"),
      ("pipeline_states", .dict
        [("pipeline_silver", .dict [("status", .str "failure")])]),
      ("human_decision", decision)]

theorem approvalFollowsProposal_undecided :
    ApprovalFollowsProposal
      (shimRun (deployed dryRunDeployment (scripted retryScript))
        (decidedState .null)) := by
  apply (approvalFollowsProposal_iff retryScript_writesOnly).mpr
  intro modified
  obtain ⟨approve, -⟩ := modified
  cases approve

theorem approval_precedes_proposal :
    WritesOnly (scripted retryScript) ∧
      ¬ ApprovalFollowsProposal
        (shimRun (deployed dryRunDeployment (scripted retryScript))
          (decidedState (.str "approve"))) := by
  refine ⟨retryScript_writesOnly, fun law => ?_⟩
  let run := shimRun (deployed dryRunDeployment (scripted retryScript))
    (decidedState (.str "approve"))
  have visits : run.visits = run.visits.take 3 ++
      run.visits.get ⟨3, by decide⟩ :: ((run.visits.drop 4).take 2 ++
        run.visits.get ⟨6, by decide⟩ :: run.visits.drop 7) := rfl
  exact law _ _ _ _ _ retryPlan visits ⟨rfl, _, rfl, rfl⟩ rfl rfl rfl

end PipelineOps.Graph
