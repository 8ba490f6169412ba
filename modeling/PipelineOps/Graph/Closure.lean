import PipelineOps.Graph.Steps

namespace PipelineOps.Graph

open PipelineOps.Library
open PipelineOps.Python

def DetectReported (run : GraphRun) : Prop :=
  ∃ visit rest updates issue issues, run.visits = visit :: rest ∧
    visit.result = .ok updates ∧
    updates.find "detected_issues" = some (.list (issue :: issues))

/-- The visit left the interrupt by its timeout branch, which also takes every
unknown decision. -/
def LeftByTimeout (visit : GraphVisit) : Prop :=
  visit.node = .interrupt ∧ (∃ updates, visit.result = .ok updates) ∧
    routeInterrupt visit.state = .ok "timeout"

def TimedOut (run : GraphRun) : Prop :=
  ∃ visit ∈ run.visits, LeftByTimeout visit

/-- A reported incident that ends without an execution is closed: as
`escalated` when the approval timed out, as `reported` otherwise. -/
def UnexecutedClosed (run : GraphRun) : Prop :=
  DetectReported run → ∀ final, run.outcome = .finished final →
    (∀ visit ∈ run.visits, visit.node ≠ .execute) →
    (State.get final "final_status" = .str "reported" ∨
      State.get final "final_status" = .str "escalated") ∧
    (State.get final "final_status" = .str "escalated" ↔ TimedOut run)

def ReportsOtherwise (visit : GraphVisit) : Prop :=
  visit.node = .reportOnly ∧ ∃ updates, visit.result = .ok updates ∧
    updates.find "final_status" ≠ some (.str "reported")

/-! Until the job is verified, `report_only` is the only node that writes
`final_status`. -/

/-- The nodes up to the execution, and `report_only`. -/
def Unverified (node : NodeName) : Prop :=
  node ≠ .verify ∧ node ≠ .rollback ∧ node ≠ .postmortem

theorem unverified_predecessor {node later : NodeName}
    (edge : some later ∈ successors node) (unverified : Unverified later) :
    Unverified node ∧ "final_status" ∉ writeFields node := by
  obtain ⟨-, rollback, postmortem⟩ := unverified
  rw [successors_eq] at edge
  cases node with
  | verify => simp [rollback, postmortem] at edge
  | rollback => simp at edge
  | reportOnly => simp at edge
  | postmortem => simp at edge
  | _ => exact ⟨by simp [Unverified], by decide⟩

variable {nodes : Nodes} {state : State}

theorem unverified_find (writes : WritesOnly nodes)
    (fresh : state.find "final_status" = none) :
    ∀ visit ∈ (shimRun nodes state).visits, Unverified visit.node →
      visit.state.find "final_status" = none :=
  Workflow.run_invariant
    (fun node (current : State) => Unverified node →
      current.find "final_status" = none)
    (fun _ => fresh)
    fun visit later follows unwritten unverified => by
      obtain ⟨earlier, outside⟩ :=
        unverified_predecessor (follows_mem_successors follows) unverified
      rw [follows_find writes follows outside]
      exact unwritten earlier

theorem unverified_not_after_execute {before rest : List GraphVisit}
    {visit : GraphVisit}
    (visits : (shimRun nodes state).visits = before ++ visit :: rest)
    (unverified : Unverified visit.node) :
    ∀ earlier ∈ before, earlier.node ≠ .execute := by
  intro earlier member execute
  obtain ⟨front, middle, rfl⟩ := List.append_of_mem member
  rw [List.append_assoc, List.cons_append] at visits
  apply Workflow.run_invariant_after (fun node (_ : State) =>
    ¬ Unverified node) visits ?_ ?_ visit (by simp) unverified
  · intro later follows
    have edge := follows_mem_successors follows
    rw [execute, successors_eq] at edge
    have verify : later.node = .verify := by simpa using edge
    simp [Unverified, verify]
  · intro first later follows verified unverified
    exact verified (unverified_predecessor (follows_mem_successors follows)
      unverified).1

theorem verified_after_execute {before rest : List GraphVisit}
    {visit : GraphVisit}
    (visits : (shimRun nodes state).visits = before ++ visit :: rest)
    (verified : ¬ Unverified visit.node) :
    ∃ earlier ∈ before, earlier.node = .execute := by
  by_cases verify : visit.node = .verify
  · exact verify_after_execute visits verify
  · have behind : visit.node = .rollback ∨ visit.node = .postmortem := by
      by_contra other
      exact verified ⟨verify, not_or.mp other⟩
    obtain ⟨front, earlier, rfl, follows⟩ := shimRun_predecessor visits (by
      rcases behind with node | node <;> rw [node] <;> decide)
    have earlierVerify : earlier.node = .verify := by
      apply source_of_edge (follows_mem_successors follows)
      rcases behind with node | node
      · rw [node]
        rfl
      · rw [node]
        rfl
    rw [List.append_assoc] at visits
    obtain ⟨execution, member, execute⟩ :=
      verify_after_execute visits earlierVerify
    exact ⟨execution, List.mem_append_left _ member, execute⟩

theorem leftByTimeout_iff (writes : WritesOnly nodes) {visit : GraphVisit}
    (called : (shim nodes).Called visit) (interrupt : visit.node = .interrupt) :
    LeftByTimeout visit ↔ (shim nodes).Leads visit none visit.state := by
  constructor
  · intro leaves
    obtain ⟨-, ⟨updates, result⟩, routed⟩ := leaves
    refine ⟨updates, result,
      (interrupt_unchanged writes called interrupt result).symm, ?_⟩
    rw [interrupt]
    exact nextNode_interrupt_none_iff.mpr routed
  · intro leads
    obtain ⟨updates, result, -, routed⟩ := leads
    rw [interrupt] at routed
    exact ⟨interrupt, ⟨updates, result⟩, nextNode_interrupt_none_iff.mp routed⟩

theorem reportOnly_leads {visit : GraphVisit} {updates : Updates}
    (reportOnly : visit.node = .reportOnly)
    (result : visit.result = .ok updates) :
    (shim nodes).Leads visit none (visit.state.update updates) := by
  refine ⟨updates, result, rfl, ?_⟩
  have routed : nextNode .reportOnly (visit.state.update updates) =
      .ok (target .finish) := nextNode_linear rfl rfl
  rw [reportOnly]
  exact routed

theorem DetectReported.not_finished {visit : GraphVisit} {run : GraphRun}
    {final : State} (reported : DetectReported run)
    (visits : run.visits = [visit]) (detect : visit.node = .detect) :
    ¬ (shim nodes).Leads visit none final := by
  intro leads
  obtain ⟨updates, result, rfl, routed⟩ := leads_iff.mp leads
  obtain ⟨first, rest, reportedUpdates, issue, issues, head, returned,
    found⟩ := reported
  rw [visits] at head
  obtain ⟨rfl, -⟩ := List.cons.inj head
  rw [result] at returned
  cases returned
  rw [detect, nextNode_detect_none_iff, State.get_update_of_some found]
    at routed
  cases routed

theorem UnexecutedClosed.status {before rest : List GraphVisit}
    {visit : GraphVisit} {final : State}
    (law : UnexecutedClosed (shimRun nodes state))
    (reported : DetectReported (shimRun nodes state))
    (visits : (shimRun nodes state).visits = before ++ visit :: rest)
    (unverified : Unverified visit.node) (unexecuted : visit.node ≠ .execute)
    (leads : (shim nodes).Leads visit none final) :
    (State.get final "final_status" = .str "reported" ∨
      State.get final "final_status" = .str "escalated") ∧
    (State.get final "final_status" = .str "escalated" ↔
      TimedOut (shimRun nodes state)) := by
  obtain ⟨rfl, outcome⟩ := Workflow.run_stops visits leads
  apply law reported final outcome
  intro earlier member
  rw [visits] at member
  rcases List.mem_append.mp member with member | member
  · exact unverified_not_after_execute visits unverified earlier member
  · rw [List.mem_singleton.mp member]
    exact unexecuted

theorem UnexecutedClosed.inTime
    (law : UnexecutedClosed (shimRun nodes state))
    (reported : DetectReported (shimRun nodes state))
    (writes : WritesOnly nodes) (fresh : state.find "final_status" = none) :
    ¬ TimedOut (shimRun nodes state) := by
  intro timedOut
  obtain ⟨visit, member, left⟩ := timedOut
  have leads := (leftByTimeout_iff writes
    (Workflow.run_called visit member) left.1).mp left
  have unverified : Unverified visit.node := by
    simp [Unverified, left.1]
  obtain ⟨before, rest, visits⟩ := List.append_of_mem member
  obtain ⟨closed, -⟩ := law.status reported visits unverified
    (by simp [left.1]) leads
  have unwritten := State.get_of_find_none
    (unverified_find writes fresh visit member unverified)
  rw [unwritten] at closed
  rcases closed with same | same <;> cases same

theorem UnexecutedClosed.reports
    (law : UnexecutedClosed (shimRun nodes state))
    (reported : DetectReported (shimRun nodes state))
    (writes : WritesOnly nodes) (fresh : state.find "final_status" = none) :
    ∀ visit ∈ (shimRun nodes state).visits, ¬ ReportsOtherwise visit := by
  intro visit member skipped
  obtain ⟨reportOnly, updates, result, otherwise⟩ := skipped
  have unverified : Unverified visit.node := by simp [Unverified, reportOnly]
  obtain ⟨before, rest, visits⟩ := List.append_of_mem member
  obtain ⟨closed, escalated⟩ := law.status reported visits unverified
    (by simp [reportOnly]) (reportOnly_leads reportOnly result)
  have status := closed.resolve_right
    (mt escalated.mp (law.inTime reported writes fresh))
  rw [State.get, Dict.find_update,
    unverified_find writes fresh visit member unverified,
    Option.or_none] at status
  cases written : updates.find "final_status" with
  | none =>
      rw [written] at status
      cases status
  | some value =>
      rw [written] at status
      exact otherwise (written.trans (congrArg some status))

theorem unverified_of_unexecuted {before rest : List GraphVisit}
    {visit : GraphVisit}
    (visits : (shimRun nodes state).visits = before ++ visit :: rest)
    (unexecuted : ∀ visit ∈ (shimRun nodes state).visits,
      visit.node ≠ .execute) : Unverified visit.node := by
  by_contra verified
  obtain ⟨execution, earlier, execute⟩ :=
    verified_after_execute visits verified
  apply absurd execute
  apply unexecuted execution
  rw [visits]
  exact List.mem_append_left _ earlier

/-- The law fails on the timeout branch, and wherever `report_only` returns
another status. -/
theorem unexecutedClosed_iff (writes : WritesOnly nodes)
    (fresh : state.find "final_status" = none) :
    UnexecutedClosed (shimRun nodes state) ↔
      (DetectReported (shimRun nodes state) →
        ¬ TimedOut (shimRun nodes state) ∧
          ∀ visit ∈ (shimRun nodes state).visits,
            ¬ ReportsOtherwise visit) := by
  constructor
  · intro law reported
    exact ⟨law.inTime reported writes fresh,
      law.reports reported writes fresh⟩
  · intro condition reported final outcome unexecuted
    obtain ⟨inTime, reports⟩ := condition reported
    obtain ⟨before, last, visits, leads⟩ := Workflow.run_finished outcome
    have member : last ∈ (shimRun nodes state).visits := by
      rw [shimRun, visits]
      exact List.mem_append_right _ List.mem_cons_self
    have unverified := unverified_of_unexecuted visits unexecuted
    -- of the unverified nodes only these three have an edge to the end
    have edge := leads_mem_successors leads
    have called := Workflow.run_called last member
    rw [successors_eq] at edge
    cases node : last.node with
    | detect =>
        obtain rfl := shimRun_detect visits node
        exact absurd leads (reported.not_finished visits node)
    | interrupt =>
        obtain ⟨updates, result, same, -⟩ := leads_iff.mp leads
        rw [interrupt_unchanged writes called node result] at same
        rw [same] at leads
        exact absurd ⟨last, member, (leftByTimeout_iff writes called node).mpr
          leads⟩ inTime
    | reportOnly =>
        obtain ⟨updates, result, rfl, -⟩ := leads_iff.mp leads
        have written : updates.find "final_status" =
            some (.str "reported") := by
          by_contra otherwise
          exact reports last member ⟨node, updates, result, otherwise⟩
        rw [State.get_update_of_some written]
        exact ⟨.inl rfl, iff_of_false (by simp) inTime⟩
    | verify => exact absurd node unverified.1
    | rollback => exact absurd node unverified.2.1
    | postmortem => exact absurd node unverified.2.2
    | _ => simp [node] at edge

def timeoutScript : NodeName → List (String × Value)
  | .detect => [("detected_issues", .list [.str "new_exception"])]
  | .reportOnly => [("final_status", .str "reported")]
  | _ => []

def timedOutState : State := .ofList [("human_decision", .str "timeout")]

def rejectedState : State := .ofList [("human_decision", .str "reject")]

theorem timeoutScript_writesOnly : WritesOnly (scripted timeoutScript) :=
  scripted_writesOnly fun node => by cases node <;> decide

theorem unexecutedClosed_rejected :
    UnexecutedClosed (shimRun (scripted timeoutScript) rejectedState) := by
  apply (unexecutedClosed_iff timeoutScript_writesOnly rfl).mpr
  intro _
  constructor
  · intro timedOut
    obtain ⟨visit, member, -, -, timeout⟩ := timedOut
    have decided := visits_get timeoutScript_writesOnly
      humanDecision_unwritten visit member
    rw [routeInterrupt_congr decided] at timeout
    have reject : routeInterrupt rejectedState = .ok "reject" := rfl
    exact absurd (Except.ok.inj (reject.symm.trans timeout)) (by decide)
  · intro visit member skipped
    obtain ⟨reportOnly, updates, result, otherwise⟩ := skipped
    obtain ⟨clock, called⟩ := Workflow.run_called visit member
    have returned : updates = .ofList (timeoutScript visit.node) :=
      (Except.ok.inj (called.trans result)).symm
    subst returned
    rw [reportOnly] at otherwise
    exact otherwise rfl

theorem unexecuted_not_closed :
    WritesOnly (scripted timeoutScript) ∧
      timedOutState.find "final_status" = none ∧
      ¬ UnexecutedClosed (shimRun (scripted timeoutScript) timedOutState) := by
  refine ⟨timeoutScript_writesOnly, rfl, fun law => ?_⟩
  obtain ⟨final, finished, unset⟩ : ∃ final,
      (shimRun (scripted timeoutScript) timedOutState).outcome =
        .finished final ∧ State.get final "final_status" = .null :=
    ⟨_, rfl, rfl⟩
  obtain ⟨closed, -⟩ :=
    law ⟨_, _, _, _, _, rfl, rfl, rfl⟩ final finished (by decide)
  rw [unset] at closed
  rcases closed with same | same <;> cases same

end PipelineOps.Graph
