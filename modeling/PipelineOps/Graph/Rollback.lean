import PipelineOps.Graph.Steps

namespace PipelineOps.Graph

open PipelineOps.Library
open PipelineOps.Python

/-- The verdicts behind which nothing is left to roll back. -/
def settledStatuses : List String := ["resolved", "failed", "escalated"]

def LeavesOpen (visit : GraphVisit) : Prop :=
  visit.node = .verify ∧ ∃ updates, visit.result = .ok updates ∧
    ∀ status ∈ settledStatuses,
      State.get (visit.state.update updates) "final_status" ≠ .str status

/-- An executed job with an open outcome goes to `rollback` next. -/
def RollbackNotBypassed (run : GraphRun) : Prop :=
  ∀ before visit rest, run.visits = before ++ visit :: rest →
    (∃ earlier ∈ before, earlier.node = .execute) → LeavesOpen visit →
      ∃ follower tail, rest = follower :: tail ∧ follower.node = .rollback

variable {nodes : Nodes} {state : State}

theorem nextNode_verify_of_open
    (resolved : State.get state "final_status" ≠ .str "resolved")
    (unflagged : State.get state "rollback_required" = .null) :
    nextNode .verify state = .ok none := by
  refine (nextNode_conditional rfl).mpr ⟨"end", .finish, ?_, rfl, rfl⟩
  simp [routeKey, routers, routeVerify, resolved, unflagged, Value.truthy]

theorem leavesOpen_leads (writes : WritesOnly nodes)
    (declared : state.Within Declared) {visit : GraphVisit}
    (member : visit ∈ (shimRun nodes state).visits)
    (openOutcome : LeavesOpen visit) :
    ∃ final, (shim nodes).Leads visit none final := by
  obtain ⟨verify, updates, result, unsettled⟩ := openOutcome
  have unflagged : State.get (visit.state.update updates)
      "rollback_required" = .null := by
    have called := Workflow.run_called visit member
    rw [called_get writes called result
      (rollbackRequired_unwritten visit.node),
      visits_get writes rollbackRequired_unwritten visit member]
    exact State.get_of_find_none (declared.find_eq_none (by decide))
  have routed := nextNode_verify_of_open
    (unsettled "resolved" (by decide)) unflagged
  exact ⟨_, updates, result, rfl, verify ▸ routed⟩

/-- No run from declared keys rolls an open outcome back: the law holds of
exactly those runs in which `verify` leaves none. -/
theorem rollbackNotBypassed_iff (writes : WritesOnly nodes)
    (declared : state.Within Declared) :
    RollbackNotBypassed (shimRun nodes state) ↔
      ∀ visit ∈ (shimRun nodes state).visits, ¬ LeavesOpen visit := by
  constructor
  · intro law visit member openOutcome
    obtain ⟨before, rest, visits⟩ := List.append_of_mem member
    obtain ⟨follower, tail, rfl, -⟩ := law before visit rest visits
      (verify_after_execute visits openOutcome.1) openOutcome
    obtain ⟨final, leads⟩ := leavesOpen_leads writes declared member openOutcome
    exact absurd (Workflow.run_stops visits leads).1 (List.cons_ne_nil _ _)
  · intro settled before visit rest visits _ openOutcome
    apply absurd openOutcome
    apply settled visit
    rw [visits]
    exact List.mem_append_right _ (List.mem_cons_self)

def resolvedScript : NodeName → List (String × Value)
  | .detect => [("detected_issues", .list [.str "failure"])]
  | .verify => [("final_status", .str "resolved")]
  | _ => []

/-- A pipeline failure whose verification leaves `final_status` unset. -/
def unverifiedScript : NodeName → List (String × Value)
  | .detect => [("detected_issues", .list [.str "failure"])]
  | _ => []

def approvedState : State := .ofList [("human_decision", .str "approve")]

theorem rollbackNotBypassed_resolved :
    RollbackNotBypassed (shimRun (scripted resolvedScript) approvedState) := by
  refine (rollbackNotBypassed_iff (scripted_writesOnly ?_)
    (Dict.within_ofList (by decide))).mpr ?_
  · intro node
    cases node <;> decide
  · intro visit member skipped
    obtain ⟨verify, updates, result, unsettled⟩ := skipped
    obtain ⟨clock, called⟩ := Workflow.run_called visit member
    have returned : updates = .ofList (resolvedScript visit.node) :=
      (Except.ok.inj (called.trans result)).symm
    subst returned
    apply unsettled "resolved" (by decide)
    apply State.get_update_of_some
    rw [verify]
    rfl

theorem rollback_bypassed :
    WritesOnly (scripted unverifiedScript) ∧ approvedState.Within Declared ∧
      approvedState.find "final_status" = none ∧
      ¬ RollbackNotBypassed (shimRun (scripted unverifiedScript)
        approvedState) := by
  refine ⟨scripted_writesOnly ?_, Dict.within_ofList (by decide), rfl, ?_⟩
  · intro node
    cases node <;> decide
  · intro law
    let run := shimRun (scripted unverifiedScript) approvedState
    have visits : run.visits = run.visits.take 7 ++
        [run.visits.get ⟨7, by decide⟩] := rfl
    have openOutcome : LeavesOpen (run.visits.get ⟨7, by decide⟩) := by
      refine ⟨rfl, .ofList [], rfl, fun status _ same => ?_⟩
      have unset : Value.null = .str status := same
      cases unset
    obtain ⟨follower, tail, stopped, -⟩ :=
      law _ _ [] visits (verify_after_execute visits rfl) openOutcome
    cases stopped

end PipelineOps.Graph
