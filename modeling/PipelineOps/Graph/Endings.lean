import PipelineOps.Graph.Closure
import PipelineOps.Graph.Traffic

namespace PipelineOps.Graph

open PipelineOps.Library
open PipelineOps.Python

/-! How a run ends that starts without a final status. -/

section Endings

variable {deployment : Deployment} {others : Nodes} {state final : State}

def Executed (run : GraphRun) : Prop :=
  ∃ visit ∈ run.visits, visit.node = .execute

def Reported (run : GraphRun) : Prop :=
  ∃ visit ∈ run.visits, visit.node = .reportOnly

theorem traffic_of_unexecuted
    (unexecuted : ¬ Executed (shimRun (deployed deployment others) state)) :
    traffic deployment others state = [] := by
  apply Workflow.effects_eq_nil
  intro visit member clock
  apply exchanges_of_ne
  intro execute
  exact unexecuted ⟨visit, member, execute⟩

theorem Executed.approved {nodes : Nodes} (writes : WritesOnly nodes)
    (executed : Executed (shimRun nodes state)) :
    State.get state "human_decision" = .str "approve" := by
  obtain ⟨visit, member, execute⟩ := executed
  obtain ⟨before, rest, visits⟩ := List.append_of_mem member
  exact approved_of_execute writes visits execute

/-- A report is the end of the run. -/
theorem reported_status
    (finished : (shimRun (deployed deployment others) state).outcome =
      .finished final)
    (reported : Reported (shimRun (deployed deployment others) state)) :
    State.get final "final_status" = .str "reported" ∧
      ¬ Executed (shimRun (deployed deployment others) state) := by
  obtain ⟨visit, member, reportOnly⟩ := reported
  obtain ⟨before, rest, visits⟩ := List.append_of_mem member
  obtain ⟨next, later, leads⟩ := Workflow.run_finished_leads finished member
  obtain ⟨updates, result, -, -⟩ := leads_iff.mp leads
  obtain ⟨rfl, outcome⟩ :=
    Workflow.run_stops visits (reportOnly_leads reportOnly result)
  obtain ⟨clock, performed⟩ := Workflow.run_called visit member
  rw [reportOnly, result] at performed
  constructor
  · rw [shimRun, outcome] at finished
    obtain rfl := Outcome.finished.inj finished
    apply State.get_update_of_some
    rw [ReportOnly.run_result performed]
    rfl
  · intro executed
    obtain ⟨other, otherMember, execute⟩ := executed
    rw [visits] at otherMember
    rcases List.mem_append.mp otherMember with early | same
    · exact unverified_not_after_execute visits
        (by simp [Unverified, reportOnly]) other early execute
    · rw [List.mem_singleton.mp same, reportOnly] at execute
      cases execute

theorem unreported_status (writes : WritesOnly others)
    (fresh : state.find "final_status" = none)
    (finished : (shimRun (deployed deployment others) state).outcome =
      .finished final)
    (unexecuted : ¬ Executed (shimRun (deployed deployment others) state))
    (unreported : ¬ Reported (shimRun (deployed deployment others) state)) :
    State.get final "final_status" = .null := by
  have keeps : WritesOnly (deployed deployment others) :=
    deployed_writesOnly writes
  obtain ⟨before, last, visits, leads⟩ := Workflow.run_finished finished
  have member : last ∈ (shimRun (deployed deployment others) state).visits := by
    rw [shimRun, visits]
    exact List.mem_append_right _ List.mem_cons_self
  have unverified : Unverified last.node :=
    unverified_of_unexecuted visits fun visit inner execute =>
      unexecuted ⟨visit, inner, execute⟩
  have outside : "final_status" ∉ writeFields last.node := by
    cases node : last.node with
    | reportOnly => exact absurd ⟨last, member, node⟩ unreported
    | verify => exact absurd node unverified.1
    | rollback => exact absurd node unverified.2.1
    | _ => decide
  obtain ⟨updates, result, rfl, -⟩ := leads_iff.mp leads
  apply State.get_of_find_none
  rw [called_find keeps (Workflow.run_called last member) result outside]
  exact unverified_find keeps fresh last member unverified

end Endings

end PipelineOps.Graph
