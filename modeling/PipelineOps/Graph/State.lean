import PipelineOps.Library.Dict
import PipelineOps.Python.Value

namespace PipelineOps.Graph

open PipelineOps.Library
open PipelineOps.Python

/-- The state of a graph run: a `dict` whose keys are texts. -/
abbrev State := Dict String Value

abbrev Updates := Dict String Value

def State.get (state : State) (key : String) : Value :=
  (state.find key).getD .null

/-- The keys of the `TypedDict` `AgentState`. -/
def agentState : List String :=
  ["incident_id", "pipeline", "run_id", "detected_at", "fingerprint",
    "fingerprint_duplicate",
    "pipeline_states", "detected_issues",
    "exceptions", "dq_tags", "bad_records_summary",
    "dq_analysis", "triage_report", "triage_report_raw",
    "action_plan", "approval_requested_ts", "human_decision",
    "human_decision_by", "human_decision_ts", "modified_params",
    "execution_result", "validation_results", "pre_execute_table_version",
    "final_status",
    "postmortem_report", "postmortem_generated_at"]

def Declared (key : String) : Prop := key ∈ agentState

instance : DecidablePred Declared :=
  fun key => inferInstanceAs (Decidable (key ∈ agentState))

theorem State.get_eq_of_find {state other : State} {key : String}
    (same : state.find key = other.find key) :
    State.get state key = State.get other key := by
  rw [State.get, State.get, same]

theorem State.get_of_find_none {state : State} {key : String}
    (absent : state.find key = none) : State.get state key = .null := by
  rw [State.get, absent, Option.getD_none]

theorem State.get_update_of_none {state : State} {updates : Updates}
    {key : String} (absent : updates.find key = none) :
    State.get (state.update updates) key = State.get state key :=
  State.get_eq_of_find (Dict.find_update_of_none absent)

theorem State.get_update_of_some {state : State} {updates : Updates}
    {key : String} {value : Value} (present : updates.find key = some value) :
    State.get (state.update updates) key = value := by
  rw [State.get, Dict.find_update_of_some present, Option.getD_some]

end PipelineOps.Graph
