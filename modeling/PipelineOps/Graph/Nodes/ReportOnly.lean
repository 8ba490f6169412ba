import PipelineOps.Graph.State
import PipelineOps.Library.Fallible
import PipelineOps.Orchestrator.Time
import PipelineOps.Python.Json

namespace PipelineOps.Graph.ReportOnly

open PipelineOps.Library
open PipelineOps.Python
open PipelineOps.Orchestrator

def writeFields : List String := ["final_status"]

/-! The report goes to the log only. What remains of it here is whether it can
be built and serialised, where so many arrays and objects may be entered. -/

/-- `json.dumps(value, sort_keys=True, ensure_ascii=True)`. -/
def reportStyle : JsonStyle := ⟨true, ", ", ": ", true⟩

/-- `pipeline_states.get(pipeline, {})`, or an empty `dict`. -/
def pipelineStateOf (pipelineStates pipeline : Value) : Except Exc Value :=
  match pipelineStates with
  | .dict entries =>
      match pipeline with
      | .str name => .ok ((entries.lookup name).getD (.dict []))
      | other =>
          if other.hashable then .ok (.dict [])
          else .error (.typeError
            ("unhashable type: '" ++ other.typeName ++ "'"))
  | _ => .ok (.dict [])

def kstOrNull (room : Nat) (value : Value) : Except Exc Value :=
  if value.truthy then (toKst room value).map Value.str else .ok .null

def lastSuccessOf : Value → Value
  | .dict current => Value.get current "last_success_ts"
  | _ => .null

def pipelineStatusOf : Value → Value
  | .dict current => (current.lookup "status").getD (.str "unknown")
  | _ => .str "unknown"

def payload (room : Nat) (state : State) : Except Exc Value := do
  let detectedIssues :=
    (State.get state "detected_issues").orElse (.list [])
  let pipelineStates := (State.get state "pipeline_states").orElse (.dict [])
  let pipeline := State.get state "pipeline"
  let pipelineState ← pipelineStateOf pipelineStates pipeline
  let issues ← detectedIssues.iterate
  let _ ← jsonItems reportStyle room issues
  let detectedAtKst ← kstOrNull room (State.get state "detected_at")
  let lastSuccessKst ← kstOrNull room (lastSuccessOf pipelineState)
  pure (.dict
    [("incident_id", State.get state "incident_id"), ("pipeline", pipeline),
      ("report_artifact_storage", .str "log_only"),
      ("detected_issues", .list issues),
      ("major_status", .dict
        [("detected_at_kst", detectedAtKst),
          ("last_success_kst", lastSuccessKst),
          ("pipeline_status", pipelineStatusOf pipelineState)])])

def run (room : Nat) (state : State) : Except Exc Updates := do
  let report ← payload room state
  let _ ← jsonDumps reportStyle room report
  pure (.ofList [("final_status", .str "reported")])

theorem run_result {room : Nat} {state : State} {updates : Updates}
    (returned : run room state = .ok updates) :
    updates = .ofList [("final_status", .str "reported")] := by
  rw [run] at returned
  obtain ⟨report, -, returned⟩ := bind_ok_iff.mp returned
  obtain ⟨-, -, returned⟩ := bind_ok_iff.mp returned
  exact (Except.ok.inj returned).symm

theorem run_within {room : Nat} {state : State} {updates : Updates}
    (returned : run room state = .ok updates) :
    updates.Within (· ∈ writeFields) := by
  obtain rfl := run_result returned
  exact Dict.within_ofList (by simp [writeFields])

end PipelineOps.Graph.ReportOnly
