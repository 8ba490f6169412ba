import PipelineOps.Library.Dict
import PipelineOps.Library.Fallible
import PipelineOps.Python.Value

namespace PipelineOps.Orchestrator

open PipelineOps.Library
open PipelineOps.Python

/-! `load_runtime_settings`. -/

structure RuntimeSettings where
  targetPipelines : List String
  checkpointDbPath : String
  llmDailyCap : Int
  langfuseHost : String
  positive : 0 < llmDailyCap

def parseTargetPipelines (value : String) : Except String (List String) :=
  let entries := (value.toList.splitOn ',').map fun item =>
    strip (String.ofList item)
  let cleaned := entries.filter fun item => item ≠ ""
  if cleaned.length ≠ entries.length then
    .error "TARGET_PIPELINES contains empty pipeline name"
  else if cleaned = [] then
    .error "TARGET_PIPELINES must contain at least one pipeline"
  else .ok cleaned

def invalidLlmDailyCap : Exc :=
  .valueError
    "Invalid runtime settings: LLM_DAILY_CAP must be a positive integer"

def parseLlmDailyCap (raw : Option String) :
    Except Exc { value : Int // 0 < value } :=
  match raw with
  | none => .ok ⟨30, by decide⟩
  | some text =>
      match Value.parseInt text with
      | none => .error invalidLlmDailyCap
      | some value =>
          if positive : 0 < value then .ok ⟨value, positive⟩
          else .error invalidLlmDailyCap

def requiredSettings : List String := ["TARGET_PIPELINES", "LANGFUSE_HOST"]

/-- `validationText` is what the text of a `ValidationError` says of a refused
value. -/
def loadRuntimeSettings (validationText : String → String → String)
    (environ : Dict String String) : Except Exc RuntimeSettings :=
  let get key := (environ.find key).getD ""
  let missing := requiredSettings.filter fun key => strip (get key) = ""
  if missing ≠ [] then
    .error (.valueError
      ("Missing required runtime settings: " ++ join ", " missing))
  else do
    let llmDailyCap ← parseLlmDailyCap (environ.find "LLM_DAILY_CAP")
    match parseTargetPipelines (get "TARGET_PIPELINES") with
    | .error message => .error (.valueError ("Invalid runtime settings: " ++
        validationText (get "TARGET_PIPELINES") message))
    | .ok targetPipelines =>
        pure
          { targetPipelines
            checkpointDbPath := (environ.find "CHECKPOINT_DB_PATH").getD
              "checkpoints/agent.db"
            llmDailyCap := llmDailyCap
            langfuseHost := get "LANGFUSE_HOST"
            positive := llmDailyCap.property }

variable {validationText : String → String → String}
  {environ : Dict String String} {settings : RuntimeSettings}

/-- What the settings take over from an accepted environment. -/
theorem loadRuntimeSettings_ok
    (accepted : loadRuntimeSettings validationText environ = .ok settings) :
    settings.checkpointDbPath =
        (environ.find "CHECKPOINT_DB_PATH").getD "checkpoints/agent.db" ∧
      (parseLlmDailyCap (environ.find "LLM_DAILY_CAP")).map Subtype.val =
        .ok settings.llmDailyCap := by
  unfold loadRuntimeSettings at accepted
  obtain ⟨-, accepted⟩ := guard_ok_iff.mp accepted
  obtain ⟨cap, parsed, accepted⟩ := bind_ok_iff.mp accepted
  split at accepted
  · cases accepted
  · obtain rfl := Except.ok.inj accepted
    rw [parsed]
    exact ⟨rfl, rfl⟩

end PipelineOps.Orchestrator
