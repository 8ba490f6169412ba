import PipelineOps.Graph.State
import PipelineOps.Library.Fallible
import PipelineOps.Orchestrator.Config
import PipelineOps.Orchestrator.Time

namespace PipelineOps.Graph.Detect

open PipelineOps.Library
open PipelineOps.Python
open PipelineOps.Orchestrator

def writeFields : List String := ["pipeline_states", "detected_issues"]

def criticalDqTags : List String := ["SOURCE_STALE", "EVENT_DROP_SUSPECTED"]

/-- `pipeline if isinstance(pipeline, str) else None`. -/
def pipelineName (state : State) : Option String :=
  match State.get state "pipeline" with
  | .str pipeline => some pipeline
  | _ => none

/-- `pipeline_states.get(pipeline)`, if both are `dict`s. -/
def currentPipeline (state : State) (pipeline : String) :
    Option (List (String × Value)) :=
  match State.get state "pipeline_states" with
  | .dict pipelineStates =>
      match Value.get pipelineStates pipeline with
      | .dict current => some current
      | _ => none
  | _ => none

def hasPipelineFailure (state : State) (pipeline : Option String) : Bool :=
  match pipeline with
  | none => false
  | some pipeline =>
      match currentPipeline state pipeline with
      | some current => (Value.get current "status").isText "failure"
      | none => false

def isNewCriticalException : Value → Bool
  | .dict row =>
      (Value.get row "domain").isText "dq" &&
        (Value.get row "severity").isText "CRITICAL" &&
        (match row.lookup "is_new" with
        | some (.bool false) => false
        | _ => true)
  | _ => false

def hasNewCriticalException (state : State) : Bool :=
  match State.get state "exception_ledger" with
  | .list ledger => ledger.any isNewCriticalException
  | _ => false

/-- The loop over the rows of `dq_status`. A tag without a hash cannot be
looked up in the set of critical tags. -/
def scanDqRows : List Value → Except Exc Bool
  | [] => .ok false
  | .dict row :: rest =>
      let dqTag := Value.get row "dq_tag"
      if !(Value.get row "severity").isText "CRITICAL" then scanDqRows rest
      else if !dqTag.hashable then
        .error (.typeError ("unhashable type: '" ++ dqTag.typeName ++ "'"))
      else if !criticalDqTags.any dqTag.isText then scanDqRows rest
      else .ok true
  | _ :: rest => scanDqRows rest

def hasCriticalDqAnomaly (state : State) : Except Exc Bool :=
  match State.get state "dq_status" with
  | .list dqRows => scanDqRows dqRows
  | _ => .ok false

/-- `timedelta(minutes=minutes)`, in microseconds. -/
def timedeltaMinutes (minutes : Int) : Except Exc Int :=
  let days := minutes / 1440
  if days.natAbs ≤ 999999999 then .ok (minutes * microsPerMinute)
  else if -2147483648 ≤ days ∧ days < 2147483648 then
    .error ⟨.overflowError,
      "days=" ++ toString days ++ "; must have magnitude <= 999999999"⟩
  else .error ⟨.overflowError, "Python int too large to convert to C int"⟩

def exceedsCutoff (className : String) (cutoffDelayMinutes : Option Int)
    (detectedAt lastSuccessTs : String) : Except Exc Bool := do
  -- a text holds no other objects
  let detected ← parsePipelineTs 0 (.str detectedAt)
  let lastSuccess ← parsePipelineTs 0 (.str lastSuccessTs)
  match cutoffDelayMinutes with
  | none => .error (.attributeError ("'" ++ className ++
      "' object has no attribute 'cutoff_delay_minutes'"))
  | some minutes =>
      let threshold ← timedeltaMinutes minutes
      pure (threshold < detected.wall - lastSuccess.wall)

/-- The two timestamps that `_is_cutoff_delay` compares, if both are texts. -/
def cutoffTimestamps (state : State) (pipeline : String) :
    Option (String × String) :=
  match currentPipeline state pipeline with
  | none => none
  | some current =>
      match State.get state "detected_at",
        Value.get current "last_success_ts" with
      | .str detectedAt, .str lastSuccessTs => some (detectedAt, lastSuccessTs)
      | _, _ => none

def isCutoffDelay (base : BaseModel) (pipelines : PipelinesConfig)
    (state : State) (pipeline : Option String) : Except Exc Bool :=
  match pipeline with
  | none => .ok false
  | some pipeline =>
      match cutoffTimestamps state pipeline with
      | none => .ok false
      | some (detectedAt, lastSuccessTs) =>
          match pipelines.getattr base pipeline with
          | .pyNone => .ok false
          | .object className intAttribute =>
              exceedsCutoff className (intAttribute "cutoff_delay_minutes")
                detectedAt lastSuccessTs

def issue (kind severity : String) : Value :=
  .dict [("type", .str kind), ("severity", .str severity)]

def detectedIssues (failure newException criticalDq cutoffDelay : Bool) :
    List Value :=
  (if failure then [issue "failure" "critical"] else []) ++
    (if newException then [issue "new_exception" "critical"] else []) ++
    (if criticalDq then [issue "critical_dq" "critical"] else []) ++
    (if cutoffDelay then [issue "cutoff_delay" "warning"] else [])

def pipelineStatesOf (state : State) : Value :=
  match State.get state "pipeline_states" with
  | .dict pipelineStates => .dict pipelineStates
  | _ => .dict []

def result (state : State) (issues : List Value) : Updates :=
  .ofList [("pipeline_states", pipelineStatesOf state),
    ("detected_issues", .list issues)]

def run (base : BaseModel) (pipelines : PipelinesConfig) (state : State) :
    Except Exc Updates :=
  if (State.get state "fingerprint_duplicate").truthy then
    .ok (result state [])
  else do
    let pipeline := pipelineName state
    let criticalDq ← hasCriticalDqAnomaly state
    let cutoffDelay ← isCutoffDelay base pipelines state pipeline
    pure (result state (detectedIssues (hasPipelineFailure state pipeline)
      (hasNewCriticalException state) criticalDq cutoffDelay))

theorem run_result {base : BaseModel} {pipelines : PipelinesConfig}
    {state : State} {updates : Updates}
    (returned : run base pipelines state = .ok updates) :
    ∃ issues, updates = result state issues := by
  rw [run] at returned
  split at returned
  · exact ⟨[], (Except.ok.inj returned).symm⟩
  · obtain ⟨criticalDq, -, returned⟩ := bind_ok_iff.mp returned
    obtain ⟨cutoffDelay, -, returned⟩ := bind_ok_iff.mp returned
    exact ⟨_, (Except.ok.inj returned).symm⟩

theorem run_within {base : BaseModel} {pipelines : PipelinesConfig}
    {state : State} {updates : Updates}
    (returned : run base pipelines state = .ok updates) :
    updates.Within (· ∈ writeFields) := by
  obtain ⟨issues, rfl⟩ := run_result returned
  exact Dict.within_ofList (by simp [writeFields])

end PipelineOps.Graph.Detect
