import PipelineOps.Graph.Nodes.Collect
import PipelineOps.Graph.Nodes.Detect
import PipelineOps.Graph.Nodes.Execute
import PipelineOps.Graph.Nodes.ReportOnly
import PipelineOps.Library.Workflow

namespace PipelineOps.Graph

open PipelineOps.Library
open PipelineOps.Python
open PipelineOps.Orchestrator
open PipelineOps.Tools

inductive NodeName where
  | start
  | detect
  | collect
  | analyze
  | triage
  | propose
  | interrupt
  | execute
  | verify
  | rollback
  | reportOnly
  | postmortem
  | finish
  deriving DecidableEq

def NodeName.key : NodeName → String
  | .start => "__start__"
  | .detect => "detect"
  | .collect => "collect"
  | .analyze => "analyze"
  | .triage => "triage"
  | .propose => "propose"
  | .interrupt => "interrupt"
  | .execute => "execute"
  | .verify => "verify"
  | .rollback => "rollback"
  | .reportOnly => "report_only"
  | .postmortem => "postmortem"
  | .finish => "__end__"

/-- The `WRITE_FIELDS` of the node's module; the interrupt node has none. -/
def writeFields : NodeName → List String
  | .start => []
  | .detect => Detect.writeFields
  | .collect => Collect.writeFields
  | .analyze => ["dq_analysis"]
  | .triage => ["triage_report", "triage_report_raw", "action_plan"]
  | .propose => ["approval_requested_ts"]
  | .interrupt => []
  | .execute => Execute.writeFields
  | .verify => ["validation_results", "final_status"]
  | .rollback => ["execution_result", "final_status"]
  | .reportOnly => ReportOnly.writeFields
  | .postmortem => ["postmortem_report", "postmortem_generated_at"]
  | .finish => []

/-! The routers. Each returns a key of the conditional edges of its node. -/

def issueKind : Value → String
  | .dict entries =>
      match (Value.get entries "type").orElse (Value.get entries "kind") with
      | .str kind => kind
      | _ => ""
  | .str kind => kind
  | _ => ""

def routeDetect (state : State) : Except Exc String := do
  let detectedIssues :=
    (State.get state "detected_issues").orElse (.list [])
  if !detectedIssues.truthy then pure "end"
  else do
    let issues ← detectedIssues.iterate
    if issues.all fun issue => issueKind issue == "cutoff_delay" then
      pure "report_only"
    else pure "collect"

/-- A value of `pipeline_states` that the router counts as a failure. -/
def isFailingPipeline : Value → Bool
  | .dict entries => (Value.get entries "status").isText "failure"
  | _ => false

def routeCollect (state : State) : Except Exc String :=
  let exceptions := (State.get state "exceptions").orElse (.list [])
  let dqTags := (State.get state "dq_tags").orElse (.list [])
  match (State.get state "pipeline_states").orElse (.dict []) with
  | .dict pipelineStates =>
      let hasPipelineFailure :=
        pipelineStates.any fun entry => isFailingPipeline entry.2
      if dqTags.truthy && !hasPipelineFailure && !exceptions.truthy then
        .ok "triage"
      else .ok "analyze"
  | other => .error (.attributeError
      ("'" ++ other.typeName ++ "' object has no attribute 'values'"))

def routeTriage (state : State) : Except Exc String :=
  match State.get state "action_plan" with
  | .dict actionPlan =>
      if (Value.get actionPlan "action").isText "skip_and_report" then
        .ok "report_only"
      else .ok "propose"
  | _ => .ok "propose"

def routeInterrupt (state : State) : Except Exc String :=
  let decision := State.get state "human_decision"
  match decision with
  | .str text =>
      if ["approve", "reject", "modify", "timeout"].contains text then .ok text
      else .ok "timeout"
  | _ =>
      if decision.hashable then .ok "timeout"
      else .error (.typeError
        ("unhashable type: '" ++ decision.typeName ++ "'"))

def routeVerify (state : State) : Except Exc String :=
  if (State.get state "final_status").isText "resolved" then .ok "postmortem"
  else if (State.get state "final_status").isText "failed" then .ok "end"
  else if (State.get state "rollback_required").truthy then .ok "rollback"
  else .ok "end"

def edges : List (NodeName × NodeName) :=
  [(.start, .detect), (.analyze, .triage), (.propose, .interrupt),
    (.execute, .verify), (.reportOnly, .finish), (.rollback, .finish),
    (.postmortem, .finish)]

def conditionalEdges : List (NodeName × List (String × NodeName)) :=
  [(.detect,
      [("end", .finish), ("report_only", .reportOnly), ("collect", .collect)]),
    (.collect, [("triage", .triage), ("analyze", .analyze)]),
    (.triage, [("report_only", .reportOnly), ("propose", .propose)]),
    (.interrupt,
      [("approve", .execute), ("reject", .reportOnly), ("modify", .propose),
        ("timeout", .finish)]),
    (.verify,
      [("postmortem", .postmortem), ("rollback", .rollback),
        ("end", .finish)])]

/-- `routers[node]`; nodes without conditional edges have none. -/
def routers : NodeName → Option (State → Except Exc String)
  | .detect => some routeDetect
  | .collect => some routeCollect
  | .triage => some routeTriage
  | .interrupt => some routeInterrupt
  | .verify => some routeVerify
  | _ => none

/-- The key of the conditional edge that the shim follows behind a node. -/
def routeKey (node : NodeName) (state : State) : Except Exc String :=
  match routers node with
  | some router => router state
  | none => .error (.keyError node.key)

def target : NodeName → Option NodeName
  | .finish => none
  | node => some node

/-- The node behind `node`, as the shim computes it. -/
def nextNode (node : NodeName) (state : State) :
    Except Exc (Option NodeName) :=
  match conditionalEdges.lookup node with
  | some routes => do
      let key ← routeKey node state
      match routes.lookup key with
      | some next => pure (target next)
      | none => .error (.keyError key)
  | none =>
      match edges.lookup node with
      | some next => .ok (target next)
      | none => .error (.keyError node.key)

/-- Implementations of the nodes. A node may behave differently at every step
of a run. -/
abbrev Nodes := NodeName → Nat → State → Except Exc Updates

def interruptNode (_ : State) : Except Exc Updates := .ok Dict.empty

abbrev GraphRun := Run NodeName State Updates Exc

abbrev GraphVisit := Visit NodeName State Updates Exc

/-- `_CompiledGraphShim`: nodes and routers see every key. -/
def shim (nodes : Nodes) : Workflow NodeName State Updates Exc where
  perform clock node state := nodes node clock state
  merge state updates := state.update updates
  route := nextNode

def maxSteps : Nat := 100

/-- The run of `_CompiledGraphShim.invoke`, starting behind `START`. -/
def shimRun (nodes : Nodes) (state : State) : GraphRun :=
  (shim nodes).run maxSteps 0 .detect state

def invoke (nodes : Nodes) (state : State) : Except Exc State :=
  match (shimRun nodes state).outcome with
  | .finished final => .ok final
  | .raised exc => .error exc
  | .exhausted =>
      .error (.runtimeError "graph execution exceeded maximum steps")

def WritesOnly (nodes : Nodes) : Prop :=
  ∀ node clock state updates, nodes node clock state = .ok updates →
    updates.Within (· ∈ writeFields node)

def scripted (script : NodeName → List (String × Value)) : Nodes :=
  fun node _ _ => .ok (.ofList (script node))

structure Deployment where
  python : Interpreter
  env : Nat → SecretEnv
  base : BaseModel
  jobs : JobsConfig
  pipelines : PipelinesConfig
  respond : Nat → List HttpExchange → HttpRequest →
    UrlOpenOutcome

/-- The nodes that the repository implements, beside `others` for the ones it
leaves open. -/
def deployed (deployment : Deployment) (others : Nodes) : Nodes
  | .detect, _, state =>
      Detect.run deployment.base deployment.pipelines state
  | .collect, _, state => Collect.run deployment.python state
  | .interrupt, _, state => interruptNode state
  | .execute, clock, state =>
      ((Execute.run deployment.python (deployment.env clock)
        deployment.base deployment.jobs state).converse
          (deployment.respond clock) []).2
  | .reportOnly, _, state => ReportOnly.run deployment.python.room state
  | node, clock, state => others node clock state

/-- The repository's configuration in dry-run mode, without a service behind
it. -/
def dryRunDeployment : Deployment where
  python :=
    { jsonLoads _ := .error
        ⟨.jsonDecodeError, "Expecting value: line 1 column 1 (char 0)"⟩
      room := 900 }
  env _ :=
    { environ := .ofList [("SECRET_AGENT_EXECUTE_MODE", "dry-run")]
      dbutils := .error (.runtimeError "dbutils is not available") }
  base _ := none
  jobs := defaultJobs
  pipelines := defaultPipelines
  respond _ _ _ := .urlError "no route to host"

end PipelineOps.Graph
