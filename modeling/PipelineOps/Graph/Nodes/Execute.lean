import PipelineOps.Graph.State
import PipelineOps.Library.Fallible
import PipelineOps.Orchestrator.ActionPlan
import PipelineOps.Tools.DatabricksJobs

namespace PipelineOps.Graph.Execute

open PipelineOps.Library
open PipelineOps.Python
open PipelineOps.Orchestrator
open PipelineOps.Tools

def writeFields : List String :=
  ["pre_execute_table_version", "execution_result"]

/-- What `run` goes on with when all its checks have passed. -/
structure ApprovedPlan where
  pipeline : Value
  action : Value
  parameters : JsonObject

def planFields (actionPlan : JsonObject) : Except Exc (Value × JsonObject) :=
  match actionPlan.lookup "action", actionPlan.lookup "parameters" with
  | none, _ => .error (.valueError "action_plan.action is required")
  | some _, none => .error (.valueError "action_plan.parameters is required")
  | some action, some (.dict parameters) => .ok (action, parameters)
  | some _, some _ =>
      .error (.valueError "action_plan.parameters must be a dict")

def approvedPlan (state : State) : Except Exc ApprovedPlan :=
  match State.get state "action_plan" with
  | .null => .error (.valueError "action_plan is required")
  | .dict actionPlan => do
      validateActionPlanContract actionPlan
      let (action, parameters) ← planFields actionPlan
      let pipeline := State.get state "pipeline"
      if pipeline.isNull then .error (.valueError "pipeline is required")
      else if !(State.get state "human_decision").isText "approve" then
        .error (.valueError "human_decision must be 'approve'")
      else do
        validateActionPlan action parameters
        pure ⟨pipeline, action, parameters⟩
  | _ => .error (.valueError "action_plan must be a dict")

def result (plan : ApprovedPlan) (executionResult : Value) : Updates :=
  .ofList
    [("pre_execute_table_version", .dict [("pipeline", plan.pipeline)]),
      ("execution_result", executionResult)]

def run (python : Interpreter) (env : SecretEnv) (base : BaseModel)
    (jobs : JobsConfig) (state : State) : HttpCall Updates :=
  match approvedPlan state with
  | .error exc => .done (.error exc)
  | .ok plan =>
      if plan.action.isText "skip_and_report" then
        .done (.ok (result plan (.dict
          [("status", .str "skipped"), ("action", plan.action),
            ("reason", Value.get plan.parameters "reason")])))
      else
        (runDatabricksJob python env base jobs plan.action
          plan.parameters).bind fun executionResult =>
            .done (executionResult.map (result plan))

structure Passed (state : State) (actionPlan : JsonObject)
    (plan : ApprovedPlan) : Prop where
  proposed : State.get state "action_plan" = .dict actionPlan
  contract : validateActionPlanContract actionPlan = .ok ()
  action : actionPlan.lookup "action" = some plan.action
  parameters : actionPlan.lookup "parameters" = some (.dict plan.parameters)
  pipeline : State.get state "pipeline" = plan.pipeline
  named : plan.pipeline ≠ .null
  approved : State.get state "human_decision" = .str "approve"
  valid : validateActionPlan plan.action plan.parameters = .ok ()

theorem planFields_ok_iff {actionPlan parameters : JsonObject}
    {action : Value} :
    planFields actionPlan = .ok (action, parameters) ↔
      actionPlan.lookup "action" = some action ∧
        actionPlan.lookup "parameters" = some (.dict parameters) := by
  rw [planFields]
  cases actionPlan.lookup "action" with
  | none => simp
  | some found =>
      cases actionPlan.lookup "parameters" with
      | none => simp
      | some value => cases value <;> simp

theorem approvedPlan_ok_iff {state : State} {plan : ApprovedPlan} :
    approvedPlan state = .ok plan ↔
      ∃ actionPlan, Passed state actionPlan plan := by
  constructor
  · intro returned
    cases proposed : State.get state "action_plan" with
    | dict actionPlan =>
        simp only [approvedPlan, proposed, bind_ok_iff, guard_ok_iff]
          at returned
        obtain ⟨⟨⟩, contract, ⟨action, parameters⟩, fields, named, approved,
          ⟨⟩, valid, returned⟩ := returned
        obtain ⟨actionField, parametersField⟩ := planFields_ok_iff.mp fields
        obtain rfl := Except.ok.inj returned
        exact ⟨actionPlan, proposed, contract, actionField, parametersField,
          rfl, by simpa using named, by simpa using approved, valid⟩
    | _ =>
        simp only [approvedPlan, proposed] at returned
        cases returned
  · intro passes
    obtain ⟨actionPlan, passed⟩ := passes
    simp only [approvedPlan, passed.proposed, bind_ok_iff, guard_ok_iff,
      passed.approved, passed.pipeline]
    exact ⟨(), passed.contract, (plan.action, plan.parameters),
      planFields_ok_iff.mpr ⟨passed.action, passed.parameters⟩,
      by simpa using passed.named, by simp [Value.isText], (), passed.valid,
      rfl⟩

theorem run_result {python : Interpreter} {env : SecretEnv} {base : BaseModel}
    {jobs : JobsConfig} {state : State}
    {trace : List HttpExchange} {updates : Updates}
    (path : (run python env base jobs state).Path trace (.ok updates)) :
    ∃ plan executionResult, approvedPlan state = .ok plan ∧
      updates = result plan executionResult := by
  rw [run] at path
  cases approved : approvedPlan state with
  | error exc =>
      rw [approved] at path
      cases path
  | ok plan =>
      simp only [approved] at path
      split at path
      · cases path
        exact ⟨plan, _, rfl, rfl⟩
      · obtain ⟨executed, first, second, -, -, behind⟩ :=
          Dialogue.path_bind_iff.mp path
        obtain ⟨-, returned⟩ := Dialogue.path_done_iff.mp behind
        obtain ⟨executionResult, -, rfl⟩ := map_ok_iff.mp returned
        exact ⟨plan, executionResult, rfl, rfl⟩

theorem run_within {python : Interpreter} {env : SecretEnv} {base : BaseModel}
    {jobs : JobsConfig} {state : State}
    {trace : List HttpExchange} {updates : Updates}
    (path : (run python env base jobs state).Path trace (.ok updates)) :
    updates.Within (· ∈ writeFields) := by
  obtain ⟨plan, executionResult, -, rfl⟩ := run_result path
  exact Dict.within_ofList (by simp [writeFields])

end PipelineOps.Graph.Execute
