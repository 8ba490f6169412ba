import PipelineOps.Graph.Triggers

namespace PipelineOps.Graph

open PipelineOps.Library
open PipelineOps.Python
open PipelineOps.Orchestrator
open PipelineOps.Tools

/-! Whether the analysis is skipped is decided twice: by the issues of `detect`
and by what `collect` finds. -/

def HasIssue (state : State) (kind : String) : Prop :=
  ∃ issues, State.get state "detected_issues" = .list issues ∧
    ∃ issue ∈ issues, issueKind issue = kind

def AnyPipelineFails (state : State) : Prop :=
  ∃ pipelineStates, State.get state "pipeline_states" = .dict pipelineStates ∧
    ∃ entry ∈ pipelineStates, isFailingPipeline entry.2 = true

/-- The ledger holds a row, whatever the row says. -/
def AnyLedgerRow (state : State) : Prop :=
  ∃ ledger, State.get state "exception_ledger" = .list ledger ∧
    ∃ entries, Value.dict entries ∈ ledger

section Detected

variable {state : State}

theorem detectedIssues_kinds
    (failure newException criticalDq cutoffDelay : Bool) :
    (Detect.detectedIssues failure newException criticalDq cutoffDelay).map
      issueKind =
      (if failure then ["failure"] else []) ++
        (if newException then ["new_exception"] else []) ++
        (if criticalDq then ["critical_dq"] else []) ++
        (if cutoffDelay then ["cutoff_delay"] else []) := by
  cases failure <;> cases newException <;> cases criticalDq <;>
    cases cutoffDelay <;> rfl

theorem hasIssue_result {failure newException criticalDq cutoffDelay : Bool}
    {merged : State}
    (issues : State.get merged "detected_issues" =
      .list (Detect.detectedIssues failure newException criticalDq
        cutoffDelay)) :
    (HasIssue merged "failure" ↔ failure = true) ∧
      (HasIssue merged "new_exception" ↔ newException = true) := by
  simp only [HasIssue, issues, Value.list.injEq, exists_eq_left',
    ← List.mem_map, detectedIssues_kinds]
  cases failure <;> cases newException <;> cases criticalDq <;>
    cases cutoffDelay <;> decide

theorem OwnPipelineFails.any (fails : OwnPipelineFails state) :
    AnyPipelineFails state := by
  obtain ⟨pipeline, current, -, found, status⟩ := fails
  rw [Detect.currentPipeline] at found
  cases pipelineStates : State.get state "pipeline_states" with
  | dict entries =>
      simp only [pipelineStates] at found
      cases looked : entries.lookup pipeline with
      | none => simp [Value.get, looked] at found
      | some value =>
          simp only [Value.get, looked, Option.getD_some] at found
          cases value with
          | dict fields =>
              obtain rfl := Option.some.inj found
              obtain ⟨before, after, rfl, -⟩ :=
                List.lookup_eq_some_iff.mp looked
              exact ⟨_, pipelineStates, (pipeline, .dict fields), by simp,
                Value.isText_iff.mpr status⟩
          | _ => cases found
  | _ => simp [pipelineStates] at found

theorem LedgerTriggers.any (triggers : LedgerTriggers state) :
    AnyLedgerRow state := by
  obtain ⟨ledger, same, row, member, entries, rfl, -⟩ := triggers
  exact ⟨ledger, same, entries, member⟩

theorem DqTriggers.collected (triggers : DqTriggers state)
    {rawDqStatus : List Value}
    (listed : Collect.expectList (State.get state "dq_status") "dq_status" =
      .ok rawDqStatus) :
    Collect.collectDqTags rawDqStatus ≠ [] := by
  obtain ⟨rows, same, row, member, entries, tag, rfl, -, dqTag, known⟩ :=
    triggers
  rw [same] at listed
  obtain rfl := Except.ok.inj listed
  have filled : tag ≠ "" := by
    intro nameless
    subst nameless
    exact absurd known (by decide)
  exact List.ne_nil_of_mem
    (Collect.mem_collectDqTags_iff.mpr ⟨filled, entries, member, dqTag⟩)

theorem collectExceptions_ne_nil_iff {rawExceptions : List Value}
    (listed : Collect.expectList (State.get state "exception_ledger")
      "exception_ledger" = .ok rawExceptions) :
    Collect.collectExceptions rawExceptions ≠ [] ↔ AnyLedgerRow state := by
  rw [Collect.collectExceptions, ne_eq, List.map_eq_nil_iff,
    List.eq_nil_iff_forall_not_mem]
  cases ledger : State.get state "exception_ledger" with
  | list rows =>
      rw [ledger] at listed
      obtain rfl := Except.ok.inj listed
      simp [AnyLedgerRow, ledger, Collect.mem_dictRows_iff]
  | null =>
      rw [ledger] at listed
      obtain rfl := Except.ok.inj listed
      simp [AnyLedgerRow, ledger, Collect.mem_dictRows_iff]
  | _ =>
      rw [ledger] at listed
      cases listed

theorem anyPipelineFails_iff :
    AnyPipelineFails state ↔
      ∃ pipelineStates, Detect.pipelineStatesOf state = .dict pipelineStates ∧
        (pipelineStates.any fun entry => isFailingPipeline entry.2) = true := by
  cases pipelineStates : State.get state "pipeline_states" <;>
    simp [AnyPipelineFails, Detect.pipelineStatesOf, pipelineStates]

end Detected

section Routing

variable {base : BaseModel} {pipelines : PipelinesConfig}
  {python : Interpreter} {state : State} {found collected : Updates}

theorem detected_get (detects : Detect.run base pipelines state = .ok found)
    {key : String} (outside : key ∉ Detect.writeFields) :
    State.get (state.update found) key = State.get state key :=
  State.get_update_of_none
    ((Detect.run_within detects).find_eq_none outside)

theorem merged_issues {issues : List Value}
    (collects : Collect.run python
      (state.update (Detect.result state issues)) = .ok collected) :
    State.get ((state.update (Detect.result state issues)).update collected)
      "detected_issues" = .list issues := by
  have kept : collected.find "detected_issues" = none :=
    (Collect.run_within collects).find_eq_none (by decide)
  rw [State.get_update_of_none kept]
  exact State.get_update_of_some rfl

theorem routeCollect_lists {merged : State}
    {pipelineStates : List (String × Value)} {exceptions dqTags : List Value}
    (states : State.get merged "pipeline_states" = .dict pipelineStates)
    (rows : State.get merged "exceptions" = .list exceptions)
    (tags : State.get merged "dq_tags" = .list dqTags) :
    routeCollect merged = .ok "triage" ↔
      dqTags ≠ [] ∧
        ¬ (pipelineStates.any fun entry => isFailingPipeline entry.2) = true ∧
        exceptions = [] := by
  simp only [routeCollect, states, rows, tags, Value.list_orElse_nil,
    Value.dict_orElse_nil]
  cases dqTags with
  | nil => simp [Value.truthy]
  | cons tag rest =>
      cases exceptions with
      | cons row others => simp [Value.truthy]
      | nil =>
          cases pipelineStates.any fun entry => isFailingPipeline entry.2 <;>
            simp [Value.truthy]

theorem routeCollect_triage_iff
    (detects : Detect.run base pipelines state = .ok found)
    (collects : Collect.run python (state.update found) = .ok collected) :
    routeCollect ((state.update found).update collected) = .ok "triage" ↔
      (∃ rawDqStatus,
        Collect.expectList (State.get state "dq_status") "dq_status" =
          .ok rawDqStatus ∧ Collect.collectDqTags rawDqStatus ≠ []) ∧
      ¬ AnyPipelineFails state ∧ ¬ AnyLedgerRow state := by
  obtain ⟨rawExceptions, rawDqStatus, summary, ledger, dqStatus, rfl⟩ :=
    Collect.run_result collects
  rw [detected_get detects (by decide)] at ledger dqStatus
  obtain ⟨issues, rfl⟩ := Detect.run_result detects
  obtain ⟨pipelineStates, passed⟩ : ∃ pipelineStates,
      Detect.pipelineStatesOf state = .dict pipelineStates := by
    rw [Detect.pipelineStatesOf]
    split
    · exact ⟨_, rfl⟩
    · exact ⟨_, rfl⟩
  have states : State.get (state.update (Detect.result state issues))
      "pipeline_states" = .dict pipelineStates :=
    (State.get_update_of_some rfl).trans passed
  rw [routeCollect_lists ((State.get_update_of_none rfl).trans states)
    (State.get_update_of_some rfl) (State.get_update_of_some rfl),
    anyPipelineFails_iff, ← collectExceptions_ne_nil_iff ledger, passed,
    dqStatus]
  simp

theorem not_duplicate_of_collect
    (detects : Detect.run base pipelines state = .ok found)
    (routed : routeDetect (state.update found) = .ok "collect") :
    ¬ Duplicate state := by
  intro duplicate
  rw [run_duplicate duplicate] at detects
  obtain rfl := Except.ok.inj detects
  have ended : routeDetect (state.update (Detect.result state [])) =
      .ok "end" := routeDetect_result false false false false
  rw [ended] at routed
  exact absurd (Except.ok.inj routed) (by decide)

/-- Without a failure or a new exception only a critical tag leads to
`collect`, which finds it again. -/
theorem collected_tag
    (detects : Detect.run base pipelines state = .ok found)
    (routed : routeDetect (state.update found) = .ok "collect")
    (collects : Collect.run python (state.update found) = .ok collected)
    (healthy : ¬ OwnPipelineFails state) (quiet : ¬ LedgerTriggers state) :
    ∃ rawDqStatus,
      Collect.expectList (State.get state "dq_status") "dq_status" =
        .ok rawDqStatus ∧ Collect.collectDqTags rawDqStatus ≠ [] := by
  obtain ⟨criticalDq, cutoffDelay, scanned, -, rfl⟩ :=
    (run_checks (not_duplicate_of_collect detects routed)).mp detects
  have critical : criticalDq = true := by
    rw [← hasPipelineFailure_iff, Bool.not_eq_true] at healthy
    rw [← hasNewCriticalException_iff, Bool.not_eq_true] at quiet
    rw [routeDetect_result, healthy, quiet] at routed
    cases criticalDq with
    | true => rfl
    | false =>
        cases cutoffDelay <;>
          exact absurd (Except.ok.inj routed) (by decide)
  obtain ⟨-, rawDqStatus, -, -, dqStatus, -⟩ := Collect.run_result collects
  rw [detected_get detects (by decide)] at dqStatus
  exact ⟨rawDqStatus, dqStatus,
    ((hasCriticalDqAnomaly_ok scanned).mp critical).collected dqStatus⟩

/-- The analysis is skipped for critical DQ tags alone, unless `collect` finds
rows or failures that `detect` does not count. -/
theorem analysisSkipped_iff
    (detects : Detect.run base pipelines state = .ok found)
    (routed : routeDetect (state.update found) = .ok "collect")
    (collects : Collect.run python (state.update found) = .ok collected) :
    (routeCollect ((state.update found).update collected) = .ok "triage" ↔
      ¬ HasIssue ((state.update found).update collected) "failure" ∧
        ¬ HasIssue ((state.update found).update collected) "new_exception") ↔
      OwnPipelineFails state ∨ LedgerTriggers state ∨
        ¬ AnyPipelineFails state ∧ ¬ AnyLedgerRow state := by
  obtain ⟨criticalDq, cutoffDelay, scanned, -, rfl⟩ :=
    (run_checks (not_duplicate_of_collect detects routed)).mp detects
  obtain ⟨failure, newException⟩ := hasIssue_result (merged_issues collects)
  rw [failure, newException, hasPipelineFailure_iff,
    hasNewCriticalException_iff, routeCollect_triage_iff detects collects]
  constructor
  · intro alike
    by_cases failing : OwnPipelineFails state
    · exact .inl failing
    · by_cases triggers : LedgerTriggers state
      · exact .inr (.inl triggers)
      · exact .inr (.inr (alike.mpr ⟨failing, triggers⟩).2)
  · intro holds
    rcases holds with failing | triggers | ⟨healthy, empty⟩
    · exact iff_of_false (fun skipped => skipped.2.1 failing.any)
        (fun quiet => quiet.1 failing)
    · exact iff_of_false (fun skipped => skipped.2.2 triggers.any)
        (fun quiet => quiet.2 triggers)
    · exact ⟨fun _ => ⟨fun failing => healthy failing.any,
          fun triggers => empty triggers.any⟩,
        fun quiet => ⟨collected_tag detects routed collects quiet.1 quiet.2,
          healthy, empty⟩⟩

end Routing

def taggedState : State :=
  .ofList
    [("pipeline", .str "pipeline_silver"),
      ("pipeline_states", .dict
        [("pipeline_silver", .dict [("status", .str "success")]),
          ("pipeline_b", .dict [("status", .str "failure")])]),
      ("dq_status", .list
        [.dict [("severity", .str "CRITICAL"),
          ("dq_tag", .str "SOURCE_STALE")]])]

def taggedFound : Updates :=
  Detect.result taggedState (Detect.detectedIssues false false true false)

theorem detect_tagged :
    Detect.run (fun _ => none) defaultPipelines taggedState =
      .ok taggedFound := rfl

def taggedCollected : Updates :=
  .ofList
    [("exceptions", .list []), ("dq_tags", .list [.str "SOURCE_STALE"]),
      ("bad_records_summary", badRecordsSummary 0 false [])]

def noJson : Interpreter where
  jsonLoads _ := .error ⟨.jsonDecodeError, "Expecting value"⟩
  room := 900

theorem collect_tagged :
    Collect.run noJson (taggedState.update taggedFound) =
      .ok taggedCollected := rfl

def taggedMerged : State :=
  (taggedState.update taggedFound).update taggedCollected

theorem analysisSkipped_tagged :
    (routeCollect taggedMerged = .ok "triage" ↔
        ¬ HasIssue taggedMerged "failure" ∧
          ¬ HasIssue taggedMerged "new_exception") ↔
      OwnPipelineFails taggedState ∨ LedgerTriggers taggedState ∨
        ¬ AnyPipelineFails taggedState ∧ ¬ AnyLedgerRow taggedState :=
  analysisSkipped_iff detect_tagged rfl collect_tagged

/-- The failure of the other pipeline has the tag analysed, although no issue
tells of it. -/
theorem analysis_not_skipped :
    Detect.run (fun _ => none) defaultPipelines taggedState =
        .ok taggedFound ∧
      routeDetect (taggedState.update taggedFound) = .ok "collect" ∧
      Collect.run noJson (taggedState.update taggedFound) =
        .ok taggedCollected ∧
      ¬ (routeCollect taggedMerged = .ok "triage" ↔
        ¬ HasIssue taggedMerged "failure" ∧
          ¬ HasIssue taggedMerged "new_exception") := by
  refine ⟨detect_tagged, rfl, collect_tagged, fun alike => ?_⟩
  have quiet : ∀ kind, kind ≠ "critical_dq" →
      ¬ HasIssue taggedMerged kind := by
    intro kind differs named
    obtain ⟨issues, same, issue, member, rfl⟩ := named
    obtain rfl := Value.list.inj same
    obtain rfl := List.mem_singleton.mp member
    exact differs rfl
  have skipped := alike.mpr
    ⟨quiet "failure" (by decide), quiet "new_exception" (by decide)⟩
  have analysed : routeCollect taggedMerged = .ok "analyze" := rfl
  rw [analysed] at skipped
  exact absurd (Except.ok.inj skipped) (by decide)

end PipelineOps.Graph
