import PipelineOps.Graph.Nodes.Detect
import PipelineOps.Graph.Nodes.ReportOnly
import PipelineOps.Python.JsonRoundTrip

namespace PipelineOps.Graph.ReportOnly

open PipelineOps.Library
open PipelineOps.Python
open PipelineOps.Orchestrator

/-! The line that the report writes to the log. -/

section Normalizing

variable (floatRepr : String → String) (depth room : Nat)

/-- `_normalize_issue`; `none` is an issue with a lone surrogate. -/
def normalizeIssue (issue : Value) : Except Exc (Option Value) := do
  let text ← jsonDumps reportStyle room issue
  jsonLoads floatRepr depth text

def normalizeIssues (issues : List Value) :
    Except Exc (Option (List Value)) := do
  let normalized ← issues.mapM (normalizeIssue floatRepr depth room)
  pure (normalized.mapM id)

/-- The payload with its issues normalised. -/
def normalizedPayload (state : State) : Except Exc (Option Value) := do
  let detectedIssues :=
    (State.get state "detected_issues").orElse (.list [])
  let pipelineStates := (State.get state "pipeline_states").orElse (.dict [])
  let pipeline := State.get state "pipeline"
  let pipelineState ← pipelineStateOf pipelineStates pipeline
  let issues ← detectedIssues.iterate
  let normalized ← normalizeIssues floatRepr depth room issues
  let detectedAtKst ← kstOrNull room (State.get state "detected_at")
  let lastSuccessKst ← kstOrNull room (lastSuccessOf pipelineState)
  pure (normalized.map fun issues => .dict
    [("incident_id", State.get state "incident_id"), ("pipeline", pipeline),
      ("report_artifact_storage", .str "log_only"),
      ("detected_issues", .list issues),
      ("major_status", .dict
        [("detected_at_kst", detectedAtKst),
          ("last_success_kst", lastSuccessKst),
          ("pipeline_status", pipelineStatusOf pipelineState)])])

/-- What `run` logs. -/
def logLine (state : State) : Except Exc (Option String) := do
  let report ← normalizedPayload floatRepr depth room state
  match report with
  | none => pure none
  | some report => (jsonDumps reportStyle room report).map some

end Normalizing

theorem standard_reportStyle : reportStyle.Standard where
  item := ⟨[' '], rfl, by simp [isJsonSpace]⟩
  key := ⟨[' '], rfl, by simp [isJsonSpace]⟩

section Logged

variable {floatRepr : String → String} {depth room : Nat} {state : State}
  {issues : List Value}

theorem normalizeIssue_eq {issue : Value}
    (loadable : Loadable floatRepr depth issue) :
    normalizeIssue floatRepr depth room issue =
      (jsonDumps reportStyle room issue).map fun _ =>
        some (reportStyle.arranged issue) := by
  rw [normalizeIssue]
  cases written : jsonDumps reportStyle room issue with
  | error exc => rfl
  | ok text => exact jsonLoads_written standard_reportStyle loadable written

theorem mapM_normalizeIssue
    (loadable : ∀ issue ∈ issues, Loadable floatRepr depth issue) :
    issues.mapM (normalizeIssue floatRepr depth room) =
      (jsonItems reportStyle room issues).map fun _ =>
        issues.map fun issue => some (reportStyle.arranged issue) := by
  induction issues with
  | nil => rfl
  | cons issue rest induction =>
      rw [List.forall_mem_cons] at loadable
      rw [List.mapM_cons, normalizeIssue_eq loadable.1, induction loadable.2,
        jsonItems]
      cases jsonDumps reportStyle room issue with
      | error exc => rfl
      | ok text => cases jsonItems reportStyle room rest <;> rfl

theorem normalizeIssues_eq
    (loadable : ∀ issue ∈ issues, Loadable floatRepr depth issue) :
    normalizeIssues floatRepr depth room issues =
      (jsonItems reportStyle room issues).map fun _ =>
        some (reportStyle.arrangedItems issues) := by
  have converted := mapM_id_some (issues.map reportStyle.arranged)
  rw [List.map_map] at converted
  rw [normalizeIssues, mapM_normalizeIssue loadable, arrangedItems_eq]
  cases jsonItems reportStyle room issues with
  | error exc => rfl
  | ok texts => exact congrArg Except.ok converted

/-- Normalising the issues changes nothing in the line. -/
theorem logLine_eq
    (listed : ((State.get state "detected_issues").orElse (.list [])).iterate =
      .ok issues)
    (loadable : ∀ issue ∈ issues, Loadable floatRepr depth issue) :
    logLine floatRepr depth room state =
      (payload room state).bind fun report =>
        (jsonDumps reportStyle room report).map some := by
  simp only [logLine, normalizedPayload, payload, listed,
    normalizeIssues_eq loadable, bind, Except.bind]
  cases pipelineStateOf ((State.get state "pipeline_states").orElse (.dict []))
    (State.get state "pipeline") with
  | error exc => rfl
  | ok pipelineState =>
      cases jsonItems reportStyle room issues with
      | error exc => rfl
      | ok texts =>
          cases kstOrNull room (State.get state "detected_at") with
          | error exc => rfl
          | ok detectedAtKst =>
              simp only [Except.map]
              cases kstOrNull room (lastSuccessOf pipelineState) with
              | error exc => rfl
              | ok lastSuccessKst =>
                  have same : ∀ room, jsonDumps reportStyle room
                      (.list (reportStyle.arrangedItems issues)) =
                        jsonDumps reportStyle room (.list issues) :=
                    fun room => jsonDumps_arranged room (.list issues)
                  simp only [pure, Except.pure, Option.map_some]
                  rw [jsonDumps, jsonDumps]
                  simp only [jsonEntries, same]

theorem run_eq_logLine
    (listed : ((State.get state "detected_issues").orElse (.list [])).iterate =
      .ok issues)
    (loadable : ∀ issue ∈ issues, Loadable floatRepr depth issue) :
    run room state = (logLine floatRepr depth room state).map fun _ =>
      .ofList [("final_status", .str "reported")] := by
  rw [run, logLine_eq listed loadable]
  cases payload room state with
  | error exc => rfl
  | ok report =>
      simp only [bind, Except.bind]
      cases jsonDumps reportStyle room report <;> rfl

/-- A line that is logged is the text of the payload. -/
theorem logLine_ok {line : Option String}
    (listed : ((State.get state "detected_issues").orElse (.list [])).iterate =
      .ok issues)
    (loadable : ∀ issue ∈ issues, Loadable floatRepr depth issue)
    (logged : logLine floatRepr depth room state = .ok line) :
    ∃ report text, payload room state = .ok report ∧ line = some text ∧
      jsonDumps reportStyle room report = .ok text := by
  rw [logLine_eq listed loadable] at logged
  obtain ⟨report, built, logged⟩ := bind_ok_iff.mp logged
  obtain ⟨text, written, rfl⟩ := map_ok_iff.mp logged
  exact ⟨report, text, built, rfl, written⟩

end Logged

section Detected

variable {floatRepr : String → String} {depth room : Nat} {state : State}
  {base : BaseModel} {pipelines : PipelinesConfig} {updates : Updates}

theorem loadable_issue (kind severity : String) :
    Loadable floatRepr (depth + 1) (Detect.issue kind severity) := by
  apply Loadable.dict
  · simp
  · intro entry member
    simp only [List.mem_cons, List.not_mem_nil, or_false] at member
    obtain rfl | rfl := member
    · exact .str kind
    · exact .str severity

theorem loadable_detectedIssues
    (failure newException criticalDq cutoff : Bool) :
    ∀ issue ∈ Detect.detectedIssues failure newException criticalDq cutoff,
      Loadable floatRepr (depth + 1) issue := by
  intro issue member
  have known : ∃ kind severity, issue = Detect.issue kind severity := by
    simp only [Detect.detectedIssues, List.mem_append] at member
    rcases member with ((member | member) | member) | member
    all_goals
      split at member
      · exact ⟨_, _, List.mem_singleton.mp member⟩
      · cases member
  obtain ⟨kind, severity, rfl⟩ := known
  exact loadable_issue kind severity

theorem detected_loadable (floatRepr : String → String) (depth : Nat)
    (detected : Detect.run base pipelines state = .ok updates) :
    ∃ issues, ((State.get (state.update updates) "detected_issues").orElse
        (.list [])).iterate = .ok issues ∧
      ∀ issue ∈ issues, Loadable floatRepr (depth + 1) issue := by
  have found : ∀ issues, State.get (state.update
      (Detect.result state issues)) "detected_issues" = .list issues :=
    fun issues => State.get_update_of_some rfl
  rw [Detect.run] at detected
  split at detected
  · cases detected
    rw [found]
    exact ⟨[], rfl, by simp⟩
  · obtain ⟨criticalDq, -, detected⟩ := bind_ok_iff.mp detected
    obtain ⟨cutoff, -, detected⟩ := bind_ok_iff.mp detected
    cases detected
    rw [found, Value.list_orElse_nil]
    exact ⟨_, rfl, loadable_detectedIssues _ _ _ _⟩

/-- Behind `detect`, the report ends as it would without the detour through the
decoder, and the logged line is decoded to its payload. -/
theorem detected_report_logged
    (detected : Detect.run base pipelines state = .ok updates) :
    run room (state.update updates) =
        (logLine floatRepr (depth + 1) room (state.update updates)).map
          (fun _ => .ofList [("final_status", .str "reported")]) ∧
      ∀ line, logLine floatRepr (depth + 1) room (state.update updates) =
          .ok line →
        ∃ report text, payload room (state.update updates) = .ok report ∧
          line = some text ∧
          ∀ deep, Loadable floatRepr deep report →
            jsonLoads floatRepr deep text =
              .ok (some (reportStyle.arranged report)) := by
  obtain ⟨issues, listed, loadable⟩ :=
    detected_loadable floatRepr depth detected
  refine ⟨run_eq_logLine listed loadable, ?_⟩
  intro line logged
  obtain ⟨report, text, built, same, written⟩ :=
    logLine_ok listed loadable logged
  exact ⟨report, text, built, same, fun _ known =>
    jsonLoads_written standard_reportStyle known written⟩

def failureState : State :=
  .ofList
    [("incident_id", .str "inc-1"), ("pipeline", .str "pipeline_silver"),
      ("detected_at", .str "2026-02-18T15:40:00Z"),
      ("pipeline_states", .dict
        [("pipeline_silver", .dict [("status", .str "failure")])])]

def failureFound : State :=
  failureState.update
    (Detect.result failureState [Detect.issue "failure" "critical"])

def failureReport : Value :=
  .dict
    [("incident_id", .str "inc-1"), ("pipeline", .str "pipeline_silver"),
      ("report_artifact_storage", .str "log_only"),
      ("detected_issues", .list [Detect.issue "failure" "critical"]),
      ("major_status", .dict
        [("detected_at_kst", .str "2026-02-19 00:40 KST"),
          ("last_success_kst", .null),
          ("pipeline_status", .str "failure")])]

theorem loadable_failureReport : Loadable id 3 failureReport := by
  apply Loadable.dict (by decide)
  simp only [List.forall_mem_cons]
  refine ⟨.str _, .str _, .str _, .list ?_, .dict (by decide) ?_, ?_⟩
  · simpa using loadable_issue "failure" "critical"
  · simp only [List.forall_mem_cons]
    exact ⟨.str _, .null, .str _, by simp⟩
  · simp

theorem payload_failureFound : payload 3 failureFound = .ok failureReport := by
  have dated : toKst 3 (.str "2026-02-18T15:40:00Z") =
      .ok "2026-02-19 00:40 KST" := by decide +kernel
  have built : payload 3 failureFound =
      ((toKst 3 (.str "2026-02-18T15:40:00Z")).map Value.str).bind fun at_ =>
        .ok (.dict
          [("incident_id", .str "inc-1"), ("pipeline", .str "pipeline_silver"),
            ("report_artifact_storage", .str "log_only"),
            ("detected_issues", .list [Detect.issue "failure" "critical"]),
            ("major_status", .dict
              [("detected_at_kst", at_), ("last_success_kst", .null),
                ("pipeline_status", .str "failure")])]) := rfl
  rw [built, dated]
  rfl

/-- The line of the failure, decoded again. -/
theorem detected_report_logged_failure :
    ∃ text, run 3 failureFound =
        .ok (.ofList [("final_status", .str "reported")]) ∧
      logLine id 1 3 failureFound = .ok (some text) ∧
      jsonLoads id 3 text =
        .ok (some (reportStyle.arranged failureReport)) := by
  have detected : Detect.run (fun _ => none) defaultPipelines failureState =
      .ok (Detect.result failureState
        [Detect.issue "failure" "critical"]) := rfl
  have writes : (logLine id 1 3 failureFound).isOk = true := by decide +kernel
  obtain ⟨ends, decodes⟩ :=
    @detected_report_logged id 0 3 failureState _ _ _ detected
  change run 3 failureFound = (logLine id 1 3 failureFound).map _ at ends
  cases logged : logLine id 1 3 failureFound with
  | error exc =>
      rw [logged] at writes
      cases writes
  | ok line =>
      obtain ⟨report, text, built, rfl, decoded⟩ := decodes line logged
      obtain rfl : failureReport = report :=
        Except.ok.inj (payload_failureFound.symm.trans built)
      rw [logged] at ends
      exact ⟨text, ends, rfl, decoded 3 loadable_failureReport⟩

end Detected

end PipelineOps.Graph.ReportOnly
