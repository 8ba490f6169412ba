import PipelineOps.Graph.Cutoff
import PipelineOps.Graph.Nodes.ReportOnly
import PipelineOps.Python.JsonText

namespace PipelineOps.Graph

open PipelineOps.Library
open PipelineOps.Python
open PipelineOps.Orchestrator

/-! What `report_only` needs of a state that `detect` has accepted. -/

section Serialization

/-- The values that `json.dumps` writes, nested at most `depth` deep. -/
inductive Serializable : Nat → Value → Prop
  | null {depth : Nat} : Serializable depth .null
  | bool {depth : Nat} (value : Bool) : Serializable depth (.bool value)
  | int {depth : Nat} {value : Int} (printable : Printable value) :
      Serializable depth (.int value)
  | float {depth : Nat} (repr : String) : Serializable depth (.float repr)
  | str {depth : Nat} (text : String) : Serializable depth (.str text)
  | list {depth : Nat} {items : List Value}
      (each : ∀ item ∈ items, Serializable depth item) :
      Serializable (depth + 1) (.list items)
  | dict {depth : Nat} {entries : List (String × Value)}
      (each : ∀ entry ∈ entries, Serializable depth entry.2) :
      Serializable (depth + 1) (.dict entries)

variable {style : JsonStyle} {room : Nat}

theorem jsonItems_returns_iff {items : List Value} :
    (∃ texts, jsonItems style room items = .ok texts) ↔
      ∀ item ∈ items, ∃ text, jsonDumps style room item = .ok text := by
  induction items with
  | nil => simp [jsonItems]
  | cons item rest induction =>
      rw [List.forall_mem_cons, ← induction, jsonItems, bind_returns_iff]
      simp only [bind_returns_iff, pure, Except.pure, Except.ok.injEq,
        exists_eq', and_true, exists_and_right]

theorem jsonMembers_returns_iff {members : List (String × Except Exc String)} :
    (∃ texts, jsonMembers style members = .ok texts) ↔
      ∀ member ∈ members, ∃ text, member.2 = .ok text := by
  induction members with
  | nil => simp [jsonMembers]
  | cons member rest induction =>
      obtain ⟨key, written⟩ := member
      rw [List.forall_mem_cons, ← induction, jsonMembers, bind_returns_iff]
      simp only [bind_returns_iff, pure, Except.pure, Except.ok.injEq,
        exists_eq', and_true, exists_and_right]

theorem jsonDumps_list_returns_iff {items : List Value} :
    (∃ text, jsonDumps style (room + 1) (.list items) = .ok text) ↔
      ∀ item ∈ items, ∃ text, jsonDumps style room item = .ok text := by
  rw [← jsonItems_returns_iff]
  simp [jsonDumps_list_ok_iff]

theorem jsonDumps_dict_returns_iff {entries : List (String × Value)} :
    (∃ text, jsonDumps style (room + 1) (.dict entries) = .ok text) ↔
      ∀ entry ∈ entries, ∃ text, jsonDumps style room entry.2 = .ok text := by
  have members : (∀ member ∈ style.ordered (jsonEntries style room entries),
      ∃ text, member.2 = .ok text) ↔
        ∀ entry ∈ entries, ∃ text,
          jsonDumps style room entry.2 = .ok text := by
    simp only [mem_ordered, jsonEntries_eq, List.forall_mem_map]
  rw [← members, ← @jsonMembers_returns_iff style]
  simp [jsonDumps_dict_ok_iff]

theorem Serializable.dumps {value : Value}
    (serializable : Serializable room value) :
    ∃ text, jsonDumps style room value = .ok text := by
  induction serializable with
  | int printable => exact ⟨_, intText_of_printable printable⟩
  | list each induction => exact jsonDumps_list_returns_iff.mpr induction
  | dict each induction => exact jsonDumps_dict_returns_iff.mpr induction
  | _ => exact ⟨_, rfl⟩

mutual
theorem serializable_of_dumps : (value : Value) → ∀ {room},
    (∃ text, jsonDumps style room value = .ok text) →
      Serializable room value
  | .null, _, _ => .null
  | .bool value, _, _ => .bool value
  | .int value, _, dumped => by
      apply Serializable.int
      by_contra oversized
      obtain ⟨exc, raises⟩ := intText_of_not_printable
      obtain ⟨text, dumped⟩ := dumped
      rw [jsonDumps, raises value oversized] at dumped
      cases dumped
  | .float repr, _, _ => .float repr
  | .str text, _, _ => .str text
  | .list items, room, dumped => by
      obtain ⟨text, written⟩ := dumped
      obtain ⟨inner, -, rfl, -⟩ := jsonDumps_list_ok_iff.mp written
      exact .list (serializable_of_items items
        (jsonDumps_list_returns_iff.mp ⟨text, written⟩))
  | .dict entries, room, dumped => by
      obtain ⟨text, written⟩ := dumped
      obtain ⟨inner, -, rfl, -⟩ := jsonDumps_dict_ok_iff.mp written
      exact .dict (serializable_of_entries entries
        (jsonDumps_dict_returns_iff.mp ⟨text, written⟩))
  | .datetime value, room, dumped => by
      obtain ⟨exc, failed⟩ := notSerializable_error room (.datetime value)
      obtain ⟨text, dumped⟩ := dumped
      rw [jsonDumps, failed] at dumped
      cases dumped
  | .object text, room, dumped => by
      obtain ⟨exc, failed⟩ := notSerializable_error room (.object text)
      obtain ⟨text, dumped⟩ := dumped
      rw [jsonDumps, failed] at dumped
      cases dumped

theorem serializable_of_items : (items : List Value) → ∀ {room},
    (∀ item ∈ items, ∃ text, jsonDumps style room item = .ok text) →
      ∀ item ∈ items, Serializable room item
  | [], _, _ => by simp
  | item :: rest, _, dumped => by
      rw [List.forall_mem_cons] at dumped ⊢
      exact ⟨serializable_of_dumps item dumped.1,
        serializable_of_items rest dumped.2⟩

theorem serializable_of_entries : (entries : List (String × Value)) →
    ∀ {room}, (∀ entry ∈ entries,
        ∃ text, jsonDumps style room entry.2 = .ok text) →
      ∀ entry ∈ entries, Serializable room entry.2
  | [], _, _ => by simp
  | (key, value) :: rest, _, dumped => by
      rw [List.forall_mem_cons] at dumped ⊢
      exact ⟨serializable_of_dumps value dumped.1,
        serializable_of_entries rest dumped.2⟩
end

theorem serializable_dict_iff {entries : List (String × Value)} :
    Serializable (room + 1) (.dict entries) ↔
      ∀ entry ∈ entries, Serializable room entry.2 := by
  constructor
  · intro serializable
    cases serializable with
    | dict each => exact each
  · exact Serializable.dict

theorem dumps_iff {value : Value} :
    (∃ text, jsonDumps style room value = .ok text) ↔
      Serializable room value :=
  ⟨serializable_of_dumps value, Serializable.dumps⟩

end Serialization

section Reports

/-- The row of the pipeline, as `report_only` looks it up. -/
def reportedRow (state : State) : Value :=
  match State.get state "pipeline_states", State.get state "pipeline" with
  | .dict entries, .str name => (entries.lookup name).getD (.dict [])
  | _, _ => .dict []

/-- A value that is skipped, or shown as a minute in Korea. -/
def HasKstText (value : Value) : Prop :=
  value.truthy = false ∨
    ∃ moment, Denotes value moment ∧ InRange (moment + kst.shift)

/-- What is shown of the state can be looked up, converted and written, inside
the report, where the report itself may be nested three deep. -/
structure Reportable (room : Nat) (state : State) : Prop where
  hashable : (State.get state "pipeline").hashable = true
  detectedAt : HasKstText (State.get state "detected_at")
  lastSuccess : HasKstText (ReportOnly.lastSuccessOf (reportedRow state))
  incident : Serializable (room + 2) (State.get state "incident_id")
  named : Serializable (room + 2) (State.get state "pipeline")
  status : Serializable (room + 1)
    (ReportOnly.pipelineStatusOf (reportedRow state))

def Reports (room : Nat) (state : State) : Prop :=
  ∃ updates, ReportOnly.run room state = .ok updates ∧
    updates.find "final_status" = some (.str "reported")

variable {room : Nat} {state merged : State}

theorem pipelineStateOf_eq :
    ReportOnly.pipelineStateOf (Detect.pipelineStatesOf state)
        (State.get state "pipeline") =
      if (State.get state "pipeline").hashable then .ok (reportedRow state)
      else .error (.typeError ("unhashable type: '" ++
        (State.get state "pipeline").typeName ++ "'")) := by
  rw [Detect.pipelineStatesOf, reportedRow]
  cases State.get state "pipeline_states" <;>
    cases State.get state "pipeline" <;> rfl

theorem kstOrNull_ok_iff {value : Value} :
    (∃ shown, ReportOnly.kstOrNull room value = .ok shown) ↔
      HasKstText value := by
  rw [ReportOnly.kstOrNull, HasKstText, ← @toKst_ok_iff room]
  cases value.truthy with
  | false => simp
  | true => simp [map_ok_iff]

theorem serializable_kstOrNull {depth : Nat} {value shown : Value}
    (returned : ReportOnly.kstOrNull room value = .ok shown) :
    Serializable depth shown := by
  rw [ReportOnly.kstOrNull] at returned
  split at returned
  · obtain ⟨text, -, rfl⟩ := map_ok_iff.mp returned
    exact .str text
  · obtain rfl := Except.ok.inj returned
    exact .null

theorem serializable_issue (kind severity : String) :
    Serializable (room + 1) (Detect.issue kind severity) := by
  apply Serializable.dict
  rw [List.forall_mem_cons, List.forall_mem_singleton]
  exact ⟨.str kind, .str severity⟩

theorem serializable_detectedIssues
    (failure newException criticalDq cutoffDelay : Bool) :
    ∀ issue ∈ Detect.detectedIssues failure newException criticalDq
      cutoffDelay, Serializable (room + 1) issue := by
  cases failure <;> cases newException <;> cases criticalDq <;>
    cases cutoffDelay <;> simp [Detect.detectedIssues, serializable_issue]

/-- Whatever `detect` returns, its issues can be written. -/
theorem run_issues_dump {base : BaseModel} {pipelines : PipelinesConfig}
    {updates : Updates}
    (returned : Detect.run base pipelines state = .ok updates) :
    ∃ issues, updates = Detect.result state issues ∧
      ∀ issue ∈ issues, Serializable (room + 1) issue := by
  by_cases duplicate : Duplicate state
  · rw [run_duplicate duplicate] at returned
    exact ⟨[], (Except.ok.inj returned).symm, nofun⟩
  · obtain ⟨criticalDq, cutoffDelay, -, -, rfl⟩ :=
      (run_checks duplicate).mp returned
    exact ⟨_, rfl, serializable_detectedIssues _ _ _ _⟩

/-- The report, once its parts have been found. -/
def reportOf (state : State) (issues : List Value)
    (detectedAtKst lastSuccessKst : Value) : Value :=
  .dict
    [("incident_id", State.get state "incident_id"),
      ("pipeline", State.get state "pipeline"),
      ("report_artifact_storage", .str "log_only"),
      ("detected_issues", .list issues),
      ("major_status", .dict
        [("detected_at_kst", detectedAtKst),
          ("last_success_kst", lastSuccessKst),
          ("pipeline_status",
            ReportOnly.pipelineStatusOf (reportedRow state))])]

theorem payload_result {issues : List Value} {report : Value}
    (written : ∃ texts, jsonItems ReportOnly.reportStyle room issues =
      .ok texts) :
    ReportOnly.payload room (state.update (Detect.result state issues)) =
        .ok report ↔
      (State.get state "pipeline").hashable = true ∧
        ∃ detectedAtKst lastSuccessKst,
          ReportOnly.kstOrNull room (State.get state "detected_at") =
            .ok detectedAtKst ∧
          ReportOnly.kstOrNull room
              (ReportOnly.lastSuccessOf (reportedRow state)) =
            .ok lastSuccessKst ∧
          report = reportOf state issues detectedAtKst lastSuccessKst := by
  have incident : State.get (state.update (Detect.result state issues))
      "incident_id" = State.get state "incident_id" :=
    State.get_update_of_none rfl
  have pipeline : State.get (state.update (Detect.result state issues))
      "pipeline" = State.get state "pipeline" :=
    State.get_update_of_none rfl
  have detectedAt : State.get (state.update (Detect.result state issues))
      "detected_at" = State.get state "detected_at" :=
    State.get_update_of_none rfl
  have listed : State.get (state.update (Detect.result state issues))
      "detected_issues" = .list issues :=
    State.get_update_of_some rfl
  have states : State.get (state.update (Detect.result state issues))
      "pipeline_states" = Detect.pipelineStatesOf state :=
    State.get_update_of_some rfl
  have kept : (Detect.pipelineStatesOf state).orElse (.dict []) =
      Detect.pipelineStatesOf state := by
    rw [Detect.pipelineStatesOf]
    split <;> simp
  rw [ReportOnly.payload, incident, pipeline, detectedAt, listed, states]
  simp only [kept, Value.list_orElse_nil, pipelineStateOf_eq, bind_ok_iff,
    Value.iterate, Except.ok.injEq, exists_eq_left']
  cases (State.get state "pipeline").hashable with
  | false => simp
  | true =>
      obtain ⟨texts, written⟩ := written
      simp only [if_true, Except.ok.injEq, exists_eq_left', written, true_and]
      constructor
      · intro built
        obtain ⟨first, shown, second, last, built⟩ := built
        exact ⟨first, second, shown, last, (Except.ok.inj built).symm⟩
      · intro parts
        obtain ⟨first, second, shown, last, rfl⟩ := parts
        exact ⟨first, shown, second, last, rfl⟩

theorem serializable_reportOf {issues : List Value}
    {detectedAtKst lastSuccessKst : Value}
    (each : ∀ issue ∈ issues, Serializable (room + 1) issue)
    (first : Serializable (room + 1) detectedAtKst)
    (second : Serializable (room + 1) lastSuccessKst) :
    Serializable (room + 3)
        (reportOf state issues detectedAtKst lastSuccessKst) ↔
      Serializable (room + 2) (State.get state "incident_id") ∧
        Serializable (room + 2) (State.get state "pipeline") ∧
        Serializable (room + 1)
          (ReportOnly.pipelineStatusOf (reportedRow state)) := by
  have issuesText : Serializable (room + 2) (.list issues) := .list each
  rw [reportOf, serializable_dict_iff]
  simp only [List.forall_mem_cons, serializable_dict_iff, first, second,
    issuesText, Serializable.str, List.not_mem_nil, false_implies,
    implies_true, and_true, true_and]

/-- `report_only` reports what `detect` has accepted exactly when it can look
up, convert and write what it shows of it. -/
theorem reports_iff {base : BaseModel} {pipelines : PipelinesConfig}
    {updates : Updates}
    (returned : Detect.run base pipelines state = .ok updates) :
    Reports (room + 3) (state.update updates) ↔ Reportable room state := by
  obtain ⟨issues, rfl, each⟩ := @run_issues_dump room _ _ _ _ returned
  have written : ∃ texts, jsonItems ReportOnly.reportStyle (room + 3) issues =
      .ok texts :=
    jsonItems_returns_iff.mpr fun issue member =>
      (each issue member).dumps.imp fun _ text =>
        jsonDumps_mono issue (by omega) text
  constructor
  · intro reports
    obtain ⟨final, ran, -⟩ := reports
    obtain ⟨report, built, ran⟩ := bind_ok_iff.mp ran
    obtain ⟨text, dumped, -⟩ := bind_ok_iff.mp ran
    obtain ⟨hashable, detectedAtKst, lastSuccessKst, first, second, rfl⟩ :=
      (payload_result written).mp built
    obtain ⟨incident, named, status⟩ := (serializable_reportOf each
      (serializable_kstOrNull first) (serializable_kstOrNull second)).mp
        (dumps_iff.mp ⟨text, dumped⟩)
    exact ⟨hashable, kstOrNull_ok_iff.mp ⟨_, first⟩,
      kstOrNull_ok_iff.mp ⟨_, second⟩, incident, named, status⟩
  · intro reportable
    obtain ⟨detectedAtKst, first⟩ := kstOrNull_ok_iff.mpr reportable.detectedAt
    obtain ⟨lastSuccessKst, second⟩ :=
      kstOrNull_ok_iff.mpr reportable.lastSuccess
    have built := (payload_result written).mpr
      ⟨reportable.hashable, detectedAtKst, lastSuccessKst, first, second, rfl⟩
    obtain ⟨text, dumped⟩ := ((serializable_reportOf each
      (serializable_kstOrNull first) (serializable_kstOrNull second)).mpr
        ⟨reportable.incident, reportable.named, reportable.status⟩).dumps
    exact ⟨_, bind_ok_iff.mpr ⟨_, built, bind_ok_iff.mpr ⟨text, dumped, rfl⟩⟩,
      rfl⟩

end Reports

/-- A failure that was detected at an unknown time. -/
def undatedState : State :=
  .ofList
    [("pipeline", .str "pipeline_silver"), ("detected_at", .str "unknown"),
      ("pipeline_states", .dict
        [("pipeline_silver", .dict [("status", .str "failure")])])]

theorem undatedState_detected :
    Detect.run (fun _ => none) defaultPipelines undatedState =
      .ok (Detect.result undatedState [Detect.issue "failure" "critical"]) :=
  rfl

theorem reports_iff_undatedState :
    Reports (0 + 3) (undatedState.update (Detect.result undatedState
        [Detect.issue "failure" "critical"])) ↔
      Reportable 0 undatedState :=
  reports_iff undatedState_detected

/-- `detect` accepts the state, and `report_only` raises on it. -/
theorem undated_failure_unreported :
    ∃ state updates issues,
      Detect.run (fun _ => none) defaultPipelines state = .ok updates ∧
      issuesOf updates = some (.list issues) ∧ issues ≠ [] ∧
      ∀ room, ¬ Reports room (state.update updates) := by
  refine ⟨undatedState, _, _, undatedState_detected, rfl, by simp, ?_⟩
  intro room reports
  obtain ⟨updates, returned, -⟩ := reports
  obtain ⟨report, built, -⟩ := bind_ok_iff.mp returned
  rw [ReportOnly.payload] at built
  obtain ⟨pipelineState, -, built⟩ := bind_ok_iff.mp built
  obtain ⟨issues, -, built⟩ := bind_ok_iff.mp built
  obtain ⟨texts, -, built⟩ := bind_ok_iff.mp built
  obtain ⟨detectedAtKst, shown, -⟩ := bind_ok_iff.mp built
  cases shown

end PipelineOps.Graph
