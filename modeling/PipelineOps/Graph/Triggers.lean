import PipelineOps.Graph.Steps

namespace PipelineOps.Graph

open PipelineOps.Library
open PipelineOps.Python
open PipelineOps.Orchestrator

/-! What makes an incident critical, and what keeps `detect` from seeing it. -/

section Conditions

def Duplicate (state : State) : Prop :=
  (State.get state "fingerprint_duplicate").truthy = true

def OwnPipelineFails (state : State) : Prop :=
  ∃ pipeline current, Detect.pipelineName state = some pipeline ∧
    Detect.currentPipeline state pipeline = some current ∧
    Value.get current "status" = .str "failure"

/-- A row of the exception ledger that is a new critical DQ exception. -/
def NewCriticalException (row : Value) : Prop :=
  ∃ entries, row = .dict entries ∧ Value.get entries "domain" = .str "dq" ∧
    Value.get entries "severity" = .str "CRITICAL" ∧
    entries.lookup "is_new" ≠ some (.bool false)

def LedgerTriggers (state : State) : Prop :=
  ∃ ledger, State.get state "exception_ledger" = .list ledger ∧
    ∃ row ∈ ledger, NewCriticalException row

def CriticalDqRow (row : Value) : Prop :=
  ∃ entries tag, row = .dict entries ∧
    Value.get entries "severity" = .str "CRITICAL" ∧
    Value.get entries "dq_tag" = .str tag ∧ tag ∈ Detect.criticalDqTags

def DqTriggers (state : State) : Prop :=
  ∃ rows, State.get state "dq_status" = .list rows ∧
    ∃ row ∈ rows, CriticalDqRow row

def Critical (state : State) : Prop :=
  OwnPipelineFails state ∨ LedgerTriggers state ∨ DqTriggers state

/-- A critical row whose tag cannot be looked up in the set of critical
tags. -/
def UnhashableDqRow (row : Value) : Prop :=
  ∃ entries, row = .dict entries ∧
    Value.get entries "severity" = .str "CRITICAL" ∧
    (Value.get entries "dq_tag").hashable = false

/-- The scan of `dq_status` meets an unhashable tag before a critical one. -/
def DqScanDerails (rows : List Value) : Prop :=
  ∃ before row after, rows = before ++ row :: after ∧ UnhashableDqRow row ∧
    ∀ earlier ∈ before, ¬ CriticalDqRow earlier

def DqStatusDerails (state : State) : Prop :=
  ∃ rows, State.get state "dq_status" = .list rows ∧ DqScanDerails rows

def Parses (text : String) : Prop :=
  ∃ parsed, parsePipelineTs 0 (.str text) = .ok parsed

def FitsTimedelta (minutes : Int) : Prop :=
  (minutes / 1440).natAbs ≤ 999999999

variable (base : BaseModel) (pipelines : PipelinesConfig)

/-- The cutoff check gets as far as the comparison, and what it compares is
unusable. -/
def CutoffDerails (state : State) : Prop :=
  ∃ pipeline detectedAt lastSuccessTs className intAttribute,
    Detect.pipelineName state = some pipeline ∧
    Detect.cutoffTimestamps state pipeline =
      some (detectedAt, lastSuccessTs) ∧
    pipelines.getattr base pipeline = .object className intAttribute ∧
    ¬ (Parses detectedAt ∧ Parses lastSuccessTs ∧
      ∃ minutes, intAttribute "cutoff_delay_minutes" = some minutes ∧
        FitsTimedelta minutes)

def CutoffDelayed (state : State) : Prop :=
  Detect.isCutoffDelay base pipelines state (Detect.pipelineName state) =
    .ok true

def Expects (state : State) (key : String) : Prop :=
  (Duplicate state → key = "end") ∧
    (¬ Duplicate state →
      (key = "collect" ↔ Critical state) ∧
      (key = "report_only" ↔
        ¬ Critical state ∧ CutoffDelayed base pipelines state) ∧
      (key = "end" ↔ ¬ Critical state ∧ ¬ CutoffDelayed base pipelines state))

/-- `detect` returns, and its router takes the branch of the triggers. -/
def DetectsTriggers (state : State) : Prop :=
  ∃ updates key, Detect.run base pipelines state = .ok updates ∧
    routeDetect (state.update updates) = .ok key ∧
    Expects base pipelines state key

end Conditions

section Predicates

variable {state : State}

theorem hasPipelineFailure_iff :
    Detect.hasPipelineFailure state (Detect.pipelineName state) = true ↔
      OwnPipelineFails state := by
  simp only [OwnPipelineFails]
  cases Detect.pipelineName state with
  | none => simp [Detect.hasPipelineFailure]
  | some pipeline =>
      cases found : Detect.currentPipeline state pipeline with
      | none => simp [Detect.hasPipelineFailure, found]
      | some current => simp [Detect.hasPipelineFailure, found]

theorem isNewCriticalException_iff {row : Value} :
    Detect.isNewCriticalException row = true ↔ NewCriticalException row := by
  cases row with
  | dict entries =>
      simp only [Detect.isNewCriticalException, NewCriticalException,
        Bool.and_eq_true, Value.isText_iff, Value.dict.injEq, exists_eq_left',
        and_assoc]
      apply and_congr_right
      intro domain
      apply and_congr_right
      intro severity
      split
      · rename_i known
        simp [known]
      · rename_i other
        simp only [true_iff]
        exact other
  | _ => simp [Detect.isNewCriticalException, NewCriticalException]

theorem hasNewCriticalException_iff :
    Detect.hasNewCriticalException state = true ↔ LedgerTriggers state := by
  cases ledger : State.get state "exception_ledger" with
  | list rows =>
      simp [Detect.hasNewCriticalException, LedgerTriggers, ledger,
        isNewCriticalException_iff]
  | _ => simp [Detect.hasNewCriticalException, LedgerTriggers, ledger]

theorem isCriticalTag_iff {dqTag : Value} :
    Detect.criticalDqTags.any dqTag.isText = true ↔
      ∃ tag ∈ Detect.criticalDqTags, dqTag = .str tag := by
  simp only [List.any_eq_true, Value.isText_iff]

theorem criticalDqRow_dict_iff {entries : List (String × Value)} :
    CriticalDqRow (.dict entries) ↔
      Value.get entries "severity" = .str "CRITICAL" ∧
        Detect.criticalDqTags.any (Value.get entries "dq_tag").isText =
          true := by
  rw [isCriticalTag_iff]
  constructor
  · intro critical
    obtain ⟨_, tag, ⟨⟩, severity, dqTag, known⟩ := critical
    exact ⟨severity, tag, known, dqTag⟩
  · intro critical
    obtain ⟨severity, tag, known, dqTag⟩ := critical
    exact ⟨entries, tag, rfl, severity, dqTag, known⟩

theorem unhashableDqRow_dict_iff {entries : List (String × Value)} :
    UnhashableDqRow (.dict entries) ↔
      Value.get entries "severity" = .str "CRITICAL" ∧
        (Value.get entries "dq_tag").hashable = false := by
  simp [UnhashableDqRow]

theorem scanDqRows_cons (row : Value) (rest : List Value) :
    UnhashableDqRow row ∧ ¬ CriticalDqRow row ∧
        (∃ exc, Detect.scanDqRows (row :: rest) = .error exc) ∨
      ¬ UnhashableDqRow row ∧ CriticalDqRow row ∧
        Detect.scanDqRows (row :: rest) = .ok true ∨
      ¬ UnhashableDqRow row ∧ ¬ CriticalDqRow row ∧
        Detect.scanDqRows (row :: rest) = Detect.scanDqRows rest := by
  cases row with
  | dict entries =>
      rw [criticalDqRow_dict_iff, unhashableDqRow_dict_iff,
        Detect.scanDqRows, ← Value.isText_iff]
      cases severity : (Value.get entries "severity").isText "CRITICAL" with
      | false => exact .inr (.inr (by simp))
      | true =>
          cases hashable : (Value.get entries "dq_tag").hashable with
          | false =>
              refine .inl ⟨⟨rfl, rfl⟩, ?_, by simp⟩
              intro critical
              obtain ⟨-, tagged⟩ := critical
              obtain ⟨tag, -, same⟩ := isCriticalTag_iff.mp tagged
              rw [same] at hashable
              cases hashable
          | true =>
              cases tagged : Detect.criticalDqTags.any
                  (Value.get entries "dq_tag").isText with
              | true => exact .inr (.inl (by simp))
              | false => exact .inr (.inr (by simp))
  | _ =>
      exact .inr (.inr ⟨by simp [UnhashableDqRow], by simp [CriticalDqRow],
        rfl⟩)

theorem dqScanDerails_cons {row : Value} {rest : List Value} :
    DqScanDerails (row :: rest) ↔
      UnhashableDqRow row ∨ ¬ CriticalDqRow row ∧ DqScanDerails rest := by
  constructor
  · intro derails
    obtain ⟨before, bad, after, split, unhashable, clean⟩ := derails
    cases before with
    | nil =>
        obtain ⟨rfl, -⟩ := List.cons.inj split
        exact .inl unhashable
    | cons first before =>
        obtain ⟨rfl, rfl⟩ := List.cons.inj split
        exact .inr ⟨clean row List.mem_cons_self, before, bad, after, rfl,
          unhashable, fun earlier member =>
            clean earlier (List.mem_cons_of_mem row member)⟩
  · intro derails
    rcases derails with
      unhashable | ⟨other, before, bad, after, rfl, unhashable, clean⟩
    · exact ⟨[], row, rest, rfl, unhashable, by simp⟩
    · refine ⟨row :: before, bad, after, rfl, unhashable, ?_⟩
      intro earlier member
      rcases List.mem_cons.mp member with rfl | member
      · exact other
      · exact clean earlier member

theorem scanDqRows_ok {rows : List Value} {found : Bool}
    (returned : Detect.scanDqRows rows = .ok found) :
    found = true ↔ ∃ row ∈ rows, CriticalDqRow row := by
  induction rows with
  | nil => simp [← Except.ok.inj returned]
  | cons row rest induction =>
      rcases scanDqRows_cons row rest with ⟨-, -, exc, failed⟩ |
        ⟨-, critical, found⟩ | ⟨-, other, onward⟩
      · rw [failed] at returned
        cases returned
      · rw [found] at returned
        simp [← Except.ok.inj returned, critical]
      · rw [onward] at returned
        simp [induction returned, other]

theorem scanDqRows_error_iff {rows : List Value} :
    (∃ exc, Detect.scanDqRows rows = .error exc) ↔ DqScanDerails rows := by
  induction rows with
  | nil => simp [Detect.scanDqRows, DqScanDerails]
  | cons row rest induction =>
      rcases scanDqRows_cons row rest with ⟨unhashable, -, failed⟩ |
        ⟨hashable, critical, found⟩ | ⟨hashable, other, onward⟩
      · rw [dqScanDerails_cons]
        exact iff_of_true failed (.inl unhashable)
      · rw [dqScanDerails_cons, found]
        simp [hashable, critical]
      · rw [dqScanDerails_cons, onward, induction]
        simp [hashable, other]

theorem hasCriticalDqAnomaly_ok {found : Bool}
    (returned : Detect.hasCriticalDqAnomaly state = .ok found) :
    found = true ↔ DqTriggers state := by
  cases dqStatus : State.get state "dq_status" with
  | list rows =>
      simp only [Detect.hasCriticalDqAnomaly, dqStatus] at returned
      simp [scanDqRows_ok returned, DqTriggers, dqStatus]
  | _ =>
      simp only [Detect.hasCriticalDqAnomaly, dqStatus] at returned
      simp [← Except.ok.inj returned, DqTriggers, dqStatus]

theorem hasCriticalDqAnomaly_error_iff :
    (∃ exc, Detect.hasCriticalDqAnomaly state = .error exc) ↔
      DqStatusDerails state := by
  cases dqStatus : State.get state "dq_status" with
  | list rows =>
      simp [Detect.hasCriticalDqAnomaly, DqStatusDerails, dqStatus,
        scanDqRows_error_iff]
  | _ => simp [Detect.hasCriticalDqAnomaly, DqStatusDerails, dqStatus]

theorem timedeltaMinutes_ok_iff {minutes : Int} :
    (∃ threshold, Detect.timedeltaMinutes minutes = .ok threshold) ↔
      FitsTimedelta minutes := by
  rw [Detect.timedeltaMinutes, FitsTimedelta]
  split
  · rename_i fits
    exact iff_of_true ⟨_, rfl⟩ fits
  · rename_i overflow
    split
    · exact iff_of_false (by simp) overflow
    · exact iff_of_false (by simp) overflow

theorem exceedsCutoff_ok_iff {className : String} {minutes : Option Int}
    {detectedAt lastSuccessTs : String} :
    (∃ found, Detect.exceedsCutoff className minutes detectedAt
      lastSuccessTs = .ok found) ↔
      Parses detectedAt ∧ Parses lastSuccessTs ∧
        ∃ value, minutes = some value ∧ FitsTimedelta value := by
  simp only [Detect.exceedsCutoff, bind_ok_iff, Parses]
  constructor
  · intro computed
    obtain ⟨found, detected, detectedParses, lastSuccess, lastParses,
      compared⟩ := computed
    refine ⟨⟨detected, detectedParses⟩, ⟨lastSuccess, lastParses⟩, ?_⟩
    cases minutes with
    | none => cases compared
    | some value =>
        obtain ⟨threshold, fits, -⟩ := bind_ok_iff.mp compared
        exact ⟨value, rfl, timedeltaMinutes_ok_iff.mp ⟨threshold, fits⟩⟩
  · intro usable
    obtain ⟨⟨detected, detectedParses⟩, ⟨lastSuccess, lastParses⟩, value, rfl,
      fits⟩ := usable
    obtain ⟨threshold, made⟩ := timedeltaMinutes_ok_iff.mpr fits
    exact ⟨_, detected, detectedParses, lastSuccess, lastParses,
      bind_ok_iff.mpr ⟨threshold, made, rfl⟩⟩

theorem isCutoffDelay_ok_iff {base : BaseModel} {pipelines : PipelinesConfig} :
    (∃ found, Detect.isCutoffDelay base pipelines state
      (Detect.pipelineName state) = .ok found) ↔
      ¬ CutoffDerails base pipelines state := by
  simp only [CutoffDerails]
  cases named : Detect.pipelineName state with
  | none => simp [Detect.isCutoffDelay]
  | some pipeline =>
      cases timestamps : Detect.cutoffTimestamps state pipeline with
      | none => simp [Detect.isCutoffDelay, timestamps]
      | some pair =>
          obtain ⟨detectedAt, lastSuccessTs⟩ := pair
          cases configured : pipelines.getattr base pipeline with
          | pyNone => simp [Detect.isCutoffDelay, timestamps, configured]
          | object className intAttribute =>
              simp only [Detect.isCutoffDelay, timestamps, configured,
                exceedsCutoff_ok_iff]
              constructor
              · intro usable blocked
                obtain ⟨_, _, _, _, _, ⟨⟩, found, monitored, unusable⟩ :=
                  blocked
                rw [timestamps] at found
                cases found
                rw [configured] at monitored
                cases monitored
                exact unusable usable
              · intro regular
                by_contra unusable
                exact regular ⟨pipeline, detectedAt, lastSuccessTs, className,
                  intAttribute, rfl, timestamps, configured, unusable⟩

end Predicates

section Routing

variable {base : BaseModel} {pipelines : PipelinesConfig} {state : State}

theorem routeDetect_result
    (failure newException criticalDq cutoffDelay : Bool) :
    routeDetect (state.update (Detect.result state
      (Detect.detectedIssues failure newException criticalDq cutoffDelay))) =
      .ok (if failure || newException || criticalDq then "collect"
        else if cutoffDelay then "report_only" else "end") := by
  have issues : State.get (state.update (Detect.result state
      (Detect.detectedIssues failure newException criticalDq cutoffDelay)))
      "detected_issues" = .list (Detect.detectedIssues failure newException
        criticalDq cutoffDelay) := State.get_update_of_some rfl
  rw [routeDetect, issues]
  cases failure <;> cases newException <;> cases criticalDq <;>
    cases cutoffDelay <;> rfl

theorem run_duplicate (duplicate : Duplicate state) :
    Detect.run base pipelines state = .ok (Detect.result state []) := by
  simp only [Duplicate] at duplicate
  rw [Detect.run, if_pos duplicate]

theorem run_checks (fresh : ¬ Duplicate state) {updates : Updates} :
    Detect.run base pipelines state = .ok updates ↔
      ∃ criticalDq cutoffDelay,
        Detect.hasCriticalDqAnomaly state = .ok criticalDq ∧
        Detect.isCutoffDelay base pipelines state (Detect.pipelineName state) =
          .ok cutoffDelay ∧
        updates = Detect.result state (Detect.detectedIssues
          (Detect.hasPipelineFailure state (Detect.pipelineName state))
          (Detect.hasNewCriticalException state) criticalDq cutoffDelay) := by
  simp only [Duplicate] at fresh
  rw [Detect.run, if_neg fresh]
  constructor
  · intro returned
    obtain ⟨criticalDq, scanned, returned⟩ := bind_ok_iff.mp returned
    obtain ⟨cutoffDelay, checked, returned⟩ := bind_ok_iff.mp returned
    exact ⟨criticalDq, cutoffDelay, scanned, checked,
      (Except.ok.inj returned).symm⟩
  · intro checks
    obtain ⟨criticalDq, cutoffDelay, scanned, checked, rfl⟩ := checks
    exact bind_ok_iff.mpr ⟨criticalDq, scanned,
      bind_ok_iff.mpr ⟨cutoffDelay, checked, rfl⟩⟩

theorem expects_checks (fresh : ¬ Duplicate state)
    {criticalDq cutoffDelay : Bool}
    (scanned : Detect.hasCriticalDqAnomaly state = .ok criticalDq)
    (checked : Detect.isCutoffDelay base pipelines state
      (Detect.pipelineName state) = .ok cutoffDelay) :
    Expects base pipelines state
      (if Detect.hasPipelineFailure state (Detect.pipelineName state) ||
          Detect.hasNewCriticalException state || criticalDq then "collect"
        else if cutoffDelay then "report_only" else "end") := by
  have critical : (Detect.hasPipelineFailure state
      (Detect.pipelineName state) || Detect.hasNewCriticalException state ||
        criticalDq) = true ↔ Critical state := by
    rw [Bool.or_eq_true, Bool.or_eq_true, hasPipelineFailure_iff,
      hasNewCriticalException_iff, hasCriticalDqAnomaly_ok scanned, or_assoc]
    rfl
  have delayed : cutoffDelay = true ↔ CutoffDelayed base pipelines state := by
    rw [CutoffDelayed, checked, Except.ok.injEq]
  refine ⟨fun duplicate => absurd duplicate fresh, fun _ => ?_⟩
  rw [← critical, ← delayed]
  cases (Detect.hasPipelineFailure state (Detect.pipelineName state) ||
    Detect.hasNewCriticalException state || criticalDq) <;>
    cases cutoffDelay <;> decide

/-- `detect` sees every trigger exactly when neither the scan of `dq_status`
nor the cutoff check derails. -/
theorem detectsTriggers_iff :
    DetectsTriggers base pipelines state ↔
      Duplicate state ∨
        ¬ DqStatusDerails state ∧ ¬ CutoffDerails base pipelines state := by
  by_cases duplicate : Duplicate state
  · refine iff_of_true ⟨Detect.result state [], "end", run_duplicate duplicate,
      ?_, fun _ => rfl, fun fresh => absurd duplicate fresh⟩ (.inl duplicate)
    exact routeDetect_result false false false false
  · rw [← hasCriticalDqAnomaly_error_iff, ← returns_iff, ← isCutoffDelay_ok_iff]
    simp only [duplicate, false_or]
    constructor
    · intro returned
      obtain ⟨updates, key, returned, -⟩ := returned
      obtain ⟨criticalDq, cutoffDelay, scanned, checked, -⟩ :=
        (run_checks duplicate).mp returned
      exact ⟨⟨criticalDq, scanned⟩, cutoffDelay, checked⟩
    · intro checks
      obtain ⟨⟨criticalDq, scanned⟩, cutoffDelay, checked⟩ := checks
      exact ⟨_, _, (run_checks duplicate).mpr
          ⟨criticalDq, cutoffDelay, scanned, checked, rfl⟩,
        routeDetect_result _ _ _ _, expects_checks duplicate scanned checked⟩

end Routing

def malformedState : State :=
  .ofList
    [("pipeline", .str "pipeline_silver"),
      ("detected_at", .str "2026-02-01T03:00:00Z"),
      ("pipeline_states", .dict
        [("pipeline_silver", .dict
          [("status", .str "failure"), ("last_success_ts", .str "never")])])]

theorem malformed_trigger_lost :
    Critical malformedState ∧
      ¬ DetectsTriggers (fun _ => none) defaultPipelines malformedState := by
  constructor
  · exact .inl ⟨_, _, rfl, rfl, rfl⟩
  · intro detects
    obtain ⟨updates, key, returned, -⟩ := detects
    have raised : Detect.run (fun _ => none) defaultPipelines malformedState =
        .error (.valueError "Invalid pipeline timestamp format: 'never'") := rfl
    rw [raised] at returned
    cases returned

end PipelineOps.Graph
