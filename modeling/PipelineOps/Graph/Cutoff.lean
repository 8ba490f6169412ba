import PipelineOps.Graph.Triggers
import PipelineOps.Orchestrator.Instants

namespace PipelineOps.Graph

open PipelineOps.Library
open PipelineOps.Python
open PipelineOps.Orchestrator

/-! The cutoff check, against the instants that it compares. -/

section Verdict

variable {base : BaseModel} {pipelines : PipelinesConfig} {state : State}

def issuesOf (updates : Updates) : Option Value :=
  updates.find "detected_issues"

/-- The issues of `detect`, without the rest of its result. -/
theorem run_issues :
    (Detect.run base pipelines state).map issuesOf =
      (if (State.get state "fingerprint_duplicate").truthy then
        .ok (some (.list []))
      else do
        let criticalDq ← Detect.hasCriticalDqAnomaly state
        let cutoffDelay ← Detect.isCutoffDelay base pipelines state
          (Detect.pipelineName state)
        pure (some (.list (Detect.detectedIssues
          (Detect.hasPipelineFailure state (Detect.pipelineName state))
          (Detect.hasNewCriticalException state) criticalDq
          cutoffDelay)))) := by
  rw [Detect.run]
  split
  · rfl
  · dsimp only
    cases Detect.hasCriticalDqAnomaly state with
    | error exc => rfl
    | ok criticalDq =>
        cases Detect.isCutoffDelay base pipelines state
            (Detect.pipelineName state) with
        | error exc => rfl
        | ok cutoffDelay => rfl

theorem cutoffTimestamps_iff {pipeline detectedAt lastSuccessTs : String} :
    Detect.cutoffTimestamps state pipeline = some (detectedAt, lastSuccessTs) ↔
      ∃ current, Detect.currentPipeline state pipeline = some current ∧
        State.get state "detected_at" = .str detectedAt ∧
        Value.get current "last_success_ts" = .str lastSuccessTs := by
  rw [Detect.cutoffTimestamps]
  cases Detect.currentPipeline state pipeline with
  | none => simp
  | some current =>
      dsimp only
      split
      · rename_i first second
        simp [first, second]
      · rename_i other
        simp only [reduceCtorEq, Option.some.injEq, exists_eq_left', false_iff]
        intro texts
        exact other _ _ texts.1 texts.2

theorem exceedsCutoff_of_denotes {className detectedAt lastSuccessTs : String}
    {minutes detected lastSuccess : Int}
    (first : Denotes (.str detectedAt) detected)
    (second : Denotes (.str lastSuccessTs) lastSuccess)
    (fits : FitsTimedelta minutes) :
    Detect.exceedsCutoff className (some minutes) detectedAt lastSuccessTs =
      .ok (decide (minutes * microsPerMinute < detected - lastSuccess)) := by
  obtain ⟨converted, parsed, -, rfl⟩ := first.parses 0
  obtain ⟨other, otherParsed, -, rfl⟩ := second.parses 0
  have threshold :
      Detect.timedeltaMinutes minutes = .ok (minutes * microsPerMinute) := by
    rw [Detect.timedeltaMinutes]
    exact if_pos fits
  exact bind_ok_iff.mpr ⟨converted, parsed, bind_ok_iff.mpr
    ⟨other, otherParsed, bind_ok_iff.mpr ⟨_, threshold, rfl⟩⟩⟩

end Verdict

section Respelling

/-- Two accepted timestamps of one instant. -/
def SameInstant (left right : Value) : Prop :=
  ∃ moment, Denotes left moment ∧ Denotes right moment

/-- Two rows of `pipeline_states` that differ at most in the spelling of their
`last_success_ts`. -/
def RespelledRow (left right : Value) : Prop :=
  ∃ entries others, left = .dict entries ∧ right = .dict others ∧
    AgreeUpTo "last_success_ts" SameInstant entries others

def RespelledStates (pipeline : String) (left right : Value) : Prop :=
  ∃ entries others, left = .dict entries ∧ right = .dict others ∧
    AgreeUpTo pipeline RespelledRow entries others

/-- Two states that differ only in how `detected_at` and the
`last_success_ts` of their pipeline are spelled. -/
structure Respelled (left right : State) : Prop where
  elsewhere : ∀ key, key ≠ "detected_at" → key ≠ "pipeline_states" →
    State.get left key = State.get right key
  detectedAt : State.get left "detected_at" = State.get right "detected_at" ∨
    SameInstant (State.get left "detected_at") (State.get right "detected_at")
  pipelineStates :
    State.get left "pipeline_states" = State.get right "pipeline_states" ∨
      ∃ pipeline, State.get left "pipeline" = .str pipeline ∧
        RespelledStates pipeline (State.get left "pipeline_states")
          (State.get right "pipeline_states")

def SameIssues (base : BaseModel) (pipelines : PipelinesConfig)
    (left right : State) : Prop :=
  (Detect.run base pipelines left).map issuesOf =
    (Detect.run base pipelines right).map issuesOf

/-- The cutoff check finds texts to compare. -/
def ComparesTexts (state : State) : Prop :=
  ∃ pipeline timestamps, Detect.pipelineName state = some pipeline ∧
    Detect.cutoffTimestamps state pipeline = some timestamps

variable {base : BaseModel} {pipelines : PipelinesConfig}
  {left right : State} {pipeline : String}

theorem Respelled.pipelineName (respelled : Respelled left right) :
    Detect.pipelineName left = Detect.pipelineName right := by
  rw [Detect.pipelineName, Detect.pipelineName,
    respelled.elsewhere "pipeline" (by decide) (by decide)]

theorem Respelled.newException (respelled : Respelled left right) :
    Detect.hasNewCriticalException left =
      Detect.hasNewCriticalException right := by
  rw [Detect.hasNewCriticalException, Detect.hasNewCriticalException,
    respelled.elsewhere "exception_ledger" (by decide) (by decide)]

theorem Respelled.criticalDq (respelled : Respelled left right) :
    Detect.hasCriticalDqAnomaly left = Detect.hasCriticalDqAnomaly right := by
  rw [Detect.hasCriticalDqAnomaly, Detect.hasCriticalDqAnomaly,
    respelled.elsewhere "dq_status" (by decide) (by decide)]

/-- The rows of the pipeline are the same, or differ in one timestamp. -/
theorem Respelled.currentPipeline (respelled : Respelled left right)
    (named : Detect.pipelineName left = some pipeline) :
    Detect.currentPipeline left pipeline =
        Detect.currentPipeline right pipeline ∨
      ∃ entries others, Detect.currentPipeline left pipeline = some entries ∧
        Detect.currentPipeline right pipeline = some others ∧
        AgreeUpTo "last_success_ts" SameInstant entries others := by
  rcases respelled.pipelineStates with same | ⟨name, pipelineText, apart⟩
  · left
    rw [Detect.currentPipeline, Detect.currentPipeline, same]
  · have own : pipeline = name := by
      rw [Detect.pipelineName, pipelineText] at named
      exact (Option.some.inj named).symm
    subst own
    obtain ⟨entries, others, leftRows, rightRows, agree⟩ := apart
    rw [Detect.currentPipeline, Detect.currentPipeline, leftRows, rightRows]
    simp only [Value.get]
    rcases agree.lookup_key with same | ⟨first, second, found, again, rows⟩
    · left
      rw [same]
    · right
      obtain ⟨row, other, rfl, rfl, agree⟩ := rows
      exact ⟨row, other, by simp [found], by simp [again], agree⟩

theorem Respelled.pipelineFailure (respelled : Respelled left right) :
    Detect.hasPipelineFailure left (Detect.pipelineName left) =
      Detect.hasPipelineFailure right (Detect.pipelineName right) := by
  rw [← respelled.pipelineName]
  cases named : Detect.pipelineName left with
  | none => rfl
  | some pipeline =>
      rcases respelled.currentPipeline named with
        same | ⟨row, other, found, again, agree⟩
      · simp only [Detect.hasPipelineFailure, same]
      · simp only [Detect.hasPipelineFailure, found, again, Value.get,
          agree.lookup_of_ne (show "status" ≠ "last_success_ts" by decide)]

theorem parse_eq_of_respelled {first second : Value}
    (respelled : first = second ∨ SameInstant first second) :
    parsePipelineTs 0 first = parsePipelineTs 0 second := by
  rcases respelled with rfl | ⟨moment, left, right⟩
  · rfl
  · exact left.parse_eq 0 right

/-- The successes in the two rows of the pipeline are spelled for one
instant. -/
theorem Respelled.lastSuccess (respelled : Respelled left right)
    (named : Detect.pipelineName left = some pipeline)
    {row other : List (String × Value)}
    (found : Detect.currentPipeline left pipeline = some row)
    (again : Detect.currentPipeline right pipeline = some other) :
    Value.get row "last_success_ts" = Value.get other "last_success_ts" ∨
      SameInstant (Value.get row "last_success_ts")
        (Value.get other "last_success_ts") := by
  rcases respelled.currentPipeline named with
    same | ⟨entries, others, leftRow, rightRow, agree⟩
  · rw [found, again] at same
    rw [Option.some.inj same]
    exact .inl rfl
  · rw [found] at leftRow
    rw [again] at rightRow
    obtain rfl := Option.some.inj leftRow
    obtain rfl := Option.some.inj rightRow
    rw [Value.get, Value.get]
    rcases agree.lookup_key with same | ⟨first, second, left, right, apart⟩
    · rw [same]
      exact .inl rfl
    · rw [left, right]
      exact .inr apart

/-- The timestamps of one state parse as those of the other. -/
theorem Respelled.timestamps (respelled : Respelled left right)
    (named : Detect.pipelineName left = some pipeline)
    {first second other another : String}
    (found : Detect.cutoffTimestamps left pipeline = some (first, second))
    (again : Detect.cutoffTimestamps right pipeline = some (other, another)) :
    parsePipelineTs 0 (.str first) = parsePipelineTs 0 (.str other) ∧
      parsePipelineTs 0 (.str second) = parsePipelineTs 0 (.str another) := by
  obtain ⟨row, rowFound, detected, success⟩ := cutoffTimestamps_iff.mp found
  obtain ⟨otherRow, otherFound, otherDetected, otherSuccess⟩ :=
    cutoffTimestamps_iff.mp again
  rw [← detected, ← otherDetected, ← success, ← otherSuccess]
  exact ⟨parse_eq_of_respelled respelled.detectedAt, parse_eq_of_respelled
    (respelled.lastSuccess named rowFound otherFound)⟩

theorem exceedsCutoff_congr {className : String} {minutes : Option Int}
    {first second other another : String}
    (same : parsePipelineTs 0 (.str first) = parsePipelineTs 0 (.str other) ∧
      parsePipelineTs 0 (.str second) = parsePipelineTs 0 (.str another)) :
    Detect.exceedsCutoff className minutes first second =
      Detect.exceedsCutoff className minutes other another := by
  rw [Detect.exceedsCutoff, Detect.exceedsCutoff, same.1, same.2]

/-- The `last_success_ts` of the pipeline that `detect` looks at. -/
def lastSuccessTs (state : State) (pipeline : String) : Value :=
  match Detect.currentPipeline state pipeline with
  | some current => Value.get current "last_success_ts"
  | none => .null

/-- The pipeline is not monitored, or its last success is recent enough. -/
def NotOverdue (base : BaseModel) (pipelines : PipelinesConfig)
    (state : State) : Prop :=
  ∀ pipeline className intAttribute,
    Detect.pipelineName state = some pipeline →
    pipelines.getattr base pipeline = .object className intAttribute →
    ∃ detected lastSuccess minutes,
      Denotes (State.get state "detected_at") detected ∧
      Denotes (lastSuccessTs state pipeline) lastSuccess ∧
      intAttribute "cutoff_delay_minutes" = some minutes ∧
      FitsTimedelta minutes ∧
      detected - lastSuccess ≤ minutes * microsPerMinute

theorem exceedsCutoff_false_iff {className detectedAt lastSuccess : String}
    {minutes : Option Int} :
    Detect.exceedsCutoff className minutes detectedAt lastSuccess =
        .ok false ↔
      ∃ detected success threshold, Denotes (.str detectedAt) detected ∧
        Denotes (.str lastSuccess) success ∧ minutes = some threshold ∧
        FitsTimedelta threshold ∧
        detected - success ≤ threshold * microsPerMinute := by
  constructor
  · intro compared
    obtain ⟨⟨detected, parsed⟩, ⟨success, otherParsed⟩, threshold, rfl, fits⟩ :=
      exceedsCutoff_ok_iff.mp ⟨false, compared⟩
    have first := Denotes.of_parsed parsed
    have second := Denotes.of_parsed otherParsed
    rw [exceedsCutoff_of_denotes first second fits] at compared
    have recent := of_decide_eq_false (Except.ok.inj compared)
    exact ⟨_, _, threshold, first, second, rfl, fits, Int.not_lt.mp recent⟩
  · intro recent
    obtain ⟨detected, success, threshold, first, second, rfl, fits, within⟩ :=
      recent
    rw [exceedsCutoff_of_denotes first second fits,
      decide_eq_false (Int.not_lt.mpr within)]

theorem isCutoffDelay_of_no_texts {state : State}
    (idle : ¬ ComparesTexts state) :
    Detect.isCutoffDelay base pipelines state (Detect.pipelineName state) =
      .ok false := by
  cases named : Detect.pipelineName state with
  | none => rfl
  | some pipeline =>
      cases timestamps : Detect.cutoffTimestamps state pipeline with
      | none => simp only [Detect.isCutoffDelay, timestamps]
      | some pair => exact absurd ⟨pipeline, pair, named, timestamps⟩ idle

theorem isCutoffDelay_congr (respelled : Respelled left right)
    (first : ComparesTexts left) (second : ComparesTexts right) :
    Detect.isCutoffDelay base pipelines left (Detect.pipelineName left) =
      Detect.isCutoffDelay base pipelines right
        (Detect.pipelineName right) := by
  obtain ⟨pipeline, ⟨detectedAt, success⟩, named, found⟩ := first
  obtain ⟨other, ⟨otherDetectedAt, otherSuccess⟩, otherNamed, again⟩ := second
  have own := respelled.pipelineName
  rw [named, otherNamed] at own
  obtain rfl := Option.some.inj own
  rw [named, otherNamed]
  simp only [Detect.isCutoffDelay, found, again]
  cases pipelines.getattr base pipeline with
  | pyNone => rfl
  | object className intAttribute =>
      exact exceedsCutoff_congr (respelled.timestamps named found again)

/-- Where texts are compared, the check says no exactly when the pipeline is
not overdue. -/
theorem isCutoffDelay_false_iff {state : State}
    (compares : ComparesTexts state) :
    Detect.isCutoffDelay base pipelines state (Detect.pipelineName state) =
      .ok false ↔ NotOverdue base pipelines state := by
  obtain ⟨pipeline, ⟨detectedAt, success⟩, named, timestamps⟩ := compares
  obtain ⟨row, found, detectedText, successText⟩ :=
    cutoffTimestamps_iff.mp timestamps
  have own : lastSuccessTs state pipeline = .str success := by
    rw [lastSuccessTs, found]
    exact successText
  rw [NotOverdue, named, detectedText]
  cases configured : pipelines.getattr base pipeline with
  | pyNone =>
      refine iff_of_true ?_ ?_
      · simp only [Detect.isCutoffDelay, timestamps, configured]
      · intro other className intAttribute same monitored
        obtain rfl := Option.some.inj same
        rw [configured] at monitored
        cases monitored
  | object className intAttribute =>
      simp only [Detect.isCutoffDelay, timestamps, configured]
      rw [exceedsCutoff_false_iff]
      constructor
      · intro recent other otherClass otherAttribute same monitored
        obtain rfl := Option.some.inj same
        rw [configured] at monitored
        obtain ⟨rfl, rfl⟩ := ModelAttribute.object.inj monitored
        rw [own]
        exact recent
      · intro recent
        have own := recent pipeline className intAttribute rfl configured
        simpa only [lastSuccessTs, found, successText] using own

theorem detectedIssues_injective {failure newException criticalDq : Bool}
    {first second : Bool}
    (same : Detect.detectedIssues failure newException criticalDq first =
      Detect.detectedIssues failure newException criticalDq second) :
    first = second := by
  have last := List.append_cancel_left same
  cases first <;> cases second <;> simp_all

/-- Past the other triggers, the issues are the same when the verdicts of the
cutoff check are. -/
theorem sameIssues_iff_verdict (respelled : Respelled left right)
    (fresh : ¬ Duplicate left) (scanned : ¬ DqStatusDerails left) :
    SameIssues base pipelines left right ↔
      Detect.isCutoffDelay base pipelines left (Detect.pipelineName left) =
        Detect.isCutoffDelay base pipelines right
          (Detect.pipelineName right) := by
  have duplicate :=
    respelled.elsewhere "fingerprint_duplicate" (by decide) (by decide)
  rw [Duplicate] at fresh
  rw [← hasCriticalDqAnomaly_error_iff, ← returns_iff] at scanned
  obtain ⟨criticalDq, scan⟩ := scanned
  rw [SameIssues, run_issues, run_issues, if_neg fresh,
    if_neg (duplicate ▸ fresh), ← respelled.criticalDq, scan,
    ← respelled.pipelineFailure, ← respelled.newException]
  constructor
  · intro same
    refine pure_bind_injective ?_ same
    intro first second issues
    exact detectedIssues_injective (Value.list.inj (Option.some.inj issues))
  · intro same
    rw [same]

theorem sameIssues_of_duplicate (respelled : Respelled left right)
    (duplicate : Duplicate left) : SameIssues base pipelines left right := by
  have same :=
    respelled.elsewhere "fingerprint_duplicate" (by decide) (by decide)
  rw [Duplicate] at duplicate
  rw [SameIssues, run_issues, run_issues, if_pos duplicate,
    if_pos (same ▸ duplicate)]

theorem sameIssues_of_derails (respelled : Respelled left right)
    (derails : DqStatusDerails left) :
    SameIssues base pipelines left right := by
  have same :=
    respelled.elsewhere "fingerprint_duplicate" (by decide) (by decide)
  obtain ⟨exc, raised⟩ := hasCriticalDqAnomaly_error_iff.mpr derails
  rw [SameIssues, run_issues, run_issues, ← respelled.criticalDq, raised, same]
  rfl

/-- One pair of instants gives one list of issues, unless only one of the two
spellings is compared at all and the pipeline is overdue. -/
theorem sameIssues_iff (respelled : Respelled left right) :
    SameIssues base pipelines left right ↔
      Duplicate left ∨ DqStatusDerails left ∨
        (ComparesTexts left → ComparesTexts right ∨
          NotOverdue base pipelines left) ∧
        (ComparesTexts right → ComparesTexts left ∨
          NotOverdue base pipelines right) := by
  by_cases duplicate : Duplicate left
  · exact iff_of_true (sameIssues_of_duplicate respelled duplicate)
      (.inl duplicate)
  by_cases derails : DqStatusDerails left
  · exact iff_of_true (sameIssues_of_derails respelled derails)
      (.inr (.inl derails))
  rw [sameIssues_iff_verdict respelled duplicate derails]
  simp only [duplicate, derails, false_or]
  by_cases first : ComparesTexts left <;> by_cases second : ComparesTexts right
  · refine iff_of_true ?_ ⟨fun _ => .inl second, fun _ => .inl first⟩
    exact isCutoffDelay_congr respelled first second
  · rw [isCutoffDelay_of_no_texts second, isCutoffDelay_false_iff first]
    simp [first, second]
  · rw [isCutoffDelay_of_no_texts first, eq_comm,
      isCutoffDelay_false_iff second]
    simp [first, second]
  · rw [isCutoffDelay_of_no_texts first, isCutoffDelay_of_no_texts second]
    simp [first, second]

end Respelling

/-- A state of `pipeline_silver` with a last success. -/
def silverState (detectedAt : String) (lastSuccessTs : Value) : State :=
  .ofList
    [("pipeline", .str "pipeline_silver"), ("detected_at", .str detectedAt),
      ("pipeline_states", .dict
        [("pipeline_silver", .dict
          [("status", .str "success"), ("last_success_ts", lastSuccessTs)])])]

/-- Midnight in Korea, as a column of timestamps holds it. -/
def midnightKst : DateTime := ⟨63907023600000000, some .utc, by decide⟩

theorem midnightKst_respelled :
    SameInstant (.str "2026-02-18T15:00:00Z") (.datetime midnightKst) :=
  ⟨63907023600000000, ⟨midnightKst, by decide +kernel, by decide, by decide⟩,
    midnightKst, rfl, by decide, by decide⟩

theorem respelled_silverState {first second : Value} (detectedAt : String)
    (apart : SameInstant first second) :
    Respelled (silverState detectedAt first)
      (silverState detectedAt second) where
  elsewhere := by
    intro key _ elsewhere
    simp only [State.get, silverState, Dict.ofList, List.lookup_cons,
      List.lookup_nil, beq_false_of_ne elsewhere]
  detectedAt := .inl rfl
  pipelineStates := .inr ⟨"pipeline_silver", rfl, _, _, rfl, rfl,
    .changed ⟨_, _, rfl, rfl, .same _ (.changed apart .nil)⟩ .nil⟩

def textState : State :=
  silverState "2026-02-18T15:40:00+00:00" (.str "2026-02-18T15:00:00Z")

def columnState : State :=
  silverState "2026-02-18T15:40:00+00:00" (.datetime midnightKst)

theorem respelled_textState : Respelled textState columnState :=
  respelled_silverState _ midnightKst_respelled

theorem sameIssues_iff_textState :
    SameIssues (fun _ => none) defaultPipelines textState columnState ↔
      Duplicate textState ∨ DqStatusDerails textState ∨
        (ComparesTexts textState → ComparesTexts columnState ∨
          NotOverdue (fun _ => none) defaultPipelines textState) ∧
        (ComparesTexts columnState → ComparesTexts textState ∨
          NotOverdue (fun _ => none) defaultPipelines columnState) :=
  sameIssues_iff respelled_textState

/-- The success at midnight is overdue as a text, and ignored as a
`datetime`. -/
theorem overdue_column_ignored :
    ∃ left right, Respelled left right ∧
      ¬ SameIssues (fun _ => none) defaultPipelines left right := by
  refine ⟨textState, columnState, respelled_textState, ?_⟩
  have fresh : ¬ Duplicate textState := by
    rw [Duplicate]
    decide
  have scanned : ¬ DqStatusDerails textState := by
    intro derails
    obtain ⟨rows, found, -⟩ := derails
    cases found
  rw [sameIssues_iff_verdict respelled_textState fresh scanned]
  decide +kernel

end PipelineOps.Graph
