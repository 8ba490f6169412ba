import PipelineOps.Graph.Cutoff
import PipelineOps.Orchestrator.PipelineMonitoring

namespace PipelineOps.Graph

open PipelineOps.Library
open PipelineOps.Python
open PipelineOps.Orchestrator

/-! The schedules of the daily pipelines, and the delay that `detect`
reports. -/

section Schedules

/-- The minutes past midnight of a text `HH:MM`. -/
def clockMinutes (text : String) : Option Nat :=
  match text.toList with
  | [tens, ones, ':', tenMinutes, minutes] => do
      let hour ← parseDigits 2 [tens, ones]
      let minute ← parseDigits 2 [tenMinutes, minutes]
      if hour < 24 ∧ minute < 60 then some (60 * hour + minute) else none
  | _ => none

/-- The midnight that starts the day of an instant in Korea. -/
def kstMidnight (moment : Int) : Int :=
  (moment + kst.shift) / microsPerDay * microsPerDay - kst.shift

/-- The run of the current day is past its cutoff, and nothing has succeeded
since it was scheduled. -/
def MissedSchedule (daily : DailyBatchPipelineConfig)
    (detected lastSuccess : Int) : Prop :=
  ∃ minutes scheduled, clockMinutes daily.scheduleKst = some minutes ∧
    scheduled = kstMidnight detected + minutes * microsPerMinute ∧
    scheduled + daily.cutoffDelayMinutes * microsPerMinute < detected ∧
    lastSuccess < scheduled

/-- The last success is longer ago than the cutoff. -/
def Overdue (daily : DailyBatchPipelineConfig) (detected lastSuccess : Int) :
    Prop :=
  daily.cutoffDelayMinutes * microsPerMinute < detected - lastSuccess

instance (daily : DailyBatchPipelineConfig) (detected lastSuccess : Int) :
    Decidable (Overdue daily detected lastSuccess) :=
  inferInstanceAs (Decidable (_ < _))

/-- A state that asks about a pipeline at one instant, with a last success at
another. -/
structure AsksAbout (state : State) (pipeline : String)
    (detected lastSuccess : Int) : Prop where
  fresh : ¬ Duplicate state
  named : State.get state "pipeline" = .str pipeline
  detectedAt : ∃ text, State.get state "detected_at" = .str text ∧
    Denotes (.str text) detected
  success : ∃ current text, Detect.currentPipeline state pipeline =
    some current ∧ Value.get current "last_success_ts" = .str text ∧
    Denotes (.str text) lastSuccess

def ReportsCutoffDelay (base : BaseModel) (config : PipelineMonitoringConfig)
    (state : State) : Prop :=
  ∃ updates issues, Detect.run base config.monitors state = .ok updates ∧
    issuesOf updates = some (.list issues) ∧
    Detect.issue "cutoff_delay" "warning" ∈ issues

variable {base : BaseModel} {config : PipelineMonitoringConfig}
  {daily : DailyBatchPipelineConfig} {state : State} {pipeline : String}
  {detected lastSuccess : Int}

/-- A missed schedule is a delay. -/
theorem MissedSchedule.overdue
    (missed : MissedSchedule daily detected lastSuccess) :
    Overdue daily detected lastSuccess := by
  obtain ⟨minutes, scheduled, -, -, late, missing⟩ := missed
  rw [Overdue]
  omega

theorem AsksAbout.verdict (asks : AsksAbout state pipeline detected lastSuccess)
    (found : config.daily? pipeline = some daily)
    (fits : FitsTimedelta daily.cutoffDelayMinutes) :
    Detect.isCutoffDelay base config.monitors state
      (Detect.pipelineName state) =
        .ok (decide (Overdue daily detected lastSuccess)) := by
  obtain ⟨detectedAt, detectedText, first⟩ := asks.detectedAt
  obtain ⟨current, success, row, successText, second⟩ := asks.success
  have named : Detect.pipelineName state = some pipeline := by
    rw [Detect.pipelineName, asks.named]
  have timestamps : Detect.cutoffTimestamps state pipeline =
      some (detectedAt, success) :=
    cutoffTimestamps_iff.mpr ⟨current, row, detectedText, successText⟩
  rw [named]
  simp only [Detect.isCutoffDelay, timestamps, PipelinesConfig.getattr,
    PipelineMonitoringConfig.monitors_of_daily found]
  exact exceedsCutoff_of_denotes first second fits

theorem cutoffDelay_mem_iff
    (failure newException criticalDq cutoffDelay : Bool) :
    Detect.issue "cutoff_delay" "warning" ∈
        Detect.detectedIssues failure newException criticalDq cutoffDelay ↔
      cutoffDelay = true := by
  cases failure <;> cases newException <;> cases criticalDq <;>
    cases cutoffDelay <;> simp [Detect.detectedIssues, Detect.issue]

/-- `detect` reports a delay by the time since the last success, whatever the
day and the schedule. -/
theorem reportsCutoffDelay_iff
    (asks : AsksAbout state pipeline detected lastSuccess)
    (found : config.daily? pipeline = some daily)
    (fits : FitsTimedelta daily.cutoffDelayMinutes) :
    (ReportsCutoffDelay base config state ↔
      ¬ DqStatusDerails state ∧ Overdue daily detected lastSuccess) ∧
    (MissedSchedule daily detected lastSuccess → ¬ DqStatusDerails state →
      ReportsCutoffDelay base config state) := by
  have reports : ReportsCutoffDelay base config state ↔
      ¬ DqStatusDerails state ∧ Overdue daily detected lastSuccess := by
    rw [← hasCriticalDqAnomaly_error_iff, ← returns_iff]
    constructor
    · intro reported
      obtain ⟨updates, issues, returned, listed, member⟩ := reported
      obtain ⟨criticalDq, cutoffDelay, scanned, checked, rfl⟩ :=
        (run_checks asks.fresh).mp returned
      rw [asks.verdict found fits] at checked
      obtain rfl := Except.ok.inj checked
      obtain rfl := Value.list.inj (Option.some.inj listed)
      exact ⟨⟨criticalDq, scanned⟩,
        of_decide_eq_true ((cutoffDelay_mem_iff ..).mp member)⟩
    · intro due
      obtain ⟨⟨criticalDq, scanned⟩, overdue⟩ := due
      refine ⟨_, _, (run_checks asks.fresh).mpr ⟨criticalDq, _, scanned,
        asks.verdict found fits, rfl⟩, rfl, ?_⟩
      exact (cutoffDelay_mem_iff ..).mpr (decide_eq_true overdue)
  refine ⟨reports, ?_⟩
  intro missed scanned
  exact reports.mpr ⟨scanned, missed.overdue⟩

end Schedules

/-- Forty minutes past midnight in Korea, after a success at 00:09:59. -/
def lateState : State :=
  silverState "2026-02-18T15:40:00+00:00" (.str "2026-02-18T15:09:59+00:00")

theorem lateState_asks : AsksAbout lateState "pipeline_silver"
    63907026000000000 63907024199000000 where
  fresh := by
    rw [Duplicate]
    decide
  named := rfl
  detectedAt := ⟨_, rfl, ⟨63907026000000000, some .utc, by decide⟩,
    by decide +kernel, by decide, by decide⟩
  success := ⟨_, _, rfl, rfl, ⟨63907024199000000, some .utc, by decide⟩,
    by decide +kernel, by decide, by decide⟩

theorem reportsCutoffDelay_iff_lateState :
    (ReportsCutoffDelay (fun _ => none) defaultMonitoring lateState ↔
      ¬ DqStatusDerails lateState ∧ Overdue defaultMonitoring.pipelineSilver
        63907026000000000 63907024199000000) ∧
    (MissedSchedule defaultMonitoring.pipelineSilver 63907026000000000
        63907024199000000 → ¬ DqStatusDerails lateState →
      ReportsCutoffDelay (fun _ => none) defaultMonitoring lateState) :=
  reportsCutoffDelay_iff lateState_asks rfl (by rw [FitsTimedelta]; decide)

/-- The pipeline has succeeded since its schedule of that day, and a delay is
reported all the same. -/
theorem delay_without_missed_schedule :
    ∃ state detected lastSuccess, lastSuccess ≤ detected ∧
      AsksAbout state "pipeline_silver" detected lastSuccess ∧
      ReportsCutoffDelay (fun _ => none) defaultMonitoring state ∧
      ¬ MissedSchedule defaultMonitoring.pipelineSilver detected
        lastSuccess := by
  refine ⟨lateState, 63907026000000000, 63907024199000000, by decide,
    lateState_asks, ?_, ?_⟩
  · have fits : FitsTimedelta 30 := by
      rw [FitsTimedelta]
      decide
    have found : defaultMonitoring.daily? "pipeline_silver" =
        some defaultMonitoring.pipelineSilver := rfl
    exact ⟨_, _, (run_checks lateState_asks.fresh).mpr
      ⟨false, _, rfl, lateState_asks.verdict found fits, rfl⟩, rfl,
      (cutoffDelay_mem_iff ..).mpr (by decide)⟩
  · intro missed
    obtain ⟨minutes, scheduled, clock, rfl, -, missing⟩ := missed
    have midnight : clockMinutes defaultMonitoring.pipelineSilver.scheduleKst =
        some 0 := rfl
    rw [midnight] at clock
    obtain rfl := Option.some.inj clock
    revert missing
    decide

end PipelineOps.Graph
