import Mathlib.Data.String.Basic
import PipelineOps.Python.Digits
import PipelineOps.Runtime.Watchdog
import PipelineOps.Tools.DailyCap

namespace PipelineOps.Runtime

open PipelineOps.Library
open PipelineOps.Python
open PipelineOps.Orchestrator
open PipelineOps.Tools (silverEnviron silverEnviron_accepted)

/-! The daily pipelines over the heartbeats of a watchdog. -/

structure Heartbeat where
  targetPipelines : List String
  polledPipelines : List String

/-- `watchdog.run_once` as the entry point calls it, without its log line. -/
def runOnce (validationText : String → String → String)
    (environ : Dict String String) (config : PipelineMonitoringConfig)
    (nowUtc : DateTime) : Except Exc Heartbeat := do
  let settings ← loadRuntimeSettings validationText environ
  let polled ← pipelinesToPoll config nowUtc settings.targetPipelines
  pure ⟨settings.targetPipelines, polled⟩

/-- `strftime("%H:%M")` in a minute of the day. -/
def minuteText (minute : Nat) : String :=
  padded 2 (minute / 60) ++ ":" ++ padded 2 (minute % 60)

/-- The minutes on the wall clock of Korea. -/
def kstMinutes (nowUtc : DateTime) : Int :=
  (nowUtc.wall + kst.shift) / microsPerMinute

def kstDay (nowUtc : DateTime) : Int := kstMinutes nowUtc / 1440

def kstMinute (nowUtc : DateTime) : Nat := (kstMinutes nowUtc % 1440).toNat

/-- The minute of the day that reaches a text, 1440 if none does. -/
def pollMinute (text : String) : Nat :=
  (List.range 1440).findIdx fun minute => text ≤ minuteText minute

section Minutes

variable {minute other : Nat}

theorem toList_minuteText (within : minute < 1440) :
    (minuteText minute).toList =
      lastDigits 2 (minute / 60) ++ (':' :: lastDigits 2 (minute % 60)) := by
  rw [minuteText, String.toList_append, String.toList_append,
    toList_padded (by omega) (by omega), toList_padded (by omega) (by omega),
    List.append_assoc]
  rfl

theorem minuteText_lt_iff (within : minute < 1440)
    (otherWithin : other < 1440) :
    minuteText minute < minuteText other ↔ minute < other := by
  have hour : minute / 60 < 10 ^ 2 := by omega
  have otherHour : other / 60 < 10 ^ 2 := by omega
  have lengths : (lastDigits 2 (minute / 60)).length =
      (lastDigits 2 (other / 60)).length := by
    rw [length_lastDigits, length_lastDigits]
  rw [String.lt_iff_toList_lt, toList_minuteText within,
    toList_minuteText otherWithin, append_lt_append_iff lengths,
    lastDigits_lt_iff hour otherHour, lastDigits_inj hour otherHour,
    List.cons_lt_cons_iff, lastDigits_lt_iff (by omega) (by omega)]
  have irrefl : ¬ ':' < ':' := by decide
  simp only [irrefl, false_or, true_and]
  omega

theorem minuteText_le_iff (within : minute < 1440)
    (otherWithin : other < 1440) :
    minuteText minute ≤ minuteText other ↔ minute ≤ other := by
  rw [← not_lt, minuteText_lt_iff otherWithin within, not_lt]

/-- A text is reached at a minute of the day, and then until midnight. -/
theorem le_minuteText_iff (within : minute < 1440) (text : String) :
    text ≤ minuteText minute ↔ pollMinute text ≤ minute := by
  have kept : ∀ earlier later, earlier ≤ later → later < 1440 →
      decide (text ≤ minuteText earlier) = true →
      decide (text ≤ minuteText later) = true := by
    intro earlier later order bound reached
    have onward := (minuteText_le_iff (by omega) bound).mpr order
    exact decide_eq_true ((of_decide_eq_true reached).trans onward)
  rw [pollMinute, findIdx_range_le_iff kept within, decide_eq_true_eq]

theorem pollMinute_minuteText (within : minute < 1440) :
    pollMinute (minuteText minute) = minute := by
  have reached := (le_minuteText_iff within _).mp (le_refl _)
  have first := (le_minuteText_iff (Nat.lt_of_le_of_lt reached within)
    (minuteText minute)).mpr (Nat.le_refl _)
  exact Nat.le_antisymm reached
    ((minuteText_le_iff within (by omega)).mp first)

/-- An hour without its leading zero is compared by its first digit. -/
example : pollMinute "1:00" = 20 * 60 := by
  have reached := (@le_minuteText_iff 1200 (by omega) "1:00").mp (by decide)
  have before := (@le_minuteText_iff 1199 (by omega) "1:00").not.mp (by decide)
  omega

end Minutes

section Heartbeats

variable {validationText : String → String → String}
  {environ : Dict String String} {config : PipelineMonitoringConfig}
  {settings : RuntimeSettings} {daily : DailyBatchPipelineConfig}
  {pipeline : String} {start nowUtc : DateTime} {every count : Nat}

theorem isDailyBatchPollDue_eq (local_ : InRange (nowUtc.wall + kst.shift))
    (text : String) :
    isDailyBatchPollDue text nowUtc =
      .ok (decide (pollMinute text ≤ kstMinute nowUtc)) := by
  have range := nowUtc.range
  have converted : nowUtc.astimezone .utc kst =
      some ⟨nowUtc.wall + kst.shift, some kst, local_⟩ := by
    simp [DateTime.astimezone, Zone.utc, range, local_]
  have within : kstMinute nowUtc < 1440 := by
    rw [kstMinute]
    omega
  rw [isDailyBatchPollDue, converted]
  dsimp only
  rw [InRange] at local_
  have hour : (nowUtc.wall + kst.shift) % microsPerDay / microsPerHour =
      (kstMinute nowUtc / 60 : Nat) := by
    rw [kstMinute, kstMinutes, microsPerDay_eq, microsPerHour_eq,
      microsPerMinute_eq]
    omega
  have minute : (nowUtc.wall + kst.shift) % microsPerHour / microsPerMinute =
      (kstMinute nowUtc % 60 : Nat) := by
    rw [kstMinute, kstMinutes, microsPerHour_eq, microsPerMinute_eq]
    omega
  simp only [DateTime.hour, DateTime.minute, hour, minute, Int.toNat_natCast]
  exact congrArg Except.ok
    (decide_eq_decide.mpr (le_minuteText_iff within text))

theorem isPollDue_returns {target : String}
    (nonzero : target = "pipeline_a" → config.pipelineA.pollEveryMinutes ≠ 0)
    (local_ : InRange (nowUtc.wall + kst.shift)) :
    ∃ due, isPollDue config nowUtc target = .ok due := by
  rw [isPollDue]
  split
  · next microbatch =>
      rw [isMicrobatchPollDue, if_neg (nonzero microbatch)]
      exact ⟨_, rfl⟩
  · cases config.daily? target with
    | none => exact ⟨_, rfl⟩
    | some daily =>
        dsimp only
        rw [isDailyBatchPollDue_eq local_]
        exact ⟨_, rfl⟩

/-- The heartbeat returns with `pipeline` among the polled ones. -/
def Polls (validationText : String → String → String)
    (environ : Dict String String) (config : PipelineMonitoringConfig)
    (pipeline : String) (nowUtc : DateTime) : Prop :=
  ∃ heartbeat, runOnce validationText environ config nowUtc = .ok heartbeat ∧
    pipeline ∈ heartbeat.polledPipelines

theorem polls_iff
    (accepted : loadRuntimeSettings validationText environ = .ok settings)
    (target : pipeline ∈ settings.targetPipelines)
    (found : config.daily? pipeline = some daily)
    (nonzero : "pipeline_a" ∈ settings.targetPipelines →
      config.pipelineA.pollEveryMinutes ≠ 0)
    (local_ : InRange (nowUtc.wall + kst.shift)) :
    Polls validationText environ config pipeline nowUtc ↔
      pollMinute daily.pollAfterKst ≤ kstMinute nowUtc := by
  obtain ⟨selected, returned⟩ := pipelinesToPoll_ok_iff.mpr
    fun other (member : other ∈ settings.targetPipelines) =>
      isPollDue_returns (fun same => nonzero (same ▸ member)) local_
  have apart : pipeline ≠ "pipeline_a" := by
    rintro rfl
    cases found
  have ran : runOnce validationText environ config nowUtc =
      .ok ⟨settings.targetPipelines, selected⟩ := by
    rw [runOnce, accepted]
    change (pipelinesToPoll config nowUtc settings.targetPipelines).bind _ = _
    rw [returned]
    rfl
  have due : isPollDue config nowUtc pipeline = .ok
      (decide (pollMinute daily.pollAfterKst ≤ kstMinute nowUtc)) := by
    rw [isPollDue, if_neg apart, found]
    exact isDailyBatchPollDue_eq local_ _
  have selects := @mem_pipelinesToPoll_iff _ _ _ _ pipeline returned
  rw [due] at selects
  rw [Polls, ran]
  simpa [target] using selects

theorem kstMinutes_of_invocation
    (invoked : Invocation start every count nowUtc) :
    kstMinutes nowUtc = kstMinutes start + count * every := by
  rw [Invocation] at invoked
  rw [kstMinutes, kstMinutes, invoked, microsPerMinute_eq]
  push_cast
  generalize (count : Int) * every = minutes
  omega

/-- A daily pipeline is polled from one minute of every day on: at one heartbeat
and at all later ones of the day. If that leaves room for a heartbeat before
midnight, the first one is on time. -/
theorem daily_polls
    (accepted : loadRuntimeSettings validationText environ = .ok settings)
    (target : pipeline ∈ settings.targetPipelines)
    (found : config.daily? pipeline = some daily)
    (nonzero : "pipeline_a" ∈ settings.targetPipelines →
      config.pipelineA.pollEveryMinutes ≠ 0)
    (positive : 1 ≤ every) (start : DateTime) :
    (∀ nowUtc, InRange (nowUtc.wall + kst.shift) →
      (Polls validationText environ config pipeline nowUtc ↔
        pollMinute daily.pollAfterKst ≤ kstMinute nowUtc)) ∧
    (∀ minute < 1440, daily.pollAfterKst = minuteText minute →
      pollMinute daily.pollAfterKst = minute) ∧
    ∀ day, ∃ first,
      (∀ count nowUtc, Invocation start every count nowUtc →
        kstDay nowUtc = day → InRange (nowUtc.wall + kst.shift) →
        (Polls validationText environ config pipeline nowUtc ↔
          first ≤ count)) ∧
      (kstMinutes start ≤ day * 1440 + pollMinute daily.pollAfterKst →
        pollMinute daily.pollAfterKst + every ≤ 1440 →
        ∀ nowUtc, Invocation start every first nowUtc →
          kstDay nowUtc = day ∧
            pollMinute daily.pollAfterKst ≤ kstMinute nowUtc ∧
            kstMinute nowUtc < pollMinute daily.pollAfterKst + every) := by
  refine ⟨?_, ?_, ?_⟩
  · intro nowUtc local_
    exact polls_iff accepted target found nonzero local_
  · rintro minute within same
    rw [same]
    exact pollMinute_minuteText within
  · intro day
    refine ⟨firstReading every (kstMinutes start)
      (day * 1440 + pollMinute daily.pollAfterKst), ?_, ?_⟩
    · intro count nowUtc invoked today local_
      rw [polls_iff accepted target found nonzero local_,
        ← le_reading_iff positive, ← kstMinutes_of_invocation invoked, ← today,
        kstDay, kstMinute]
      omega
    · intro begun room nowUtc invoked
      have due := (le_reading_iff positive _).mpr (Nat.le_refl
        (firstReading every (kstMinutes start)
          (day * 1440 + pollMinute daily.pollAfterKst)))
      have soon := firstReading_lt positive begun
      rw [← kstMinutes_of_invocation invoked] at due soon
      rw [kstDay, kstMinute]
      omega

/-- Every five minutes from three past an hour. -/
theorem daily_polls_threePast :
    (∀ nowUtc, InRange (nowUtc.wall + kst.shift) →
      (Polls (fun _ message => message) (silverEnviron "/tmp/agent.db")
          defaultMonitoring "pipeline_silver" nowUtc ↔
        pollMinute "00:10" ≤ kstMinute nowUtc)) ∧
    (∀ minute < 1440, "00:10" = minuteText minute →
      pollMinute "00:10" = minute) ∧
    ∀ day, ∃ first,
      (∀ count nowUtc, Invocation threePast 5 count nowUtc →
        kstDay nowUtc = day → InRange (nowUtc.wall + kst.shift) →
        (Polls (fun _ message => message) (silverEnviron "/tmp/agent.db")
          defaultMonitoring "pipeline_silver" nowUtc ↔ first ≤ count)) ∧
      (kstMinutes threePast ≤ day * 1440 + pollMinute "00:10" →
        pollMinute "00:10" + 5 ≤ 1440 →
        ∀ nowUtc, Invocation threePast 5 first nowUtc →
          kstDay nowUtc = day ∧ pollMinute "00:10" ≤ kstMinute nowUtc ∧
            kstMinute nowUtc < pollMinute "00:10" + 5) := by
  have found : defaultMonitoring.daily? "pipeline_silver" =
      some defaultMonitoring.pipelineSilver := rfl
  exact daily_polls (silverEnviron_accepted "/tmp/agent.db")
    List.mem_cons_self found (fun _ => by decide) (by decide) threePast

end Heartbeats

end PipelineOps.Runtime
