import PipelineOps.Library.Fallible
import PipelineOps.Library.WrappedClock
import PipelineOps.Orchestrator.PipelineMonitoring
import PipelineOps.Orchestrator.Time
import PipelineOps.Python.Calendar

namespace PipelineOps.Runtime

open PipelineOps.Library
open PipelineOps.Python
open PipelineOps.Orchestrator

/-! The watchdog: which pipelines are due at one invocation. -/

/-- `current_hhmm >= poll_after_kst`, for a time in UTC. -/
def isDailyBatchPollDue (pollAfterKst : String) (nowUtc : DateTime) :
    Except Exc Bool :=
  match nowUtc.astimezone .utc kst with
  | none => .error dateOverflow
  | some nowKst =>
      .ok (pollAfterKst ≤
        padded 2 nowKst.hour ++ ":" ++ padded 2 nowKst.minute)

def isMicrobatchPollDue (pollEveryMinutes : Int) (nowUtc : DateTime) :
    Except Exc Bool :=
  if pollEveryMinutes = 0 then
    .error ⟨.other "ZeroDivisionError", "integer modulo by zero"⟩
  else .ok ((nowUtc.minute : Int) % pollEveryMinutes = 0)

/-- The body of the loop over the targets. -/
def isPollDue (config : PipelineMonitoringConfig) (nowUtc : DateTime)
    (pipeline : String) : Except Exc Bool :=
  if pipeline = "pipeline_a" then
    isMicrobatchPollDue config.pipelineA.pollEveryMinutes nowUtc
  else
    match config.daily? pipeline with
    | some daily => isDailyBatchPollDue daily.pollAfterKst nowUtc
    -- no other attribute of the model has a `poll_after_kst`
    | none => .ok false

def pipelinesToPoll (config : PipelineMonitoringConfig) (nowUtc : DateTime) :
    List String → Except Exc (List String)
  | [] => .ok []
  | pipeline :: rest => do
      let due ← isPollDue config nowUtc pipeline
      let selected ← pipelinesToPoll config nowUtc rest
      pure (if due then pipeline :: selected else selected)

section Polling

variable {config : PipelineMonitoringConfig} {nowUtc : DateTime}
  {targets selected : List String}

theorem mem_pipelinesToPoll_iff {pipeline : String}
    (returned : pipelinesToPoll config nowUtc targets = .ok selected) :
    pipeline ∈ selected ↔
      pipeline ∈ targets ∧ isPollDue config nowUtc pipeline = .ok true := by
  induction targets generalizing selected with
  | nil =>
      rw [← Except.ok.inj returned]
      simp
  | cons target rest induction =>
      rw [pipelinesToPoll] at returned
      obtain ⟨due, checked, returned⟩ := bind_ok_iff.mp returned
      obtain ⟨others, further, returned⟩ := bind_ok_iff.mp returned
      rw [← Except.ok.inj returned]
      by_cases own : pipeline = target
      · subst own
        cases due with
        | true => simp [checked]
        | false => simp [checked, induction further]
      · cases due with
        | true => simp [own, induction further]
        | false => simp [own, induction further]

theorem pipelinesToPoll_ok_iff :
    (∃ selected, pipelinesToPoll config nowUtc targets = .ok selected) ↔
      ∀ pipeline ∈ targets, ∃ due,
        isPollDue config nowUtc pipeline = .ok due := by
  induction targets with
  | nil => simp [pipelinesToPoll]
  | cons target rest induction =>
      rw [List.forall_mem_cons, ← induction, pipelinesToPoll]
      constructor
      · intro returned
        obtain ⟨selected, returned⟩ := returned
        obtain ⟨due, checked, returned⟩ := bind_ok_iff.mp returned
        obtain ⟨others, further, -⟩ := bind_ok_iff.mp returned
        exact ⟨⟨due, checked⟩, others, further⟩
      · intro returned
        obtain ⟨⟨due, checked⟩, others, further⟩ := returned
        exact ⟨_, bind_ok_iff.mpr ⟨due, checked,
          bind_ok_iff.mpr ⟨others, further, rfl⟩⟩⟩

end Polling

section Microbatch

/-- `pipelines_to_poll` returns with `pipeline_a` among the pipelines. -/
def PollsMicrobatch (config : PipelineMonitoringConfig)
    (targets : List String) (nowUtc : DateTime) : Prop :=
  ∃ selected, pipelinesToPoll config nowUtc targets = .ok selected ∧
    "pipeline_a" ∈ selected

/-- A daily target is compared with the time in Korea, which the calendar may
not have. -/
def DailyDatesExist (config : PipelineMonitoringConfig) (targets : List String)
    (nowUtc : DateTime) : Prop :=
  ∀ pipeline ∈ targets, config.daily? pipeline ≠ none →
    InRange (nowUtc.wall + kst.shift)

/-- The invocation `count` of a watchdog that runs every `every` minutes. -/
def Invocation (start : DateTime) (every count : Nat) (nowUtc : DateTime) :
    Prop :=
  nowUtc.wall = start.wall + (count * every : Nat) * microsPerMinute

def PollsAlways (config : PipelineMonitoringConfig) (targets : List String)
    (start : DateTime) (every : Nat) : Prop :=
  ∀ count nowUtc, Invocation start every count nowUtc →
    DailyDatesExist config targets nowUtc →
      PollsMicrobatch config targets nowUtc

variable {config : PipelineMonitoringConfig} {targets : List String}
  {start nowUtc : DateTime} {every count : Nat}

theorem isDailyBatchPollDue_ok_iff {pollAfterKst : String} :
    (∃ due, isDailyBatchPollDue pollAfterKst nowUtc = .ok due) ↔
      InRange (nowUtc.wall + kst.shift) := by
  have range := nowUtc.range
  by_cases local_ : InRange (nowUtc.wall + kst.shift)
  · simp [isDailyBatchPollDue, DateTime.astimezone, Zone.utc, range, local_]
  · simp [isDailyBatchPollDue, DateTime.astimezone, Zone.utc, local_]

theorem isPollDue_microbatch
    (interval : config.pipelineA.pollEveryMinutes = every)
    (positive : 1 ≤ every) :
    isPollDue config nowUtc "pipeline_a" =
      .ok (decide (every ∣ nowUtc.minute)) := by
  have nonzero : (every : Int) ≠ 0 := by omega
  rw [isPollDue, if_pos rfl, interval, isMicrobatchPollDue, if_neg nonzero]
  congr 1
  rw [decide_eq_decide, ← Int.natCast_dvd_natCast]
  exact (Int.dvd_iff_emod_eq_zero).symm

theorem isPollDue_ok_iff
    (interval : config.pipelineA.pollEveryMinutes = every)
    (positive : 1 ≤ every) (pipeline : String) :
    (∃ due, isPollDue config nowUtc pipeline = .ok due) ↔
      (config.daily? pipeline ≠ none → InRange (nowUtc.wall + kst.shift)) := by
  by_cases microbatch : pipeline = "pipeline_a"
  · subst microbatch
    have undated : config.daily? "pipeline_a" = none := rfl
    rw [isPollDue_microbatch interval positive, undated]
    simp
  · rw [isPollDue, if_neg microbatch]
    cases config.daily? pipeline with
    | none => simp
    | some daily =>
        dsimp only
        rw [isDailyBatchPollDue_ok_iff]
        simp

/-- Whether the micro-batch is polled depends on the minute of the hour
only. -/
theorem pollsMicrobatch_iff
    (interval : config.pipelineA.pollEveryMinutes = every)
    (positive : 1 ≤ every) (target : "pipeline_a" ∈ targets) :
    PollsMicrobatch config targets nowUtc ↔
      DailyDatesExist config targets nowUtc ∧ every ∣ nowUtc.minute := by
  have returns : (∃ selected, pipelinesToPoll config nowUtc targets =
      .ok selected) ↔ DailyDatesExist config targets nowUtc := by
    rw [pipelinesToPoll_ok_iff, DailyDatesExist]
    simp only [isPollDue_ok_iff interval positive]
  rw [← returns]
  constructor
  · intro polls
    obtain ⟨selected, returned, member⟩ := polls
    obtain ⟨-, due⟩ := (mem_pipelinesToPoll_iff returned).mp member
    rw [isPollDue_microbatch interval positive] at due
    exact ⟨⟨selected, returned⟩, of_decide_eq_true (Except.ok.inj due)⟩
  · intro due
    obtain ⟨⟨selected, returned⟩, divides⟩ := due
    refine ⟨selected, returned,
      (mem_pipelinesToPoll_iff returned).mpr ⟨target, ?_⟩⟩
    rw [isPollDue_microbatch interval positive, decide_eq_true divides]

theorem invocation_minute (invoked : Invocation start every count nowUtc) :
    nowUtc.minute = (start.minute + count * every) % 60 := by
  rw [Invocation] at invoked
  have range := start.range
  rw [InRange] at range
  rw [DateTime.minute, DateTime.minute, invoked]
  simp only [microsPerHour_eq, microsPerMinute_eq]
  generalize count * every = minutes
  omega

/-- The next hour begins within the calendar, in UTC and in Korea. -/
def HourEnds (start : DateTime) (every : Nat) : Prop :=
  InRange (start.wall + (60 + every : Nat) * microsPerMinute + kst.shift)

theorem invocation_of_hourEnds (room : HourEnds start every)
    (soon : count * every ≤ 60 + every) :
    ∃ nowUtc, Invocation start every count nowUtc ∧
      ∀ targets, DailyDatesExist config targets nowUtc := by
  have range := start.range
  have ahead : kst.shift = 32400000000 := rfl
  rw [HourEnds, InRange, ahead, microsPerMinute_eq] at room
  rw [InRange] at range
  have local_ : InRange (start.wall + (count * every : Nat) * microsPerMinute +
      kst.shift) := by
    rw [InRange, ahead, microsPerMinute_eq]
    omega
  have wall : InRange (start.wall + (count * every : Nat) *
      microsPerMinute) := by
    rw [InRange, microsPerMinute_eq]
    omega
  exact ⟨⟨_, some .utc, wall⟩, rfl, fun targets pipeline member dated => local_⟩

/-- The micro-batch is polled at the invocations whose minute of the hour its
interval divides, and at every one only if the interval fits the hour. -/
theorem pollsAlways_iff
    (interval : config.pipelineA.pollEveryMinutes = every)
    (positive : 1 ≤ every) (target : "pipeline_a" ∈ targets) :
    (∀ count nowUtc, Invocation start every count nowUtc →
      (PollsMicrobatch config targets nowUtc ↔
        DailyDatesExist config targets nowUtc ∧
          every ∣ (start.minute + count * every) % 60)) ∧
    (every ∣ start.minute ∧ (every ∣ 60 ∨ 60 ∣ every) →
      PollsAlways config targets start every) ∧
    (HourEnds start every → PollsAlways config targets start every →
      every ∣ start.minute ∧ (every ∣ 60 ∨ 60 ∣ every)) := by
  have polls : ∀ count nowUtc, Invocation start every count nowUtc →
      (PollsMicrobatch config targets nowUtc ↔
        DailyDatesExist config targets nowUtc ∧
          every ∣ (start.minute + count * every) % 60) := by
    intro count nowUtc invoked
    rw [pollsMicrobatch_iff interval positive target,
      invocation_minute invoked]
  have within : start.minute < 60 := by
    rw [DateTime.minute, microsPerHour_eq, microsPerMinute_eq]
    omega
  refine ⟨polls, ?_, ?_⟩
  · intro regular count nowUtc invoked dated
    exact (polls count nowUtc invoked).mpr
      ⟨dated, dvd_reading within regular.1 regular.2 count⟩
  · intro room always
    have polled : ∀ count, count * every ≤ 60 + every →
        every ∣ (start.minute + count * every) % 60 := by
      intro count soon
      obtain ⟨nowUtc, invoked, dated⟩ := invocation_of_hourEnds room soon
      exact ((polls count nowUtc invoked).mp
        (always count nowUtc invoked (dated targets))).2
    have first := polled 0 (by omega)
    rw [Nat.zero_mul, Nat.add_zero, Nat.mod_eq_of_lt within] at first
    have bounded : firstWrapped every 60 start.minute * every ≤
        60 - start.minute + (every - 1) := firstWrapped_le
    exact ⟨first, regular_of_dvd_wrapped positive within first
      (polled _ (by omega))⟩

end Microbatch

/-- Three minutes past an hour. -/
def threePast : DateTime := ⟨63907023780000000, some .utc, by decide⟩

theorem threePast_minute : threePast.minute = 3 := by
  decide

theorem pollsAlways_iff_threePast :
    (∀ count nowUtc, Invocation threePast 5 count nowUtc →
      (PollsMicrobatch defaultMonitoring ["pipeline_a"] nowUtc ↔
        DailyDatesExist defaultMonitoring ["pipeline_a"] nowUtc ∧
          5 ∣ (threePast.minute + count * 5) % 60)) ∧
    (5 ∣ threePast.minute ∧ (5 ∣ 60 ∨ 60 ∣ 5) →
      PollsAlways defaultMonitoring ["pipeline_a"] threePast 5) ∧
    (HourEnds threePast 5 →
      PollsAlways defaultMonitoring ["pipeline_a"] threePast 5 →
      5 ∣ threePast.minute ∧ (5 ∣ 60 ∨ 60 ∣ 5)) :=
  pollsAlways_iff rfl (by decide) (by decide)

/-- A watchdog that runs every five minutes from three past the hour never polls
the micro-batch. -/
theorem threePast_starves :
    ∃ (start : DateTime) (config : PipelineMonitoringConfig)
      (targets : List String), config.pipelineA.pollEveryMinutes = 5 ∧
      "pipeline_a" ∈ targets ∧
      ∀ count nowUtc, Invocation start 5 count nowUtc →
        ¬ PollsMicrobatch config targets nowUtc := by
  refine ⟨threePast, defaultMonitoring, ["pipeline_a"], rfl, by decide, ?_⟩
  intro count nowUtc invoked polls
  obtain ⟨-, divides⟩ :=
    (pollsMicrobatch_iff rfl (by decide) (by decide)).mp polls
  rw [invocation_minute invoked, threePast_minute] at divides
  rw [dvd_reading_of_dvd_period (by decide)] at divides
  revert divides
  decide

end PipelineOps.Runtime
