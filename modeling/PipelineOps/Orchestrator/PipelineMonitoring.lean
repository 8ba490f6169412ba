import PipelineOps.Orchestrator.Config

namespace PipelineOps.Orchestrator

open PipelineOps.Python

/-! The monitoring configuration with its schedules. -/

structure DailyBatchPipelineConfig where
  scheduleKst : String
  expectedCompletionKst : String
  pollAfterKst : String
  cutoffDelayMinutes : Int
  warningAtKst : String

structure MicrobatchPipelineConfig where
  schedule : String
  expectedCompletionMinutes : Int
  pollEveryMinutes : Int
  cutoffDelayMinutes : Int
  warningAfterConsecutiveMisses : Int

/-- The `pipelines` of a monitoring configuration. -/
structure PipelineMonitoringConfig where
  pipelineSilver : DailyBatchPipelineConfig
  pipelineB : DailyBatchPipelineConfig
  pipelineC : DailyBatchPipelineConfig
  pipelineA : MicrobatchPipelineConfig

namespace PipelineMonitoringConfig

def daily? (config : PipelineMonitoringConfig) (pipeline : String) :
    Option DailyBatchPipelineConfig :=
  [("pipeline_silver", config.pipelineSilver), ("pipeline_b", config.pipelineB),
    ("pipeline_c", config.pipelineC)].lookup pipeline

def dailyMonitor (config : DailyBatchPipelineConfig) : PipelineMonitor :=
  ⟨"DailyBatchPipelineConfig", config.cutoffDelayMinutes⟩

/-- What `detect` reads of the configuration. -/
def monitors (config : PipelineMonitoringConfig) : PipelinesConfig where
  pipelineSilver := dailyMonitor config.pipelineSilver
  pipelineB := dailyMonitor config.pipelineB
  pipelineC := dailyMonitor config.pipelineC
  pipelineA :=
    ⟨"MicrobatchPipelineConfig", config.pipelineA.cutoffDelayMinutes⟩

theorem monitors_of_daily {config : PipelineMonitoringConfig}
    {pipeline : String} {daily : DailyBatchPipelineConfig}
    (found : config.daily? pipeline = some daily) :
    config.monitors.field? pipeline = some (dailyMonitor daily) := by
  rw [daily?] at found
  rw [PipelinesConfig.field?]
  simp only [List.lookup_cons, List.lookup_nil] at found ⊢
  split at found
  · rw [← Option.some.inj found]
    rfl
  · split at found
    · rw [← Option.some.inj found]
      rfl
    · split at found
      · rw [← Option.some.inj found]
        rfl
      · cases found

end PipelineMonitoringConfig

/-- `config/pipeline_monitoring.yaml`. -/
def defaultMonitoring : PipelineMonitoringConfig where
  pipelineSilver := ⟨"00:00", "00:10", "00:10", 30, "00:30"⟩
  pipelineB := ⟨"00:20", "00:35", "00:35", 30, "00:50"⟩
  pipelineC := ⟨"00:35", "00:45", "00:45", 30, "01:05"⟩
  pipelineA := ⟨"every_10_minutes", 2, 5, 20, 2⟩

end PipelineOps.Orchestrator
