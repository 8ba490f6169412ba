import PipelineOps.Python.Value

namespace PipelineOps.Orchestrator

open PipelineOps.Python

/-! The two configuration objects that are asked for attributes by pipeline
name. Attributes that are not fields come with the `pydantic` base class. -/

/-- An attribute of a `pydantic` model: Python's `None`, or an object of which
only its class and its integer attributes matter. -/
inductive ModelAttribute where
  | pyNone
  | object (className : String) (intAttribute : String → Option Int)

/-- The attributes that every model instance has besides its fields. -/
abbrev BaseModel := String → Option ModelAttribute

structure PipelineJobConfig where
  refresh : Int

structure JobsConfig where
  pipelineSilver : PipelineJobConfig
  pipelineB : PipelineJobConfig
  pipelineC : PipelineJobConfig
  pipelineA : PipelineJobConfig

def JobsConfig.field? (jobs : JobsConfig) (pipeline : String) :
    Option PipelineJobConfig :=
  [("pipeline_silver", jobs.pipelineSilver), ("pipeline_b", jobs.pipelineB),
    ("pipeline_c", jobs.pipelineC), ("pipeline_a", jobs.pipelineA)].lookup
      pipeline

/-- `getattr(getattr(config.jobs, pipeline, None), "refresh", None)`, if it is
an `int`. -/
def JobsConfig.refreshJobId (base : BaseModel) (jobs : JobsConfig)
    (pipeline : String) : Option Int :=
  match jobs.field? pipeline with
  | some config => some config.refresh
  | none =>
      match base pipeline with
      | some (.object _ intAttribute) => intAttribute "refresh"
      | _ => none

/-- No attribute besides the fields carries a job id. -/
def BaseModel.WithoutJobs (base : BaseModel) : Prop :=
  ∀ name className intAttribute,
    base name = some (.object className intAttribute) →
      intAttribute "refresh" = none

theorem JobsConfig.refreshJobId_eq_some {base : BaseModel}
    (plain : base.WithoutJobs) {jobs : JobsConfig} {pipeline : String}
    {refreshJobId : Int}
    (job : jobs.refreshJobId base pipeline = some refreshJobId) :
    ∃ config, jobs.field? pipeline = some config ∧
      config.refresh = refreshJobId := by
  rw [JobsConfig.refreshJobId] at job
  cases field : jobs.field? pipeline with
  | some config =>
      rw [field] at job
      exact ⟨config, rfl, Option.some.inj job⟩
  | none =>
      simp only [field] at job
      cases found : base pipeline with
      | none => simp [found] at job
      | some value =>
          cases value with
          | pyNone => simp [found] at job
          | object className intAttribute =>
              simp [found, plain _ _ _ found] at job

theorem JobsConfig.field?_mem {jobs : JobsConfig} {pipeline : String}
    {config : PipelineJobConfig}
    (field : jobs.field? pipeline = some config) :
    pipeline ∈
      ["pipeline_silver", "pipeline_b", "pipeline_c", "pipeline_a"] := by
  obtain ⟨before, after, split, -⟩ := List.lookup_eq_some_iff.mp field
  have member :
      pipeline ∈ (before ++ (pipeline, config) :: after).map Prod.fst := by
    simp
  rw [← split] at member
  exact member

structure PipelineMonitor where
  className : String
  cutoffDelayMinutes : Int

structure PipelinesConfig where
  pipelineSilver : PipelineMonitor
  pipelineB : PipelineMonitor
  pipelineC : PipelineMonitor
  pipelineA : PipelineMonitor

def PipelinesConfig.field? (pipelines : PipelinesConfig) (pipeline : String) :
    Option PipelineMonitor :=
  [("pipeline_silver", pipelines.pipelineSilver),
    ("pipeline_b", pipelines.pipelineB), ("pipeline_c", pipelines.pipelineC),
    ("pipeline_a", pipelines.pipelineA)].lookup pipeline

/-- `getattr(config.pipelines, pipeline, None)`. -/
def PipelinesConfig.getattr (base : BaseModel) (pipelines : PipelinesConfig)
    (pipeline : String) : ModelAttribute :=
  match pipelines.field? pipeline with
  | some config => .object config.className fun name =>
      if name = "cutoff_delay_minutes" then some config.cutoffDelayMinutes
      else none
  | none => (base pipeline).getD .pyNone

/-- The `pipelines` of `config/pipeline_monitoring.yaml`. -/
def defaultPipelines : PipelinesConfig where
  pipelineSilver := ⟨"DailyBatchPipelineConfig", 30⟩
  pipelineB := ⟨"DailyBatchPipelineConfig", 30⟩
  pipelineC := ⟨"DailyBatchPipelineConfig", 30⟩
  pipelineA := ⟨"MicrobatchPipelineConfig", 20⟩

/-- The `jobs` of `config/databricks_jobs.yaml`. -/
def defaultJobs : JobsConfig where
  pipelineSilver := ⟨101001⟩
  pipelineB := ⟨101002⟩
  pipelineC := ⟨101003⟩
  pipelineA := ⟨101004⟩

end PipelineOps.Orchestrator
