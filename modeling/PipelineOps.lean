import PipelineOps.Graph.Analysis
import PipelineOps.Graph.Approval
import PipelineOps.Graph.Backends
import PipelineOps.Graph.Closure
import PipelineOps.Graph.Cutoff
import PipelineOps.Graph.Definition
import PipelineOps.Graph.Endings
import PipelineOps.Graph.ExecutionGate
import PipelineOps.Graph.Nodes.Collect
import PipelineOps.Graph.Nodes.Detect
import PipelineOps.Graph.Nodes.Execute
import PipelineOps.Graph.Nodes.ReportOnly
import PipelineOps.Graph.PlannedJob
import PipelineOps.Graph.PoisonedCollection
import PipelineOps.Graph.ReasonTexts
import PipelineOps.Graph.ReportLog
import PipelineOps.Graph.Reporting
import PipelineOps.Graph.Rollback
import PipelineOps.Graph.Schedule
import PipelineOps.Graph.State
import PipelineOps.Graph.Steps
import PipelineOps.Graph.Termination
import PipelineOps.Graph.Traffic
import PipelineOps.Graph.Triggers
import PipelineOps.Library.Dialogue
import PipelineOps.Library.Dict
import PipelineOps.Library.Draft
import PipelineOps.Library.Effects
import PipelineOps.Library.Encoding
import PipelineOps.Library.ExitStack
import PipelineOps.Library.Fallible
import PipelineOps.Library.FormEncoding
import PipelineOps.Library.Interleaving
import PipelineOps.Library.Paging
import PipelineOps.Library.Quota
import PipelineOps.Library.Ranking
import PipelineOps.Library.Retry
import PipelineOps.Library.Scanner
import PipelineOps.Library.Table
import PipelineOps.Library.TextOrder
import PipelineOps.Library.Words
import PipelineOps.Library.Workflow
import PipelineOps.Library.WrappedClock
import PipelineOps.Orchestrator.ActionPlan
import PipelineOps.Orchestrator.Config
import PipelineOps.Orchestrator.DatabricksJobsConfig
import PipelineOps.Orchestrator.DateFormat
import PipelineOps.Orchestrator.DateKst
import PipelineOps.Orchestrator.Fingerprint
import PipelineOps.Orchestrator.Incident
import PipelineOps.Orchestrator.Instants
import PipelineOps.Orchestrator.PipelineMonitoring
import PipelineOps.Orchestrator.PlanContract
import PipelineOps.Orchestrator.SecretClasses
import PipelineOps.Orchestrator.SecretStubs
import PipelineOps.Orchestrator.Secrets
import PipelineOps.Orchestrator.Settings
import PipelineOps.Orchestrator.Time
import PipelineOps.Orchestrator.Timestamps
import PipelineOps.Python.Calendar
import PipelineOps.Python.Datetime
import PipelineOps.Python.Digits
import PipelineOps.Python.IsoCalendar
import PipelineOps.Python.IsoText
import PipelineOps.Python.Json
import PipelineOps.Python.JsonFaults
import PipelineOps.Python.JsonIdentity
import PipelineOps.Python.JsonLines
import PipelineOps.Python.JsonLoaded
import PipelineOps.Python.JsonLoads
import PipelineOps.Python.JsonReading
import PipelineOps.Python.JsonRoundTrip
import PipelineOps.Python.JsonStyle
import PipelineOps.Python.JsonText
import PipelineOps.Python.Printable
import PipelineOps.Python.Sha256
import PipelineOps.Python.Strptime
import PipelineOps.Python.Text
import PipelineOps.Python.Urlencode
import PipelineOps.Python.Value
import PipelineOps.Runtime.AgentRunner
import PipelineOps.Runtime.DailyPolls
import PipelineOps.Runtime.IncidentHistory
import PipelineOps.Runtime.IncidentOutcome
import PipelineOps.Runtime.RunnerLifecycle
import PipelineOps.Runtime.RunnerResources
import PipelineOps.Runtime.Watchdog
import PipelineOps.Scripts.FirstPassCi
import PipelineOps.Scripts.PullsListing
import PipelineOps.Scripts.SudocodeIssues
import PipelineOps.Scripts.WeeklyReport
import PipelineOps.Scripts.WeeklyWindow
import PipelineOps.Tools.AlertDelivery
import PipelineOps.Tools.AlertReading
import PipelineOps.Tools.Alerting
import PipelineOps.Tools.BadRecords
import PipelineOps.Tools.BadRecordsSummary
import PipelineOps.Tools.DailyCap
import PipelineOps.Tools.DatabricksJobs
import PipelineOps.Tools.DayKeys
import PipelineOps.Tools.JobService
import PipelineOps.Tools.JobStatus
import PipelineOps.Tools.LlmAttempts
import PipelineOps.Tools.LlmBudget
import PipelineOps.Tools.LlmClient
import PipelineOps.Tools.PoisonRecords
import PipelineOps.Tools.RetryDiscipline
import PipelineOps.Tools.RunOwnership
import PipelineOps.Tools.SummarySize
import PipelineOps.Yaml.Constructor
import PipelineOps.Yaml.PlainTree
