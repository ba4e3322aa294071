import AeaiOs.Lib.OrderedDict
import AeaiOs.Lib.HalfEven
import AeaiOs.Lib.GroupSums
import AeaiOs.Lib.AtomicProgram
import AeaiOs.Lib.RowTransactions
import AeaiOs.Lib.BacktrackRegex
import AeaiOs.Lib.UrlSplit
import AeaiOs.Lib.UrlQuoting
import AeaiOs.Lib.UrlParts
import AeaiOs.Lib.TextSwaps
import AeaiOs.Lib.CivilTime
import AeaiOs.Lib.IsoText
import AeaiOs.Values
import AeaiOs.Redaction
import AeaiOs.RunModels
import AeaiOs.ExecutionGraph
import AeaiOs.Lib.DepthFirst
import AeaiOs.GraphValidation
import AeaiOs.RunState
import AeaiOs.RunRepository
import AeaiOs.JobLifecycle
import AeaiOs.SqlJobStore
import AeaiOs.ToolPolicy
import AeaiOs.World
import AeaiOs.Orchestrator
import AeaiOs.QuietSteps
import AeaiOs.CallProtocol
import AeaiOs.ControlView
import AeaiOs.ProtocolKept
import AeaiOs.CheckpointRoundTrip
import AeaiOs.ProtocolStore
import AeaiOs.ControlCalls
import AeaiOs.ToolGate
import AeaiOs.PolicyDefaults
import AeaiOs.PolicyLaws
import AeaiOs.PolicyVerdicts
import AeaiOs.NodeRecords
import AeaiOs.JobTable
import AeaiOs.WorkflowQueue
import AeaiOs.SqlRepository
import AeaiOs.RepositoryAgreement
import AeaiOs.RunArchive
import AeaiOs.ArchiveConfinement
import AeaiOs.RunOperations
import AeaiOs.StoredTexts
import AeaiOs.RunLimits
import AeaiOs.RunExport
import AeaiOs.ExportRedaction
import AeaiOs.ExportRoundTrip
import AeaiOs.NodeMoves
import AeaiOs.NodeWalk
import AeaiOs.CallWalk
import AeaiOs.CallRuns
import AeaiOs.CallTrace
import AeaiOs.CallLaws
import AeaiOs.CallAgreement
import AeaiOs.CallProgress
import AeaiOs.CallOutcome
import AeaiOs.DataSources
import AeaiOs.MonitorStore
import AeaiOs.MonitorSchedule
import AeaiOs.MonitorBaseline
import AeaiOs.AiReview
import AeaiOs.MonitorEngine
import AeaiOs.RiskRules
import AeaiOs.RiskScans
import AeaiOs.RiskLedger
import AeaiOs.RiskResume
import AeaiOs.RiskLeases
import AeaiOs.AnalysisPlan
import AeaiOs.MoneyParsers
import AeaiOs.ProcurementAnalysis
import AeaiOs.Lib.ExceptLists
import AeaiOs.Reconciliation
import AeaiOs.VerifiedVerdict
import AeaiOs.AnalysisRuns
import AeaiOs.HonestAnalysis
import AeaiOs.StreamedSummary
import AeaiOs.StreamedTotals
import AeaiOs.StreamedAgreement
import AeaiOs.Lib.SqlText
import AeaiOs.WarehouseQueries
import AeaiOs.Lib.PosixPath
import AeaiOs.ArtifactStore
import AeaiOs.HarmlessUris
import AeaiOs.ArtifactUris
import AeaiOs.DatasetUris
import AeaiOs.RedactionErrors
import AeaiOs.RiskCrashes
import AeaiOs.RiskProgress
import AeaiOs.WarehouseSums
import AeaiOs.ImportFailures
import AeaiOs.Lib.LeastSquares
import AeaiOs.Forecast
import AeaiOs.CalendarForecast
import AeaiOs.ForecastBounds
import AeaiOs.Lib.JsonText
import AeaiOs.SourceCatalog
import AeaiOs.CatalogRoundTrip
import AeaiOs.Lib.Checked64
import AeaiOs.RiskArithmetic
import AeaiOs.Lineage
import AeaiOs.Metrics
import AeaiOs.Authentication
import AeaiOs.UsageLedger
import AeaiOs.UsageTracker
import AeaiOs.LlmGateway
import AeaiOs.Lib.OrderStatistics
import AeaiOs.Anomalies
import AeaiOs.AnomalyLaws
import AeaiOs.Lib.LabelledGroups
import AeaiOs.AnalystTools
import AeaiOs.AnalystGroups
import AeaiOs.Lib.CursorPages
import AeaiOs.Lib.Sessions
import AeaiOs.Ingestion
import AeaiOs.IngestionCalls
import AeaiOs.IngestionLaws
import AeaiOs.IngestionMirror
import AeaiOs.MonthlyCap
import AeaiOs.Lib.ProgramPool
import AeaiOs.Deployments
import AeaiOs.DeploymentCalls
import AeaiOs.DeploymentStore
import AeaiOs.DeploymentDecisions
