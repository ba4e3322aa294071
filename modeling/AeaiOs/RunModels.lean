import AeaiOs.Values

/-!
The records of a run: its status, its graph nodes, artifacts, events,
evaluations, workflow jobs, and the checkpoint of its orchestration state.
-/
namespace RunModels
open OrderedDict CivilTime RunValues

inductive RunStatus where
  | pending | queued | running | waitingForApproval | completed | failed
  deriving DecidableEq, Repr

def RunStatus.value : RunStatus → String
  | .pending => "pending"
  | .queued => "queued"
  | .running => "running"
  | .waitingForApproval => "waiting_for_approval"
  | .completed => "completed"
  | .failed => "failed"

def RunStatus.all : List RunStatus :=
  [.pending, .queued, .running, .waitingForApproval, .completed, .failed]

inductive WorkflowJobStatus where
  | queued | running | waitingForApproval | completed | failed | deadLetter | dismissed
  deriving DecidableEq, Repr

def WorkflowJobStatus.value : WorkflowJobStatus → String
  | .queued => "queued"
  | .running => "running"
  | .waitingForApproval => "waiting_for_approval"
  | .completed => "completed"
  | .failed => "failed"
  | .deadLetter => "dead_letter"
  | .dismissed => "dismissed"

def WorkflowJobStatus.all : List WorkflowJobStatus :=
  [.queued, .running, .waitingForApproval, .completed, .failed, .deadLetter, .dismissed]

inductive GraphNodeStatus where
  | pending | running | waitingForApproval | completed | failed | skipped
  deriving DecidableEq, Repr

def GraphNodeStatus.value : GraphNodeStatus → String
  | .pending => "pending"
  | .running => "running"
  | .waitingForApproval => "waiting_for_approval"
  | .completed => "completed"
  | .failed => "failed"
  | .skipped => "skipped"

def GraphNodeStatus.all : List GraphNodeStatus :=
  [.pending, .running, .waitingForApproval, .completed, .failed, .skipped]

inductive ArtifactType where
  | dataset | schemaProfile | qualityReport | kpiTable | chart | dashboard | report | code
  | evaluation | deployment
  deriving DecidableEq, Repr

def ArtifactType.value : ArtifactType → String
  | .dataset => "dataset"
  | .schemaProfile => "schema_profile"
  | .qualityReport => "quality_report"
  | .kpiTable => "kpi_table"
  | .chart => "chart"
  | .dashboard => "dashboard"
  | .report => "report"
  | .code => "code"
  | .evaluation => "evaluation"
  | .deployment => "deployment"

def ArtifactType.all : List ArtifactType :=
  [.dataset, .schemaProfile, .qualityReport, .kpiTable, .chart, .dashboard, .report, .code,
    .evaluation, .deployment]

inductive AgentEventType where
  | audit | toolCall | log | evaluation | approvalRequest | approvalDecision | error
  deriving DecidableEq, Repr

def AgentEventType.value : AgentEventType → String
  | .audit => "audit"
  | .toolCall => "tool_call"
  | .log => "log"
  | .evaluation => "evaluation"
  | .approvalRequest => "approval_request"
  | .approvalDecision => "approval_decision"
  | .error => "error"

structure RunRecord where
  id : String
  task : String
  status : RunStatus
  metadata : PyDict
  createdAt : Time
  updatedAt : Time
  datasetArtifactId : Option String := none
  traceId : Option String := none
  errorSummary : Option String := none

structure WorkflowJobRecord where
  id : String
  runId : String
  workflowName : String
  status : WorkflowJobStatus
  payload : PyDict
  attemptCount : Int
  maxAttempts : Int
  createdAt : Time
  updatedAt : Time
  workerId : Option String := none
  errorSummary : Option String := none
  startedAt : Option Time := none
  finishedAt : Option Time := none
  heartbeatAt : Option Time := none

structure GraphNodeRecord where
  id : String
  runId : String
  agentType : String
  status : GraphNodeStatus
  dependsOn : List String
  requiredTools : List String
  expectedArtifacts : List String
  retryCount : Nat
  createdAt : Time
  updatedAt : Time
  startedAt : Option Time := none
  finishedAt : Option Time := none
  deriving DecidableEq

structure ArtifactRecord where
  id : String
  runId : String
  type : ArtifactType
  uri : String
  metadata : PyDict
  sourceArtifactIds : List String
  createdAt : Time
  producerNodeId : Option String := none
  contentType : Option String := none
  storageBackend : Option String := none
  storageKey : Option String := none
  sizeBytes : Option Int := none

structure AgentEventRecord where
  id : String
  runId : String
  nodeId : String
  eventType : String
  payload : PyDict
  createdAt : Time

structure EvaluationResultRecord where
  id : String
  runId : String
  score : Rat
  passed : Bool
  checks : List PyDict
  createdAt : Option Time := none
  targetArtifactId : Option String := none

structure PlanItem where
  id : String
  agent : String
  task : String
  dependsOn : List String
  requiredTools : List String
  expectedArtifacts : List String
  risk : String
  deriving DecidableEq

/-- A list of texts, or the text that redaction has put in its place. -/
inductive StoredTexts where
  | items (texts : List String)
  | text (value : String)
  deriving DecidableEq

structure LangGraphRunState where
  runId : String
  task : String
  plan : List PlanItem
  pendingNodeIds : List String
  completedNodeIds : List String
  failedNodeIds : List String
  waitingForApprovalNodeId : Option String
  agentOutputs : Dict String PyValue
  artifacts : Dict String StoredTexts
  approvals : Dict String String
  evaluationResults : List PyValue
  errors : Dict String StoredTexts

structure RunCheckpointRecord where
  runId : String
  state : LangGraphRunState
  version : Nat
  createdAt : Time
  updatedAt : Time

end RunModels
