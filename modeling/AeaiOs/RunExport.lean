import AeaiOs.RunOperations

/-!
The export of a run: its records are written into one dictionary, redacted on the way. The
summaries of errors are written as they are stored.
-/
namespace RunArchive
open OrderedDict PyText CivilTime StoreAction Action RunValues RunModels Redaction
open InMemoryRunRepository

section encoders
variable [UnicodeDatabase]

/-- `value.isoformat() if value else None` -/
def optionalTime : Option Time → PyValue
  | none => .none
  | some time => .str (isoformat time)

def runToArchive (run : RunRecord) : Except PyError PyDict := do
  let task ← redactText run.task
  let metadata ← redactEntries run.metadata
  return [
    ("id", .str run.id),
    ("task", .str task),
    ("status", .str run.status.value),
    ("metadata", .dict metadata),
    ("dataset_artifact_id", .ofOption run.datasetArtifactId),
    ("trace_id", .ofOption run.traceId),
    ("error_summary", .ofOption run.errorSummary),
    ("created_at", .str (isoformat run.createdAt)),
    ("updated_at", .str (isoformat run.updatedAt))]

/-- `redact_uri(storage_key) if storage_key else None` -/
def storageKeyToArchive (storageKey : Option String) : Except PyError (Option String) :=
  match storageKey with
  | none => .ok none
  | some key => if key = "" then .ok none else (redactUri key).map some

def optionalInteger : Option Int → PyValue
  | none => .none
  | some n => .int n

def artifactToArchive (artifact : ArtifactRecord) : Except PyError PyDict := do
  let uri ← redactUri artifact.uri
  let metadata ← redactEntries artifact.metadata
  let storageKey ← storageKeyToArchive artifact.storageKey
  return [
    ("id", .str artifact.id),
    ("run_id", .str artifact.runId),
    ("producer_node_id", .ofOption artifact.producerNodeId),
    ("type", .str artifact.type.value),
    ("uri", .str uri),
    ("metadata", .dict metadata),
    ("content_type", .ofOption artifact.contentType),
    ("storage_backend", .ofOption artifact.storageBackend),
    ("storage_key", .ofOption storageKey),
    ("size_bytes", optionalInteger artifact.sizeBytes),
    ("source_artifact_ids", .ofStrings artifact.sourceArtifactIds),
    ("created_at", .str (isoformat artifact.createdAt))]

def graphNodeToArchive (node : GraphNodeRecord) : PyDict :=
  [ ("id", .str node.id),
    ("run_id", .str node.runId),
    ("agent_type", .str node.agentType),
    ("status", .str node.status.value),
    ("depends_on", .ofStrings node.dependsOn),
    ("required_tools", .ofStrings node.requiredTools),
    ("expected_artifacts", .ofStrings node.expectedArtifacts),
    ("retry_count", .int node.retryCount),
    ("started_at", optionalTime node.startedAt),
    ("finished_at", optionalTime node.finishedAt),
    ("created_at", .str (isoformat node.createdAt)),
    ("updated_at", .str (isoformat node.updatedAt))]

def eventToArchive (event : AgentEventRecord) : Except PyError PyDict := do
  let payload ← redactEntries event.payload
  return [
    ("id", .str event.id),
    ("run_id", .str event.runId),
    ("node_id", .str event.nodeId),
    ("event_type", .str event.eventType),
    ("payload", .dict payload),
    ("created_at", .str (isoformat event.createdAt))]

def evaluationToArchive (evaluation : EvaluationResultRecord) : Except PyError PyDict := do
  match evaluation.createdAt with
  | none => .error (.runArchive s!"Evaluation is missing created_at: {evaluation.id}")
  | some createdAt =>
      let checks ← evaluation.checks.mapM redactEntries
      return [
        ("id", .str evaluation.id),
        ("run_id", .str evaluation.runId),
        ("target_artifact_id", .ofOption evaluation.targetArtifactId),
        ("score", .float evaluation.score),
        ("passed", .bool evaluation.passed),
        ("checks", .list (checks.map .dict)),
        ("created_at", .str (isoformat createdAt))]

def workflowJobToArchive (job : WorkflowJobRecord) : Except PyError PyDict := do
  let payload ← redactEntries job.payload
  return [
    ("id", .str job.id),
    ("run_id", .str job.runId),
    ("workflow_name", .str job.workflowName),
    ("status", .str job.status.value),
    ("payload", .dict payload),
    ("attempt_count", .int job.attemptCount),
    ("max_attempts", .int job.maxAttempts),
    ("worker_id", .ofOption job.workerId),
    ("error_summary", .ofOption job.errorSummary),
    ("started_at", optionalTime job.startedAt),
    ("finished_at", optionalTime job.finishedAt),
    ("heartbeat_at", optionalTime job.heartbeatAt),
    ("created_at", .str (isoformat job.createdAt)),
    ("updated_at", .str (isoformat job.updatedAt))]

def checkpointToArchive (checkpoint : CheckpointRecord) : Except PyError PyDict := do
  let state ← redactEntries checkpoint.state
  return [
    ("run_id", .str checkpoint.runId),
    ("version", .int checkpoint.version),
    ("state", .dict state),
    ("created_at", .str (isoformat checkpoint.createdAt)),
    ("updated_at", .str (isoformat checkpoint.updatedAt))]

/-- The dictionaries that an archive is made of. -/
structure ArchiveRecords where
  run : PyDict
  artifacts : List PyDict
  graphNodes : List PyDict
  events : List PyDict
  evaluations : List PyDict
  workflowJobs : List PyDict
  checkpoint : Option PyDict

def optionalDict : Option PyDict → PyValue
  | none => .none
  | some entries => .dict entries

def ArchiveRecords.archive (records : ArchiveRecords) (exportedAt : Time) : PyDict :=
  [ ("schema_version", .str runArchiveSchemaVersion),
    ("exported_at", .str (isoformat exportedAt)),
    ("run", .dict records.run),
    ("artifacts", .list (records.artifacts.map .dict)),
    ("graph_nodes", .list (records.graphNodes.map .dict)),
    ("events", .list (records.events.map .dict)),
    ("evaluations", .list (records.evaluations.map .dict)),
    ("workflow_jobs", .list (records.workflowJobs.map .dict)),
    ("checkpoint", optionalDict records.checkpoint),
    ("notes", .dict
      [("payloads_included", .bool false),
        ("usage",
          .str "Import this archive into a local repository for offline run inspection.")])]

def checkpointOf : Option CheckpointRecord → Except PyError (Option PyDict)
  | none => .ok none
  | some checkpoint => (checkpointToArchive checkpoint).map some

def recordsToArchive (contents : RunContents) (checkpoint : Option CheckpointRecord) :
    Except PyError ArchiveRecords := do
  let run ← runToArchive contents.run
  let artifacts ← contents.artifacts.mapM artifactToArchive
  let events ← contents.events.mapM eventToArchive
  let evaluations ← contents.evaluations.mapM evaluationToArchive
  let workflowJobs ← contents.workflowJobs.mapM workflowJobToArchive
  let checkpoint ← checkpointOf checkpoint
  return { run, artifacts, graphNodes := contents.graphNodes.map graphNodeToArchive, events
           evaluations, workflowJobs, checkpoint }

end encoders

/-! The listings of a run. -/

def listArtifacts (runId : String) : RepoM (List ArtifactRecord) := do
  let _ ← getRun runId
  let repo ← read
  return (repo.artifacts.get? runId).getD []

def listEvents (runId : String) : RepoM (List AgentEventRecord) := do
  let _ ← getRun runId
  let repo ← read
  return (repo.events.get? runId).getD []

def listEvaluations (runId : String) : RepoM (List EvaluationResultRecord) := do
  let _ ← getRun runId
  let repo ← read
  return (repo.evaluations.get? runId).getD []

/-- The checkpoint of a run, `None` if `get_checkpoint` finds none. -/
def checkpointOrNone (runId : String) : StoreM (Option CheckpointRecord) := fun store =>
  match getCheckpoint runId store with
  | (.ok checkpoint, store') => (.ok (some checkpoint), store')
  | (.error (.runCheckpointNotFound _), store') => (.ok none, store')
  | (.error e, store') => (.error e, store')

/-- The listings raise for an unknown run only, so they are all read before the first record
    is written. -/
def exportRunArchive [UnicodeDatabase] (runId : String) (exportedAt : Time) : StoreM PyDict := do
  let run ← inRepo (getRun runId)
  let checkpoint ← checkpointOrNone runId
  let artifacts ← inRepo (listArtifacts runId)
  let graphNodes ← inRepo (listGraphNodes runId)
  let events ← inRepo (listEvents runId)
  let evaluations ← inRepo (listEvaluations runId)
  let workflowJobs ← inRepo (listWorkflowJobs (some runId) none)
  let records ← ofExcept <|
    recordsToArchive
      { run, artifacts, graphNodes, events, evaluations, workflowJobs, checkpoint := none } checkpoint
  return records.archive exportedAt

/-- All that the repository has of a run. -/
def RunStore.contentsOf (store : RunStore) (run : RunRecord) (runId : String) : RunContents where
  run := run
  artifacts := (store.repo.artifacts.get? runId).getD []
  graphNodes := store.repo.nodesOf runId
  events := (store.repo.events.get? runId).getD []
  evaluations := (store.repo.evaluations.get? runId).getD []
  workflowJobs := store.repo.jobsInOrder.filter fun job => decide (job.runId = runId)

theorem checkpointOrNone_run {store : RunStore} {runId : String} {run : RunRecord}
    (stored : store.repo.runs.get? runId = some run) :
    checkpointOrNone runId store = (.ok (store.checkpoints.get? runId), store) := by
  unfold checkpointOrNone getCheckpoint
  simp only [bind_run, inRepo_run, getRun_run, stored, found_some, read_run, ofExcept_run]
  cases store.checkpoints.get? runId <;> rfl

theorem exportRunArchive_run [UnicodeDatabase] {store : RunStore} {runId : String}
    {run : RunRecord} (stored : store.repo.runs.get? runId = some run) (exportedAt : Time) :
    exportRunArchive runId exportedAt store =
      ((recordsToArchive (store.contentsOf run runId) (store.checkpoints.get? runId)).map
        fun records => records.archive exportedAt, store) := by
  simp only [exportRunArchive, bind_run, inRepo_run, getRun_run, stored, found_some,
    checkpointOrNone_run stored, listArtifacts, listGraphNodes, listEvents, listEvaluations,
    listWorkflowJobs, read_run, pure_run, ofExcept_run, Option.all_some, Option.all_none,
    Bool.and_true]
  unfold RunStore.contentsOf
  cases recordsToArchive _ (store.checkpoints.get? runId) <;> rfl

end RunArchive
