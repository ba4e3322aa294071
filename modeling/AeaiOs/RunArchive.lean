import AeaiOs.JobTable
import AeaiOs.SqlRepository

/-!
Run archives and their import. The archive is JSON from the caller; each of its
records carries an id and a run id of its own.
-/
namespace RunArchive
open OrderedDict CivilTime StoreAction Action RunValues RunModels
open InMemoryRunRepository (Repo RepoM RunContents)

/-- What the standard library reads texts as, and a checkpoint's state as the typed
    record. -/
class ArchiveRuntime extends PyRuntime where
  fromisoformat : String → Option Time
  floatOf : String → Option Rat
  stateOf : PyDict → LangGraphRunState

def runArchiveSchemaVersion : String := "aeai.run_archive.v1"

section fields
variable [ArchiveRuntime]

/-- `payload[key]` -/
def required (payload : PyDict) (key : String) : Except PyError PyValue :=
  match lookupEntries payload key with
  | some value => .ok value
  | none => .error (.keyError key)

/-- `payload.get(key)` -/
def optional (payload : PyDict) (key : String) : PyValue :=
  (lookupEntries payload key).getD .none

/-- `str(payload[key])` -/
def requiredText (payload : PyDict) (key : String) : Except PyError String :=
  (required payload key).map PyValue.text

/-- The member of an enumeration with a value. -/
def memberOf (all : List α) (value : α → String) (text : String) : Except PyError α :=
  match all.find? fun member => value member = text with
  | some member => .ok member
  | none => .error (.valueError "not a valid member")

def parseDatetime (value : PyValue) : Except PyError Time :=
  match ArchiveRuntime.fromisoformat value.text with
  | some time => .ok time
  | none => .error (.runArchive s!"Invalid datetime in archive: {value.text}")

def requiredTime (payload : PyDict) (key : String) : Except PyError Time := do
  parseDatetime (← required payload key)

/-- `value in {None, ""}` hashes the value, which a list or a dictionary refuses. -/
def parseOptionalDatetime : PyValue → Except PyError (Option Time)
  | .none => .ok none
  | .str "" => .ok none
  | .list _ => .error .typeError
  | .dict _ => .error .typeError
  | value => (parseDatetime value).map some

/-! A field of a record is typed here: a value that its annotation does not admit,
which Python would store unread, is refused. -/

/-- `payload.get(key)` of an optional text. -/
def textAt (payload : PyDict) (key : String) : Except PyError (Option String) :=
  match optional payload key with
  | .none => .ok none
  | .str text => .ok (some text)
  | _ => .error .typeError

def intAt (payload : PyDict) (key : String) : Except PyError (Option Int) :=
  match optional payload key with
  | .none => .ok none
  | .int n => .ok (some n)
  | _ => .error .typeError

/-- `payload.get(key) or {}` -/
def dictAt (payload : PyDict) (key : String) : Except PyError PyDict :=
  if (optional payload key).truthy then
    match optional payload key with
    | .dict entries => .ok entries
    | _ => .error .typeError
  else .ok []

def textItem : PyValue → Except PyError String
  | .str text => .ok text
  | _ => .error .typeError

def dictItem : PyValue → Except PyError PyDict
  | .dict entries => .ok entries
  | _ => .error .typeError

/-- `list(payload.get(key) or [])` -/
def itemsAt (payload : PyDict) (key : String) : Except PyError (List PyValue) :=
  if (optional payload key).truthy then PyValue.toList (optional payload key) else .ok []

def textsAt (payload : PyDict) (key : String) : Except PyError (List String) := do
  (← itemsAt payload key).mapM textItem

/-- `int(payload.get(key) or default)` -/
def countAt (payload : PyDict) (key : String) (default : Int) : Except PyError Int :=
  if (optional payload key).truthy then PyValue.toInt (optional payload key) else .ok default

def naturalAt (payload : PyDict) (key : String) (default : Int) : Except PyError Nat := do
  let count ← countAt payload key default
  if count < 0 then .error .typeError else return count.toNat

/-- `float(payload[key])` -/
def floatAt (payload : PyDict) (key : String) : Except PyError Rat := do
  match ← required payload key with
  | .bool b => return if b then 1 else 0
  | .int n => return n
  | .float q => return q
  | .str text =>
      match ArchiveRuntime.floatOf text with
      | some q => return q
      | none => .error (.valueError "could not convert string to float")
  | _ => .error .typeError

/-! The records. -/

def runFromArchive (payload : PyDict) : Except PyError RunRecord := do
  let id ← requiredText payload "id"
  let task ← requiredText payload "task"
  let status ← memberOf RunStatus.all RunStatus.value (← requiredText payload "status")
  let metadata ← dictAt payload "metadata"
  let datasetArtifactId ← textAt payload "dataset_artifact_id"
  let traceId ← textAt payload "trace_id"
  let errorSummary ← textAt payload "error_summary"
  let createdAt ← requiredTime payload "created_at"
  let updatedAt ← requiredTime payload "updated_at"
  return { id, task, status, metadata, datasetArtifactId, traceId, errorSummary, createdAt, updatedAt }

def artifactFromArchive (payload : PyDict) : Except PyError ArtifactRecord := do
  let id ← requiredText payload "id"
  let runId ← requiredText payload "run_id"
  let producerNodeId ← textAt payload "producer_node_id"
  let type ← memberOf ArtifactType.all ArtifactType.value (← requiredText payload "type")
  let uri ← requiredText payload "uri"
  let metadata ← dictAt payload "metadata"
  let contentType ← textAt payload "content_type"
  let storageBackend ← textAt payload "storage_backend"
  let storageKey ← textAt payload "storage_key"
  let sizeBytes ← intAt payload "size_bytes"
  let sourceArtifactIds ← textsAt payload "source_artifact_ids"
  let createdAt ← requiredTime payload "created_at"
  return { id, runId, producerNodeId, type, uri, metadata, contentType, storageBackend, storageKey
           sizeBytes, sourceArtifactIds, createdAt }

def graphNodeFromArchive (payload : PyDict) : Except PyError GraphNodeRecord := do
  let id ← requiredText payload "id"
  let runId ← requiredText payload "run_id"
  let agentType ← requiredText payload "agent_type"
  let status ← memberOf GraphNodeStatus.all GraphNodeStatus.value (← requiredText payload "status")
  let dependsOn ← textsAt payload "depends_on"
  let requiredTools ← textsAt payload "required_tools"
  let expectedArtifacts ← textsAt payload "expected_artifacts"
  let retryCount ← naturalAt payload "retry_count" 0
  let startedAt ← parseOptionalDatetime (optional payload "started_at")
  let finishedAt ← parseOptionalDatetime (optional payload "finished_at")
  let createdAt ← requiredTime payload "created_at"
  let updatedAt ← requiredTime payload "updated_at"
  return { id, runId, agentType, status, dependsOn, requiredTools, expectedArtifacts, retryCount
           startedAt, finishedAt, createdAt, updatedAt }

def eventFromArchive (payload : PyDict) : Except PyError AgentEventRecord := do
  let id ← requiredText payload "id"
  let runId ← requiredText payload "run_id"
  let nodeId ← requiredText payload "node_id"
  let eventType ← requiredText payload "event_type"
  let details ← dictAt payload "payload"
  let createdAt ← requiredTime payload "created_at"
  return { id, runId, nodeId, eventType, payload := details, createdAt }

def evaluationFromArchive (payload : PyDict) : Except PyError EvaluationResultRecord := do
  let id ← requiredText payload "id"
  let runId ← requiredText payload "run_id"
  let targetArtifactId ← textAt payload "target_artifact_id"
  let score ← floatAt payload "score"
  let passed ← required payload "passed"
  let checks ← (← itemsAt payload "checks").mapM dictItem
  let createdAt ← requiredTime payload "created_at"
  return { id, runId, targetArtifactId, score, passed := passed.truthy, checks
           createdAt := some createdAt }

def workflowJobFromArchive (payload : PyDict) : Except PyError WorkflowJobRecord := do
  let id ← requiredText payload "id"
  let runId ← requiredText payload "run_id"
  let workflowName ← requiredText payload "workflow_name"
  let status ←
    memberOf WorkflowJobStatus.all WorkflowJobStatus.value (← requiredText payload "status")
  let details ← dictAt payload "payload"
  let attemptCount ← countAt payload "attempt_count" 0
  let maxAttempts ← countAt payload "max_attempts" 1
  let workerId ← textAt payload "worker_id"
  let errorSummary ← textAt payload "error_summary"
  let startedAt ← parseOptionalDatetime (optional payload "started_at")
  let finishedAt ← parseOptionalDatetime (optional payload "finished_at")
  let heartbeatAt ← parseOptionalDatetime (optional payload "heartbeat_at")
  let createdAt ← requiredTime payload "created_at"
  let updatedAt ← requiredTime payload "updated_at"
  return { id, runId, workflowName, status, payload := details, attemptCount, maxAttempts, workerId
           errorSummary, startedAt, finishedAt, heartbeatAt, createdAt, updatedAt }

def checkpointFromArchive (payload : PyDict) : Except PyError RunCheckpointRecord := do
  let runId ← requiredText payload "run_id"
  let state ← dictAt payload "state"
  let version ← naturalAt payload "version" 1
  let createdAt ← requiredTime payload "created_at"
  let updatedAt ← requiredTime payload "updated_at"
  return { runId, state := ArchiveRuntime.stateOf state, version, createdAt, updatedAt }

def requiredMapping (payload : PyDict) (key : String) : Except PyError PyDict :=
  match optional payload key with
  | .dict entries => .ok entries
  | _ => .error (.runArchive s!"Run archive is missing object: {key}")

/-- `[from_archive(item) for item in archive.get(key, [])]` -/
def recordsAt (archive : PyDict) (key : String) (fromArchive : PyDict → Except PyError α) :
    Except PyError (List α) := do
  let items ← PyValue.toList ((lookupEntries archive key).getD (.list []))
  items.mapM fun item => do fromArchive (← dictItem item)

def contentsFromArchive (run : RunRecord) (archive : PyDict) : Except PyError RunContents := do
  let artifacts ← recordsAt archive "artifacts" artifactFromArchive
  let graphNodes ← recordsAt archive "graph_nodes" graphNodeFromArchive
  let events ← recordsAt archive "events" eventFromArchive
  let evaluations ← recordsAt archive "evaluations" evaluationFromArchive
  let workflowJobs ← recordsAt archive "workflow_jobs" workflowJobFromArchive
  let checkpoint ←
    if (optional archive "checkpoint").truthy then
      some <$> (dictItem (optional archive "checkpoint") >>= checkpointFromArchive)
    else pure none
  return { run, artifacts, graphNodes, events, evaluations, workflowJobs, checkpoint }

/-- `get_run` must raise `RunNotFoundError`, unless the import may overwrite. -/
def refuseExisting {σ : Type} (getRun : String → Action σ PyError RunRecord) (runId : String)
    (overwrite : Bool) : Action σ PyError Unit := fun s =>
  match getRun runId s with
  | (.ok _, s') => if overwrite then (.ok (), s') else (.error (.runArchiveConflict runId), s')
  | (.error (.runNotFound _), s') => (.ok (), s')
  | (.error e, s') => (.error e, s')

/-- The import into a repository, given by its `get_run` and `restore_run`. -/
def importRunArchive {σ : Type} (getRun : String → Action σ PyError RunRecord)
    (restoreRun : RunContents → Action σ PyError RunRecord) (archive : PyDict)
    (overwrite : Bool) : Action σ PyError RunRecord := do
  match optional archive "schema_version" with
  | .str version =>
      if version = runArchiveSchemaVersion then
        let run ← ofExcept (requiredMapping archive "run" >>= runFromArchive)
        refuseExisting getRun run.id overwrite
        let contents ← ofExcept (contentsFromArchive run archive)
        restoreRun contents
      else raise (.runArchive s!"Unsupported run archive schema version: {version}")
  | version => raise (.runArchive s!"Unsupported run archive schema version: {version.text}")

/-- The records of an archive. -/
def readArchive (archive : PyDict) : Except PyError RunContents := do
  let run ← requiredMapping archive "run" >>= runFromArchive
  contentsFromArchive run archive

end fields
end RunArchive
