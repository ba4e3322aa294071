import AeaiOs.JobTable
import AeaiOs.RunArchive

/-!
The in-memory repository as a whole: the methods that neither workers nor the orchestrator
call, and every method as one operation on it. The state of a checkpoint is here the
dictionary that it is, of whatever shape.
-/
namespace RunArchive
open OrderedDict PyText CivilTime StoreAction Action RunValues RunModels Redaction
open InMemoryRunRepository

structure CheckpointRecord where
  runId : String
  state : PyDict
  version : Nat
  createdAt : Time
  updatedAt : Time

structure RunStore where
  repo : Repo
  checkpoints : Dict String CheckpointRecord

def RunStore.init : RunStore := ⟨.init, .empty⟩

abbrev StoreM (α : Type) : Type := Action RunStore PyError α

/-- A method that touches no checkpoint. -/
def inRepo (method : RepoM α) : StoreM α := fun store =>
  ((method store.repo).1, { store with repo := (method store.repo).2 })

@[simp] theorem inRepo_run (method : RepoM α) (store : RunStore) :
    inRepo method store = ((method store.repo).1, { store with repo := (method store.repo).2 }) :=
  rfl

section methods
variable [PyRuntime]

/-- `_optional_string` -/
def optionalString (value : PyValue) : Option String :=
  match value with
  | .none => none
  | value => if strip value.text = "" then none else some (strip value.text)

/-- `_optional_int` -/
def optionalInt (value : PyValue) : Option Int :=
  match value with
  | .none => none
  | .str "" => none
  | value => value.toInt.toOption

/-- `given or other` -/
def orText (given other : Option String) : Option String :=
  if given = none ∨ given = some "" then other else given

structure StorageMetadata where
  contentType : Option String
  storageBackend : Option String
  storageKey : Option String
  sizeBytes : Option Int

/-- `_artifact_storage_metadata` -/
def artifactStorageMetadata (metadata : PyDict)
    (contentType storageBackend storageKey : Option String) (sizeBytes : Option Int) :
    Except PyError StorageMetadata := do
  let resolved := orText storageKey (optionalString (optional metadata "storage_key"))
  let storageKey ← match resolved with
    | some key => (redactUri key).map some
    | none => .ok none
  return {
    contentType := orText contentType (optionalString (optional metadata "content_type"))
    storageBackend := orText storageBackend (optionalString (optional metadata "storage_backend"))
    storageKey
    sizeBytes := if sizeBytes = none then optionalInt (optional metadata "size_bytes") else sizeBytes }

/-- The arguments of `add_artifact`. -/
structure ArtifactArguments where
  runId : String
  artifactType : ArtifactType
  uri : String
  metadata : PyDict := []
  sourceArtifactIds : List String := []
  producerNodeId : Option String := none
  artifactId : Option String := none
  contentType : Option String := none
  storageBackend : Option String := none
  storageKey : Option String := none
  sizeBytes : Option Int := none

def addArtifact (given : ArtifactArguments) (fresh : String) (createdAt now : Time) :
    RepoM ArtifactRecord := do
  let _ ← getRun given.runId
  let metadata ← ofExcept (redactEntries given.metadata)
  let storage ← ofExcept <|
    artifactStorageMetadata metadata given.contentType given.storageBackend given.storageKey
      given.sizeBytes
  let uri ← ofExcept (redactUri given.uri)
  recordArtifact
    { id := (orText given.artifactId none).getD ("artifact_" ++ fresh)
      runId := given.runId
      producerNodeId := given.producerNodeId
      type := given.artifactType
      uri
      metadata
      sourceArtifactIds := given.sourceArtifactIds
      createdAt
      contentType := storage.contentType
      storageBackend := storage.storageBackend
      storageKey := storage.storageKey
      sizeBytes := storage.sizeBytes } now

/-- What a tracing backend answers to a logged evaluation. -/
structure LogResult where
  status : String
  message : Option String

def messageEntry (key : String) (result : LogResult) : PyDict :=
  match orText result.message none with
  | some message => [(key, .str message)]
  | none => []

/-- `_evaluation_event`. Its payload is stored as it is made here. -/
def evaluationEvent (record : EvaluationResultRecord) (traceId : Option String)
    (mlflow langsmith : LogResult) (fresh : String) (stamp createdAt : Time) : AgentEventRecord where
  id := "event_" ++ fresh
  runId := record.runId
  nodeId := "evaluation"
  eventType := AgentEventType.evaluation.value
  payload :=
    [("message", .str "Evaluation result logged."), ("backend", .str "opentelemetry"),
      ("mlflow_status", .str mlflow.status), ("langsmith_status", .str langsmith.status),
      ("evaluation_id", .str record.id), ("target_artifact_id", .ofOption record.targetArtifactId),
      ("score", .float record.score), ("passed", .bool record.passed),
      ("check_count", .int record.checks.length), ("trace_id", .ofOption traceId),
      ("timestamp", .str (isoformat stamp))] ++
      messageEntry "mlflow_message" mlflow ++ messageEntry "langsmith_message" langsmith
  createdAt

/-- `now`, `stamp` and `recorded` are the three readings of the clock. -/
def addEvaluation (evaluation : EvaluationResultRecord) (mlflow langsmith : LogResult)
    (fresh : String) (now stamp recorded : Time) : RepoM EvaluationResultRecord := do
  let run ← getRun evaluation.runId
  let checks ← ofExcept (evaluation.checks.mapM redactEntries)
  let record := { evaluation with checks, createdAt := some (evaluation.createdAt.getD now) }
  change fun repo =>
    { repo with
      evaluations := repo.evaluations.set evaluation.runId
        ((repo.evaluations.get? evaluation.runId).getD [] ++ [record]) }
  change fun repo =>
    repo.appendEvent (evaluationEvent record run.traceId mlflow langsmith fresh stamp recorded)
  return record

def saveCheckpoint (runId : String) (state : PyDict) (now : Time) : StoreM CheckpointRecord := do
  let _ ← inRepo (getRun runId)
  let store ← read
  let existing := store.checkpoints.get? runId
  let state ← ofExcept (redactEntries state)
  let checkpoint : CheckpointRecord :=
    { runId, state
      version := (existing.map fun old => old.version + 1).getD 1
      createdAt := (existing.map CheckpointRecord.createdAt).getD now
      updatedAt := now }
  change fun store => { store with checkpoints := store.checkpoints.set runId checkpoint }
  return checkpoint

omit [PyRuntime] in
def getCheckpoint (runId : String) : StoreM CheckpointRecord := do
  let _ ← inRepo (getRun runId)
  let store ← read
  ofExcept (found (store.checkpoints.get? runId) (.runCheckpointNotFound runId))

omit [PyRuntime] in
def restoredWith (checkpoint : Option CheckpointRecord) (runId : String)
    (checkpoints : Dict String CheckpointRecord) : Dict String CheckpointRecord :=
  match checkpoint with
  | some record => checkpoints.set runId record
  | none => checkpoints.erase runId

/-- `restore_run`, with the checkpoint beside the other records. -/
def restoreRun (contents : RunContents) (checkpoint : Option CheckpointRecord) :
    StoreM RunRecord := do
  let run ← inRepo (InMemoryRunRepository.restoreRun { contents with checkpoint := none })
  change fun store =>
    { store with checkpoints := restoredWith checkpoint contents.run.id store.checkpoints }
  return run

end methods

/-! Every method that writes, with the arguments that its callers choose, the clock readings
and the identifiers that it draws. -/

inductive Operation where
  | createRun (task : String) (metadata : PyDict) (traceId : Option String) (fresh trace : String)
      (now : Time)
  | restoreRun (contents : RunContents) (checkpoint : Option CheckpointRecord)
  | updateStatus (runId : String) (status : RunStatus) (errorSummary : Option String) (now : Time)
  | enqueueWorkflowJob (runId workflowName : String) (payload : PyDict) (maxAttempts : Int)
      (jobId : Option String) (status : WorkflowJobStatus) (fresh : String) (now : Time)
  | updateWorkflowJobResult (jobId : String) (status : WorkflowJobStatus)
      (payload : Option PyDict) (errorSummary : Option String) (now : Time)
  | claimNextWorkflowJob (workerId : String) (workflowName : Option String)
      (staleAfterSeconds : Option Int) (recoveredAt now : Time)
  | claimWorkflowJob (jobId workerId : String) (staleAfterSeconds : Option Int)
      (recoveredAt now : Time)
  | heartbeatWorkflowJob (jobId workerId : String) (now : Time)
  | completeWorkflowJob (jobId : String) (workerId : Option String) (now : Time)
  | failWorkflowJob (jobId errorSummary : String) (retry : Bool) (workerId : Option String)
      (now : Time)
  | retryDeadLetterWorkflowJob (jobId : String) (reason : Option String) (now : Time)
  | dismissDeadLetterWorkflowJob (jobId : String) (reason : Option String) (now : Time)
  | recoverTimedOutWorkflowJobs (timeoutSeconds : Int) (workflowName : Option String) (now : Time)
  | addArtifact (given : ArtifactArguments) (fresh : String) (createdAt now : Time)
  | upsertGraphNode (node : GraphNodeRecord)
  | addEvent (event : AgentEventRecord)
  | addEvaluation (evaluation : EvaluationResultRecord) (mlflow langsmith : LogResult)
      (fresh : String) (now stamp recorded : Time)
  | saveCheckpoint (runId : String) (state : PyDict) (now : Time)

section operations
variable [PyRuntime]

/-- What the operation leaves, whether it returns or raises. -/
def Operation.perform (operation : Operation) (store : RunStore) : RunStore :=
  let after {α : Type} (method : RepoM α) : RunStore :=
    { store with repo := (method store.repo).2 }
  match operation with
  | .createRun task metadata traceId fresh trace now =>
      after (InMemoryRunRepository.createRun task metadata traceId fresh trace now)
  | .restoreRun contents checkpoint => (RunArchive.restoreRun contents checkpoint store).2
  | .updateStatus runId status errorSummary now =>
      after (InMemoryRunRepository.updateStatus runId status errorSummary now)
  | .enqueueWorkflowJob runId workflowName payload maxAttempts jobId status fresh now =>
      after (InMemoryRunRepository.enqueueWorkflowJob runId workflowName payload maxAttempts jobId
        status fresh now)
  | .updateWorkflowJobResult jobId status payload errorSummary now =>
      after (InMemoryRunRepository.updateWorkflowJobResult jobId status payload errorSummary now)
  | .claimNextWorkflowJob workerId workflowName staleAfterSeconds recoveredAt now =>
      after (InMemoryRunRepository.claimNextWorkflowJob workerId workflowName staleAfterSeconds
        recoveredAt now)
  | .claimWorkflowJob jobId workerId staleAfterSeconds recoveredAt now =>
      after (InMemoryRunRepository.claimWorkflowJob jobId workerId staleAfterSeconds recoveredAt
        now)
  | .heartbeatWorkflowJob jobId workerId now =>
      after (InMemoryRunRepository.heartbeatWorkflowJob jobId workerId now)
  | .completeWorkflowJob jobId workerId now =>
      after (InMemoryRunRepository.completeWorkflowJob jobId workerId now)
  | .failWorkflowJob jobId errorSummary retry workerId now =>
      after (InMemoryRunRepository.failWorkflowJob jobId errorSummary retry workerId now)
  | .retryDeadLetterWorkflowJob jobId reason now =>
      after (InMemoryRunRepository.retryDeadLetterWorkflowJob jobId reason now)
  | .dismissDeadLetterWorkflowJob jobId reason now =>
      after (InMemoryRunRepository.dismissDeadLetterWorkflowJob jobId reason now)
  | .recoverTimedOutWorkflowJobs timeoutSeconds workflowName now =>
      after (InMemoryRunRepository.recoverTimedOutWorkflowJobs timeoutSeconds workflowName now)
  | .addArtifact given fresh createdAt now =>
      after (RunArchive.addArtifact given fresh createdAt now)
  | .upsertGraphNode node => after (InMemoryRunRepository.upsertGraphNode node)
  | .addEvent event => after (InMemoryRunRepository.addEvent event)
  | .addEvaluation evaluation mlflow langsmith fresh now stamp recorded =>
      after (RunArchive.addEvaluation evaluation mlflow langsmith fresh now stamp recorded)
  | .saveCheckpoint runId state now => (RunArchive.saveCheckpoint runId state now store).2

/-- The repositories that sequences of admitted operations reach from the empty one. -/
inductive Reached (admitted : Operation → Prop) : RunStore → Prop where
  | init : Reached admitted .init
  | step {store : RunStore} (reached : Reached admitted store) {operation : Operation}
      (allowed : admitted operation) : Reached admitted (operation.perform store)

end operations
end RunArchive
