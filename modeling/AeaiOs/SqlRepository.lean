import AeaiOs.SqlJobStore

/-!
The SQL run repository for callers that take turns. Every method is one session:
what it has written is kept if it commits, and is rolled back if it raises. The
rows are the records themselves; the database returns what was stored.
-/
namespace SqlRepository
open OrderedDict PyText CivilTime StoreAction Action RunValues RunModels Redaction
open InMemoryRunRepository (found ensureOwnedByOptional claimedJob normalizedWorkflow cutoffTime
  timeoutSummary withReason RunContents)
open SqlJobStore (failedRow inWorkflow)

/-- The tables by their primary keys, each in the order of its insertions. -/
structure Tables where
  runs : Dict String RunRecord
  artifacts : Dict String ArtifactRecord
  graphNodes : Dict (String × String) GraphNodeRecord
  events : Dict String AgentEventRecord
  evaluations : Dict String EvaluationResultRecord
  checkpoints : Dict String RunCheckpointRecord
  workflowJobs : Dict String WorkflowJobRecord

def Tables.init : Tables := ⟨.empty, .empty, .empty, .empty, .empty, .empty, .empty⟩

abbrev SqlM (α : Type) : Type := Action Tables PyError α

/-- A session that raises before its commit leaves nothing behind. -/
def transaction (body : SqlM α) : SqlM α := fun tables =>
  match body tables with
  | (.ok value, tables') => (.ok value, tables')
  | (.error e, _) => (.error e, tables)

/-- An `INSERT`; a primary key that is taken is refused. -/
def insertRow [DecidableEq κ] (key : κ) (row : δ) (table : Dict κ δ) :
    Except PyError (Dict κ δ) :=
  if (table.get? key).isSome then .error .integrityError else .ok (table.set key row)

def insertRows [DecidableEq κ] (key : δ → κ) : List δ → Dict κ δ → Except PyError (Dict κ δ)
  | [], table => .ok table
  | row :: rest, table => do
      let table ← insertRow (key row) row table
      insertRows key rest table

/-- The rows that a test selects, by creation time. -/
def selectByCreation (createdAt : δ → Time) (wanted : δ → Bool) (table : Dict κ δ) :
    List (κ × δ) :=
  (table.entries.filter fun entry => wanted entry.2).mergeSort fun a b =>
    decide (createdAt a.2 ≤ createdAt b.2)

def getRunModel (runId : String) : SqlM RunRecord := do
  let tables ← read
  ofExcept (found (tables.runs.get? runId) (.runNotFound runId))

def getWorkflowJobModel (jobId : String) : SqlM WorkflowJobRecord := do
  let tables ← read
  ofExcept (found (tables.workflowJobs.get? jobId) (.workflowJobNotFound jobId))

@[simp] theorem getRunModel_run (runId : String) (tables : Tables) :
    getRunModel runId tables =
      (found (tables.runs.get? runId) (.runNotFound runId), tables) := by
  simp [getRunModel, bind_run]

@[simp] theorem getWorkflowJobModel_run (jobId : String) (tables : Tables) :
    getWorkflowJobModel jobId tables =
      (found (tables.workflowJobs.get? jobId) (.workflowJobNotFound jobId), tables) := by
  simp [getWorkflowJobModel, bind_run]

def storeRun (run : RunRecord) : SqlM Unit :=
  change fun tables => { tables with runs := tables.runs.set run.id run }

def storeJob (jobId : String) (job : WorkflowJobRecord) : SqlM Unit :=
  change fun tables => { tables with workflowJobs := tables.workflowJobs.set jobId job }

section methods
variable [PyRuntime]

def createRun (task : String) (metadata : PyDict) (traceId : Option String)
    (fresh trace : String) (now : Time) : SqlM RunRecord := transaction do
  let normalizedTask := strip task
  if normalizedTask.length < 3 then
    raise (.valueError "Task must contain at least 3 non-whitespace characters.")
  else
    let metadata ← ofExcept (redactEntries metadata)
    let named := strip (traceId.getD "")
    let run : RunRecord :=
      { id := "run_" ++ fresh, task := normalizedTask, status := .pending, metadata
        createdAt := now, updatedAt := now
        traceId := some (if named = "" then trace else named) }
    let tables ← read
    let runs ← ofExcept (insertRow run.id run tables.runs)
    change fun tables => { tables with runs }
    return run

def getRun (runId : String) : SqlM RunRecord := transaction (getRunModel runId)

def enqueueWorkflowJob (runId workflowName : String) (payload : PyDict) (maxAttempts : Int)
    (jobId : Option String) (status : WorkflowJobStatus) (fresh : String) (now : Time) :
    SqlM WorkflowJobRecord := transaction do
  let workflow := strip workflowName
  if workflow = "" then raise (.valueError "Workflow name is required.")
  else if maxAttempts < 1 then
    raise (.valueError "Workflow job max_attempts must be at least 1.")
  else if status = .running then
    raise (.valueError "Workflow jobs cannot be enqueued directly as running.")
  else
    let _ ← getRunModel runId
    let payload ← ofExcept (redactEntries payload)
    let given := jobId.getD ""
    let job : WorkflowJobRecord :=
      { id := if given = "" then "job_" ++ fresh else given, runId, workflowName := workflow
        status, payload, attemptCount := 0, maxAttempts, createdAt := now, updatedAt := now }
    let tables ← read
    let workflowJobs ← ofExcept (insertRow job.id job tables.workflowJobs)
    change fun tables => { tables with workflowJobs }
    return job

def listWorkflowJobs (runId : Option String) (status : Option WorkflowJobStatus) :
    SqlM (List WorkflowJobRecord) := transaction do
  match runId with
  | some runId => let _ ← getRunModel runId
  | none => pure ()
  let tables ← read
  return (selectByCreation WorkflowJobRecord.createdAt (fun job =>
    runId.all (fun runId => job.runId = runId) && status.all (fun status => job.status = status))
      tables.workflowJobs).map Prod.snd

/-- A dead letter fails its run. -/
def failRunOf (job : WorkflowJobRecord) (errorSummary : String) (now : Time) : SqlM Unit :=
  if job.status = .deadLetter then do
    let run ← getRunModel job.runId
    let errorSummary ← ofExcept (redactText errorSummary)
    change fun tables =>
      { tables with
        runs := tables.runs.set job.runId
          { run with status := .failed, errorSummary := some errorSummary, updatedAt := now } }
  else pure ()

/-- One attempt of a job given up. The summary that the row keeps is redacted. -/
def giveUpAttempt (jobId : String) (job : WorkflowJobRecord) (shouldRetry : Bool)
    (errorSummary : String) (workerId : Option String) (reason : String) (now : Time) :
    SqlM WorkflowJobRecord := do
  let failed ← ofExcept (failedRow job shouldRetry errorSummary workerId reason now)
  storeJob jobId failed
  failRunOf failed errorSummary now
  return failed

def recoverRows (timeoutSeconds : Int) (referenceTime cutoff : Time) :
    List (String × WorkflowJobRecord) → SqlM (List WorkflowJobRecord)
  | [] => pure []
  | (jobId, job) :: rest =>
      if cutoff < job.heartbeatAt.getD job.updatedAt then
        recoverRows timeoutSeconds referenceTime cutoff rest
      else do
        let recovered ← giveUpAttempt jobId job (job.attemptCount < job.maxAttempts)
          (timeoutSummary timeoutSeconds) job.workerId "heartbeat_timeout" referenceTime
        let others ← recoverRows timeoutSeconds referenceTime cutoff rest
        return recovered :: others

def recoverTimedOutWorkflowJobs (timeoutSeconds : Int) (workflowName : Option String)
    (now : Time) : SqlM (List WorkflowJobRecord) :=
  if timeoutSeconds < 1 then
    raise (.valueError "Workflow job timeout must be at least 1 second.")
  else do
    let cutoff ← ofExcept (cutoffTime now timeoutSeconds)
    transaction do
      let tables ← read
      recoverRows timeoutSeconds now cutoff <|
        selectByCreation WorkflowJobRecord.createdAt (fun job =>
          decide (job.status = .running) && inWorkflow (normalizedWorkflow workflowName) job)
            tables.workflowJobs

def recoverStale (staleAfterSeconds : Option Int) (workflowName : Option String) (now : Time) :
    SqlM Unit :=
  match staleAfterSeconds with
  | none => pure ()
  | some timeoutSeconds => do
      let _ ← recoverTimedOutWorkflowJobs timeoutSeconds workflowName now

def claimNextWorkflowJob (workerId : String) (workflowName : Option String)
    (staleAfterSeconds : Option Int) (recoveredAt now : Time) :
    SqlM (Option WorkflowJobRecord) := do
  recoverStale staleAfterSeconds (normalizedWorkflow workflowName) recoveredAt
  transaction do
    let tables ← read
    match selectByCreation WorkflowJobRecord.createdAt (fun job =>
      decide (job.status = .queued) && inWorkflow (normalizedWorkflow workflowName) job)
        tables.workflowJobs with
    | [] => return none
    | (jobId, job) :: _ =>
        let claimed := claimedJob job workerId now
        storeJob jobId claimed
        return some claimed

def claimWorkflowJob (jobId workerId : String) (staleAfterSeconds : Option Int)
    (recoveredAt now : Time) : SqlM (Option WorkflowJobRecord) := do
  recoverStale staleAfterSeconds none recoveredAt
  transaction do
    let job ← getWorkflowJobModel jobId
    if job.status ≠ .queued then return none
    else
      let claimed := claimedJob job workerId now
      storeJob jobId claimed
      return some claimed

def heartbeatWorkflowJob (jobId workerId : String) (now : Time) : SqlM WorkflowJobRecord :=
  transaction do
    let job ← getWorkflowJobModel jobId
    ofExcept (InMemoryRunRepository.ensureJobOwnedByWorker job workerId)
    let updated := { job with heartbeatAt := some now, updatedAt := now }
    storeJob jobId updated
    return updated

def completeWorkflowJob (jobId : String) (workerId : Option String) (now : Time) :
    SqlM WorkflowJobRecord := transaction do
  let job ← getWorkflowJobModel jobId
  if job.status = .completed then return job
  else
    ofExcept (ensureOwnedByOptional job workerId)
    let completed := { job with status := .completed, updatedAt := now, finishedAt := some now }
    storeJob jobId completed
    return completed

def failWorkflowJob (jobId errorSummary : String) (retry : Bool) (workerId : Option String)
    (now : Time) : SqlM WorkflowJobRecord := transaction do
  let job ← getWorkflowJobModel jobId
  ofExcept (ensureOwnedByOptional job workerId)
  let blamed := if workerId = none ∨ workerId = some "" then job.workerId else workerId
  giveUpAttempt jobId job (retry && decide (job.attemptCount < job.maxAttempts)) errorSummary
    blamed "worker_failure" now

def retryDeadLetterWorkflowJob (jobId : String) (reason : Option String) (now : Time) :
    SqlM WorkflowJobRecord := transaction do
  let job ← getWorkflowJobModel jobId
  if job.status ≠ .deadLetter then
    raise (.workflowJobState s!"Workflow job must be dead_letter before manual retry: {jobId}")
  else
    let count ← ofExcept
      (PyValue.toInt ((lookupEntries job.payload "manual_retry_count").getD (.int 0)))
    let payload := storeEntries job.payload "manual_retry_count" (.int (count + 1))
    let payload := storeEntries payload "last_manual_retry_at" (.str (isoformat now))
    let payload ← ofExcept (withReason payload "last_manual_retry_reason" reason)
    let retried : WorkflowJobRecord :=
      { job with
        status := .queued
        payload
        maxAttempts := max job.maxAttempts (job.attemptCount + 1)
        workerId := none
        errorSummary := none
        heartbeatAt := none
        finishedAt := none
        updatedAt := now }
    storeJob jobId retried
    let run ← getRunModel job.runId
    change fun tables =>
      { tables with
        runs := tables.runs.set job.runId
          { run with status := .pending, errorSummary := none, updatedAt := now } }
    return retried

def dismissDeadLetterWorkflowJob (jobId : String) (reason : Option String) (now : Time) :
    SqlM WorkflowJobRecord := transaction do
  let job ← getWorkflowJobModel jobId
  if job.status ≠ .deadLetter then
    raise (.workflowJobState s!"Workflow job must be dead_letter before dismissal: {jobId}")
  else
    let payload := storeEntries job.payload "dismissed_at" (.str (isoformat now))
    let payload ← ofExcept (withReason payload "dismissal_reason" reason)
    let dismissed : WorkflowJobRecord :=
      { job with
        status := .dismissed
        payload
        workerId := none
        heartbeatAt := none
        finishedAt := some now
        updatedAt := now }
    storeJob jobId dismissed
    return dismissed

/-! A run put in place of another. -/

def runRow (run : RunRecord) : Except PyError RunRecord := do
  let metadata ← redactEntries run.metadata
  let errorSummary ← redactOptional run.errorSummary
  return { run with metadata, errorSummary }

def artifactRow (artifact : ArtifactRecord) : Except PyError ArtifactRecord := do
  let uri ← redactUri artifact.uri
  let metadata ← redactEntries artifact.metadata
  let storageKey ← match artifact.storageKey with
    | none => pure none
    | some key => if key = "" then pure none else (redactUri key).map some
  return { artifact with uri, metadata, storageKey }

def eventRow (event : AgentEventRecord) : Except PyError AgentEventRecord := do
  let payload ← redactEntries event.payload
  return { event with payload }

def evaluationRow (evaluation : EvaluationResultRecord) :
    Except PyError EvaluationResultRecord := do
  if evaluation.createdAt = none then
    .error (.valueError s!"Evaluation record is missing created_at: {evaluation.id}")
  else
    let checks ← evaluation.checks.mapM redactEntries
    return { evaluation with checks }

def workflowJobRow (job : WorkflowJobRecord) : Except PyError WorkflowJobRecord := do
  let payload ← redactEntries job.payload
  let errorSummary ← redactOptional job.errorSummary
  return { job with payload, errorSummary }

def checkpointRow (checkpoint : RunCheckpointRecord) : Except PyError RunCheckpointRecord := do
  let state ← Orchestration.redactState checkpoint.state
  return { checkpoint with state }

/-- The rows of a run with all that belongs to it. -/
def contentsRows (contents : RunContents) : Except PyError RunContents := do
  let run ← runRow contents.run
  let artifacts ← contents.artifacts.mapM artifactRow
  let events ← contents.events.mapM eventRow
  let evaluations ← contents.evaluations.mapM evaluationRow
  let workflowJobs ← contents.workflowJobs.mapM workflowJobRow
  let checkpoint ← match contents.checkpoint with
    | none => pure none
    | some checkpoint => (checkpointRow checkpoint).map some
  return { contents with run, artifacts, events, evaluations, workflowJobs, checkpoint }

end methods

/-- `_delete_run_children` and the run itself. -/
def Tables.withoutRun (tables : Tables) (runId : String) : Tables where
  runs := tables.runs.erase runId
  artifacts := tables.artifacts.retain fun _ row => row.runId ≠ runId
  graphNodes := tables.graphNodes.retain fun _ row => row.runId ≠ runId
  events := tables.events.retain fun _ row => row.runId ≠ runId
  evaluations := tables.evaluations.retain fun _ row => row.runId ≠ runId
  checkpoints := tables.checkpoints.retain fun _ row => row.runId ≠ runId
  workflowJobs := tables.workflowJobs.retain fun _ row => row.runId ≠ runId

def Tables.insertContents (tables : Tables) (rows : RunContents) : Except PyError Tables := do
  let runs ← insertRow rows.run.id rows.run tables.runs
  let artifacts ← insertRows ArtifactRecord.id rows.artifacts tables.artifacts
  let graphNodes ← insertRows (fun row => (row.id, row.runId)) rows.graphNodes tables.graphNodes
  let events ← insertRows AgentEventRecord.id rows.events tables.events
  let evaluations ← insertRows EvaluationResultRecord.id rows.evaluations tables.evaluations
  let checkpoints ←
    insertRows RunCheckpointRecord.runId rows.checkpoint.toList tables.checkpoints
  let workflowJobs ← insertRows WorkflowJobRecord.id rows.workflowJobs tables.workflowJobs
  return { runs, artifacts, graphNodes, events, evaluations, checkpoints, workflowJobs }

/-- The runs that the rows refer to. -/
def referredRuns (rows : RunContents) : List String :=
  rows.artifacts.map ArtifactRecord.runId ++ rows.graphNodes.map GraphNodeRecord.runId ++
    rows.events.map AgentEventRecord.runId ++ rows.evaluations.map EvaluationResultRecord.runId ++
    rows.checkpoint.toList.map RunCheckpointRecord.runId ++
    rows.workflowJobs.map WorkflowJobRecord.runId

/-- `foreignKeys` says whether the database enforces the references to the runs table. -/
def restoreRun [PyRuntime] (foreignKeys : Bool) (contents : RunContents) : SqlM RunRecord :=
  transaction do
    let rows ← ofExcept (contentsRows contents)
    change fun tables => tables.withoutRun contents.run.id
    let tables ← read
    let tables ← ofExcept (tables.insertContents rows)
    if foreignKeys && !(referredRuns rows).all (fun runId => (tables.runs.get? runId).isSome) then
      raise .integrityError
    else
      change fun _ => tables
      return rows.run

end SqlRepository
