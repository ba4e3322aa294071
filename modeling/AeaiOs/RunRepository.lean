import AeaiOs.Lib.StoreAction
import AeaiOs.RunState

/-!
The in-memory run repository. Every method holds the lock from its first to its
last statement, so each is one action on the store. The clock and the fresh
identifiers that a method asks for are arguments.
-/
namespace InMemoryRunRepository
open OrderedDict PyText CivilTime StoreAction Action RunValues RunModels Redaction Orchestration

structure Repo where
  runs : Dict String RunRecord
  artifacts : Dict String (List ArtifactRecord)
  graphNodes : Dict String (List GraphNodeRecord)
  events : Dict String (List AgentEventRecord)
  evaluations : Dict String (List EvaluationResultRecord)
  checkpoints : Dict String RunCheckpointRecord
  workflowJobs : Dict String WorkflowJobRecord
  workflowJobOrder : List String

def Repo.init : Repo := ⟨.empty, .empty, .empty, .empty, .empty, .empty, .empty, []⟩

namespace Repo

def storeRun (repo : Repo) (run : RunRecord) : Repo :=
  { repo with runs := repo.runs.set run.id run }

def storeJob (repo : Repo) (jobId : String) (job : WorkflowJobRecord) : Repo :=
  { repo with workflowJobs := repo.workflowJobs.set jobId job }

/-- A new job, last in the order in which claims look for one. The order lists
    ids of stored jobs only. -/
def appendJob (repo : Repo) (job : WorkflowJobRecord) : Repo :=
  { repo with
    workflowJobs := repo.workflowJobs.set job.id job
    workflowJobOrder := repo.workflowJobOrder ++ [job.id] }

def storeNodes (repo : Repo) (runId : String) (nodes : List GraphNodeRecord) : Repo :=
  { repo with graphNodes := repo.graphNodes.set runId nodes }

def storeCheckpoint (repo : Repo) (checkpoint : RunCheckpointRecord) : Repo :=
  { repo with checkpoints := repo.checkpoints.set checkpoint.runId checkpoint }

def appendEvent (repo : Repo) (event : AgentEventRecord) : Repo :=
  { repo with
    events := repo.events.set event.runId ((repo.events.get? event.runId).getD [] ++ [event]) }

def appendArtifact (repo : Repo) (artifact : ArtifactRecord) : Repo :=
  { repo with
    artifacts := repo.artifacts.set artifact.runId
      ((repo.artifacts.get? artifact.runId).getD [] ++ [artifact]) }

def nodesOf (repo : Repo) (runId : String) : List GraphNodeRecord :=
  (repo.graphNodes.get? runId).getD []

def jobsInOrder (repo : Repo) : List WorkflowJobRecord :=
  repo.workflowJobOrder.filterMap repo.workflowJobs.get?

end Repo

abbrev RepoM (α : Type) : Type := Action Repo PyError α

/-- The value, or the exception that its absence raises. -/
def found (value : Option α) (missing : PyError) : Except PyError α :=
  match value with
  | some value => .ok value
  | none => .error missing

def present (value : Option α) (missing : PyError) : RepoM α := ofExcept (found value missing)

@[simp] theorem found_some (value : α) (missing : PyError) :
    found (some value) missing = .ok value := rfl

@[simp] theorem found_none (missing : PyError) :
    found (none : Option α) missing = .error missing := rfl

@[simp] theorem present_run (value : Option α) (missing : PyError) (repo : Repo) :
    present value missing repo = (found value missing, repo) := by
  simp [present]

section runs
variable [PyRuntime]

/-- `fresh` and `trace` are the two identifiers drawn from `uuid4`. -/
def createRun (task : String) (metadata : PyDict) (traceId : Option String)
    (fresh trace : String) (now : Time) : RepoM RunRecord := do
  let normalizedTask := strip task
  if normalizedTask.length < 3 then
    raise (.valueError "Task must contain at least 3 non-whitespace characters.")
  else
    let metadata ← ofExcept (redactEntries metadata)
    let named := strip (traceId.getD "")
    let run : RunRecord :=
      { id := "run_" ++ fresh, task := normalizedTask, status := .pending, metadata
        createdAt := now, updatedAt := now
        traceId := some (if named = "" then trace else named) }
    change fun repo =>
      { repo.storeRun run with
        artifacts := repo.artifacts.set run.id []
        graphNodes := repo.graphNodes.set run.id []
        events := repo.events.set run.id []
        evaluations := repo.evaluations.set run.id [] }
    return run

def getRun (runId : String) : RepoM RunRecord := do
  let repo ← read
  present (repo.runs.get? runId) (.runNotFound runId)

omit [PyRuntime] in
@[simp] theorem getRun_run (runId : String) (repo : Repo) :
    getRun runId repo = (found (repo.runs.get? runId) (.runNotFound runId), repo) := by
  simp [getRun, bind_run]

def updateStatus (runId : String) (status : RunStatus) (errorSummary : Option String)
    (now : Time) : RepoM RunRecord := do
  let run ← getRun runId
  let errorSummary ← ofExcept (redactOptional errorSummary)
  let updated := { run with status, errorSummary, updatedAt := now }
  change fun repo => { repo with runs := repo.runs.set runId updated }
  return updated

/-- A run with all that belongs to it, as an archive holds it. -/
structure RunContents where
  run : RunRecord
  artifacts : List ArtifactRecord := []
  graphNodes : List GraphNodeRecord := []
  events : List AgentEventRecord := []
  evaluations : List EvaluationResultRecord := []
  workflowJobs : List WorkflowJobRecord := []
  checkpoint : Option RunCheckpointRecord := none

/-- The job table without the jobs of a run. -/
def Repo.withoutJobsOf (repo : Repo) (runId : String) : Repo :=
  { repo with
    workflowJobOrder := repo.workflowJobOrder.filter fun jobId =>
      (repo.workflowJobs.get? jobId).all fun job => job.runId ≠ runId
    workflowJobs := repo.workflowJobs.retain fun _ job => job.runId ≠ runId }

def restoreRun (contents : RunContents) : RepoM RunRecord := do
  let run := contents.run
  change fun repo =>
    { repo with
      runs := repo.runs.set run.id run
      artifacts := repo.artifacts.set run.id contents.artifacts
      graphNodes := repo.graphNodes.set run.id contents.graphNodes
      events := repo.events.set run.id contents.events
      evaluations := repo.evaluations.set run.id contents.evaluations }
  change fun repo => repo.withoutJobsOf run.id
  change fun repo => contents.workflowJobs.foldl Repo.appendJob repo
  match contents.checkpoint with
  | none => change fun repo => { repo with checkpoints := repo.checkpoints.erase run.id }
  | some checkpoint =>
      change fun repo => { repo with checkpoints := repo.checkpoints.set run.id checkpoint }
  return run

end runs

/-! Workflow jobs. -/

section jobs
variable [PyRuntime]

def getWorkflowJob (jobId : String) : RepoM WorkflowJobRecord := do
  let repo ← read
  present (repo.workflowJobs.get? jobId) (.workflowJobNotFound jobId)

omit [PyRuntime] in
@[simp] theorem getWorkflowJob_run (jobId : String) (repo : Repo) :
    getWorkflowJob jobId repo =
      (found (repo.workflowJobs.get? jobId) (.workflowJobNotFound jobId), repo) := by
  simp [getWorkflowJob, bind_run]

def ensureJobOwnedByWorker (job : WorkflowJobRecord) (workerId : String) : Except PyError Unit :=
  if job.status ≠ .running then
    .error (.workflowJobState s!"Workflow job {job.id} is {job.status.value}, not running.")
  else if job.workerId ≠ some workerId then
    .error (.workflowJobOwnership job.id job.workerId workerId)
  else .ok ()

omit [PyRuntime] in
theorem ensureJobOwnedByWorker_ok {job : WorkflowJobRecord} {workerId : String} :
    ensureJobOwnedByWorker job workerId = .ok () ↔
      job.status = .running ∧ job.workerId = some workerId := by
  simp only [ensureJobOwnedByWorker]
  split_ifs <;> simp_all

def ensureOwnedByOptional (job : WorkflowJobRecord) (workerId : Option String) :
    Except PyError Unit :=
  match workerId with
  | some worker => ensureJobOwnedByWorker job worker
  | none => .ok ()

/-- `workflow_name.strip() if workflow_name else None` -/
def normalizedWorkflow (workflowName : Option String) : Option String :=
  match workflowName with
  | none => none
  | some name => if name = "" then none else some (strip name)

def enqueueWorkflowJob (runId workflowName : String) (payload : PyDict) (maxAttempts : Int)
    (jobId : Option String) (status : WorkflowJobStatus) (fresh : String) (now : Time) :
    RepoM WorkflowJobRecord := do
  let workflow := strip workflowName
  if workflow = "" then raise (.valueError "Workflow name is required.")
  else if maxAttempts < 1 then
    raise (.valueError "Workflow job max_attempts must be at least 1.")
  else if status = .running then
    raise (.valueError "Workflow jobs cannot be enqueued directly as running.")
  else
    let _ ← getRun runId
    let payload ← ofExcept (redactEntries payload)
    let given := jobId.getD ""
    let job : WorkflowJobRecord :=
      { id := if given = "" then "job_" ++ fresh else given, runId, workflowName := workflow
        status, payload, attemptCount := 0, maxAttempts, createdAt := now, updatedAt := now }
    change fun repo => repo.appendJob job
    return job

def updateWorkflowJobResult (jobId : String) (status : WorkflowJobStatus)
    (payload : Option PyDict) (errorSummary : Option String) (now : Time) :
    RepoM WorkflowJobRecord := do
  if status ≠ .completed ∧ status ≠ .failed then
    raise (.valueError "Workflow job result status must be completed or failed.")
  else
    let job ← getWorkflowJob jobId
    let payload ← match payload with
      | none => pure job.payload
      | some payload => ofExcept (redactEntries payload)
    let errorSummary ← ofExcept (redactOptional errorSummary)
    let updated := { job with status, payload, errorSummary, updatedAt := now, finishedAt := some now }
    change fun repo => repo.storeJob jobId updated
    return updated

def listWorkflowJobs (runId : Option String) (status : Option WorkflowJobStatus) :
    RepoM (List WorkflowJobRecord) := do
  match runId with
  | some runId => let _ ← getRun runId
  | none => pure ()
  let repo ← read
  return repo.jobsInOrder.filter fun job =>
    runId.all (fun runId => job.runId = runId) && status.all (fun status => job.status = status)

/-- The record that a claim by `workerId` leaves. -/
def claimedJob (job : WorkflowJobRecord) (workerId : String) (now : Time) : WorkflowJobRecord :=
  { job with
    status := .running
    workerId := some workerId
    attemptCount := job.attemptCount + 1
    startedAt := some (job.startedAt.getD now)
    heartbeatAt := some now
    updatedAt := now }

/-- `_append_workflow_failure` -/
def appendWorkflowFailure (payload : PyDict) (attemptCount : Int) (status : WorkflowJobStatus)
    (errorSummary : String) (recordedAt : Time) (workerId : Option String) (reason : String) :
    Except PyError PyDict := do
  let history ← PyValue.toList ((lookupEntries payload "failure_history").getD (.list []))
  let errorSummary ← redactText errorSummary
  let entry : PyValue :=
    .dict
      [("attempt_count", .int attemptCount), ("status", .str status.value),
        ("error_summary", .str errorSummary), ("recorded_at", .str (isoformat recordedAt)),
        ("worker_id", .ofOption workerId), ("reason", .str reason)]
  let payload := storeEntries payload "failure_history" (.list (history ++ [entry]))
  return storeEntries payload "last_failure" entry

/-- What a failed attempt leaves: the job goes back to the queue while attempts
    are left, else to the dead letters. -/
def failedAttempt (job : WorkflowJobRecord) (shouldRetry : Bool) (payload : PyDict)
    (errorSummary : String) (now : Time) : WorkflowJobRecord :=
  { job with
    status := if shouldRetry then .queued else .deadLetter
    payload
    workerId := if shouldRetry then none else job.workerId
    errorSummary := some errorSummary
    updatedAt := now
    heartbeatAt := if shouldRetry then none else job.heartbeatAt
    finishedAt := if shouldRetry then none else some now }

/-- A dead letter fails its run. -/
def failRunOf (job : WorkflowJobRecord) (errorSummary : String) (now : Time) : RepoM Unit :=
  if job.status = .deadLetter then do
    let run ← getRun job.runId
    let errorSummary ← ofExcept (redactText errorSummary)
    change fun repo =>
      { repo with
        runs := repo.runs.set job.runId
          { run with status := .failed, errorSummary := some errorSummary, updatedAt := now } }
  else pure ()

/-- One attempt of a job given up, by its worker or by the recovery. -/
def giveUpAttempt (jobId : String) (job : WorkflowJobRecord) (shouldRetry : Bool)
    (errorSummary : String) (workerId : Option String) (reason : String) (now : Time) :
    RepoM WorkflowJobRecord := do
  let redactedSummary ← ofExcept (redactText errorSummary)
  let payload ← ofExcept <|
    appendWorkflowFailure job.payload job.attemptCount
      (if shouldRetry then .queued else .deadLetter) redactedSummary now workerId reason
  let failed := failedAttempt job shouldRetry payload errorSummary now
  change fun repo => repo.storeJob jobId failed
  failRunOf failed errorSummary now
  return failed

/-- `reference_time - timedelta(seconds=timeout_seconds)` -/
def cutoffTime (referenceTime : Time) (timeoutSeconds : Int) : Except PyError Time :=
  let cutoff := referenceTime - timeoutSeconds * microsecondsPerSecond
  if cutoff < earliest then .error .overflowError else .ok cutoff

def timeoutSummary (timeoutSeconds : Int) : String :=
  s!"Workflow job heartbeat timed out after {timeoutSeconds} seconds."

def recoverJob (timeoutSeconds : Int) (workflow : Option String) (referenceTime cutoff : Time)
    (jobId : String) : RepoM (Option WorkflowJobRecord) := do
  let repo ← read
  let job ← present (repo.workflowJobs.get? jobId) (.keyError jobId)
  if job.status ≠ .running then pure none
  else if workflow.any (fun name => job.workflowName ≠ name) then pure none
  else if cutoff < job.heartbeatAt.getD job.updatedAt then pure none
  else
    let recovered ← giveUpAttempt jobId job (job.attemptCount < job.maxAttempts)
      (timeoutSummary timeoutSeconds) job.workerId "heartbeat_timeout" referenceTime
    return some recovered

def recoverJobs (timeoutSeconds : Int) (workflow : Option String)
    (referenceTime cutoff : Time) : List String → RepoM (List WorkflowJobRecord)
  | [] => pure []
  | jobId :: rest => do
      let recovered ← recoverJob timeoutSeconds workflow referenceTime cutoff jobId
      let others ← recoverJobs timeoutSeconds workflow referenceTime cutoff rest
      return recovered.toList ++ others

/-- `now` is the `now` argument if it is given, else the clock. -/
def recoverTimedOutWorkflowJobs (timeoutSeconds : Int) (workflowName : Option String)
    (now : Time) : RepoM (List WorkflowJobRecord) := do
  if timeoutSeconds < 1 then
    raise (.valueError "Workflow job timeout must be at least 1 second.")
  else
    let cutoff ← ofExcept (cutoffTime now timeoutSeconds)
    let repo ← read
    recoverJobs timeoutSeconds (normalizedWorkflow workflowName) now cutoff
      repo.workflowJobOrder

/-- The recovery that a claim with `stale_after_seconds` begins with. -/
def recoverStale (staleAfterSeconds : Option Int) (workflowName : Option String) (now : Time) :
    RepoM Unit :=
  match staleAfterSeconds with
  | none => pure ()
  | some timeoutSeconds => do
      let _ ← recoverTimedOutWorkflowJobs timeoutSeconds workflowName now

def claimFirst (workerId : String) (workflow : Option String) (now : Time) :
    List String → RepoM (Option WorkflowJobRecord)
  | [] => pure none
  | jobId :: rest => do
      let repo ← read
      let job ← present (repo.workflowJobs.get? jobId) (.keyError jobId)
      if job.status ≠ .queued then claimFirst workerId workflow now rest
      else if workflow.any (fun name => job.workflowName ≠ name) then
        claimFirst workerId workflow now rest
      else
        let claimed := claimedJob job workerId now
        change fun repo => repo.storeJob jobId claimed
        return some claimed

/-- `recoveredAt` and `now` are the two readings of the clock. -/
def claimNextWorkflowJob (workerId : String) (workflowName : Option String)
    (staleAfterSeconds : Option Int) (recoveredAt now : Time) :
    RepoM (Option WorkflowJobRecord) := do
  recoverStale staleAfterSeconds (normalizedWorkflow workflowName) recoveredAt
  let repo ← read
  claimFirst workerId (normalizedWorkflow workflowName) now repo.workflowJobOrder

def claimWorkflowJob (jobId workerId : String) (staleAfterSeconds : Option Int)
    (recoveredAt now : Time) : RepoM (Option WorkflowJobRecord) := do
  recoverStale staleAfterSeconds none recoveredAt
  let job ← getWorkflowJob jobId
  if job.status ≠ .queued then return none
  else
    let claimed := claimedJob job workerId now
    change fun repo => repo.storeJob jobId claimed
    return some claimed

def heartbeatWorkflowJob (jobId workerId : String) (now : Time) : RepoM WorkflowJobRecord := do
  let job ← getWorkflowJob jobId
  ofExcept (ensureJobOwnedByWorker job workerId)
  let updated := { job with heartbeatAt := some now, updatedAt := now }
  change fun repo => repo.storeJob jobId updated
  return updated

def completeWorkflowJob (jobId : String) (workerId : Option String) (now : Time) :
    RepoM WorkflowJobRecord := do
  let job ← getWorkflowJob jobId
  if job.status = .completed then return job
  else
    ofExcept (ensureOwnedByOptional job workerId)
    let completed := { job with status := .completed, updatedAt := now, finishedAt := some now }
    change fun repo => repo.storeJob jobId completed
    return completed

def failWorkflowJob (jobId errorSummary : String) (retry : Bool) (workerId : Option String)
    (now : Time) : RepoM WorkflowJobRecord := do
  let job ← getWorkflowJob jobId
  ofExcept (ensureOwnedByOptional job workerId)
  -- an empty worker id is falsy, so the owner is recorded in its place
  let blamed := if workerId = none ∨ workerId = some "" then job.workerId else workerId
  giveUpAttempt jobId job (retry && decide (job.attemptCount < job.maxAttempts)) errorSummary
    blamed "worker_failure" now

/-- `payload[key] = redact_text(reason)` if there is a reason. -/
def withReason (payload : PyDict) (key : String) (reason : Option String) :
    Except PyError PyDict :=
  match reason with
  | none => .ok payload
  | some reason =>
      if reason = "" then .ok payload
      else do
        let reason ← redactText reason
        return storeEntries payload key (.str reason)

/-- The run of a retried job is pending again. -/
def reopenRunOf (job : WorkflowJobRecord) (now : Time) : RepoM Unit := do
  let run ← getRun job.runId
  change fun repo =>
    { repo with
      runs := repo.runs.set job.runId
        { run with status := .pending, errorSummary := none, updatedAt := now } }

def retryDeadLetterWorkflowJob (jobId : String) (reason : Option String) (now : Time) :
    RepoM WorkflowJobRecord := do
  let job ← getWorkflowJob jobId
  if job.status ≠ .deadLetter then
    raise (.workflowJobState s!"Workflow job must be dead_letter before manual retry: {jobId}")
  else
    let count ← ofExcept
      (PyValue.toInt ((lookupEntries job.payload "manual_retry_count").getD (.int 0)))
    let payload := storeEntries job.payload "manual_retry_count" (.int (count + 1))
    let payload := storeEntries payload "last_manual_retry_at" (.str (isoformat now))
    let payload ← ofExcept (withReason payload "last_manual_retry_reason" reason)
    let retried : WorkflowJobRecord :=
      { job with
        status := .queued
        payload
        maxAttempts := max job.maxAttempts (job.attemptCount + 1)
        workerId := none
        errorSummary := none
        heartbeatAt := none
        finishedAt := none
        updatedAt := now }
    change fun repo => repo.storeJob jobId retried
    reopenRunOf retried now
    return retried

def dismissDeadLetterWorkflowJob (jobId : String) (reason : Option String) (now : Time) :
    RepoM WorkflowJobRecord := do
  let job ← getWorkflowJob jobId
  if job.status ≠ .deadLetter then
    raise (.workflowJobState s!"Workflow job must be dead_letter before dismissal: {jobId}")
  else
    let payload := storeEntries job.payload "dismissed_at" (.str (isoformat now))
    let payload ← ofExcept (withReason payload "dismissal_reason" reason)
    let dismissed : WorkflowJobRecord :=
      { job with
        status := .dismissed
        payload
        workerId := none
        heartbeatAt := none
        finishedAt := some now
        updatedAt := now }
    change fun repo => repo.storeJob jobId dismissed
    return dismissed

end jobs

/-! Artifacts, graph nodes, events and checkpoints. -/

section graph
variable [PyRuntime]

/-- The last part of `add_artifact`: the record goes to its run, and a dataset
    becomes the dataset of the run. -/
def recordArtifact (artifact : ArtifactRecord) (now : Time) : RepoM ArtifactRecord := do
  let run ← getRun artifact.runId
  change fun repo => repo.appendArtifact artifact
  if artifact.type = .dataset then
    change fun repo =>
      { repo with
        runs := repo.runs.set artifact.runId
          { run with datasetArtifactId := some artifact.id, updatedAt := now } }
  else pure ()
  return artifact

def getArtifact (runId artifactId : String) : RepoM ArtifactRecord := do
  let _ ← getRun runId
  let repo ← read
  present (((repo.artifacts.get? runId).getD []).find? fun artifact => artifact.id = artifactId)
    (.artifactNotFound artifactId)

/-- The node list with `node` in place of the first one of its id, else at the
    end. -/
def upserted (node : GraphNodeRecord) : List GraphNodeRecord → List GraphNodeRecord
  | [] => [node]
  | existing :: rest =>
      if existing.id = node.id then node :: rest else existing :: upserted node rest

def upsertGraphNode (node : GraphNodeRecord) : RepoM GraphNodeRecord := do
  let _ ← getRun node.runId
  change fun repo => repo.storeNodes node.runId (upserted node (repo.nodesOf node.runId))
  return node

def getGraphNode (runId nodeId : String) : RepoM GraphNodeRecord := do
  let _ ← getRun runId
  let repo ← read
  present ((repo.nodesOf runId).find? fun node => node.id = nodeId) (.graphNodeNotFound nodeId)

def listGraphNodes (runId : String) : RepoM (List GraphNodeRecord) := do
  let _ ← getRun runId
  let repo ← read
  return repo.nodesOf runId

def addEvent (event : AgentEventRecord) : RepoM AgentEventRecord := do
  let _ ← getRun event.runId
  let payload ← ofExcept (redactEntries event.payload)
  let redactedEvent := { event with payload }
  change fun repo => repo.appendEvent redactedEvent
  return redactedEvent

def saveCheckpoint (runId : String) (state : LangGraphRunState) (now : Time) :
    RepoM RunCheckpointRecord := do
  let _ ← getRun runId
  let repo ← read
  let existing := repo.checkpoints.get? runId
  let state ← ofExcept (redactState state)
  let checkpoint : RunCheckpointRecord :=
    { runId, state
      version := (existing.map fun old => old.version + 1).getD 1
      createdAt := (existing.map RunCheckpointRecord.createdAt).getD now
      updatedAt := now }
  change fun repo => repo.storeCheckpoint checkpoint
  return checkpoint

def getCheckpoint (runId : String) : RepoM RunCheckpointRecord := do
  let _ ← getRun runId
  let repo ← read
  present (repo.checkpoints.get? runId) (.runCheckpointNotFound runId)

end graph
end InMemoryRunRepository
