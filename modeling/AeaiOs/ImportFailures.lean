import Mathlib
import AeaiOs.ArchiveConfinement
import AeaiOs.MoneyParsers

/-!
How an import fails. A field that a decoder does not look at is kept here with whatever
value it has, as Python keeps it, so that every JSON object can be imported.
-/
namespace RunArchive.Untyped
open OrderedDict CivilTime StoreAction Action RunValues RunModels HalfEven

/-! The records. -/

structure RunRecord where
  id : String
  task : String
  status : RunStatus
  metadata : PyValue
  datasetArtifactId : PyValue
  traceId : PyValue
  errorSummary : PyValue
  createdAt : Time
  updatedAt : Time

structure ArtifactRecord where
  id : String
  runId : String
  producerNodeId : PyValue
  type : ArtifactType
  uri : String
  metadata : PyValue
  contentType : PyValue
  storageBackend : PyValue
  storageKey : PyValue
  sizeBytes : PyValue
  sourceArtifactIds : List PyValue
  createdAt : Time

structure GraphNodeRecord where
  id : String
  runId : String
  agentType : String
  status : GraphNodeStatus
  dependsOn : List PyValue
  requiredTools : List PyValue
  expectedArtifacts : List PyValue
  retryCount : Int
  startedAt : Option Time
  finishedAt : Option Time
  createdAt : Time
  updatedAt : Time

structure AgentEventRecord where
  id : String
  runId : String
  nodeId : String
  eventType : String
  payload : PyValue
  createdAt : Time

structure EvaluationResultRecord where
  id : String
  runId : String
  targetArtifactId : PyValue
  score : PyFloat
  passed : Bool
  checks : PyValue
  createdAt : Time

structure WorkflowJobRecord where
  id : String
  runId : String
  workflowName : String
  status : WorkflowJobStatus
  payload : PyValue
  attemptCount : Int
  maxAttempts : Int
  workerId : PyValue
  errorSummary : PyValue
  startedAt : Option Time
  finishedAt : Option Time
  heartbeatAt : Option Time
  createdAt : Time
  updatedAt : Time

structure RunCheckpointRecord where
  runId : String
  state : PyValue
  version : Int
  createdAt : Time
  updatedAt : Time

/-! The decoders. -/

section decoders
variable [ArchiveRuntime]

/-- `payload.get(key) or default` -/
def keptOr (payload : PyDict) (key : String) (default : PyValue) : PyValue :=
  if (optional payload key).truthy then optional payload key else default

/-- `float(value)`; an integer beyond the doubles overflows. -/
def toFloat : PyValue → Except PyError PyFloat
  | .bool b => .ok (.finite (if b then 1 else 0))
  | .int n => if overflowLimit ≤ |(n : Rat)| then .error .overflowError else .ok (toDouble n)
  | .float q => .ok (.finite q)
  | .str text =>
      match Analytics.floatOf toDouble text.toList with
      | some value => .ok value
      | none => .error (.valueError "could not convert string to float")
  | _ => .error .typeError

def runFromArchive (payload : PyDict) : Except PyError RunRecord := do
  let id ← requiredText payload "id"
  let task ← requiredText payload "task"
  let status ← memberOf RunStatus.all RunStatus.value (← requiredText payload "status")
  let metadata := keptOr payload "metadata" (.dict [])
  let datasetArtifactId := optional payload "dataset_artifact_id"
  let traceId := optional payload "trace_id"
  let errorSummary := optional payload "error_summary"
  let createdAt ← requiredTime payload "created_at"
  let updatedAt ← requiredTime payload "updated_at"
  return { id, task, status, metadata, datasetArtifactId, traceId, errorSummary, createdAt, updatedAt }

def artifactFromArchive (payload : PyDict) : Except PyError ArtifactRecord := do
  let id ← requiredText payload "id"
  let runId ← requiredText payload "run_id"
  let producerNodeId := optional payload "producer_node_id"
  let type ← memberOf ArtifactType.all ArtifactType.value (← requiredText payload "type")
  let uri ← requiredText payload "uri"
  let metadata := keptOr payload "metadata" (.dict [])
  let contentType := optional payload "content_type"
  let storageBackend := optional payload "storage_backend"
  let storageKey := optional payload "storage_key"
  let sizeBytes := optional payload "size_bytes"
  let sourceArtifactIds ← itemsAt payload "source_artifact_ids"
  let createdAt ← requiredTime payload "created_at"
  return { id, runId, producerNodeId, type, uri, metadata, contentType, storageBackend, storageKey
           sizeBytes, sourceArtifactIds, createdAt }

def graphNodeFromArchive (payload : PyDict) : Except PyError GraphNodeRecord := do
  let id ← requiredText payload "id"
  let runId ← requiredText payload "run_id"
  let agentType ← requiredText payload "agent_type"
  let status ← memberOf GraphNodeStatus.all GraphNodeStatus.value (← requiredText payload "status")
  let dependsOn ← itemsAt payload "depends_on"
  let requiredTools ← itemsAt payload "required_tools"
  let expectedArtifacts ← itemsAt payload "expected_artifacts"
  let retryCount ← countAt payload "retry_count" 0
  let startedAt ← parseOptionalDatetime (optional payload "started_at")
  let finishedAt ← parseOptionalDatetime (optional payload "finished_at")
  let createdAt ← requiredTime payload "created_at"
  let updatedAt ← requiredTime payload "updated_at"
  return { id, runId, agentType, status, dependsOn, requiredTools, expectedArtifacts, retryCount
           startedAt, finishedAt, createdAt, updatedAt }

def eventFromArchive (payload : PyDict) : Except PyError AgentEventRecord := do
  let id ← requiredText payload "id"
  let runId ← requiredText payload "run_id"
  let nodeId ← requiredText payload "node_id"
  let eventType ← requiredText payload "event_type"
  let details := keptOr payload "payload" (.dict [])
  let createdAt ← requiredTime payload "created_at"
  return { id, runId, nodeId, eventType, payload := details, createdAt }

def evaluationFromArchive (payload : PyDict) : Except PyError EvaluationResultRecord := do
  let id ← requiredText payload "id"
  let runId ← requiredText payload "run_id"
  let targetArtifactId := optional payload "target_artifact_id"
  let score ← required payload "score" >>= toFloat
  let passed ← required payload "passed"
  let checks := keptOr payload "checks" (.list [])
  let createdAt ← requiredTime payload "created_at"
  return { id, runId, targetArtifactId, score, passed := passed.truthy, checks, createdAt }

def workflowJobFromArchive (payload : PyDict) : Except PyError WorkflowJobRecord := do
  let id ← requiredText payload "id"
  let runId ← requiredText payload "run_id"
  let workflowName ← requiredText payload "workflow_name"
  let status ←
    memberOf WorkflowJobStatus.all WorkflowJobStatus.value (← requiredText payload "status")
  let details := keptOr payload "payload" (.dict [])
  let attemptCount ← countAt payload "attempt_count" 0
  let maxAttempts ← countAt payload "max_attempts" 1
  let workerId := optional payload "worker_id"
  let errorSummary := optional payload "error_summary"
  let startedAt ← parseOptionalDatetime (optional payload "started_at")
  let finishedAt ← parseOptionalDatetime (optional payload "finished_at")
  let heartbeatAt ← parseOptionalDatetime (optional payload "heartbeat_at")
  let createdAt ← requiredTime payload "created_at"
  let updatedAt ← requiredTime payload "updated_at"
  return { id, runId, workflowName, status, payload := details, attemptCount, maxAttempts, workerId
           errorSummary, startedAt, finishedAt, heartbeatAt, createdAt, updatedAt }

def checkpointFromArchive (payload : PyDict) : Except PyError RunCheckpointRecord := do
  let runId ← requiredText payload "run_id"
  let state := keptOr payload "state" (.dict [])
  let version ← countAt payload "version" 1
  let createdAt ← requiredTime payload "created_at"
  let updatedAt ← requiredTime payload "updated_at"
  return { runId, state, version, createdAt, updatedAt }

/-- What `restore_run` is given next to the run. -/
structure RunContents where
  artifacts : List ArtifactRecord
  graphNodes : List GraphNodeRecord
  events : List AgentEventRecord
  evaluations : List EvaluationResultRecord
  workflowJobs : List WorkflowJobRecord
  checkpoint : Option RunCheckpointRecord

def checkpointOf (archive : PyDict) : Except PyError (Option RunCheckpointRecord) :=
  if (optional archive "checkpoint").truthy then
    some <$> (dictItem (optional archive "checkpoint") >>= checkpointFromArchive)
  else pure none

def contentsFromArchive (archive : PyDict) : Except PyError RunContents := do
  let artifacts ← recordsAt archive "artifacts" artifactFromArchive
  let graphNodes ← recordsAt archive "graph_nodes" graphNodeFromArchive
  let events ← recordsAt archive "events" eventFromArchive
  let evaluations ← recordsAt archive "evaluations" evaluationFromArchive
  let workflowJobs ← recordsAt archive "workflow_jobs" workflowJobFromArchive
  let checkpoint ← checkpointOf archive
  return { artifacts, graphNodes, events, evaluations, workflowJobs, checkpoint }

end decoders

/-! The repository in memory. -/

structure Repo where
  runs : Dict String RunRecord
  artifacts : Dict String (List ArtifactRecord)
  graphNodes : Dict String (List GraphNodeRecord)
  events : Dict String (List AgentEventRecord)
  evaluations : Dict String (List EvaluationResultRecord)
  checkpoints : Dict String RunCheckpointRecord
  workflowJobs : Dict String WorkflowJobRecord
  workflowJobOrder : List String
  ordered : ∀ jobId ∈ workflowJobOrder, (workflowJobs.get? jobId).isSome

def Repo.init : Repo :=
  ⟨.empty, .empty, .empty, .empty, .empty, .empty, .empty, [], by simp⟩

abbrev RepoM (α : Type) := Action Repo PyError α

def getRun (runId : String) : RepoM RunRecord := fun repo =>
  match repo.runs.get? runId with
  | some run => (.ok run, repo)
  | none => (.error (.runNotFound runId), repo)

namespace Repo

/-- The job table without the jobs of a run. -/
def withoutJobsOf (repo : Repo) (runId : String) : Repo :=
  { repo with
    workflowJobOrder := repo.workflowJobOrder.filter fun jobId =>
      (repo.workflowJobs.get? jobId).all fun job => job.runId ≠ runId
    workflowJobs := repo.workflowJobs.retain fun _ job => job.runId ≠ runId
    ordered := by
      intro jobId listed
      obtain ⟨member, kept⟩ := List.mem_filter.mp listed
      obtain ⟨job, stored⟩ := Option.isSome_iff_exists.mp (repo.ordered jobId member)
      rw [stored, Option.all_some] at kept
      rw [Dict.get?_retain, stored, Option.filter_some, if_pos kept]
      rfl }

def appendJob (repo : Repo) (job : WorkflowJobRecord) : Repo :=
  { repo with
    workflowJobs := repo.workflowJobs.set job.id job
    workflowJobOrder := repo.workflowJobOrder ++ [job.id]
    ordered := by
      intro jobId listed
      rw [Dict.get?_set]
      split
      · rfl
      · rename_i other
        rcases List.mem_append.mp listed with earlier | last
        · exact repo.ordered jobId earlier
        · exact absurd (List.mem_singleton.mp last).symm other }

end Repo

def restoreRun (run : RunRecord) (contents : RunContents) : RepoM RunRecord := do
  change fun repo =>
    { repo with
      runs := repo.runs.set run.id run
      artifacts := repo.artifacts.set run.id contents.artifacts
      graphNodes := repo.graphNodes.set run.id contents.graphNodes
      events := repo.events.set run.id contents.events
      evaluations := repo.evaluations.set run.id contents.evaluations }
  change fun repo => repo.withoutJobsOf run.id
  change fun repo => contents.workflowJobs.foldl Repo.appendJob repo
  match contents.checkpoint with
  | none => change fun repo => { repo with checkpoints := repo.checkpoints.erase run.id }
  | some checkpoint =>
      change fun repo => { repo with checkpoints := repo.checkpoints.set run.id checkpoint }
  return run

/-- `get_run` must raise `RunNotFoundError`, unless the import may overwrite. -/
def refuseExisting (runId : String) (overwrite : Bool) : RepoM Unit := fun repo =>
  match getRun runId repo with
  | (.ok _, repo') =>
      if overwrite then (.ok (), repo') else (.error (.runArchiveConflict runId), repo')
  | (.error (.runNotFound _), repo') => (.ok (), repo')
  | (.error e, repo') => (.error e, repo')

section imports
variable [ArchiveRuntime]

def importRunArchive (archive : PyDict) (overwrite : Bool) : RepoM RunRecord := do
  match optional archive "schema_version" with
  | .str version =>
      if version = runArchiveSchemaVersion then
        let run ← ofExcept (requiredMapping archive "run" >>= runFromArchive)
        refuseExisting run.id overwrite
        let contents ← ofExcept (contentsFromArchive archive)
        restoreRun run contents
      else raise (.runArchive s!"Unsupported run archive schema version: {version}")
  | version => raise (.runArchive s!"Unsupported run archive schema version: {version.text}")

end imports

/-! What an import reads, in the order in which it is read. -/

/-- How a decoder reads a field that can fail. -/
inductive FieldKind where
  | present
  | member (names : List String)
  | items
  | count
  | number
  | time
  | optionalTime

inductive Reading where
  /-- The schema version of the archive. -/
  | schema (version : PyValue)
  /-- The object of the run. -/
  | mapping (value : PyValue)
  /-- Whether a run is there that may not be overwritten. -/
  | existing (refused : Bool)
  | field (payload : PyDict) (key : String) (kind : FieldKind)
  /-- A list of records. -/
  | records (value : PyValue)
  /-- A record of a list, or the checkpoint. -/
  | record (value : PyValue)

section readings
variable [ArchiveRuntime]

def isDict : PyValue → Bool
  | .dict _ => true
  | _ => false

/-- A list, a text or a dictionary. -/
def isIterable : PyValue → Bool
  | .list _ => true
  | .str _ => true
  | .dict _ => true
  | _ => false

/-- A value that `value in {None, ""}` cannot hash. -/
def isUnhashable : PyValue → Bool
  | .list _ => true
  | .dict _ => true
  | _ => false

/-- Not a number, nor a text that spells an integer. -/
def isUncountable : PyValue → Bool
  | .list _ => true
  | .dict _ => true
  | .str text => (parseInt text.toList).isNone
  | _ => false

/-- Not a number that a double can round, nor a text that spells one. -/
def isUnmeasurable : PyValue → Bool
  | .bool _ => false
  | .float _ => false
  | .int n => decide (overflowLimit ≤ |(n : Rat)|)
  | .str text => (Analytics.floatOf toDouble text.toList).isNone
  | _ => true

def isMalformedTime (value : PyValue) : Bool :=
  (ArchiveRuntime.fromisoformat value.text).isNone

/-- `None` and the empty text are no time, and well formed. -/
def isMalformedOptional : PyValue → Bool
  | .none => false
  | .str "" => false
  | value => !isUnhashable value && isMalformedTime value

/-- The field raises an error of its own. -/
def FieldKind.breaks (payload : PyDict) (key : String) : FieldKind → Bool
  | .present => (lookupEntries payload key).isNone
  | .member names => (lookupEntries payload key).all fun value => decide (value.text ∉ names)
  | .items => (optional payload key).truthy && !isIterable (optional payload key)
  | .count => (optional payload key).truthy && isUncountable (optional payload key)
  | .number => (lookupEntries payload key).all isUnmeasurable
  | .time => (lookupEntries payload key).isNone
  | .optionalTime => isUnhashable (optional payload key)

/-- The field is a malformed timestamp. -/
def FieldKind.rejects (payload : PyDict) (key : String) : FieldKind → Bool
  | .time => (lookupEntries payload key).any isMalformedTime
  | .optionalTime => isMalformedOptional (optional payload key)
  | _ => false

/-- Reading this raises another exception than `RunArchiveError`. -/
def Reading.breaks : Reading → Bool
  | .field payload key kind => kind.breaks payload key
  | .records value => !isIterable value
  | .record value => !isDict value
  | _ => false

/-- Reading this raises `RunArchiveError`. -/
def Reading.rejects : Reading → Bool
  | .schema (.str version) => decide (version ≠ runArchiveSchemaVersion)
  | .schema _ => true
  | .mapping value => !isDict value
  | .existing refused => refused
  | .field payload key kind => kind.rejects payload key
  | _ => false

def fieldsOf (kinds : List (String × FieldKind)) (payload : PyDict) : List Reading :=
  kinds.map fun kind => .field payload kind.1 kind.2

def runFields : List (String × FieldKind) :=
  [("id", .present), ("task", .present), ("status", .member (RunStatus.all.map RunStatus.value)),
    ("created_at", .time), ("updated_at", .time)]

def artifactFields : List (String × FieldKind) :=
  [("id", .present), ("run_id", .present),
    ("type", .member (ArtifactType.all.map ArtifactType.value)), ("uri", .present),
    ("source_artifact_ids", .items), ("created_at", .time)]

def graphNodeFields : List (String × FieldKind) :=
  [("id", .present), ("run_id", .present), ("agent_type", .present),
    ("status", .member (GraphNodeStatus.all.map GraphNodeStatus.value)), ("depends_on", .items),
    ("required_tools", .items), ("expected_artifacts", .items), ("retry_count", .count),
    ("started_at", .optionalTime), ("finished_at", .optionalTime), ("created_at", .time),
    ("updated_at", .time)]

def eventFields : List (String × FieldKind) :=
  [("id", .present), ("run_id", .present), ("node_id", .present), ("event_type", .present),
    ("created_at", .time)]

def evaluationFields : List (String × FieldKind) :=
  [("id", .present), ("run_id", .present), ("score", .number), ("passed", .present),
    ("created_at", .time)]

def workflowJobFields : List (String × FieldKind) :=
  [("id", .present), ("run_id", .present), ("workflow_name", .present),
    ("status", .member (WorkflowJobStatus.all.map WorkflowJobStatus.value)),
    ("attempt_count", .count), ("max_attempts", .count), ("started_at", .optionalTime),
    ("finished_at", .optionalTime), ("heartbeat_at", .optionalTime), ("created_at", .time),
    ("updated_at", .time)]

def checkpointFields : List (String × FieldKind) :=
  [("run_id", .present), ("version", .count), ("created_at", .time), ("updated_at", .time)]

/-- A record with its fields; a value that is no object has none. -/
def recordReadings (kinds : List (String × FieldKind)) (value : PyValue) : List Reading :=
  match value with
  | .dict payload => .record value :: fieldsOf kinds payload
  | _ => [.record value]

/-- The records under a key, which may be left out. -/
def listReadings (archive : PyDict) (key : String) (kinds : List (String × FieldKind)) :
    List Reading :=
  let value := (lookupEntries archive key).getD (.list [])
  match PyValue.toList value with
  | .ok items => .records value :: items.flatMap (recordReadings kinds)
  | .error _ => [.records value]

def contentReadings (archive : PyDict) : List Reading :=
  listReadings archive "artifacts" artifactFields ++
    listReadings archive "graph_nodes" graphNodeFields ++
    listReadings archive "events" eventFields ++
    listReadings archive "evaluations" evaluationFields ++
    listReadings archive "workflow_jobs" workflowJobFields ++
    if (optional archive "checkpoint").truthy then
      recordReadings checkpointFields (optional archive "checkpoint")
    else []

/-- The run's object; anything else has no fields. -/
def runPayload (archive : PyDict) : PyDict :=
  match optional archive "run" with
  | .dict payload => payload
  | _ => []

def importReadings (archive : PyDict) (overwrite : Bool) (repo : Repo) : List Reading :=
  let runId := (optional (runPayload archive) "id").text
  .schema (optional archive "schema_version") :: .mapping (optional archive "run") ::
    fieldsOf runFields (runPayload archive) ++
    .existing ((repo.runs.get? runId).isSome && !overwrite) :: contentReadings archive

/-- What breaks an import is read after something that it rejects. -/
def Orderly (readings : List Reading) : Prop :=
  ∀ before reading after, readings = before ++ reading :: after → reading.breaks = true →
    ∃ earlier ∈ before, earlier.rejects = true

/-! The first reading that fails decides what becomes of all of them. -/

inductive Verdict where
  | accepted
  | refused
  | escaped
  deriving DecidableEq

/-- `RunArchiveError` or its subclass. -/
def isArchiveError : PyError → Bool
  | .runArchive _ => true
  | .runArchiveConflict _ => true
  | _ => false

def verdict {α : Type} : Except PyError α → Verdict
  | .ok _ => .accepted
  | .error e => if isArchiveError e then .refused else .escaped

def outcome : List Reading → Verdict
  | [] => .accepted
  | reading :: rest =>
      if reading.breaks then .escaped else if reading.rejects then .refused else outcome rest

theorem orderly_nil : Orderly [] := by
  intro before reading after split
  simp at split

theorem orderly_cons (reading : Reading) (rest : List Reading) :
    Orderly (reading :: rest) ↔
      reading.breaks = false ∧ (reading.rejects = true ∨ Orderly rest) := by
  constructor
  · intro orderly
    have first : reading.breaks = false := by
      cases broken : reading.breaks with
      | false => rfl
      | true =>
        obtain ⟨earlier, none, _⟩ := orderly [] reading rest rfl broken
        cases none
    constructor
    · exact first
    · cases rejected : reading.rejects with
      | true => exact .inl rfl
      | false =>
        right
        intro before later after split broken
        obtain ⟨earlier, member, rejects⟩ :=
          orderly (reading :: before) later after (by rw [split, List.cons_append]) broken
        rcases List.mem_cons.mp member with same | member
        · rw [same, rejected] at rejects
          cases rejects
        · exact ⟨earlier, member, rejects⟩
  · rintro ⟨first, rejected⟩ before later after split broken
    cases before with
    | nil =>
      rw [List.nil_append, List.cons.injEq] at split
      rw [← split.1, first] at broken
      cases broken
    | cons head before =>
      rw [List.cons_append, List.cons.injEq] at split
      obtain ⟨rfl, split⟩ := split
      rcases rejected with rejected | orderly
      · exact ⟨reading, List.mem_cons_self, rejected⟩
      · obtain ⟨earlier, member, rejects⟩ := orderly before later after split broken
        exact ⟨earlier, List.mem_cons_of_mem _ member, rejects⟩

theorem orderly_iff (readings : List Reading) :
    Orderly readings ↔ outcome readings ≠ .escaped := by
  induction readings with
  | nil => simp [orderly_nil, outcome]
  | cons reading rest ih =>
    rw [orderly_cons, ih, outcome]
    cases reading.breaks <;> cases reading.rejects <;> simp

theorem outcome_append (first rest : List Reading) :
    outcome (first ++ rest) =
      if outcome first = .accepted then outcome rest else outcome first := by
  induction first with
  | nil => simp [outcome]
  | cons reading first ih =>
    rw [List.cons_append, outcome, outcome, ih]
    cases reading.breaks <;> cases reading.rejects <;> simp

/-! Computations that follow their readings. -/

section computations
variable {α β : Type}

theorem verdict_append {x : Except PyError α} {f : α → Except PyError β} {first rest : List Reading}
    (now : verdict x = outcome first)
    (later : ∀ value, x = .ok value → verdict (f value) = outcome rest) :
    verdict (x >>= f) = outcome (first ++ rest) := by
  rw [outcome_append, ← now]
  cases x with
  | ok value =>
    rw [verdict, if_pos rfl]
    exact later value rfl
  | error e =>
    have raised : (Except.error e >>= f) = .error e := rfl
    rw [raised]
    by_cases refused : isArchiveError e = true
    · simp [verdict, refused]
    · simp [verdict, refused]

theorem verdict_first {x : Except PyError α} {f : α → Except PyError β} {reading : Reading}
    {rest : List Reading} (now : verdict x = outcome [reading])
    (later : ∀ value, x = .ok value → verdict (f value) = outcome rest) :
    verdict (x >>= f) = outcome (reading :: rest) :=
  verdict_append now later

theorem verdict_cons {x : Except PyError α} {f : α → Except PyError β} {reading : Reading}
    {rest : List Reading} (now : verdict x = outcome [reading])
    (later : ∀ value, verdict (f value) = outcome rest) :
    verdict (x >>= f) = outcome (reading :: rest) :=
  verdict_append now fun value _ => later value

omit [ArchiveRuntime] in
theorem verdict_map (f : α → β) (x : Except PyError α) : verdict (f <$> x) = verdict x := by
  cases x <;> rfl

theorem verdict_mapM {f : PyValue → Except PyError α} {readings : PyValue → List Reading}
    (each : ∀ item, verdict (f item) = outcome (readings item)) (items : List PyValue) :
    verdict (items.mapM f) = outcome (items.flatMap readings) := by
  induction items with
  | nil => rfl
  | cons item items ih =>
    rw [List.mapM_cons, List.flatMap_cons]
    apply verdict_append (each item)
    intro value _
    rw [← List.append_nil (items.flatMap readings)]
    exact verdict_append ih fun values _ => rfl

end computations

/-! The fields. -/

section fields
variable (payload : PyDict) (key : String)

theorem required_reads : verdict (required payload key) = outcome [.field payload key .present] := by
  unfold required
  cases found : lookupEntries payload key with
  | none => simp [verdict, isArchiveError, outcome, Reading.breaks, FieldKind.breaks, found]
  | some value =>
    simp [verdict, outcome, Reading.breaks, Reading.rejects, FieldKind.breaks, FieldKind.rejects,
      found]

theorem requiredText_reads :
    verdict (requiredText payload key) = outcome [.field payload key .present] := by
  rw [← required_reads]
  exact verdict_map PyValue.text (required payload key)

theorem parseDatetime_verdict (value : PyValue) :
    verdict (parseDatetime value) = if isMalformedTime value then .refused else .accepted := by
  unfold parseDatetime isMalformedTime
  cases ArchiveRuntime.fromisoformat value.text with
  | some time => rfl
  | none => rfl

theorem requiredTime_reads :
    verdict (requiredTime payload key) = outcome [.field payload key .time] := by
  unfold requiredTime required
  cases found : lookupEntries payload key with
  | none =>
    simp [Bind.bind, Except.bind, verdict, isArchiveError, outcome, Reading.breaks, FieldKind.breaks,
      found]
  | some value =>
    simp [Bind.bind, Except.bind, parseDatetime_verdict, outcome, Reading.breaks, Reading.rejects,
      FieldKind.breaks, FieldKind.rejects, found]

theorem field_outcome (kind : FieldKind) :
    outcome [.field payload key kind] =
      if kind.breaks payload key then .escaped
      else if kind.rejects payload key then .refused
      else .accepted := rfl

theorem parseOptionalDatetime_verdict (value : PyValue) :
    verdict (parseOptionalDatetime value) =
      if isUnhashable value then .escaped
      else if isMalformedOptional value then .refused
      else .accepted := by
  have parsed : verdict ((parseDatetime value).map some) =
      if isMalformedTime value then .refused else .accepted := by
    rw [← parseDatetime_verdict]
    exact verdict_map some (parseDatetime value)
  cases value with
  | none => rfl
  | list items => rfl
  | dict entries => rfl
  | str text =>
    by_cases empty : text = ""
    · subst empty
      rfl
    · simpa [parseOptionalDatetime, isUnhashable, isMalformedOptional, empty] using parsed
  | _ => exact parsed

theorem optionalTime_reads :
    verdict (parseOptionalDatetime (optional payload key)) =
      outcome [.field payload key .optionalTime] :=
  parseOptionalDatetime_verdict (optional payload key)

omit [ArchiveRuntime] in
theorem toList_verdict (value : PyValue) :
    verdict (PyValue.toList value) = if isIterable value then .accepted else .escaped := by
  cases value <;> rfl

theorem itemsAt_reads : verdict (itemsAt payload key) = outcome [.field payload key .items] := by
  rw [field_outcome]
  unfold itemsAt FieldKind.breaks FieldKind.rejects
  by_cases given : (optional payload key).truthy = true
  · rw [if_pos given, toList_verdict]
    cases iterable : isIterable (optional payload key) <;> simp [given]
  · simp [given, verdict]

theorem toInt_verdict {value : PyValue} (given : value.truthy = true) :
    verdict (PyValue.toInt value) = if isUncountable value then .escaped else .accepted := by
  cases value with
  | none => cases given
  | str text =>
    unfold PyValue.toInt isUncountable
    cases parsed : parseInt text.toList with
    | none => simp [parsed, verdict, isArchiveError]
    | some n => simp [parsed, verdict]
  | _ => rfl

theorem countAt_reads (default : Int) :
    verdict (countAt payload key default) = outcome [.field payload key .count] := by
  rw [field_outcome]
  unfold countAt FieldKind.breaks FieldKind.rejects
  by_cases given : (optional payload key).truthy = true
  · rw [if_pos given, toInt_verdict given]
    cases uncountable : isUncountable (optional payload key) <;> simp [given]
  · simp [given, verdict]

theorem toFloat_verdict (value : PyValue) :
    verdict (toFloat value) = if isUnmeasurable value then .escaped else .accepted := by
  cases value with
  | int n =>
    unfold toFloat isUnmeasurable
    by_cases large : overflowLimit ≤ |(n : Rat)|
    · simp [large, verdict, isArchiveError]
    · simp [large, verdict]
  | str text =>
    unfold toFloat isUnmeasurable
    cases parsed : Analytics.floatOf toDouble text.toList with
    | none => simp [parsed, verdict, isArchiveError]
    | some n => simp [parsed, verdict]
  | _ => rfl

theorem number_reads :
    verdict (required payload key >>= toFloat) = outcome [.field payload key .number] := by
  rw [field_outcome]
  unfold required FieldKind.breaks FieldKind.rejects
  cases lookupEntries payload key with
  | none => rfl
  | some value =>
    have same : (Except.ok value >>= toFloat) = toFloat value := rfl
    rw [same, toFloat_verdict]
    cases measured : isUnmeasurable value <;> simp [measured]

theorem member_reads {α : Type} (all : List α) (value : α → String) :
    verdict (requiredText payload key >>= memberOf all value) =
      outcome [.field payload key (.member (all.map value))] := by
  rw [field_outcome]
  unfold requiredText required FieldKind.breaks FieldKind.rejects
  cases lookupEntries payload key with
  | none => rfl
  | some given =>
    have same : (Except.map PyValue.text (.ok given) >>= memberOf all value) =
        memberOf all value given.text := rfl
    rw [same]
    unfold memberOf
    cases found : all.find? fun member => value member = given.text with
    | none =>
      have missing : given.text ∉ all.map value := by
        intro listed
        obtain ⟨member, inside, same⟩ := List.mem_map.mp listed
        have absent := List.find?_eq_none.mp found member inside
        simp [same] at absent
      simpa [verdict, isArchiveError] using missing
    | some member =>
      have listed : given.text ∈ all.map value := by
        have same := List.find?_some found
        rw [decide_eq_true_eq] at same
        exact List.mem_map.mpr ⟨member, List.mem_of_find?_eq_some found, same⟩
      simpa [verdict] using listed

end fields

/-! The records. -/

section records
variable (payload : PyDict)

theorem runFromArchive_reads :
    verdict (runFromArchive payload) = outcome (fieldsOf runFields payload) := by
  unfold fieldsOf runFields runFromArchive
  apply verdict_cons (requiredText_reads payload "id")
  intro id
  apply verdict_cons (requiredText_reads payload "task")
  intro task
  rw [← bind_assoc]
  apply verdict_cons (member_reads payload "status" _ _)
  intro status
  apply verdict_cons (requiredTime_reads payload "created_at")
  intro createdAt
  apply verdict_cons (requiredTime_reads payload "updated_at")
  intro updatedAt
  rfl

theorem artifactFromArchive_reads :
    verdict (artifactFromArchive payload) = outcome (fieldsOf artifactFields payload) := by
  unfold fieldsOf artifactFields artifactFromArchive
  apply verdict_cons (requiredText_reads payload "id")
  intro id
  apply verdict_cons (requiredText_reads payload "run_id")
  intro runId
  rw [← bind_assoc]
  apply verdict_cons (member_reads payload "type" _ _)
  intro type
  apply verdict_cons (requiredText_reads payload "uri")
  intro uri
  apply verdict_cons (itemsAt_reads payload "source_artifact_ids")
  intro sourceArtifactIds
  apply verdict_cons (requiredTime_reads payload "created_at")
  intro createdAt
  rfl

theorem graphNodeFromArchive_reads :
    verdict (graphNodeFromArchive payload) = outcome (fieldsOf graphNodeFields payload) := by
  unfold fieldsOf graphNodeFields graphNodeFromArchive
  apply verdict_cons (requiredText_reads payload "id")
  intro id
  apply verdict_cons (requiredText_reads payload "run_id")
  intro runId
  apply verdict_cons (requiredText_reads payload "agent_type")
  intro agentType
  rw [← bind_assoc]
  apply verdict_cons (member_reads payload "status" _ _)
  intro status
  apply verdict_cons (itemsAt_reads payload "depends_on")
  intro dependsOn
  apply verdict_cons (itemsAt_reads payload "required_tools")
  intro requiredTools
  apply verdict_cons (itemsAt_reads payload "expected_artifacts")
  intro expectedArtifacts
  apply verdict_cons (countAt_reads payload "retry_count" _)
  intro retryCount
  apply verdict_cons (optionalTime_reads payload "started_at")
  intro startedAt
  apply verdict_cons (optionalTime_reads payload "finished_at")
  intro finishedAt
  apply verdict_cons (requiredTime_reads payload "created_at")
  intro createdAt
  apply verdict_cons (requiredTime_reads payload "updated_at")
  intro updatedAt
  rfl

theorem eventFromArchive_reads :
    verdict (eventFromArchive payload) = outcome (fieldsOf eventFields payload) := by
  unfold fieldsOf eventFields eventFromArchive
  apply verdict_cons (requiredText_reads payload "id")
  intro id
  apply verdict_cons (requiredText_reads payload "run_id")
  intro runId
  apply verdict_cons (requiredText_reads payload "node_id")
  intro nodeId
  apply verdict_cons (requiredText_reads payload "event_type")
  intro eventType
  apply verdict_cons (requiredTime_reads payload "created_at")
  intro createdAt
  rfl

theorem evaluationFromArchive_reads :
    verdict (evaluationFromArchive payload) = outcome (fieldsOf evaluationFields payload) := by
  unfold fieldsOf evaluationFields evaluationFromArchive
  apply verdict_cons (requiredText_reads payload "id")
  intro id
  apply verdict_cons (requiredText_reads payload "run_id")
  intro runId
  apply verdict_cons (number_reads payload "score")
  intro score
  apply verdict_cons (required_reads payload "passed")
  intro passed
  apply verdict_cons (requiredTime_reads payload "created_at")
  intro createdAt
  rfl

theorem workflowJobFromArchive_reads :
    verdict (workflowJobFromArchive payload) = outcome (fieldsOf workflowJobFields payload) := by
  unfold fieldsOf workflowJobFields workflowJobFromArchive
  apply verdict_cons (requiredText_reads payload "id")
  intro id
  apply verdict_cons (requiredText_reads payload "run_id")
  intro runId
  apply verdict_cons (requiredText_reads payload "workflow_name")
  intro workflowName
  rw [← bind_assoc]
  apply verdict_cons (member_reads payload "status" _ _)
  intro status
  apply verdict_cons (countAt_reads payload "attempt_count" _)
  intro attemptCount
  apply verdict_cons (countAt_reads payload "max_attempts" _)
  intro maxAttempts
  apply verdict_cons (optionalTime_reads payload "started_at")
  intro startedAt
  apply verdict_cons (optionalTime_reads payload "finished_at")
  intro finishedAt
  apply verdict_cons (optionalTime_reads payload "heartbeat_at")
  intro heartbeatAt
  apply verdict_cons (requiredTime_reads payload "created_at")
  intro createdAt
  apply verdict_cons (requiredTime_reads payload "updated_at")
  intro updatedAt
  rfl

theorem checkpointFromArchive_reads :
    verdict (checkpointFromArchive payload) = outcome (fieldsOf checkpointFields payload) := by
  unfold fieldsOf checkpointFields checkpointFromArchive
  apply verdict_cons (requiredText_reads payload "run_id")
  intro runId
  apply verdict_cons (countAt_reads payload "version" _)
  intro version
  apply verdict_cons (requiredTime_reads payload "created_at")
  intro createdAt
  apply verdict_cons (requiredTime_reads payload "updated_at")
  intro updatedAt
  rfl

end records

/-! The lists and the archive. -/

theorem record_reads {α : Type} {fromArchive : PyDict → Except PyError α}
    {kinds : List (String × FieldKind)}
    (each : ∀ payload, verdict (fromArchive payload) = outcome (fieldsOf kinds payload))
    (item : PyValue) :
    verdict (dictItem item >>= fromArchive) = outcome (recordReadings kinds item) := by
  cases item with
  | dict payload =>
    unfold recordReadings
    apply verdict_first rfl
    intro entries same
    cases same
    exact each payload
  | _ => rfl

theorem list_reads {α : Type} {fromArchive : PyDict → Except PyError α}
    {kinds : List (String × FieldKind)}
    (each : ∀ payload, verdict (fromArchive payload) = outcome (fieldsOf kinds payload))
    (archive : PyDict) (key : String) :
    verdict (recordsAt archive key fromArchive) = outcome (listReadings archive key kinds) := by
  unfold recordsAt listReadings
  dsimp only
  generalize (lookupEntries archive key).getD (.list []) = value
  have iterated : verdict (PyValue.toList value) = outcome [.records value] := by
    rw [toList_verdict]
    cases iterable : isIterable value <;> simp [outcome, Reading.breaks, Reading.rejects, iterable]
  cases listed : PyValue.toList value with
  | error e =>
    rw [listed] at iterated
    exact iterated
  | ok items =>
    rw [listed] at iterated
    apply verdict_first iterated
    intro items' same
    cases same
    exact verdict_mapM (record_reads each) items

theorem checkpointOf_reads (archive : PyDict) :
    verdict (checkpointOf archive) =
      outcome (if (optional archive "checkpoint").truthy then
        recordReadings checkpointFields (optional archive "checkpoint") else []) := by
  unfold checkpointOf
  by_cases given : (optional archive "checkpoint").truthy = true
  · rw [if_pos given, if_pos given, verdict_map]
    exact record_reads checkpointFromArchive_reads _
  · rw [if_neg given, if_neg given]
    rfl

theorem contentsFromArchive_reads (archive : PyDict) :
    verdict (contentsFromArchive archive) = outcome (contentReadings archive) := by
  unfold contentsFromArchive contentReadings
  simp only [List.append_assoc]
  apply verdict_append (list_reads artifactFromArchive_reads archive "artifacts")
  intro artifacts _
  apply verdict_append (list_reads graphNodeFromArchive_reads archive "graph_nodes")
  intro graphNodes _
  apply verdict_append (list_reads eventFromArchive_reads archive "events")
  intro events _
  apply verdict_append (list_reads evaluationFromArchive_reads archive "evaluations")
  intro evaluations _
  apply verdict_append (list_reads workflowJobFromArchive_reads archive "workflow_jobs")
  intro workflowJobs _
  rw [← checkpointOf_reads]
  cases checkpointOf archive <;> rfl

/-! The import. -/

theorem requiredText_ok {payload : PyDict} {key text : String}
    (given : requiredText payload key = .ok text) : text = (optional payload key).text := by
  unfold requiredText required at given
  unfold optional
  cases found : lookupEntries payload key with
  | none =>
    rw [found] at given
    cases given
  | some value =>
    rw [found] at given
    exact (Except.ok.inj given).symm

theorem runFromArchive_id {payload : PyDict} {run : RunRecord}
    (decoded : runFromArchive payload = .ok run) : run.id = (optional payload "id").text := by
  unfold runFromArchive at decoded
  obtain ⟨id, given, decoded⟩ := ExceptLists.bind_eq_ok.mp decoded
  obtain ⟨task, _, decoded⟩ := ExceptLists.bind_eq_ok.mp decoded
  obtain ⟨text, _, decoded⟩ := ExceptLists.bind_eq_ok.mp decoded
  obtain ⟨status, _, decoded⟩ := ExceptLists.bind_eq_ok.mp decoded
  obtain ⟨createdAt, _, decoded⟩ := ExceptLists.bind_eq_ok.mp decoded
  obtain ⟨updatedAt, _, decoded⟩ := ExceptLists.bind_eq_ok.mp decoded
  cases decoded
  exact requiredText_ok given

theorem run_reads (archive : PyDict) :
    verdict (requiredMapping archive "run" >>= runFromArchive) =
      outcome (.mapping (optional archive "run") :: fieldsOf runFields (runPayload archive)) := by
  unfold requiredMapping runPayload
  cases optional archive "run" with
  | dict payload => exact runFromArchive_reads payload
  | _ => rfl

theorem requiredMapping_run {archive : PyDict} {run : RunRecord}
    (decoded : (requiredMapping archive "run" >>= runFromArchive) = .ok run) :
    run.id = (optional (runPayload archive) "id").text := by
  unfold requiredMapping at decoded
  unfold runPayload
  cases given : optional archive "run" with
  | dict payload =>
    rw [given] at decoded
    exact runFromArchive_id decoded
  | _ =>
    rw [given] at decoded
    cases decoded

omit [ArchiveRuntime] in
theorem refuseExisting_run (runId : String) (overwrite : Bool) (repo : Repo) :
    refuseExisting runId overwrite repo =
      (if ((repo.runs.get? runId).isSome && !overwrite) = true then
        .error (.runArchiveConflict runId) else .ok (), repo) := by
  unfold refuseExisting getRun
  cases repo.runs.get? runId with
  | none => rfl
  | some run => cases overwrite <;> rfl

/-- A repository that holds a run with its children. A job id that is given more than
    once keeps one of its jobs. -/
structure Restored (run : RunRecord) (contents : RunContents) (repo : Repo) : Prop where
  stored : repo.runs.get? run.id = some run
  artifacts : repo.artifacts.get? run.id = some contents.artifacts
  graphNodes : repo.graphNodes.get? run.id = some contents.graphNodes
  events : repo.events.get? run.id = some contents.events
  evaluations : repo.evaluations.get? run.id = some contents.evaluations
  checkpoint : repo.checkpoints.get? run.id = contents.checkpoint
  workflowJobs : ∀ job ∈ contents.workflowJobs,
    ∃ kept ∈ contents.workflowJobs, kept.id = job.id ∧ repo.workflowJobs.get? job.id = some kept

/-! The jobs are added one by one; nothing else changes. -/

section jobs
omit [ArchiveRuntime]

theorem appendJobs_jobs (jobs : List WorkflowJobRecord) (repo : Repo) :
    (jobs.foldl Repo.appendJob repo).workflowJobs =
      (jobs.map fun job => (job.id, job)).foldl
        (fun table pair => table.set pair.1 pair.2) repo.workflowJobs := by
  induction jobs generalizing repo with
  | nil => rfl
  | cons job jobs ih => exact ih (repo.appendJob job)

theorem appendJobs_keeps {α : Type} (f : Repo → α) (each : ∀ repo job, f (repo.appendJob job) = f repo)
    (jobs : List WorkflowJobRecord) (repo : Repo) : f (jobs.foldl Repo.appendJob repo) = f repo := by
  induction jobs generalizing repo with
  | nil => rfl
  | cons job jobs ih => rw [List.foldl_cons, ih, each]

theorem kept_job {jobs : List WorkflowJobRecord} {job : WorkflowJobRecord} (given : job ∈ jobs)
    (table : Dict String WorkflowJobRecord) :
    ∃ kept ∈ jobs, kept.id = job.id ∧
      ((jobs.map fun job => (job.id, job)).foldl
        (fun table pair => table.set pair.1 pair.2) table).get? job.id = some kept := by
  rw [Dict.get?_foldl_set]
  cases found : (jobs.map fun job => (job.id, job)).reverse.find?
      fun pair => decide (pair.1 = job.id) with
  | none =>
    have absent := List.find?_eq_none.mp found (job.id, job)
      (List.mem_reverse.mpr (List.mem_map_of_mem given))
    simp at absent
  | some pair =>
    have same : pair.1 = job.id := by simpa using List.find?_some found
    obtain ⟨kept, member, rfl⟩ :=
      List.mem_map.mp (List.mem_reverse.mp (List.mem_of_find?_eq_some found))
    exact ⟨kept, member, same, rfl⟩

/-- The repository before its checkpoint is put in place. -/
def refilled (run : RunRecord) (contents : RunContents) (repo : Repo) : Repo :=
  contents.workflowJobs.foldl Repo.appendJob
    (Repo.withoutJobsOf
      { repo with
        runs := repo.runs.set run.id run
        artifacts := repo.artifacts.set run.id contents.artifacts
        graphNodes := repo.graphNodes.set run.id contents.graphNodes
        events := repo.events.set run.id contents.events
        evaluations := repo.evaluations.set run.id contents.evaluations } run.id)

theorem refilled_restored (run : RunRecord) (contents : RunContents) (repo : Repo)
    {checkpoints : Dict String RunCheckpointRecord}
    (checkpoint : checkpoints.get? run.id = contents.checkpoint) :
    Restored run contents { refilled run contents repo with checkpoints } := by
  unfold refilled
  constructor
  · simp [appendJobs_keeps Repo.runs fun _ _ => rfl, Repo.withoutJobsOf]
  · simp [appendJobs_keeps Repo.artifacts fun _ _ => rfl, Repo.withoutJobsOf]
  · simp [appendJobs_keeps Repo.graphNodes fun _ _ => rfl, Repo.withoutJobsOf]
  · simp [appendJobs_keeps Repo.events fun _ _ => rfl, Repo.withoutJobsOf]
  · simp [appendJobs_keeps Repo.evaluations fun _ _ => rfl, Repo.withoutJobsOf]
  · exact checkpoint
  · intro job given
    rw [appendJobs_jobs]
    exact kept_job given _

theorem restoreRun_restores (run : RunRecord) (contents : RunContents) (repo : Repo) :
    ∃ repo', restoreRun run contents repo = (.ok run, repo') ∧ Restored run contents repo' := by
  unfold restoreRun
  simp only [bind_run, change_run]
  cases given : contents.checkpoint with
  | none =>
    refine ⟨_, rfl, refilled_restored run contents repo ?_⟩
    simp [given, Dict.get?_erase]
  | some record =>
    refine ⟨_, rfl, refilled_restored run contents repo ?_⟩
    simp [given]

end jobs

/-- The import restores the run, or it raises `RunArchiveError` or its subclass and leaves
    the repository as it was. -/
def FailsCleanly (archive : PyDict) (overwrite : Bool) (repo : Repo) : Prop :=
  match importRunArchive archive overwrite repo with
  | (.ok run, repo') =>
      ∃ contents, contentsFromArchive archive = .ok contents ∧ Restored run contents repo'
  | (.error e, repo') => isArchiveError e = true ∧ repo' = repo

theorem import_supported {archive : PyDict}
    (supported : optional archive "schema_version" = .str runArchiveSchemaVersion)
    (overwrite : Bool) :
    importRunArchive archive overwrite = (do
      let run ← ofExcept (requiredMapping archive "run" >>= runFromArchive)
      refuseExisting run.id overwrite
      let contents ← ofExcept (contentsFromArchive archive)
      restoreRun run contents) := by
  unfold importRunArchive
  rw [supported]
  simp only [if_true]

theorem import_unsupported {archive : PyDict}
    (unsupported : optional archive "schema_version" ≠ .str runArchiveSchemaVersion)
    (overwrite : Bool) (repo : Repo) :
    (∃ message, importRunArchive archive overwrite repo = (.error (.runArchive message), repo)) ∧
      Reading.rejects (.schema (optional archive "schema_version")) = true := by
  unfold importRunArchive
  cases given : optional archive "schema_version" with
  | str version =>
    have other : version ≠ runArchiveSchemaVersion := by
      intro same
      exact unsupported (by rw [given, same])
    simp only [if_neg other]
    exact ⟨⟨_, rfl⟩, by simpa [Reading.rejects] using other⟩
  | _ => exact ⟨⟨_, rfl⟩, rfl⟩

/-- What an import that returns has stored, and one that raises has left. -/
def Ends (archive : PyDict) (repo : Repo) : Except PyError RunRecord × Repo → Prop
  | (.ok run, repo') =>
      ∃ contents, contentsFromArchive archive = .ok contents ∧ Restored run contents repo'
  | (.error _, repo') => repo' = repo

theorem decoded_run {archive : PyDict} {overwrite : Bool} {run : RunRecord} {repo : Repo}
    (supported : optional archive "schema_version" = .str runArchiveSchemaVersion)
    (decoded : (requiredMapping archive "run" >>= runFromArchive) = .ok run) :
    verdict (importRunArchive archive overwrite repo).1 =
        outcome (.existing ((repo.runs.get? run.id).isSome && !overwrite) ::
          contentReadings archive) ∧
      Ends archive repo (importRunArchive archive overwrite repo) := by
  rw [import_supported supported]
  simp only [bind_run, ofExcept_run, decoded, refuseExisting_run]
  cases refused : (repo.runs.get? run.id).isSome && !overwrite with
  | true => exact ⟨rfl, rfl⟩
  | false =>
    have contentsRead : outcome (.existing false :: contentReadings archive) =
        verdict (contentsFromArchive archive) := (contentsFromArchive_reads archive).symm
    rw [contentsRead]
    simp only [Bool.false_eq_true, if_false]
    cases read : contentsFromArchive archive with
    | error e => exact ⟨rfl, rfl⟩
    | ok contents =>
      obtain ⟨repo', put, restored⟩ := restoreRun_restores run contents repo
      simp only [put]
      exact ⟨rfl, contents, read, restored⟩

/-- The import ends as its readings say, and one that raises changes nothing. -/
theorem import_ends (archive : PyDict) (overwrite : Bool) (repo : Repo) :
    verdict (importRunArchive archive overwrite repo).1 =
        outcome (importReadings archive overwrite repo) ∧
      Ends archive repo (importRunArchive archive overwrite repo) := by
  unfold importReadings
  by_cases supported : optional archive "schema_version" = .str runArchiveSchemaVersion
  · have passed : ∀ rest, outcome (.schema (optional archive "schema_version") :: rest) =
        outcome rest := by
      intro rest
      rw [supported]
      simp [outcome, Reading.breaks, Reading.rejects]
    rw [List.cons_append, passed, outcome_append, ← run_reads]
    cases decoded : requiredMapping archive "run" >>= runFromArchive with
    | error e =>
      have raised : importRunArchive archive overwrite repo = (.error e, repo) := by
        rw [import_supported supported]
        simp only [bind_run, ofExcept_run, decoded]
      rw [raised]
      constructor
      · by_cases refused : isArchiveError e = true
        · simp [verdict, refused]
        · simp [verdict, refused]
      · rfl
    | ok run =>
      rw [← requiredMapping_run decoded]
      exact decoded_run supported decoded
  · obtain ⟨⟨message, raised⟩, rejects⟩ := import_unsupported supported overwrite repo
    rw [raised]
    constructor
    · rw [List.cons_append, outcome, if_neg (by simp [Reading.breaks]), if_pos rejects]
      rfl
    · rfl

end readings

/-- A missing key, an unknown member, an unhashable timestamp and a list that is none. -/
def brokenArchives : List PyDict :=
  [[("schema_version", .str runArchiveSchemaVersion), ("run", .dict [])],
    archiveOf [("graph_nodes", .list [.dict ([("id", .str "n"), ("run_id", .str "run_b"),
      ("agent_type", .str "reporting"), ("status", .str "done")] ++ stamps)])],
    archiveOf [("workflow_jobs", .list [.dict ([("id", .str "j"), ("run_id", .str "run_b"),
      ("workflow_name", .str "dynamic_analysis"), ("status", .str "completed"),
      ("started_at", .list [])] ++ stamps)])],
    archiveOf [("events", .none)]]

end RunArchive.Untyped
