import AeaiOs.ExportRedaction

/-!
Exported archives that are imported again. The decoders put a default in the place of a
falsy value, and a storage key is written only if it is not empty before it is redacted;
what comes back from such a field is not what was exported.
-/
namespace RunArchive
open OrderedDict PyText CivilTime StoreAction ExceptLists RunValues RunModels Redaction
open StoreAction.Action (ofExcept bind_run ofExcept_run change_run pure_run)
open InMemoryRunRepository

section restoring
variable [ArchiveRuntime]

def checkpointRecordFromArchive (payload : PyDict) : Except PyError CheckpointRecord := do
  let runId ← requiredText payload "run_id"
  let state ← dictAt payload "state"
  let version ← naturalAt payload "version" 1
  let createdAt ← requiredTime payload "created_at"
  let updatedAt ← requiredTime payload "updated_at"
  return { runId, state, version, createdAt, updatedAt }

def checkpointRecordAt (archive : PyDict) : Except PyError (Option CheckpointRecord) :=
  if (optional archive "checkpoint").truthy then
    some <$> (dictItem (optional archive "checkpoint") >>= checkpointRecordFromArchive)
  else pure none

/-- The import, with the state of the checkpoint as the dictionary that it is. -/
def importArchive (archive : PyDict) (overwrite : Bool) : StoreM RunRecord :=
  importRunArchive (fun runId => inRepo (getRun runId))
    (fun contents => do
      let checkpoint ← ofExcept (checkpointRecordAt archive)
      restoreRun contents checkpoint) archive overwrite

/-- A checkpoint is read alike, whichever way its state is kept. -/
theorem checkpointFromArchive_eq (payload : PyDict) :
    checkpointFromArchive payload = (checkpointRecordFromArchive payload).map fun record =>
      { runId := record.runId, state := ArchiveRuntime.stateOf record.state
        version := record.version, createdAt := record.createdAt
        updatedAt := record.updatedAt } := by
  unfold checkpointFromArchive checkpointRecordFromArchive
  cases requiredText payload "run_id" with
  | error e => rfl
  | ok runId =>
    cases dictAt payload "state" with
    | error e => rfl
    | ok state =>
      cases naturalAt payload "version" 1 with
      | error e => rfl
      | ok version =>
        cases requiredTime payload "created_at" with
        | error e => rfl
        | ok createdAt => cases requiredTime payload "updated_at" <;> rfl

end restoring

/-! One field read back. -/

section fields
variable [ArchiveRuntime] {payload : PyDict} {key : String}

theorem requiredText_str {text : String} (found : lookupEntries payload key = some (.str text)) :
    requiredText payload key = .ok text := by
  simp [requiredText, required, found, Except.map, PyValue.text]

omit [ArchiveRuntime] in
theorem textAt_option {text : Option String}
    (found : lookupEntries payload key = some (.ofOption text)) : textAt payload key = .ok text := by
  unfold textAt optional
  rw [found]
  cases text <;> rfl

omit [ArchiveRuntime] in
theorem intAt_option {n : Option Int} (found : lookupEntries payload key = some (optionalInteger n)) :
    intAt payload key = .ok n := by
  unfold intAt optional
  rw [found]
  cases n <;> rfl

omit [ArchiveRuntime] in
theorem dictAt_dict {entries : PyDict} (found : lookupEntries payload key = some (.dict entries)) :
    dictAt payload key = .ok entries := by
  unfold dictAt optional
  rw [found]
  cases entries <;> rfl

omit [ArchiveRuntime] in
theorem itemsAt_list {items : List PyValue} (found : lookupEntries payload key = some (.list items)) :
    itemsAt payload key = .ok items := by
  unfold itemsAt optional
  rw [found]
  cases items <;> rfl

omit [ArchiveRuntime] in
theorem textsAt_strings {texts : List String}
    (found : lookupEntries payload key = some (.ofStrings texts)) : textsAt payload key = .ok texts := by
  have walk : ∀ texts : List String, (texts.map PyValue.str).mapM textItem = .ok texts := by
    intro texts
    induction texts with
    | nil => rfl
    | cons text rest ih =>
      rw [List.map_cons, List.mapM_cons, ih]
      rfl
  unfold textsAt
  rw [itemsAt_list found]
  exact walk texts

omit [ArchiveRuntime] in
theorem dicts_read {dicts : List PyDict} : (dicts.map PyValue.dict).mapM dictItem = .ok dicts := by
  induction dicts with
  | nil => rfl
  | cons entries rest ih =>
    rw [List.map_cons, List.mapM_cons, ih]
    rfl

theorem countAt_int {n default : Int} (found : lookupEntries payload key = some (.int n)) :
    countAt payload key default = .ok (if n = 0 then default else n) := by
  unfold countAt optional
  rw [found]
  by_cases zero : n = 0
  · simp [zero, PyValue.truthy]
  · simp [zero, PyValue.truthy, PyValue.toInt]

theorem naturalAt_nat {n : Nat} {default : Int} (start : 0 ≤ default)
    (found : lookupEntries payload key = some (.int n)) :
    naturalAt payload key default = .ok (if n = 0 then default.toNat else n) := by
  unfold naturalAt
  rw [countAt_int found]
  by_cases zero : n = 0
  · simp [zero, bind, Except.bind, pure, Except.pure]
    omega
  · simp [zero, bind, Except.bind, pure, Except.pure]

theorem floatAt_float {q : Rat} (found : lookupEntries payload key = some (.float q)) :
    floatAt payload key = .ok q := by
  simp [floatAt, required, found, bind, Except.bind, pure, Except.pure]

variable (reads : ∀ time, Representable time →
  ArchiveRuntime.fromisoformat (isoformat time) = some time)
include reads

theorem requiredTime_stamp {time : Time} (dated : Representable time)
    (found : lookupEntries payload key = some (.str (isoformat time))) :
    requiredTime payload key = .ok time := by
  simp [requiredTime, required, found, bind, Except.bind, parseDatetime, PyValue.text,
    reads time dated]

theorem parseOptional_time {time : Option Time} (dated : ∀ t ∈ time, Representable t)
    (found : lookupEntries payload key = some (optionalTime time)) :
    parseOptionalDatetime (optional payload key) = .ok time := by
  unfold optional
  rw [found]
  cases time with
  | none => rfl
  | some t =>
    have written : isoformat t ≠ "" := by
      intro empty
      have stop := congrArg (fun text : String => 'T' ∈ text.toList) empty
      simp [isoformat_eq, dateText] at stop
    have read : parseOptionalDatetime (.str (isoformat t)) =
        (parseDatetime (.str (isoformat t))).map some := by
      unfold parseOptionalDatetime
      split
      · rename_i none
        cases none
      · rename_i empty
        exact absurd (PyValue.str.inj empty) written
      · rename_i list
        cases list
      · rename_i dict
        cases dict
      · rfl
    change parseOptionalDatetime (.str (isoformat t)) = .ok (some t)
    rw [read]
    simp [parseDatetime, PyValue.text, reads t (dated t rfl), Except.map]

end fields

/-! The enumerations. -/

theorem runStatus_read (status : RunStatus) :
    memberOf RunStatus.all RunStatus.value status.value = .ok status := by
  cases status <;> decide

theorem jobStatus_read (status : WorkflowJobStatus) :
    memberOf WorkflowJobStatus.all WorkflowJobStatus.value status.value = .ok status := by
  cases status <;> decide

theorem nodeStatus_read (status : GraphNodeStatus) :
    memberOf GraphNodeStatus.all GraphNodeStatus.value status.value = .ok status := by
  cases status <;> decide

theorem artifactType_read (type : ArtifactType) :
    memberOf ArtifactType.all ArtifactType.value type.value = .ok type := by
  cases type <;> decide

/-! The records. What an encoder writes, its decoder reads, with what redaction has made of
the texts; the third part of each lemma says when writing that again gives the same. -/

/-- `again` is read from what is written of `item`, and writes `record'` in turn. -/
def RoundTrip {α : Type} (encode : α → Except PyError PyDict)
    (decode : PyDict → Except PyError α) (faithful : α → Prop) (item : α) (record : PyDict) : Prop :=
  ∃ again record', decode record = .ok again ∧ encode again = .ok record' ∧
    (record' = record ↔ faithful item)

section records
variable [ArchiveRuntime] (reads : ∀ time, Representable time →
  ArchiveRuntime.fromisoformat (isoformat time) = some time)

/-- The timestamps are those of `datetime`, whatever the texts. -/
def dateLimits : Limits where
  time := Representable
  text := fun _ => True
  uri := fun _ => True
  summary := fun _ => True

/-- A key that is not empty is not made empty by its redaction. -/
def KeyKept (artifact : ArtifactRecord) : Prop :=
  ∀ key, artifact.storageKey = some key → key ≠ "" → redactUri key ≠ .ok ""

theorem storageKey_roundTrip {artifact : ArtifactRecord}
    (settles : ∀ key ∈ artifact.storageKey, key ≠ "" → Settles redactUri key)
    {storageKey : Option String} (made : storageKeyToArchive artifact.storageKey = .ok storageKey) :
    ∃ again, storageKeyToArchive storageKey = .ok again ∧
      (again = storageKey ↔ KeyKept artifact) := by
  unfold KeyKept
  cases stored : artifact.storageKey with
  | none =>
    rw [stored] at made
    simp only [storageKeyToArchive, Except.ok.injEq] at made
    exact ⟨none, by rw [← made]; rfl, by simp [← made]⟩
  | some key =>
    rw [stored] at made settles
    simp only [storageKeyToArchive] at made
    split at made
    · rename_i empty
      simp only [Except.ok.injEq] at made
      exact ⟨none, by rw [← made]; rfl, by simp [← made, empty]⟩
    · rename_i filled
      obtain ⟨key', first, rfl⟩ := except_map_ok made
      have fixed := fixed_of_settles (settles key rfl filled) first
      by_cases vanished : key' = ""
      · refine ⟨none, by simp [storageKeyToArchive, vanished], ?_⟩
        simp only [reduceCtorEq, false_iff, not_forall]
        exact ⟨key, rfl, filled, fun kept => kept (vanished ▸ first)⟩
      · refine ⟨some key', by simp [storageKeyToArchive, vanished, fixed, Except.map], ?_⟩
        simp only [true_iff]
        intro other same _ empty
        rw [← Option.some.inj same, first, Except.ok.injEq] at empty
        exact vanished empty

include reads

theorem run_roundTrip {run : RunRecord} (dated : RunWithin dateLimits run)
    (task : Settles redactText run.task) (metadata : Settles redactEntries run.metadata)
    {record : PyDict} (made : runToArchive run = .ok record) :
    ∃ again, runFromArchive record = .ok again ∧ runToArchive again = .ok record ∧
      again.id = run.id := by
  simp only [runToArchive, bind_eq_ok, pure_eq_ok] at made
  obtain ⟨task', first, metadata', second, rfl⟩ := made
  have taskFixed := fixed_of_settles task first
  have metadataFixed := fixed_of_settles metadata second
  refine ⟨{ run with task := task', metadata := metadata' }, ?_, ?_, rfl⟩
  · simp only [runFromArchive, bind_eq_ok, pure_eq_ok]
    exact ⟨run.id, requiredText_str rfl, task', requiredText_str rfl, run.status.value,
      requiredText_str rfl, run.status, runStatus_read _, metadata', dictAt_dict rfl, _,
      textAt_option rfl, _, textAt_option rfl, _, textAt_option rfl, _,
      requiredTime_stamp reads dated.created rfl, _, requiredTime_stamp reads dated.updated rfl,
      rfl⟩
  · simp only [runToArchive, bind_eq_ok, pure_eq_ok]
    exact ⟨task', taskFixed, metadata', metadataFixed, rfl⟩

theorem artifact_roundTrip {artifact : ArtifactRecord} (dated : ArtifactWithin dateLimits artifact)
    (uri : Settles redactUri artifact.uri) (metadata : Settles redactEntries artifact.metadata)
    (storageKey : ∀ key ∈ artifact.storageKey, key ≠ "" → Settles redactUri key)
    {record : PyDict} (made : artifactToArchive artifact = .ok record) :
    RoundTrip artifactToArchive artifactFromArchive KeyKept artifact record := by
  simp only [artifactToArchive, bind_eq_ok, pure_eq_ok] at made
  obtain ⟨uri', first, metadata', second, key', third, rfl⟩ := made
  have uriFixed := fixed_of_settles uri first
  have metadataFixed := fixed_of_settles metadata second
  obtain ⟨key'', fourth, same⟩ := storageKey_roundTrip storageKey third
  refine ⟨{ artifact with uri := uri', metadata := metadata', storageKey := key' }, ?_⟩
  apply Exists.intro
  refine ⟨?_, ?_, ?_⟩
  · simp only [artifactFromArchive, bind_eq_ok, pure_eq_ok]
    exact ⟨artifact.id, requiredText_str rfl, artifact.runId, requiredText_str rfl, _,
      textAt_option rfl, artifact.type.value, requiredText_str rfl, artifact.type,
      artifactType_read _, uri', requiredText_str rfl, metadata', dictAt_dict rfl, _,
      textAt_option rfl, _, textAt_option rfl, key', textAt_option rfl, _, intAt_option rfl, _,
      textsAt_strings rfl, _, requiredTime_stamp reads dated.created rfl, rfl⟩
  · simp only [artifactToArchive, bind_eq_ok, pure_eq_ok]
    exact ⟨uri', uriFixed, metadata', metadataFixed, key'', fourth, rfl⟩
  · rw [← same]
    constructor
    · intro equal
      have keys := congrArg (fun record => lookupEntries record "storage_key") equal
      have values : some (PyValue.ofOption key'') = some (PyValue.ofOption key') := keys
      cases key'' <;> cases key' <;> simp_all [PyValue.ofOption]
    · intro equal
      rw [equal]

theorem node_roundTrip {node : GraphNodeRecord} (dated : NodeWithin dateLimits node) :
    graphNodeFromArchive (graphNodeToArchive node) = .ok node := by
  have retries : naturalAt (graphNodeToArchive node) "retry_count" 0 = .ok node.retryCount := by
    rw [naturalAt_nat (n := node.retryCount) (by omega) rfl]
    split
    · rename_i zero
      rw [zero]
      rfl
    · rfl
  simp only [graphNodeFromArchive, bind_eq_ok, pure_eq_ok]
  exact ⟨node.id, requiredText_str rfl, node.runId, requiredText_str rfl, node.agentType,
    requiredText_str rfl, node.status.value, requiredText_str rfl, node.status, nodeStatus_read _,
    _, textsAt_strings rfl, _, textsAt_strings rfl, _, textsAt_strings rfl, _, retries, _,
    parseOptional_time reads dated.started rfl, _, parseOptional_time reads dated.finished rfl, _,
    requiredTime_stamp reads dated.created rfl, _, requiredTime_stamp reads dated.updated rfl, rfl⟩

theorem event_roundTrip {event : AgentEventRecord} (dated : EventWithin dateLimits event)
    (payload : Settles redactEntries event.payload) {record : PyDict}
    (made : eventToArchive event = .ok record) :
    RoundTrip eventToArchive eventFromArchive (fun _ => True) event record := by
  simp only [eventToArchive, bind_eq_ok, pure_eq_ok] at made
  obtain ⟨payload', first, rfl⟩ := made
  have fixed := fixed_of_settles payload first
  refine ⟨{ event with payload := payload' }, _, ?_, ?_, iff_true_intro rfl⟩
  · simp only [eventFromArchive, bind_eq_ok, pure_eq_ok]
    exact ⟨event.id, requiredText_str rfl, event.runId, requiredText_str rfl, event.nodeId,
      requiredText_str rfl, event.eventType, requiredText_str rfl, payload', dictAt_dict rfl, _,
      requiredTime_stamp reads dated.created rfl, rfl⟩
  · simp only [eventToArchive, bind_eq_ok, pure_eq_ok]
    exact ⟨payload', fixed, rfl⟩

theorem evaluation_roundTrip {evaluation : EvaluationResultRecord}
    (dated : EvaluationWithin dateLimits evaluation)
    (checks : Settles (List.mapM redactEntries) evaluation.checks) {record : PyDict}
    (made : evaluationToArchive evaluation = .ok record) :
    RoundTrip evaluationToArchive evaluationFromArchive (fun _ => True) evaluation record := by
  unfold evaluationToArchive at made
  cases created : evaluation.createdAt with
  | none => simp [created] at made
  | some createdAt =>
    simp only [created, bind_eq_ok, pure_eq_ok] at made
    obtain ⟨checks', first, rfl⟩ := made
    have fixed := fixed_of_settles checks first
    refine ⟨{ evaluation with checks := checks', createdAt := some createdAt }, _, ?_, ?_,
      iff_true_intro rfl⟩
    · simp only [evaluationFromArchive, bind_eq_ok, pure_eq_ok]
      exact ⟨evaluation.id, requiredText_str rfl, evaluation.runId, requiredText_str rfl, _,
        textAt_option rfl, _, floatAt_float rfl, .bool evaluation.passed, rfl, _,
        itemsAt_list rfl, checks', dicts_read, _,
        requiredTime_stamp reads (dated.created createdAt created) rfl, rfl⟩
    · simp only [evaluationToArchive, bind_eq_ok, pure_eq_ok]
      exact ⟨checks', fixed, rfl⟩

theorem job_roundTrip {job : WorkflowJobRecord} (dated : JobWithin dateLimits job)
    (payload : Settles redactEntries job.payload) {record : PyDict}
    (made : workflowJobToArchive job = .ok record) :
    RoundTrip workflowJobToArchive workflowJobFromArchive (fun job => job.maxAttempts ≠ 0) job
      record := by
  simp only [workflowJobToArchive, bind_eq_ok, pure_eq_ok] at made
  obtain ⟨payload', first, rfl⟩ := made
  have fixed := fixed_of_settles payload first
  refine ⟨{ job with
    payload := payload', attemptCount := if job.attemptCount = 0 then 0 else job.attemptCount
    maxAttempts := if job.maxAttempts = 0 then 1 else job.maxAttempts }, ?_⟩
  apply Exists.intro
  refine ⟨?_, ?_, ?_⟩
  · simp only [workflowJobFromArchive, bind_eq_ok, pure_eq_ok]
    exact ⟨job.id, requiredText_str rfl, job.runId, requiredText_str rfl, job.workflowName,
      requiredText_str rfl, job.status.value, requiredText_str rfl, job.status, jobStatus_read _,
      payload', dictAt_dict rfl, _, countAt_int rfl, _, countAt_int rfl, _, textAt_option rfl, _,
      textAt_option rfl, _, parseOptional_time reads dated.started rfl, _,
      parseOptional_time reads dated.finished rfl, _,
      parseOptional_time reads dated.heartbeat rfl, _, requiredTime_stamp reads dated.created rfl,
      _, requiredTime_stamp reads dated.updated rfl, rfl⟩
  · simp only [workflowJobToArchive, bind_eq_ok, pure_eq_ok]
    exact ⟨payload', fixed, rfl⟩
  · constructor
    · intro equal zero
      have counts := congrArg (fun record => lookupEntries record "max_attempts") equal
      have values : some (PyValue.int (if job.maxAttempts = 0 then 1 else job.maxAttempts)) =
        some (PyValue.int job.maxAttempts) := counts
      simp [zero] at values
    · intro positive
      have attempts : (if job.attemptCount = 0 then 0 else job.attemptCount) = job.attemptCount := by
        split <;> omega
      rw [attempts, if_neg positive]

theorem checkpoint_roundTrip {checkpoint : CheckpointRecord}
    (dated : CheckpointWithin dateLimits checkpoint)
    (state : Settles redactEntries checkpoint.state) {record : PyDict}
    (made : checkpointToArchive checkpoint = .ok record) :
    RoundTrip checkpointToArchive checkpointRecordFromArchive
      (fun checkpoint => checkpoint.version ≠ 0) checkpoint record := by
  simp only [checkpointToArchive, bind_eq_ok, pure_eq_ok] at made
  obtain ⟨state', first, rfl⟩ := made
  have fixed := fixed_of_settles state first
  refine ⟨{ checkpoint with
    state := state', version := if checkpoint.version = 0 then 1 else checkpoint.version }, ?_⟩
  apply Exists.intro
  refine ⟨?_, ?_, ?_⟩
  · simp only [checkpointRecordFromArchive, bind_eq_ok, pure_eq_ok]
    exact ⟨checkpoint.runId, requiredText_str rfl, state', dictAt_dict rfl, _,
      naturalAt_nat (by omega) rfl, _, requiredTime_stamp reads dated.created rfl, _,
      requiredTime_stamp reads dated.updated rfl, rfl⟩
  · simp only [checkpointToArchive, bind_eq_ok, pure_eq_ok]
    exact ⟨state', fixed, rfl⟩
  · constructor
    · intro equal zero
      have counts := congrArg (fun record => lookupEntries record "version") equal
      simp [zero, lookupEntries] at counts
    · intro positive
      rw [if_neg positive]

end records

/-! Lists of records. -/

section lists
variable [ArchiveRuntime]

omit [ArchiveRuntime] in
theorem mapM_roundTrip {α : Type} {encode : α → Except PyError PyDict}
    {decode : PyDict → Except PyError α} {faithful : α → Prop} {items : List α}
    (each : ∀ item ∈ items, ∀ {record}, encode item = .ok record →
      RoundTrip encode decode faithful item record) {records : List PyDict}
    (made : items.mapM encode = .ok records) :
    ∃ again records', records.mapM decode = .ok again ∧ again.mapM encode = .ok records' ∧
      (records' = records ↔ ∀ item ∈ items, faithful item) := by
  induction items generalizing records with
  | nil =>
    simp only [List.mapM_nil, pure_eq_ok] at made
    exact ⟨[], [], by rw [← made]; rfl, rfl, by simp [← made]⟩
  | cons item rest ih =>
    simp only [List.mapM_cons, bind_eq_ok, pure_eq_ok] at made
    obtain ⟨record, first, others, later, rfl⟩ := made
    obtain ⟨again, record', decoded, encoded, same⟩ := each item List.mem_cons_self first
    obtain ⟨agains, records', decodeds, encodeds, sames⟩ :=
      ih (fun i inside => each i (List.mem_cons_of_mem item inside)) later
    refine ⟨again :: agains, record' :: records', ?_, ?_, ?_⟩
    · simp only [List.mapM_cons, bind_eq_ok, pure_eq_ok]
      exact ⟨again, decoded, agains, decodeds, rfl⟩
    · simp only [List.mapM_cons, bind_eq_ok, pure_eq_ok]
      exact ⟨record', encoded, records', encodeds, rfl⟩
    · rw [List.cons.injEq, same, sames, List.forall_mem_cons]

omit [ArchiveRuntime] in
theorem recordsAt_list {α : Type} {archive : PyDict} {key : String} {records : List PyDict}
    (found : lookupEntries archive key = some (.list (records.map .dict)))
    (fromArchive : PyDict → Except PyError α) :
    recordsAt archive key fromArchive = records.mapM fromArchive := by
  unfold recordsAt
  rw [found]
  change (records.map PyValue.dict).mapM (fun item => dictItem item >>= fromArchive) = _
  rw [List.mapM_map]
  rfl

/-- The jobs that an import makes of those that were exported. -/
def JobsReread (jobs again : List WorkflowJobRecord) : Prop :=
  ∀ job' ∈ again, ∃ job ∈ jobs, ∃ record, workflowJobToArchive job = .ok record ∧
    workflowJobFromArchive record = .ok job'

theorem reread_ids {job job' : WorkflowJobRecord} {record : PyDict}
    (made : workflowJobToArchive job = .ok record)
    (read : workflowJobFromArchive record = .ok job') :
    job'.id = job.id ∧ job'.runId = job.runId := by
  simp only [workflowJobToArchive, bind_eq_ok, pure_eq_ok] at made
  obtain ⟨payload, -, rfl⟩ := made
  simp only [workflowJobFromArchive, bind_eq_ok, pure_eq_ok] at read
  obtain ⟨id, first, runId, second, -, -, -, -, -, -, -, -, -, -, -, -, -, -, -, -, -, -, -, -, -, -,
    -, -, -, -, rfl⟩ := read
  rw [requiredText_str rfl, Except.ok.injEq] at first second
  exact ⟨first.symm, second.symm⟩

end lists

/-! The whole archive. -/

section archives
variable [ArchiveRuntime]

/-- Redaction succeeds on the stored values of a run and is idempotent there. -/
structure ContentsSettle (contents : RunContents) (checkpoint : Option CheckpointRecord) :
    Prop where
  task : Settles redactText contents.run.task
  metadata : Settles redactEntries contents.run.metadata
  artifacts : ∀ artifact ∈ contents.artifacts, Settles redactUri artifact.uri ∧
    Settles redactEntries artifact.metadata ∧
    ∀ key ∈ artifact.storageKey, key ≠ "" → Settles redactUri key
  events : ∀ event ∈ contents.events, Settles redactEntries event.payload
  evaluations : ∀ evaluation ∈ contents.evaluations,
    Settles (List.mapM redactEntries) evaluation.checks
  workflowJobs : ∀ job ∈ contents.workflowJobs, Settles redactEntries job.payload
  checkpoint : ∀ record ∈ checkpoint, Settles redactEntries record.state

/-- No field holds what its decoder takes for a missing one, or its encoder for an empty
    one. -/
structure Faithful (contents : RunContents) (checkpoint : Option CheckpointRecord) : Prop where
  artifacts : ∀ artifact ∈ contents.artifacts, KeyKept artifact
  workflowJobs : ∀ job ∈ contents.workflowJobs, job.maxAttempts ≠ 0
  checkpoint : ∀ record ∈ checkpoint, record.version ≠ 0

variable (reads : ∀ time, Representable time →
  ArchiveRuntime.fromisoformat (isoformat time) = some time)
include reads

theorem checkpointOf_roundTrip {checkpoint : Option CheckpointRecord}
    (dated : ∀ record ∈ checkpoint, CheckpointWithin dateLimits record)
    (settle : ∀ record ∈ checkpoint, Settles redactEntries record.state)
    {entries : Option PyDict} (made : checkpointOf checkpoint = .ok entries) (archive : PyDict)
    (filed : lookupEntries archive "checkpoint" = some (optionalDict entries)) :
    ∃ again entries', checkpointRecordAt archive = .ok again ∧ checkpointOf again = .ok entries' ∧
      (entries' = entries ↔ ∀ record ∈ checkpoint, record.version ≠ 0) ∧
      ∃ typed, (if (optional archive "checkpoint").truthy then
          some <$> (dictItem (optional archive "checkpoint") >>= checkpointFromArchive)
        else pure none) = .ok typed := by
  cases checkpoint with
  | none =>
    simp only [checkpointOf, Except.ok.injEq] at made
    subst made
    refine ⟨none, none, ?_, rfl, by simp, ?_⟩
    · simp [checkpointRecordAt, optional, filed, optionalDict, PyValue.truthy, pure, Except.pure]
    · exact ⟨none, by simp [optional, filed, optionalDict, PyValue.truthy, pure, Except.pure]⟩
  | some record =>
    obtain ⟨written, encoded, rfl⟩ := except_map_ok made
    obtain ⟨again, written', decoded, rewritten, same⟩ :=
      checkpoint_roundTrip reads (dated record rfl) (settle record rfl) encoded
    have filled : (optional archive "checkpoint").truthy = true := by
      simp only [checkpointToArchive, bind_eq_ok, pure_eq_ok] at encoded
      obtain ⟨state, -, rfl⟩ := encoded
      simp [optional, filed, optionalDict, PyValue.truthy]
    have read : dictItem (optional archive "checkpoint") = .ok written := by
      simp [optional, filed, optionalDict, dictItem]
    refine ⟨some again, some written', ?_, by simp [checkpointOf, rewritten, Except.map], ?_, ?_⟩
    · unfold checkpointRecordAt
      rw [if_pos filled, read]
      change some <$> checkpointRecordFromArchive written = _
      rw [decoded]
      rfl
    · simp [same]
    · rw [if_pos filled, read]
      change ∃ typed, some <$> checkpointFromArchive written = .ok typed
      rw [checkpointFromArchive_eq, decoded]
      exact ⟨_, rfl⟩

omit reads in
/-- What an import reads of an archive. -/
structure Reread (contents : RunContents) (archive : PyDict) (again : RunContents)
    (checkpoint : Option CheckpointRecord) : Prop where
  run : (requiredMapping archive "run" >>= runFromArchive) = .ok again.run
  id : again.run.id = contents.run.id
  records : ∃ typed, contentsFromArchive again.run archive = .ok { again with checkpoint := typed }
  checkpoint : checkpointRecordAt archive = .ok checkpoint
  jobs : JobsReread contents.workflowJobs again.workflowJobs

theorem nodes_read {nodes : List GraphNodeRecord} (dated : ∀ node ∈ nodes, NodeWithin dateLimits node) :
    (nodes.map graphNodeToArchive).mapM graphNodeFromArchive = .ok nodes := by
  induction nodes with
  | nil => rfl
  | cons node rest ih =>
    have others := ih fun n member => dated n (List.mem_cons_of_mem node member)
    rw [List.map_cons, List.mapM_cons, node_roundTrip reads (dated node List.mem_cons_self), others]
    rfl

theorem records_roundTrip {contents : RunContents} {checkpoint : Option CheckpointRecord}
    (dated : ContentsWithin dateLimits contents)
    (checkpointDated : ∀ record ∈ checkpoint, CheckpointWithin dateLimits record)
    (settle : ContentsSettle contents checkpoint) {records : ArchiveRecords}
    (made : recordsToArchive contents checkpoint = .ok records) (exportedAt : Time) :
    ∃ again checkpoint' records', Reread contents (records.archive exportedAt) again checkpoint' ∧
      recordsToArchive again checkpoint' = .ok records' ∧
      (records' = records ↔ Faithful contents checkpoint) := by
  simp only [recordsToArchive, bind_eq_ok, pure_eq_ok] at made
  obtain ⟨run, first, artifacts, second, events, third, evaluations, fourth, jobs, fifth,
    entries, sixth, rfl⟩ := made
  obtain ⟨run', runRead, runWritten, sameId⟩ :=
    run_roundTrip reads dated.run settle.task settle.metadata first
  obtain ⟨artifacts', artifactRecords, artifactsRead, artifactsWritten, artifactsSame⟩ :=
    mapM_roundTrip (fun artifact member => artifact_roundTrip reads (dated.artifacts artifact member)
      (settle.artifacts artifact member).1 (settle.artifacts artifact member).2.1
      (settle.artifacts artifact member).2.2) second
  obtain ⟨events', eventRecords, eventsRead, eventsWritten, eventsSame⟩ :=
    mapM_roundTrip (fun event member => event_roundTrip reads (dated.events event member)
      (settle.events event member)) third
  obtain ⟨evaluations', evaluationRecords, evaluationsRead, evaluationsWritten, evaluationsSame⟩ :=
    mapM_roundTrip (fun evaluation member => evaluation_roundTrip reads
      (dated.evaluations evaluation member) (settle.evaluations evaluation member)) fourth
  obtain ⟨jobs', jobRecords, jobsRead, jobsWritten, jobsSame⟩ :=
    mapM_roundTrip (fun job member => job_roundTrip reads (dated.workflowJobs job member)
      (settle.workflowJobs job member)) fifth
  obtain ⟨checkpoint', entries', checkpointRead, checkpointWritten, checkpointSame, typed,
    typedRead⟩ := checkpointOf_roundTrip reads checkpointDated settle.checkpoint sixth
      (ArchiveRecords.archive
        ⟨run, artifacts, contents.graphNodes.map graphNodeToArchive, events, evaluations, jobs,
          entries⟩ exportedAt) rfl
  have nodesRead : (contents.graphNodes.map graphNodeToArchive).mapM graphNodeFromArchive =
      .ok contents.graphNodes :=
    nodes_read reads dated.graphNodes
  refine ⟨⟨run', artifacts', contents.graphNodes, events', evaluations', jobs', none⟩, checkpoint',
    ⟨run, artifactRecords, contents.graphNodes.map graphNodeToArchive, eventRecords,
      evaluationRecords, jobRecords, entries'⟩, ?_, ?_, ?_⟩
  · constructor
    · exact runRead
    · exact sameId
    · refine ⟨typed, ?_⟩
      simp only [contentsFromArchive, bind_eq_ok]
      refine ⟨artifacts', ?_, contents.graphNodes, ?_, events', ?_, evaluations', ?_, jobs', ?_,
        ?_⟩
      · exact (recordsAt_list rfl _).trans artifactsRead
      · exact (recordsAt_list rfl _).trans nodesRead
      · exact (recordsAt_list rfl _).trans eventsRead
      · exact (recordsAt_list rfl _).trans evaluationsRead
      · exact (recordsAt_list rfl _).trans jobsRead
      · split at typedRead
        · rename_i filled
          rw [if_pos filled, typedRead]
          rfl
        · rename_i empty
          rw [if_neg empty, ← Except.ok.inj typedRead]
          rfl
    · exact checkpointRead
    · intro job' member
      obtain ⟨record, inside, decoded⟩ := mapM_source jobsRead job' member
      obtain ⟨job, source, encoded⟩ := mapM_source fifth record inside
      exact ⟨job, source, record, encoded, decoded⟩
  · simp only [recordsToArchive, bind_eq_ok, pure_eq_ok]
    exact ⟨run, runWritten, artifactRecords, artifactsWritten, eventRecords, eventsWritten,
      evaluationRecords, evaluationsWritten, jobRecords, jobsWritten, entries', checkpointWritten,
      rfl⟩
  · have eventsEqual := eventsSame.mpr fun _ _ => True.intro
    have evaluationsEqual := evaluationsSame.mpr fun _ _ => True.intro
    simp only [ArchiveRecords.mk.injEq, artifactsSame, eventsEqual, evaluationsEqual, jobsSame,
      checkpointSame, true_and]
    constructor
    · rintro ⟨one, two, three⟩
      exact ⟨one, two, three⟩
    · intro faithful
      exact ⟨faithful.artifacts, faithful.workflowJobs, faithful.checkpoint⟩

/-! Importing into an empty repository. -/

omit reads in
theorem importRunArchive_fresh {σ : Type} {getRun : String → StoreAction.Action σ PyError RunRecord}
    {restoreRun : RunContents → StoreAction.Action σ PyError RunRecord} {archive : PyDict}
    {run : RunRecord} {contents : RunContents} {s : σ} {missing : String} (overwrite : Bool)
    (version : optional archive "schema_version" = .str runArchiveSchemaVersion)
    (read : (requiredMapping archive "run" >>= runFromArchive) = .ok run)
    (fresh : getRun run.id s = (.error (.runNotFound missing), s))
    (whole : contentsFromArchive run archive = .ok contents) :
    importRunArchive getRun restoreRun archive overwrite s = restoreRun contents s := by
  unfold importRunArchive
  simp only [version, if_true, bind_run, ofExcept_run, read]
  have unknown : refuseExisting getRun run.id overwrite s = (.ok (), s) := by
    simp [refuseExisting, fresh]
  simp only [unknown, whole]

/-- The store that an import into the empty one leaves. -/
def freshStore (contents : RunContents) (checkpoint : Option CheckpointRecord) : RunStore :=
  (RunArchive.restoreRun contents checkpoint .init).2

omit [ArchiveRuntime] reads in
theorem freshStore_run (contents : RunContents) (checkpoint : Option CheckpointRecord) :
    RunArchive.restoreRun contents checkpoint .init =
      (.ok contents.run, freshStore contents checkpoint) := by
  unfold freshStore RunArchive.restoreRun
  simp only [bind_run, inRepo_run, restoreRun_run, change_run, pure_run]

omit [ArchiveRuntime] reads in
/-- Jobs with ids of their own are listed in the order in which they came. -/
theorem freshStore_jobs {contents : RunContents} (checkpoint : Option CheckpointRecord)
    (distinct : ∀ job ∈ contents.workflowJobs, ∀ other ∈ contents.workflowJobs,
      job.id = other.id → job = other) :
    (freshStore contents checkpoint).repo.jobsInOrder = contents.workflowJobs := by
  have stored : ∀ job ∈ contents.workflowJobs,
      (Dict.ofPairs (jobRows contents)).get? job.id = some job := by
    intro job member
    obtain ⟨found, stored⟩ := Dict.get?_ofPairs_of_mem
      (List.mem_map_of_mem (f := fun job : WorkflowJobRecord => (job.id, job)) member)
    have inside := Dict.mem_of_get?_ofPairs stored
    obtain ⟨other, listed, same⟩ := List.mem_map.mp inside
    rw [Prod.mk.injEq] at same
    have own := distinct job member other listed same.1.symm
    rw [show jobRows contents = contents.workflowJobs.map fun job => (job.id, job) from rfl, stored,
      ← same.2, own]
  have listing : (freshStore contents checkpoint).repo.jobsInOrder =
      ((jobRows contents).map Prod.fst).filterMap (OwnedTables.refilled WorkflowJobRecord.runId
        contents.run.id .empty (jobRows contents)).get? := by
    unfold freshStore RunArchive.restoreRun
    simp only [bind_run, inRepo_run, restoreRun_run, change_run, pure_run]
    rfl
  have pairs : (jobRows contents).map Prod.fst =
      contents.workflowJobs.map WorkflowJobRecord.id := by
    unfold jobRows
    rw [List.map_map]
    rfl
  have each : ∀ job ∈ contents.workflowJobs, (OwnedTables.refilled WorkflowJobRecord.runId
      contents.run.id .empty (jobRows contents)).get? job.id = some job := by
    intro job member
    rw [OwnedTables.get?_refilled, stored job member]
    rfl
  rw [listing, pairs, List.filterMap_map]
  calc contents.workflowJobs.filterMap _ = contents.workflowJobs.filterMap some :=
        List.filterMap_congr fun job member => each job member
    _ = contents.workflowJobs := List.filterMap_some

omit [ArchiveRuntime] reads in
theorem freshStore_contents {contents : RunContents} (checkpoint : Option CheckpointRecord)
    (jobs : (freshStore contents checkpoint).repo.jobsInOrder = contents.workflowJobs)
    (own : ∀ job ∈ contents.workflowJobs, job.runId = contents.run.id) :
    (freshStore contents checkpoint).contentsOf contents.run contents.run.id =
        { contents with checkpoint := none } ∧
      (freshStore contents checkpoint).checkpoints.get? contents.run.id = checkpoint ∧
      (freshStore contents checkpoint).repo.runs.get? contents.run.id = some contents.run := by
  refine ⟨?_, ?_, ?_⟩
  · unfold RunStore.contentsOf
    rw [jobs, List.filter_eq_self.mpr fun job member => by simpa using own job member]
    unfold freshStore RunArchive.restoreRun
    simp only [bind_run, inRepo_run, restoreRun_run, change_run, pure_run, Repo.nodesOf,
      Dict.get?_set_self, Option.getD_some]
  · unfold freshStore RunArchive.restoreRun
    simp only [bind_run, inRepo_run, restoreRun_run, change_run, pure_run]
    cases checkpoint with
    | none => simp [restoredWith, Dict.get?_erase]
    | some record => simp [restoredWith]
  · unfold freshStore RunArchive.restoreRun
    simp only [bind_run, inRepo_run, restoreRun_run, change_run, pure_run, Dict.get?_set_self]

/-! Round trips. -/

def withoutExportTime (archive : PyDict) : PyDict :=
  archive.filter fun entry => entry.1 ≠ "exported_at"

omit reads in
/-- The run is exported; its archive imports into an empty repository, and what is exported
    there again differs in the time of the export only. -/
def RoundTrips (store : RunStore) (runId : String) : Prop :=
  ∀ (exportedAt reexportedAt : Time) (overwrite : Bool), ∃ archive restored after again,
    exportRunArchive runId exportedAt store = (.ok archive, store) ∧
    importArchive archive overwrite .init = (.ok restored, after) ∧
    exportRunArchive runId reexportedAt after = (.ok again, after) ∧
    withoutExportTime again = withoutExportTime archive

omit [ArchiveRuntime] reads in
theorem archive_same {records records' : ArchiveRecords} {t t' : Time} :
    withoutExportTime (records'.archive t') = withoutExportTime (records.archive t) ↔
      records' = records := by
  have lists : ∀ {xs ys : List PyDict}, xs.map PyValue.dict = ys.map PyValue.dict ↔ xs = ys :=
    List.map_inj_right fun x y same => PyValue.dict.inj same
  have options : ∀ {x y : Option PyDict}, optionalDict x = optionalDict y ↔ x = y := by
    intro x y
    cases x <;> cases y <;> simp [optionalDict]
  obtain ⟨run, artifacts, graphNodes, events, evaluations, workflowJobs, checkpoint⟩ := records
  obtain ⟨run', artifacts', graphNodes', events', evaluations', workflowJobs', checkpoint'⟩ :=
    records'
  simp [withoutExportTime, ArchiveRecords.archive, lists, options]

omit [ArchiveRuntime] reads in
theorem mapM_total {ε α β : Type} {f : α → Except ε β} {xs : List α}
    (each : ∀ x ∈ xs, ∃ y, f x = .ok y) : ∃ ys, xs.mapM f = .ok ys := by
  induction xs with
  | nil => exact ⟨[], rfl⟩
  | cons x rest ih =>
    obtain ⟨y, first⟩ := each x List.mem_cons_self
    obtain ⟨ys, others⟩ := ih fun other member => each other (List.mem_cons_of_mem x member)
    exact ⟨y :: ys, by rw [List.mapM_cons, first, others]; rfl⟩

omit reads in
/-- A run is exported unless one of its evaluations has no time. -/
theorem records_made {contents : RunContents}
    {checkpoint : Option CheckpointRecord} (settle : ContentsSettle contents checkpoint) :
    (∃ records, recordsToArchive contents checkpoint = .ok records) ↔
      ∀ evaluation ∈ contents.evaluations, evaluation.createdAt ≠ none := by
  constructor
  · rintro ⟨records, made⟩ evaluation member missing
    simp only [recordsToArchive, bind_eq_ok] at made
    obtain ⟨-, -, -, -, -, -, evaluations, fourth, -⟩ := made
    have written : ∀ {items : List EvaluationResultRecord} {records : List PyDict},
        items.mapM evaluationToArchive = .ok records → evaluation ∉ items := by
      intro items
      induction items with
      | nil => simp
      | cons item rest ih =>
        intro records made inside
        simp only [List.mapM_cons, bind_eq_ok, pure_eq_ok] at made
        obtain ⟨record, first, others, later, -⟩ := made
        rcases List.mem_cons.mp inside with rfl | deeper
        · simp [evaluationToArchive, missing] at first
        · exact ih later deeper
    exact written fourth member
  · intro dated
    obtain ⟨task, first, -⟩ := settle.task
    obtain ⟨metadata, second, -⟩ := settle.metadata
    have run : ∃ record, runToArchive contents.run = .ok record := by
      unfold runToArchive
      rw [first, second]
      exact ⟨_, rfl⟩
    have artifacts : ∀ artifact ∈ contents.artifacts, ∃ record,
        artifactToArchive artifact = .ok record := by
      intro artifact member
      obtain ⟨⟨uri, one, -⟩, ⟨entries, two, -⟩, keys⟩ := settle.artifacts artifact member
      have key : ∃ key, storageKeyToArchive artifact.storageKey = .ok key := by
        cases stored : artifact.storageKey with
        | none => exact ⟨none, rfl⟩
        | some key =>
          by_cases empty : key = ""
          · exact ⟨none, by simp [storageKeyToArchive, empty]⟩
          · obtain ⟨key', three, -⟩ := keys key stored empty
            exact ⟨some key', by simp [storageKeyToArchive, empty, three, Except.map]⟩
      obtain ⟨key, three⟩ := key
      unfold artifactToArchive
      rw [one, two, three]
      exact ⟨_, rfl⟩
    have events : ∀ event ∈ contents.events, ∃ record, eventToArchive event = .ok record := by
      intro event member
      obtain ⟨payload, one, -⟩ := settle.events event member
      unfold eventToArchive
      rw [one]
      exact ⟨_, rfl⟩
    have evaluations : ∀ evaluation ∈ contents.evaluations, ∃ record,
        evaluationToArchive evaluation = .ok record := by
      intro evaluation member
      obtain ⟨checks, one, -⟩ := settle.evaluations evaluation member
      obtain ⟨createdAt, created⟩ := Option.ne_none_iff_exists'.mp (dated evaluation member)
      unfold evaluationToArchive
      rw [created, one]
      exact ⟨_, rfl⟩
    have jobs : ∀ job ∈ contents.workflowJobs, ∃ record, workflowJobToArchive job = .ok record := by
      intro job member
      obtain ⟨payload, one, -⟩ := settle.workflowJobs job member
      unfold workflowJobToArchive
      rw [one]
      exact ⟨_, rfl⟩
    have entries : ∃ entries, checkpointOf checkpoint = .ok entries := by
      cases checkpoint with
      | none => exact ⟨none, rfl⟩
      | some record =>
        obtain ⟨state, one, -⟩ := settle.checkpoint record rfl
        simp only [checkpointOf, checkpointToArchive, one]
        exact ⟨_, rfl⟩
    obtain ⟨record, runMade⟩ := run
    obtain ⟨artifactRecords, artifactsMade⟩ := mapM_total artifacts
    obtain ⟨eventRecords, eventsMade⟩ := mapM_total events
    obtain ⟨evaluationRecords, evaluationsMade⟩ := mapM_total evaluations
    obtain ⟨jobRecords, jobsMade⟩ := mapM_total jobs
    obtain ⟨entries, entriesMade⟩ := entries
    unfold recordsToArchive
    rw [runMade, artifactsMade, eventsMade, evaluationsMade, jobsMade, entriesMade]
    exact ⟨_, rfl⟩

omit [ArchiveRuntime] reads in
theorem dateLimits_closed [PyRuntime] : (dateLimits).Closed where
  mark := True.intro
  text := fun _ _ => True.intro
  plain := fun _ => True.intro
  single := fun _ => True.intro
  stamp := fun _ => True.intro
  logged := True.intro
  timeout := fun _ => True.intro
  summary := fun _ _ => True.intro
  timeoutSummary := fun _ => True.intro
  uri := fun _ _ => True.intro

/-- What happens to the archive of a reachable run: it is imported, and what is exported
    again is the same exactly if the run is faithful. -/
theorem reexport {store : RunStore} (reached : Reached (Operation.Within dateLimits) store)
    {runId : String} {run : RunRecord} (stored : store.repo.runs.get? runId = some run)
    (settle : ContentsSettle (store.contentsOf run runId) (store.checkpoints.get? runId))
    {records : ArchiveRecords}
    (made : recordsToArchive (store.contentsOf run runId) (store.checkpoints.get? runId) =
      .ok records) (exportedAt reexportedAt : Time) (overwrite : Bool) :
    ∃ restored after records',
      importArchive (records.archive exportedAt) overwrite .init = (.ok restored, after) ∧
      exportRunArchive runId reexportedAt after = (.ok (records'.archive reexportedAt), after) ∧
      (records' = records ↔
        Faithful (store.contentsOf run runId) (store.checkpoints.get? runId)) := by
  have within := reached_within dateLimits_closed reached
  have runKey := (within.repo.runs runId run stored).1
  obtain ⟨again, checkpoint, records', reread, written, same⟩ :=
    records_roundTrip reads (contentsOf_within within stored)
      (fun record found => within.checkpoints runId record found) settle made exportedAt
  obtain ⟨typed, whole⟩ := reread.records
  have againId : again.run.id = runId := reread.id.trans runKey
  have imported : importArchive (records.archive exportedAt) overwrite .init =
      (.ok again.run, freshStore again checkpoint) := by
    unfold importArchive
    rw [importRunArchive_fresh overwrite rfl reread.run rfl whole]
    simp only [bind_run, ofExcept_run, reread.checkpoint]
    exact freshStore_run again checkpoint
  have filed : ∀ job ∈ (store.contentsOf run runId).workflowJobs,
      store.repo.workflowJobs.get? job.id = some job ∧ job.runId = runId := by
    intro job member
    obtain ⟨inOrder, owner⟩ := List.mem_filter.mp member
    obtain ⟨jobId, -, found⟩ := List.mem_filterMap.mp inOrder
    rw [(within.repo.workflowJobs jobId job found).1]
    exact ⟨found, by simpa using owner⟩
  have distinct : ∀ job ∈ again.workflowJobs, ∀ other ∈ again.workflowJobs,
      job.id = other.id → job = other := by
    intro job member other member' ids
    obtain ⟨source, inside, record, encoded, decoded⟩ := reread.jobs job member
    obtain ⟨source', inside', record', encoded', decoded'⟩ := reread.jobs other member'
    have sameIds : source.id = source'.id :=
      (reread_ids encoded decoded).1.symm.trans (ids.trans (reread_ids encoded' decoded').1)
    have sameSource : source = source' := by
      have found := (filed source inside).1
      rw [sameIds, (filed source' inside').1] at found
      exact (Option.some.inj found).symm
    rw [sameSource, encoded', Except.ok.injEq] at encoded
    rw [← encoded, decoded', Except.ok.injEq] at decoded
    exact decoded.symm
  have own : ∀ job ∈ again.workflowJobs, job.runId = again.run.id := by
    intro job member
    obtain ⟨source, inside, record, encoded, decoded⟩ := reread.jobs job member
    rw [(reread_ids encoded decoded).2, (filed source inside).2, againId]
  obtain ⟨contents, checkpoints, runs⟩ :=
    freshStore_contents checkpoint (freshStore_jobs checkpoint distinct) own
  rw [againId] at contents checkpoints runs
  refine ⟨again.run, freshStore again checkpoint, records', imported, ?_, same⟩
  rw [exportRunArchive_run runs, contents, checkpoints]
  have rewritten : recordsToArchive { again with checkpoint := none } checkpoint = .ok records' :=
    written
  rw [rewritten]
  rfl

theorem trips_faithful {store : RunStore} (reached : Reached (Operation.Within dateLimits) store)
    {runId : String} {run : RunRecord} (stored : store.repo.runs.get? runId = some run)
    (settle : ContentsSettle (store.contentsOf run runId) (store.checkpoints.get? runId))
    (trips : RoundTrips store runId) :
    (∃ records, recordsToArchive (store.contentsOf run runId) (store.checkpoints.get? runId) =
      .ok records) ∧ Faithful (store.contentsOf run runId) (store.checkpoints.get? runId) := by
  obtain ⟨archive, restored, after, again, exported, imported, reexported, same⟩ :=
    trips 0 0 false
  rw [exportRunArchive_run stored] at exported
  obtain ⟨records, made, rfl⟩ := except_map_ok (Prod.mk.inj exported).1
  obtain ⟨restored', after', records', imported', reexported', faithful⟩ :=
    reexport reads reached stored settle made 0 0 false
  obtain ⟨-, rfl⟩ := Prod.mk.inj (imported.symm.trans imported')
  have answers := (Prod.mk.inj (reexported.symm.trans reexported')).1
  rw [Except.ok.inj answers, archive_same] at same
  exact ⟨⟨records, made⟩, faithful.mp same⟩

/-- A run of a reachable repository comes back from its archive as it was exported exactly if
    its evaluations have times, no job of it has zero attempts at most, its checkpoint is not
    of version zero, and no storage key that is not empty is redacted to the empty one. -/
theorem round_trips_iff {store : RunStore} (reached : Reached (Operation.Within dateLimits) store)
    {runId : String} {run : RunRecord} (stored : store.repo.runs.get? runId = some run)
    (settle : ContentsSettle (store.contentsOf run runId) (store.checkpoints.get? runId)) :
    RoundTrips store runId ↔
      (∀ evaluation ∈ (store.contentsOf run runId).evaluations, evaluation.createdAt ≠ none) ∧
        Faithful (store.contentsOf run runId) (store.checkpoints.get? runId) := by
  rw [← records_made settle]
  constructor
  · intro trips
    exact trips_faithful reads reached stored settle trips
  · rintro ⟨⟨records, made⟩, faithful⟩ exportedAt reexportedAt overwrite
    obtain ⟨restored, after, records', imported, reexported, same⟩ :=
      reexport reads reached stored settle made exportedAt reexportedAt overwrite
    refine ⟨records.archive exportedAt, restored, after, records'.archive reexportedAt, ?_,
      imported, reexported, archive_same.mpr (same.mpr faithful)⟩
    rw [exportRunArchive_run stored, made]
    rfl

end archives

/-! A run that comes back, and one that does not. -/

abbrev isoRuntime : ArchiveRuntime where
  toPyRuntime := plainRuntime
  fromisoformat := CivilTime.fromisoformat
  floatOf _ := none
  stateOf _ :=
    { runId := "", task := "", plan := [], pendingNodeIds := [], completedNodeIds := []
      failedNodeIds := [], waitingForApprovalNodeId := none, agentOutputs := .empty
      artifacts := .empty, approvals := .empty, evaluationResults := [], errors := .empty }

theorem isoRuntime_reads (time : Time) (within : Representable time) :
    isoRuntime.fromisoformat (isoformat time) = some time :=
  fromisoformat_isoformat within

theorem failed_run_round_trips :
    let _ := isoRuntime
    RoundTrips (performAll (failingRun "out_of_memory")) "run_a" := by
  intro _
  have fixed : redactText "out_of_memory" = .ok "out_of_memory" :=
    redactText_plain (List.all_eq_true.mp (by decide))
  have now : Representable 0 := by decide
  have dated : ∀ operation ∈ failingRun "out_of_memory", operation.Within dateLimits := by
    intro operation member
    simp only [failingRun, List.mem_cons, List.not_mem_nil, or_false] at member
    rcases member with rfl | rfl | rfl | rfl
    · exact ⟨True.intro, True.intro, True.intro, True.intro, now⟩
    · exact ⟨True.intro, now⟩
    · exact ⟨True.intro, now, now⟩
    · exact ⟨True.intro, True.intro, fun _ _ => True.intro, now⟩
  have reached := performAll_reached dated
  have redacted := reached_within exportLimits_closed (performAll_reached
    (failingRun_within exportLimits_closed (fun _ => True.intro) (settles_fixed fixed) fixed))
  have stored : ((performAll (failingRun "out_of_memory")).repo.runs.get? "run_a").isSome := by
    decide +kernel
  have fresh : (performAll (failingRun "out_of_memory")).checkpoints.get? "run_a" = none := by
    decide +kernel
  have artifacts : (((performAll (failingRun "out_of_memory")).repo.artifacts.get?
      "run_a").getD []).isEmpty := by
    decide +kernel
  have evaluations : (((performAll (failingRun "out_of_memory")).repo.evaluations.get?
      "run_a").getD []).isEmpty := by
    decide +kernel
  have attempts : ∀ job ∈ (performAll (failingRun "out_of_memory")).repo.jobsInOrder,
      job.maxAttempts ≠ 0 := by
    decide +kernel
  -- From here on nothing may evaluate the store.
  generalize performAll (failingRun "out_of_memory") = store at *
  rw [List.isEmpty_iff] at artifacts evaluations
  obtain ⟨run, found⟩ := Option.isSome_iff_exists.mp stored
  have within := contentsOf_within redacted found
  have settle : ContentsSettle (store.contentsOf run "run_a") (store.checkpoints.get? "run_a") := by
    constructor
    · exact within.run.task
    · exact entries_settle within.run.metadata
    · simp [RunStore.contentsOf, artifacts]
    · exact fun event member => entries_settle (within.events event member).payload
    · simp [RunStore.contentsOf, evaluations]
    · exact fun job member => entries_settle (within.workflowJobs job member).payload
    · simp [fresh]
  apply (round_trips_iff isoRuntime_reads reached found settle).mpr
  refine ⟨by simp [RunStore.contentsOf, evaluations], ?_⟩
  constructor
  · simp [RunStore.contentsOf, artifacts]
  · exact fun job member => attempts job (List.mem_filter.mp member).1
  · simp [fresh]

def keyedArtifact : ArtifactRecord where
  id := "artifact_1"
  runId := "run_a"
  type := .report
  uri := "report.md"
  metadata := []
  sourceArtifactIds := []
  createdAt := 0
  storageKey := some "?"

def keyedContents : RunContents where
  run := { id := "run_a", task := "Analyse", status := .completed, metadata := [], createdAt := 0
           updatedAt := 0 }
  artifacts := [keyedArtifact]

/-- A storage key that is redacted to the empty text is exported as that text, and then not
    at all. -/
theorem redacted_key_is_lost :
    let _ := isoRuntime
    ∃ store, Reached (Operation.Within dateLimits) store ∧
      store.repo.runs.get? "run_a" = some keyedContents.run ∧
      ContentsSettle (store.contentsOf keyedContents.run "run_a") (store.checkpoints.get? "run_a") ∧
      ¬ RoundTrips store "run_a" := by
  intro _
  have reached : Reached (Operation.Within dateLimits)
      ((Operation.restoreRun keyedContents none).perform .init) := by
    apply Reached.step Reached.init
    refine ⟨?_, by simp⟩
    have now : Representable 0 := by decide
    constructor
    · exact ⟨now, now, True.intro, True.intro, by simp [keyedContents], by simp [keyedContents]⟩
    · intro artifact member
      rw [List.mem_singleton.mp member]
      exact ⟨now, True.intro, True.intro⟩
    all_goals simp [keyedContents]
  have jobs : (freshStore keyedContents none).repo.jobsInOrder = keyedContents.workflowJobs :=
    freshStore_jobs none (by simp [keyedContents])
  have listed := freshStore_contents none jobs (by simp [keyedContents])
  have same : (Operation.restoreRun keyedContents none).perform .init =
      freshStore keyedContents none := rfl
  rw [same] at reached
  generalize freshStore keyedContents none = store at *
  obtain ⟨contents, checkpoints, runs⟩ := listed
  have filed : keyedContents.run.id = "run_a" := rfl
  rw [filed] at contents checkpoints runs
  have settle : ContentsSettle (store.contentsOf keyedContents.run "run_a")
      (store.checkpoints.get? "run_a") := by
    rw [contents, checkpoints]
    have entries : Settles redactEntries [] := ⟨[], rfl, rfl⟩
    constructor
    · exact settles_fixed (redactText_plain (List.all_eq_true.mp (by decide)))
    · exact entries
    · intro artifact member
      rw [List.mem_singleton.mp member]
      refine ⟨⟨"report.md", by decide +kernel, by decide +kernel⟩, entries, ?_⟩
      intro key stored _
      rw [← Option.some.inj stored]
      exact ⟨"", by decide +kernel, by decide +kernel⟩
    all_goals simp [keyedContents]
  refine ⟨store, reached, runs, settle, ?_⟩
  intro trips
  have faithful := (trips_faithful isoRuntime_reads reached runs settle trips).2
  rw [contents] at faithful
  have kept := faithful.artifacts keyedArtifact (by simp [keyedContents])
  exact kept "?" rfl (by decide) (by decide +kernel)

end RunArchive
