import AeaiOs.StoredTexts

/-!
Invariants of the whole repository, given by four sets: the timestamps, the texts in stored
dictionaries, the uris, and the error summaries that may occur. Sets that are closed under
what the repository itself writes hold of every record after any sequence of operations
whose arguments they hold of.
-/
namespace RunArchive
open OrderedDict PyText CivilTime StoreAction Action ExceptLists RunValues RunModels Redaction
open InMemoryRunRepository

structure Limits where
  time : Time → Prop
  text : String → Prop
  uri : String → Prop
  summary : String → Prop

/-! The records. -/

structure RunWithin (l : Limits) (run : RunRecord) : Prop where
  created : l.time run.createdAt
  updated : l.time run.updatedAt
  task : l.text run.task
  metadata : EntriesAll l.text run.metadata
  trace : ∀ trace ∈ run.traceId, l.text trace
  summary : ∀ summary ∈ run.errorSummary, l.summary summary

structure ArtifactWithin (l : Limits) (artifact : ArtifactRecord) : Prop where
  created : l.time artifact.createdAt
  uri : l.uri artifact.uri
  metadata : EntriesAll l.text artifact.metadata

structure NodeWithin (l : Limits) (node : GraphNodeRecord) : Prop where
  created : l.time node.createdAt
  updated : l.time node.updatedAt
  started : ∀ time ∈ node.startedAt, l.time time
  finished : ∀ time ∈ node.finishedAt, l.time time

structure EventWithin (l : Limits) (event : AgentEventRecord) : Prop where
  created : l.time event.createdAt
  payload : EntriesAll l.text event.payload

structure EvaluationWithin (l : Limits) (evaluation : EvaluationResultRecord) : Prop where
  created : ∀ time ∈ evaluation.createdAt, l.time time
  checks : ∀ check ∈ evaluation.checks, EntriesAll l.text check

structure JobWithin (l : Limits) (job : WorkflowJobRecord) : Prop where
  created : l.time job.createdAt
  updated : l.time job.updatedAt
  started : ∀ time ∈ job.startedAt, l.time time
  finished : ∀ time ∈ job.finishedAt, l.time time
  heartbeat : ∀ time ∈ job.heartbeatAt, l.time time
  payload : EntriesAll l.text job.payload
  worker : ∀ worker ∈ job.workerId, l.text worker
  summary : ∀ summary ∈ job.errorSummary, l.summary summary

structure CheckpointWithin (l : Limits) (checkpoint : CheckpointRecord) : Prop where
  created : l.time checkpoint.createdAt
  updated : l.time checkpoint.updatedAt
  state : EntriesAll l.text checkpoint.state

structure ContentsWithin (l : Limits) (contents : RunContents) : Prop where
  run : RunWithin l contents.run
  artifacts : ∀ artifact ∈ contents.artifacts, ArtifactWithin l artifact
  graphNodes : ∀ node ∈ contents.graphNodes, NodeWithin l node
  events : ∀ event ∈ contents.events, EventWithin l event
  evaluations : ∀ evaluation ∈ contents.evaluations, EvaluationWithin l evaluation
  workflowJobs : ∀ job ∈ contents.workflowJobs, JobWithin l job

/-- Runs and jobs are moreover filed under their own ids. -/
structure RepoWithin (l : Limits) (repo : Repo) : Prop where
  runs : repo.runs.All fun runId run => run.id = runId ∧ RunWithin l run
  artifacts :
    repo.artifacts.All fun _ artifacts => ∀ artifact ∈ artifacts, ArtifactWithin l artifact
  graphNodes : repo.graphNodes.All fun _ nodes => ∀ node ∈ nodes, NodeWithin l node
  events : repo.events.All fun _ events => ∀ event ∈ events, EventWithin l event
  evaluations :
    repo.evaluations.All fun _ evaluations => ∀ evaluation ∈ evaluations, EvaluationWithin l evaluation
  workflowJobs : repo.workflowJobs.All fun jobId job => job.id = jobId ∧ JobWithin l job

structure StoreWithin (l : Limits) (store : RunStore) : Prop where
  repo : RepoWithin l store.repo
  checkpoints : store.checkpoints.All fun _ checkpoint => CheckpointWithin l checkpoint

/-- What the repository writes of its own accord, or makes of what it is given. -/
structure Limits.Closed [PyRuntime] (l : Limits) : Prop extends Redacts l.text where
  plain : ∀ {text : String}, (∀ c ∈ text.toList, plainChar c = true) → l.text text
  single : ∀ c : Char, l.text (String.ofList [c])
  stamp : ∀ time, l.text (isoformat time)
  logged : l.text "Evaluation result logged."
  timeout : ∀ timeoutSeconds, l.text (timeoutSummary timeoutSeconds)
  summary : ∀ {text text'}, l.text text → redactText text = .ok text' → l.summary text'
  timeoutSummary : ∀ timeoutSeconds, l.summary (timeoutSummary timeoutSeconds)
  uri : ∀ {uri uri'}, l.uri uri → redactUri uri = .ok uri' → l.uri uri'

/-! The arguments of the operations. -/

section arguments
variable [PyRuntime] (l : Limits)

def EvaluationGiven (evaluation : EvaluationResultRecord) (mlflow langsmith : LogResult) : Prop :=
  EvaluationWithin l evaluation ∧ l.text evaluation.id ∧
    (∀ target ∈ evaluation.targetArtifactId, l.text target) ∧
    (l.text mlflow.status ∧ ∀ message ∈ mlflow.message, l.text message) ∧
    (l.text langsmith.status ∧ ∀ message ∈ langsmith.message, l.text message)

/-- The texts, uris and timestamps that an operation brings in are within the limits; a text
    that is stripped before it is stored is looked at as it is stored. The summary of a
    failure is also stored as it is given. -/
def Operation.Within : Operation → Prop
  | .createRun task metadata traceId _ trace now =>
      l.text (strip task) ∧ EntriesAll l.text metadata ∧ l.text (strip (traceId.getD "")) ∧
        l.text trace ∧ l.time now
  | .restoreRun contents checkpoint =>
      ContentsWithin l contents ∧ ∀ record ∈ checkpoint, CheckpointWithin l record
  | .updateStatus _ _ errorSummary now =>
      (∀ summary ∈ errorSummary, l.text summary) ∧ l.time now
  | .enqueueWorkflowJob _ _ payload _ _ _ _ now => EntriesAll l.text payload ∧ l.time now
  | .updateWorkflowJobResult _ _ payload errorSummary now =>
      (∀ entries ∈ payload, EntriesAll l.text entries) ∧
        (∀ summary ∈ errorSummary, l.text summary) ∧ l.time now
  | .claimNextWorkflowJob workerId _ _ recoveredAt now =>
      l.text workerId ∧ l.time recoveredAt ∧ l.time now
  | .claimWorkflowJob _ workerId _ recoveredAt now =>
      l.text workerId ∧ l.time recoveredAt ∧ l.time now
  | .heartbeatWorkflowJob _ _ now => l.time now
  | .completeWorkflowJob _ _ now => l.time now
  | .failWorkflowJob _ errorSummary _ workerId now =>
      l.text errorSummary ∧ l.summary errorSummary ∧ (∀ worker ∈ workerId, l.text worker) ∧
        l.time now
  | .retryDeadLetterWorkflowJob _ reason now => (∀ text ∈ reason, l.text text) ∧ l.time now
  | .dismissDeadLetterWorkflowJob _ reason now => (∀ text ∈ reason, l.text text) ∧ l.time now
  | .recoverTimedOutWorkflowJobs _ _ now => l.time now
  | .addArtifact given _ createdAt now =>
      l.uri given.uri ∧ EntriesAll l.text given.metadata ∧ l.time createdAt ∧ l.time now
  | .upsertGraphNode node => NodeWithin l node
  | .addEvent event => EventWithin l event
  | .addEvaluation evaluation mlflow langsmith _ now _ recorded =>
      EvaluationGiven l evaluation mlflow langsmith ∧ l.time now ∧ l.time recorded
  | .saveCheckpoint _ state now => EntriesAll l.text state ∧ l.time now

end arguments

/-! What each method leaves. -/

section writes
variable {l : Limits} {repo : Repo}

theorem init_within : RepoWithin l .init := by
  constructor
  all_goals exact Dict.all_empty _

theorem run_stored (within : RepoWithin l repo) {runId : String} {run : RunRecord}
    (id : run.id = runId) (h : RunWithin l run) :
    RepoWithin l { repo with runs := repo.runs.set runId run } :=
  { within with runs := Dict.all_set within.runs ⟨id, h⟩ }

theorem job_stored (within : RepoWithin l repo) {jobId : String} {job : WorkflowJobRecord}
    (id : job.id = jobId) (h : JobWithin l job) : RepoWithin l (repo.storeJob jobId job) :=
  { within with workflowJobs := Dict.all_set within.workflowJobs ⟨id, h⟩ }

theorem job_appended (within : RepoWithin l repo) {job : WorkflowJobRecord} (h : JobWithin l job) :
    RepoWithin l (repo.appendJob job) :=
  { within with workflowJobs := Dict.all_set within.workflowJobs ⟨rfl, h⟩ }

/-- A list that a table keeps for a run, with a record at its end. -/
theorem list_appended {α : Type} {p : α → Prop} {table : Dict String (List α)}
    (all : table.All fun _ items => ∀ item ∈ items, p item) (key : String) {item : α} (h : p item) :
    (table.set key ((table.get? key).getD [] ++ [item])).All fun _ items => ∀ item ∈ items, p item := by
  apply Dict.all_set all
  intro other member
  rcases List.mem_append.mp member with old | new
  · cases found : table.get? key with
    | none => simp [found] at old
    | some items =>
      rw [found] at old
      exact all key items found other old
  · exact List.mem_singleton.mp new ▸ h

theorem event_appended (within : RepoWithin l repo) {event : AgentEventRecord}
    (h : EventWithin l event) : RepoWithin l (repo.appendEvent event) :=
  { within with events := list_appended within.events event.runId h }

theorem artifact_appended (within : RepoWithin l repo) {artifact : ArtifactRecord}
    (h : ArtifactWithin l artifact) : RepoWithin l (repo.appendArtifact artifact) :=
  { within with artifacts := list_appended within.artifacts artifact.runId h }

theorem upserted_within {nodes : List GraphNodeRecord} {node : GraphNodeRecord}
    (all : ∀ node ∈ nodes, NodeWithin l node) (h : NodeWithin l node) :
    ∀ other ∈ upserted node nodes, NodeWithin l other := by
  induction nodes with
  | nil =>
    intro other member
    exact List.mem_singleton.mp member ▸ h
  | cons existing rest ih =>
    intro other member
    unfold upserted at member
    split at member
    · rcases List.mem_cons.mp member with rfl | old
      · exact h
      · exact all other (List.mem_cons_of_mem existing old)
    · rcases List.mem_cons.mp member with rfl | later
      · exact all other List.mem_cons_self
      · exact ih (fun node inside => all node (List.mem_cons_of_mem existing inside)) other later

end writes

section methods
variable [PyRuntime] {l : Limits} {repo : Repo}

theorem redactOptional_within (closed : l.Closed) {given summary : Option String}
    (all : ∀ text ∈ given, l.text text) (made : redactOptional given = .ok summary) :
    ∀ text ∈ summary, l.summary text := by
  cases given with
  | none =>
    simp only [redactOptional, Except.ok.injEq] at made
    simp [← made]
  | some text =>
    obtain ⟨text', first, rfl⟩ := except_map_ok made
    intro other member
    rw [← Option.mem_some.mp member]
    exact closed.summary (all text rfl) first

theorem createRun_within (closed : l.Closed) (within : RepoWithin l repo)
    {task fresh trace : String} {metadata : PyDict} {traceId : Option String} {now : Time}
    (given : (Operation.createRun task metadata traceId fresh trace now).Within l) :
    RepoWithin l (createRun task metadata traceId fresh trace now repo).2 := by
  obtain ⟨taskIn, metadataIn, traceIn, drawnIn, nowIn⟩ := given
  unfold createRun
  simp only
  split
  · exact within
  · simp only [bind_run, ofExcept_run]
    cases made : redactEntries metadata with
    | error e => exact within
    | ok metadata' =>
      simp only [change_run, pure_run]
      have run : RunWithin l
          { id := "run_" ++ fresh, task := strip task, status := .pending, metadata := metadata'
            createdAt := now, updatedAt := now
            traceId := some (if strip (traceId.getD "") = "" then trace
              else strip (traceId.getD "")) } := by
        constructor
        · exact nowIn
        · exact nowIn
        · exact taskIn
        · exact entriesAll_redacted closed.toRedacts metadataIn made
        · intro text member
          rw [← Option.mem_some.mp member]
          split
          · exact drawnIn
          · exact traceIn
        · intro text member
          cases member
      constructor
      · exact Dict.all_set within.runs ⟨rfl, run⟩
      · exact Dict.all_set within.artifacts (by simp)
      · exact Dict.all_set within.graphNodes (by simp)
      · exact Dict.all_set within.events (by simp)
      · exact Dict.all_set within.evaluations (by simp)
      · exact within.workflowJobs

theorem updateStatus_within (closed : l.Closed) (within : RepoWithin l repo) {runId : String}
    {status : RunStatus} {errorSummary : Option String} {now : Time}
    (given : (Operation.updateStatus runId status errorSummary now).Within l) :
    RepoWithin l (updateStatus runId status errorSummary now repo).2 := by
  simp only [updateStatus, bind_run, getRun_run, ofExcept_run]
  cases stored : repo.runs.get? runId with
  | none => exact within
  | some run =>
    simp only [found_some]
    cases made : redactOptional errorSummary with
    | error e => exact within
    | ok summary =>
      obtain ⟨id, old⟩ := within.runs runId run stored
      apply run_stored within
      · exact id
      · exact { old with
          updated := given.2
          summary := redactOptional_within closed given.1 made }

theorem enqueue_within (closed : l.Closed) (within : RepoWithin l repo)
    {runId workflowName fresh : String} {payload : PyDict} {maxAttempts : Int}
    {jobId : Option String} {status : WorkflowJobStatus} {now : Time}
    (given : (Operation.enqueueWorkflowJob runId workflowName payload maxAttempts jobId status
      fresh now).Within l) :
    RepoWithin l (enqueueWorkflowJob runId workflowName payload maxAttempts jobId status fresh now
      repo).2 := by
  simp only [enqueueWorkflowJob]
  split
  · exact within
  · split
    · exact within
    · split
      · exact within
      · simp only [bind_run, getRun_run, ofExcept_run]
        cases repo.runs.get? runId with
        | none => exact within
        | some run =>
          simp only [found_some]
          cases made : redactEntries payload with
          | error e => exact within
          | ok payload' =>
            apply job_appended within
            constructor
            · exact given.2
            · exact given.2
            · simp
            · simp
            · simp
            · exact entriesAll_redacted closed.toRedacts given.1 made
            · simp
            · simp

theorem updateResult_within (closed : l.Closed) (within : RepoWithin l repo) {jobId : String}
    {status : WorkflowJobStatus} {payload : Option PyDict} {errorSummary : Option String}
    {now : Time}
    (given : (Operation.updateWorkflowJobResult jobId status payload errorSummary now).Within l) :
    RepoWithin l (updateWorkflowJobResult jobId status payload errorSummary now repo).2 := by
  obtain ⟨payloadIn, summaryIn, nowIn⟩ := given
  unfold updateWorkflowJobResult
  split
  · exact within
  · simp only [bind_run, getWorkflowJob_run]
    cases stored : repo.workflowJobs.get? jobId with
    | none => exact within
    | some job =>
      obtain ⟨id, old⟩ := within.workflowJobs jobId job stored
      have written : ∀ {payload' : PyDict}, EntriesAll l.text payload' →
          ∀ {summary : Option String}, redactOptional errorSummary = .ok summary →
            JobWithin l { job with
              status, payload := payload', errorSummary := summary, updatedAt := now
              finishedAt := some now } := by
        intro payload' payloadIn' summary made
        exact { old with
          updated := nowIn
          finished := fun time member => Option.mem_some.mp member ▸ nowIn
          payload := payloadIn'
          summary := redactOptional_within closed summaryIn made }
      simp only [found_some]
      cases payload with
      | none =>
        cases made : redactOptional errorSummary with
        | error e => exact within
        | ok summary => exact job_stored within (by exact id) (written old.payload made)
      | some payload =>
        simp only
        cases first : redactEntries payload with
        | error e => exact within
        | ok payload' =>
          cases made : redactOptional errorSummary with
          | error e => exact within
          | ok summary =>
            have held := entriesAll_redacted closed.toRedacts (payloadIn payload rfl) first
            exact job_stored within (by exact id) (written held made)

omit [PyRuntime] in
theorem claimedJob_within {job : WorkflowJobRecord} (old : JobWithin l job) {workerId : String}
    (worker : l.text workerId) {now : Time} (nowIn : l.time now) :
    JobWithin l (claimedJob job workerId now) :=
  { old with
    updated := nowIn
    started := by
      intro time member
      rw [← Option.mem_some.mp member]
      cases started : job.startedAt with
      | none => exact nowIn
      | some time => exact old.started time started
    heartbeat := fun time member => Option.mem_some.mp member ▸ nowIn
    worker := fun text member => Option.mem_some.mp member ▸ worker }

/-! An attempt given up, by its worker or by the recovery. -/

theorem appendWorkflowFailure_within (closed : l.Closed) {payload payload' : PyDict}
    (held : EntriesAll l.text payload) {attemptCount : Int} {status : WorkflowJobStatus}
    {errorSummary reason : String} (summary : l.text errorSummary) {recordedAt : Time}
    {workerId : Option String} (worker : ∀ text ∈ workerId, l.text text) (named : l.text reason)
    (made : appendWorkflowFailure payload attemptCount status errorSummary recordedAt workerId
      reason = .ok payload') : EntriesAll l.text payload' := by
  have plain : ∀ {text : String}, text.toList.all plainChar = true → l.text text :=
    fun all => closed.plain (List.all_eq_true.mp all)
  simp only [appendWorkflowFailure, bind_eq_ok, pure_eq_ok] at made
  obtain ⟨history, listed, summary', redactedOnce, rfl⟩ := made
  have past : ItemsAll l.text history :=
    itemsAll_toList closed.single (valueAll_lookup held (by exact True.intro)) listed
  have written : l.text status.value := by
    cases status <;> exact plain (by decide)
  have entry : ValueAll l.text (.dict
      [("attempt_count", .int attemptCount), ("status", .str status.value),
        ("error_summary", .str summary'), ("recorded_at", .str (isoformat recordedAt)),
        ("worker_id", .ofOption workerId), ("reason", .str reason)]) :=
    ⟨plain (by decide), True.intro, plain (by decide), written, plain (by decide),
      closed.text summary redactedOnce, plain (by decide), closed.stamp recordedAt,
      plain (by decide), valueAll_ofOption worker, plain (by decide), named, True.intro⟩
  apply entriesAll_store _ (plain (by decide)) entry
  apply entriesAll_store held (plain (by decide))
  apply itemsAll_iff.mpr
  intro item member
  rcases List.mem_append.mp member with old | new
  · exact itemsAll_iff.mp past item old
  · exact List.mem_singleton.mp new ▸ entry

omit [PyRuntime] in
theorem failedAttempt_within {job : WorkflowJobRecord} (old : JobWithin l job) (shouldRetry : Bool)
    {payload : PyDict} (held : EntriesAll l.text payload) {errorSummary : String}
    (summary : l.summary errorSummary) {now : Time} (nowIn : l.time now) :
    JobWithin l (failedAttempt job shouldRetry payload errorSummary now) := by
  unfold failedAttempt
  constructor
  · exact old.created
  · exact nowIn
  · exact old.started
  · cases shouldRetry
    · exact fun time member => Option.mem_some.mp member ▸ nowIn
    · simp
  · cases shouldRetry
    · exact old.heartbeat
    · simp
  · exact held
  · cases shouldRetry
    · exact old.worker
    · simp
  · exact fun text member => Option.mem_some.mp member ▸ summary

theorem failRunOf_within (closed : l.Closed) (within : RepoWithin l repo) (job : WorkflowJobRecord)
    {errorSummary : String} (summary : l.text errorSummary) {now : Time} (nowIn : l.time now) :
    RepoWithin l (failRunOf job errorSummary now repo).2 := by
  unfold failRunOf
  split
  · simp only [bind_run, getRun_run, ofExcept_run]
    cases stored : repo.runs.get? job.runId with
    | none => exact within
    | some run =>
      simp only [found_some]
      cases made : redactText errorSummary with
      | error e => exact within
      | ok text =>
        obtain ⟨id, old⟩ := within.runs job.runId run stored
        apply run_stored within
        · exact id
        · exact { old with
            updated := nowIn
            summary := fun other member =>
              Option.mem_some.mp member ▸ closed.summary summary made }
  · exact within

theorem giveUpAttempt_within (closed : l.Closed) (within : RepoWithin l repo) {jobId : String}
    {job : WorkflowJobRecord} (id : job.id = jobId) (old : JobWithin l job) (shouldRetry : Bool) {errorSummary : String}
    (text : l.text errorSummary) (summary : l.summary errorSummary) {workerId : Option String}
    (worker : ∀ text ∈ workerId, l.text text) {reason : String} (named : l.text reason)
    {now : Time} (nowIn : l.time now) :
    RepoWithin l (giveUpAttempt jobId job shouldRetry errorSummary workerId reason now repo).2 := by
  simp only [giveUpAttempt, bind_run, ofExcept_run]
  cases first : redactText errorSummary with
  | error e => exact within
  | ok text' =>
    simp only
    cases appended : appendWorkflowFailure job.payload job.attemptCount
        (if shouldRetry = true then .queued else .deadLetter) text' now workerId reason with
    | error e => exact within
    | ok payload =>
      simp only [change_run]
      have held := appendWorkflowFailure_within closed old.payload (closed.text text first) worker
        named appended
      have failed := failedAttempt_within old shouldRetry held summary nowIn
      have after := failRunOf_within closed (job_stored within (by exact id) failed)
        (failedAttempt job shouldRetry payload errorSummary now) text nowIn
      split
      · rename_i answered
        rw [answered] at after
        exact after
      · rename_i raised
        rw [raised] at after
        exact after

def Preserves (l : Limits) (before after : Repo) : Prop := RepoWithin l before → RepoWithin l after

omit [PyRuntime] in
theorem preserves_refl (repo : Repo) : Preserves l repo repo := id

omit [PyRuntime] in
theorem preserves_trans (a b c : Repo) (first : Preserves l a b) (second : Preserves l b c) :
    Preserves l a c := fun within => second (first within)

theorem recoverJob_preserves (closed : l.Closed) (timeoutSeconds : Int) (workflow : Option String)
    {referenceTime : Time} (nowIn : l.time referenceTime) (cutoff : Time) (jobId : String) :
    Keeps (Preserves l) (recoverJob timeoutSeconds workflow referenceTime cutoff jobId) := by
  intro repo within
  simp only [recoverJob, bind_run, read_run, present_run]
  cases stored : repo.workflowJobs.get? jobId with
  | none => exact within
  | some job =>
    simp only [found_some]
    split_ifs
    · exact within
    · exact within
    · exact within
    · obtain ⟨id, old⟩ := within.workflowJobs jobId job stored
      have named : l.text "heartbeat_timeout" :=
        closed.plain (List.all_eq_true.mp (by decide))
      have after := giveUpAttempt_within closed within id old
        (decide (job.attemptCount < job.maxAttempts)) (closed.timeout timeoutSeconds)
        (closed.timeoutSummary timeoutSeconds) old.worker named nowIn
      rw [bind_run]
      split
      · rename_i answered
        rw [answered] at after
        exact after
      · rename_i raised
        rw [raised] at after
        exact after

theorem recoverTimedOut_preserves (closed : l.Closed) (timeoutSeconds : Int)
    (workflowName : Option String) {now : Time} (nowIn : l.time now) :
    Keeps (Preserves l) (recoverTimedOutWorkflowJobs timeoutSeconds workflowName now) := by
  have jobs : ∀ (workflow : Option String) (cutoff : Time) (order : List String),
      Keeps (Preserves l) (recoverJobs timeoutSeconds workflow now cutoff order) := by
    intro workflow cutoff order
    induction order with
    | nil => exact keeps_pure preserves_refl _
    | cons jobId rest ih =>
      apply keeps_bind preserves_trans (recoverJob_preserves closed _ _ nowIn _ jobId)
      intro recovered
      exact keeps_bind preserves_trans ih fun _ => keeps_pure preserves_refl _
  unfold recoverTimedOutWorkflowJobs
  split
  · exact keeps_raise preserves_refl _
  · apply keeps_bind preserves_trans (keeps_ofExcept preserves_refl _)
    intro cutoff
    apply keeps_bind preserves_trans (keeps_read preserves_refl)
    intro repo
    exact jobs _ _ _

theorem recoverStale_preserves (closed : l.Closed) (staleAfterSeconds : Option Int)
    (workflowName : Option String) {now : Time} (nowIn : l.time now) :
    Keeps (Preserves l) (recoverStale staleAfterSeconds workflowName now) := by
  cases staleAfterSeconds with
  | none => exact keeps_pure preserves_refl _
  | some timeoutSeconds =>
    exact keeps_bind preserves_trans (recoverTimedOut_preserves closed _ _ nowIn) fun _ =>
      keeps_pure preserves_refl _

/-! The other methods. -/

omit [PyRuntime] in
theorem claimFirst_preserves {workerId : String} (worker : l.text workerId)
    (workflow : Option String) {now : Time} (nowIn : l.time now) (order : List String) :
    Keeps (Preserves l) (claimFirst workerId workflow now order) := by
  intro repo within
  induction order with
  | nil => exact within
  | cons jobId rest ih =>
    simp only [claimFirst, bind_run, read_run, present_run]
    cases stored : repo.workflowJobs.get? jobId with
    | none => exact within
    | some job =>
      simp only [found_some]
      split
      · exact ih
      · split
        · exact ih
        · obtain ⟨id, old⟩ := within.workflowJobs jobId job stored
          exact job_stored within (by exact id) (claimedJob_within old worker nowIn)

theorem claimNext_preserves (closed : l.Closed) {workerId : String} {workflowName : Option String}
    {staleAfterSeconds : Option Int} {recoveredAt now : Time}
    (given : (Operation.claimNextWorkflowJob workerId workflowName staleAfterSeconds recoveredAt
      now).Within l) :
    Keeps (Preserves l)
      (claimNextWorkflowJob workerId workflowName staleAfterSeconds recoveredAt now) := by
  obtain ⟨worker, recovered, nowIn⟩ := given
  apply keeps_bind preserves_trans (recoverStale_preserves closed _ _ recovered)
  intro _
  apply keeps_bind preserves_trans (keeps_read preserves_refl)
  intro repo
  exact claimFirst_preserves worker _ nowIn _

theorem claim_preserves (closed : l.Closed) {jobId workerId : String}
    {staleAfterSeconds : Option Int} {recoveredAt now : Time}
    (given : (Operation.claimWorkflowJob jobId workerId staleAfterSeconds recoveredAt now).Within l) :
    Keeps (Preserves l) (claimWorkflowJob jobId workerId staleAfterSeconds recoveredAt now) := by
  obtain ⟨worker, recovered, nowIn⟩ := given
  apply keeps_bind preserves_trans (recoverStale_preserves closed _ _ recovered)
  intro _ repo within
  simp only [bind_run, getWorkflowJob_run]
  cases stored : repo.workflowJobs.get? jobId with
  | none => exact within
  | some job =>
    simp only [found_some]
    split
    · exact within
    · obtain ⟨id, old⟩ := within.workflowJobs jobId job stored
      exact job_stored within (by exact id) (claimedJob_within old worker nowIn)

omit [PyRuntime] in
theorem heartbeat_within (within : RepoWithin l repo) (jobId workerId : String) {now : Time}
    (nowIn : l.time now) : RepoWithin l (heartbeatWorkflowJob jobId workerId now repo).2 := by
  simp only [heartbeatWorkflowJob, bind_run, getWorkflowJob_run, ofExcept_run]
  cases stored : repo.workflowJobs.get? jobId with
  | none => exact within
  | some job =>
    simp only [found_some]
    cases ensureJobOwnedByWorker job workerId with
    | error e => exact within
    | ok _ =>
      obtain ⟨id, old⟩ := within.workflowJobs jobId job stored
      apply job_stored within
      · exact id
      · exact { old with
          updated := nowIn
          heartbeat := fun time member => Option.mem_some.mp member ▸ nowIn }

omit [PyRuntime] in
theorem complete_within (within : RepoWithin l repo) (jobId : String) (workerId : Option String)
    {now : Time} (nowIn : l.time now) :
    RepoWithin l (completeWorkflowJob jobId workerId now repo).2 := by
  simp only [completeWorkflowJob, bind_run, getWorkflowJob_run]
  cases stored : repo.workflowJobs.get? jobId with
  | none => exact within
  | some job =>
    simp only [found_some]
    split
    · exact within
    · simp only [bind_run, ofExcept_run]
      cases ensureOwnedByOptional job workerId with
      | error e => exact within
      | ok _ =>
        obtain ⟨id, old⟩ := within.workflowJobs jobId job stored
        apply job_stored within
        · exact id
        · exact { old with
            updated := nowIn
            finished := fun time member => Option.mem_some.mp member ▸ nowIn }

theorem fail_within (closed : l.Closed) (within : RepoWithin l repo) {jobId errorSummary : String}
    {retry : Bool} {workerId : Option String} {now : Time}
    (given : (Operation.failWorkflowJob jobId errorSummary retry workerId now).Within l) :
    RepoWithin l (failWorkflowJob jobId errorSummary retry workerId now repo).2 := by
  obtain ⟨text, summary, worker, nowIn⟩ := given
  simp only [failWorkflowJob, bind_run, getWorkflowJob_run, ofExcept_run]
  cases stored : repo.workflowJobs.get? jobId with
  | none => exact within
  | some job =>
    simp only [found_some]
    cases ensureOwnedByOptional job workerId with
    | error e => exact within
    | ok _ =>
      obtain ⟨id, old⟩ := within.workflowJobs jobId job stored
      have named : l.text "worker_failure" := closed.plain (List.all_eq_true.mp (by decide))
      apply giveUpAttempt_within closed within id old _ text summary _ named nowIn
      split
      · exact old.worker
      · exact worker

theorem withReason_within (closed : l.Closed) {payload payload' : PyDict}
    (held : EntriesAll l.text payload) {key : String} (named : l.text key) {reason : Option String}
    (texts : ∀ text ∈ reason, l.text text) (made : withReason payload key reason = .ok payload') :
    EntriesAll l.text payload' := by
  cases reason with
  | none => exact Except.ok.inj made ▸ held
  | some text =>
    simp only [withReason] at made
    split at made
    · exact Except.ok.inj made ▸ held
    · simp only [bind_eq_ok, pure_eq_ok] at made
      obtain ⟨text', first, rfl⟩ := made
      exact entriesAll_store held named (closed.text (texts text rfl) first)

omit [PyRuntime] in
theorem reopenRunOf_within (within : RepoWithin l repo) (job : WorkflowJobRecord) {now : Time}
    (nowIn : l.time now) : RepoWithin l (reopenRunOf job now repo).2 := by
  simp only [reopenRunOf, bind_run, getRun_run]
  cases stored : repo.runs.get? job.runId with
  | none => exact within
  | some run =>
    obtain ⟨id, old⟩ := within.runs job.runId run stored
    apply run_stored within
    · exact id
    · exact { old with
        updated := nowIn
        summary := by simp }

theorem retryDeadLetter_within (closed : l.Closed) (within : RepoWithin l repo) {jobId : String}
    {reason : Option String} {now : Time}
    (given : (Operation.retryDeadLetterWorkflowJob jobId reason now).Within l) :
    RepoWithin l (retryDeadLetterWorkflowJob jobId reason now repo).2 := by
  obtain ⟨texts, nowIn⟩ := given
  have plain : ∀ {text : String}, text.toList.all plainChar = true → l.text text :=
    fun all => closed.plain (List.all_eq_true.mp all)
  simp only [retryDeadLetterWorkflowJob, bind_run, getWorkflowJob_run]
  cases stored : repo.workflowJobs.get? jobId with
  | none => exact within
  | some job =>
    simp only [found_some]
    split
    · exact within
    · obtain ⟨id, old⟩ := within.workflowJobs jobId job stored
      simp only [bind_run, ofExcept_run]
      cases PyValue.toInt ((lookupEntries job.payload "manual_retry_count").getD (.int 0)) with
      | error e => exact within
      | ok count =>
        have counted : EntriesAll l.text
            (storeEntries job.payload "manual_retry_count" (.int (count + 1))) :=
          entriesAll_store old.payload (plain (by decide)) True.intro
        have stamped : EntriesAll l.text
            (storeEntries (storeEntries job.payload "manual_retry_count" (.int (count + 1)))
              "last_manual_retry_at" (.str (isoformat now))) :=
          entriesAll_store counted (plain (by decide)) (closed.stamp now)
        simp only
        split
        · rename_i payload s' hpayload
          obtain ⟨made, rfl⟩ := Prod.mk.injEq .. ▸ hpayload
          have held := withReason_within closed stamped (plain (by decide)) texts made
          have retried : JobWithin l
              { job with
                status := .queued, payload, maxAttempts := max job.maxAttempts (job.attemptCount + 1)
                workerId := none, errorSummary := none, heartbeatAt := none, finishedAt := none
                updatedAt := now } := by
            constructor
            · exact old.created
            · exact nowIn
            · exact old.started
            · simp
            · simp
            · exact held
            · simp
            · simp
          have after := reopenRunOf_within (job_stored within (by exact id) retried)
            { job with
              status := .queued, payload, maxAttempts := max job.maxAttempts (job.attemptCount + 1)
              workerId := none, errorSummary := none, heartbeatAt := none, finishedAt := none
              updatedAt := now } nowIn
          simp only [change_run]
          split
          · rename_i answered
            rw [answered] at after
            exact after
          · rename_i raised
            rw [raised] at after
            exact after
        · rename_i hpayload
          obtain ⟨-, rfl⟩ := Prod.mk.injEq .. ▸ hpayload
          exact within

theorem dismissDeadLetter_within (closed : l.Closed) (within : RepoWithin l repo) {jobId : String}
    {reason : Option String} {now : Time}
    (given : (Operation.dismissDeadLetterWorkflowJob jobId reason now).Within l) :
    RepoWithin l (dismissDeadLetterWorkflowJob jobId reason now repo).2 := by
  obtain ⟨texts, nowIn⟩ := given
  have plain : ∀ {text : String}, text.toList.all plainChar = true → l.text text :=
    fun all => closed.plain (List.all_eq_true.mp all)
  simp only [dismissDeadLetterWorkflowJob, bind_run, getWorkflowJob_run]
  cases stored : repo.workflowJobs.get? jobId with
  | none => exact within
  | some job =>
    simp only [found_some]
    split
    · exact within
    · obtain ⟨id, old⟩ := within.workflowJobs jobId job stored
      have stamped : EntriesAll l.text
          (storeEntries job.payload "dismissed_at" (.str (isoformat now))) :=
        entriesAll_store old.payload (plain (by decide)) (closed.stamp now)
      simp only [bind_run, ofExcept_run]
      split
      · rename_i payload s' hpayload
        obtain ⟨made, rfl⟩ := Prod.mk.injEq .. ▸ hpayload
        have held := withReason_within closed stamped (plain (by decide)) texts made
        apply job_stored within
        · exact id
        · constructor
          · exact old.created
          · exact nowIn
          · exact old.started
          · exact fun time member => Option.mem_some.mp member ▸ nowIn
          · simp
          · exact held
          · simp
          · exact old.summary
      · rename_i hpayload
        obtain ⟨-, rfl⟩ := Prod.mk.injEq .. ▸ hpayload
        exact within

theorem addArtifact_within (closed : l.Closed) (within : RepoWithin l repo)
    {given : ArtifactArguments} {fresh : String} {createdAt now : Time}
    (limits : (Operation.addArtifact given fresh createdAt now).Within l) :
    RepoWithin l (addArtifact given fresh createdAt now repo).2 := by
  obtain ⟨uriIn, metadataIn, createdIn, nowIn⟩ := limits
  simp only [addArtifact, bind_run, getRun_run, ofExcept_run]
  cases stored : repo.runs.get? given.runId with
  | none => exact within
  | some run =>
    simp only [found_some]
    cases first : redactEntries given.metadata with
    | error e => exact within
    | ok metadata =>
      simp only
      cases artifactStorageMetadata metadata given.contentType given.storageBackend
          given.storageKey given.sizeBytes with
      | error e => exact within
      | ok storage =>
        simp only
        cases second : redactUri given.uri with
        | error e => exact within
        | ok uri =>
          simp only [recordArtifact, bind_run, getRun_run, stored, found_some, change_run]
          have artifact : ArtifactWithin l
              { id := (orText given.artifactId none).getD ("artifact_" ++ fresh)
                runId := given.runId
                producerNodeId := given.producerNodeId
                type := given.artifactType
                uri
                metadata
                sourceArtifactIds := given.sourceArtifactIds
                createdAt
                contentType := storage.contentType
                storageBackend := storage.storageBackend
                storageKey := storage.storageKey
                sizeBytes := storage.sizeBytes } :=
            ⟨createdIn, closed.uri uriIn second,
              entriesAll_redacted closed.toRedacts metadataIn first⟩
          have appended := artifact_appended within artifact
          split
          · obtain ⟨id, old⟩ := within.runs given.runId run stored
            exact run_stored appended (by exact id) { old with updated := nowIn }
          · exact appended

omit [PyRuntime] in
theorem upsertGraphNode_within (within : RepoWithin l repo) {node : GraphNodeRecord}
    (given : NodeWithin l node) : RepoWithin l (upsertGraphNode node repo).2 := by
  simp only [upsertGraphNode, bind_run, getRun_run]
  cases repo.runs.get? node.runId with
  | none => exact within
  | some run =>
    refine { within with graphNodes := Dict.all_set within.graphNodes ?_ }
    apply upserted_within _ given
    intro other member
    unfold Repo.nodesOf at member
    cases listed : repo.graphNodes.get? node.runId with
    | none => simp [listed] at member
    | some nodes =>
      rw [listed] at member
      exact within.graphNodes node.runId nodes listed other member

theorem addEvent_within (closed : l.Closed) (within : RepoWithin l repo) {event : AgentEventRecord}
    (given : EventWithin l event) : RepoWithin l (addEvent event repo).2 := by
  simp only [addEvent, bind_run, getRun_run, ofExcept_run]
  cases repo.runs.get? event.runId with
  | none => exact within
  | some run =>
    simp only [found_some]
    cases made : redactEntries event.payload with
    | error e => exact within
    | ok payload =>
      exact event_appended within
        ⟨given.created, entriesAll_redacted closed.toRedacts given.payload made⟩

theorem messageEntry_within (closed : l.Closed) {key : String}
    (named : ∀ c ∈ key.toList, plainChar c = true) {result : LogResult}
    (all : ∀ message ∈ result.message, l.text message) :
    EntriesAll l.text (messageEntry key result) := by
  unfold messageEntry orText
  split
  · rename_i message chosen
    split at chosen
    · cases chosen
    · exact ⟨closed.plain named, all message chosen, True.intro⟩
  · exact True.intro

theorem evaluationEvent_within (closed : l.Closed) {evaluation : EvaluationResultRecord}
    {mlflow langsmith : LogResult} (given : EvaluationGiven l evaluation mlflow langsmith)
    (checks : List PyDict) (createdAt : Option Time) {traceId : Option String}
    (trace : ∀ text ∈ traceId, l.text text) (fresh : String) (stamp : Time) {recorded : Time}
    (recordedIn : l.time recorded) :
    EventWithin l (evaluationEvent { evaluation with checks, createdAt } traceId mlflow langsmith
      fresh stamp recorded) := by
  have plain : ∀ {text : String}, text.toList.all plainChar = true → l.text text :=
    fun all => closed.plain (List.all_eq_true.mp all)
  obtain ⟨-, id, target, mlflowIn, langsmithIn⟩ := given
  refine ⟨recordedIn, ?_⟩
  apply entriesAll_append
  · apply entriesAll_append
    · exact ⟨plain (by decide), closed.logged, plain (by decide), plain (by decide),
        plain (by decide), mlflowIn.1, plain (by decide), langsmithIn.1, plain (by decide), id,
        plain (by decide), valueAll_ofOption target, plain (by decide), True.intro,
        plain (by decide), True.intro, plain (by decide), True.intro, plain (by decide),
        valueAll_ofOption trace, plain (by decide), closed.stamp stamp, True.intro⟩
    · exact messageEntry_within closed (List.all_eq_true.mp (by decide)) mlflowIn.2
  · exact messageEntry_within closed (List.all_eq_true.mp (by decide)) langsmithIn.2

theorem checks_within (closed : l.Closed) {checks checks' : List PyDict}
    (all : ∀ check ∈ checks, EntriesAll l.text check)
    (made : checks.mapM redactEntries = .ok checks') :
    ∀ check ∈ checks', EntriesAll l.text check := by
  induction checks generalizing checks' with
  | nil =>
    simp only [List.mapM_nil, pure_eq_ok] at made
    simp [← made]
  | cons check rest ih =>
    simp only [List.mapM_cons, bind_eq_ok, pure_eq_ok] at made
    obtain ⟨check', first, rest', others, rfl⟩ := made
    intro other member
    rcases List.mem_cons.mp member with rfl | later
    · exact entriesAll_redacted closed.toRedacts (all check List.mem_cons_self) first
    · exact ih (fun c inside => all c (List.mem_cons_of_mem check inside)) others other later

theorem addEvaluation_within (closed : l.Closed) (within : RepoWithin l repo)
    {evaluation : EvaluationResultRecord} {mlflow langsmith : LogResult} {fresh : String}
    {now stamp recorded : Time}
    (limits : (Operation.addEvaluation evaluation mlflow langsmith fresh now stamp recorded).Within
      l) :
    RepoWithin l (addEvaluation evaluation mlflow langsmith fresh now stamp recorded repo).2 := by
  obtain ⟨given, nowIn, recordedIn⟩ := limits
  simp only [addEvaluation, bind_run, getRun_run, ofExcept_run]
  cases stored : repo.runs.get? evaluation.runId with
  | none => exact within
  | some run =>
    simp only [found_some]
    cases made : evaluation.checks.mapM redactEntries with
    | error e => exact within
    | ok checks =>
      simp only [change_run, pure_run]
      have record : EvaluationWithin l
          { evaluation with checks, createdAt := some (evaluation.createdAt.getD now) } := by
        constructor
        · intro time member
          rw [← Option.mem_some.mp member]
          cases dated : evaluation.createdAt with
          | none => exact nowIn
          | some time => exact given.1.created time dated
        · exact checks_within closed given.1.checks made
      have listed : RepoWithin l { repo with
          evaluations := repo.evaluations.set evaluation.runId
            ((repo.evaluations.get? evaluation.runId).getD [] ++
              [{ evaluation with checks, createdAt := some (evaluation.createdAt.getD now) }]) } :=
        { within with
          evaluations := list_appended within.evaluations evaluation.runId record }
      have trace := (within.runs evaluation.runId run stored).2.trace
      exact event_appended listed
        (evaluationEvent_within closed given checks _ trace fresh stamp recordedIn)

/-! Sequences of operations. -/

theorem saveCheckpoint_within (closed : l.Closed) {store : RunStore} (within : StoreWithin l store)
    {runId : String} {state : PyDict} {now : Time}
    (given : (Operation.saveCheckpoint runId state now).Within l) :
    StoreWithin l (saveCheckpoint runId state now store).2 := by
  simp only [saveCheckpoint, bind_run, inRepo_run, getRun_run, read_run, ofExcept_run]
  cases store.repo.runs.get? runId with
  | none => exact within
  | some run =>
    simp only [found_some]
    cases made : redactEntries state with
    | error e => exact within
    | ok state' =>
      refine { within with checkpoints := Dict.all_set within.checkpoints ?_ }
      constructor
      · cases existing : store.checkpoints.get? runId with
        | none => exact given.2
        | some old => exact (within.checkpoints runId old existing).created
      · exact given.2
      · exact entriesAll_redacted closed.toRedacts given.1 made

omit [PyRuntime] in
theorem restoreRun_within {store : RunStore} (within : StoreWithin l store)
    {contents : RunContents} {checkpoint : Option CheckpointRecord}
    (given : (Operation.restoreRun contents checkpoint).Within l) :
    StoreWithin l (restoreRun contents checkpoint store).2 := by
  obtain ⟨contentsIn, checkpointIn⟩ := given
  have repo := within.repo
  simp only [restoreRun, bind_run, inRepo_run, restoreRun_run, change_run, pure_run]
  constructor
  · constructor
    · exact Dict.all_set repo.runs ⟨rfl, contentsIn.run⟩
    · exact Dict.all_set repo.artifacts contentsIn.artifacts
    · exact Dict.all_set repo.graphNodes contentsIn.graphNodes
    · exact Dict.all_set repo.events contentsIn.events
    · exact Dict.all_set repo.evaluations contentsIn.evaluations
    · apply Dict.all_foldl_set (Dict.all_retain repo.workflowJobs _)
      intro row member
      obtain ⟨job, inside, rfl⟩ := List.mem_map.mp member
      exact ⟨rfl, contentsIn.workflowJobs job inside⟩
  · cases checkpoint with
    | none => exact Dict.all_erase within.checkpoints _
    | some record => exact Dict.all_set within.checkpoints (checkpointIn record rfl)

theorem perform_within (closed : l.Closed) {store : RunStore} (within : StoreWithin l store)
    {operation : Operation} (given : operation.Within l) : StoreWithin l (operation.perform store) := by
  have repo := within.repo
  have kept : ∀ {after : Repo}, RepoWithin l after → StoreWithin l { store with repo := after } :=
    fun after => { within with repo := after }
  cases operation with
  | createRun => exact kept (createRun_within closed repo given)
  | restoreRun => exact restoreRun_within within given
  | updateStatus => exact kept (updateStatus_within closed repo given)
  | enqueueWorkflowJob => exact kept (enqueue_within closed repo given)
  | updateWorkflowJobResult => exact kept (updateResult_within closed repo given)
  | claimNextWorkflowJob => exact kept (claimNext_preserves closed given _ repo)
  | claimWorkflowJob => exact kept (claim_preserves closed given _ repo)
  | heartbeatWorkflowJob => exact kept (heartbeat_within repo _ _ given)
  | completeWorkflowJob => exact kept (complete_within repo _ _ given)
  | failWorkflowJob => exact kept (fail_within closed repo given)
  | retryDeadLetterWorkflowJob => exact kept (retryDeadLetter_within closed repo given)
  | dismissDeadLetterWorkflowJob => exact kept (dismissDeadLetter_within closed repo given)
  | recoverTimedOutWorkflowJobs => exact kept (recoverTimedOut_preserves closed _ _ given _ repo)
  | addArtifact => exact kept (addArtifact_within closed repo given)
  | upsertGraphNode => exact kept (upsertGraphNode_within repo given)
  | addEvent => exact kept (addEvent_within closed repo given)
  | addEvaluation => exact kept (addEvaluation_within closed repo given)
  | saveCheckpoint => exact saveCheckpoint_within closed within given

theorem reached_within (closed : l.Closed) {store : RunStore}
    (reached : Reached (Operation.Within l) store) : StoreWithin l store := by
  induction reached with
  | init => exact ⟨init_within, Dict.all_empty _⟩
  | step _ allowed ih => exact perform_within closed ih allowed

end methods
end RunArchive
