import AeaiOs.SqlRepository

/-!
The in-memory and the SQL repository under the same calls. They keep equal tables,
the SQL rows sorted by creation, and answer alike, as long as no failure is given
a summary that redaction rewrites: the in-memory repository stores it as it is.
-/
namespace RepositoryAgreement
open OrderedDict PyText BacktrackRegex CivilTime StoreAction Action RunValues RunModels Redaction
open InMemoryRunRepository (Repo RepoM found found_some found_none claimedJob failedAttempt
  appendWorkflowFailure normalizedWorkflow timeoutSummary ensureOwnedByOptional
  ensureJobOwnedByWorker withReason cutoffTime)
open SqlRepository (Tables SqlM transaction selectByCreation)

/-- The calls that both repositories answer, with the clock readings and identifiers
    that they draw. -/
inductive SharedCall where
  | createRun (task : String) (metadata : PyDict) (traceId : Option String) (fresh trace : String)
      (now : Time)
  | enqueue (runId workflowName : String) (payload : PyDict) (maxAttempts : Int)
      (jobId : Option String) (status : WorkflowJobStatus) (fresh : String) (now : Time)
  | claimNext (workerId : String) (workflowName : Option String) (staleAfterSeconds : Option Int)
      (recoveredAt now : Time)
  | claim (jobId workerId : String) (staleAfterSeconds : Option Int) (recoveredAt now : Time)
  | heartbeat (jobId workerId : String) (now : Time)
  | complete (jobId : String) (workerId : Option String) (now : Time)
  | fail (jobId errorSummary : String) (retry : Bool) (workerId : Option String) (now : Time)
  | recover (timeoutSeconds : Int) (workflowName : Option String) (now : Time)
  | retryDeadLetter (jobId : String) (reason : Option String) (now : Time)
  | dismissDeadLetter (jobId : String) (reason : Option String) (now : Time)

inductive Answer where
  | run (run : RunRecord)
  | jobs (jobs : List WorkflowJobRecord)

namespace SharedCall

/-- The run that the call creates, and the job that it files. -/
def newRun : SharedCall → List String
  | createRun _ _ _ fresh _ _ => ["run_" ++ fresh]
  | _ => []

def newJob : SharedCall → List String
  | enqueue _ _ _ _ jobId _ fresh _ =>
      [if jobId.getD "" = "" then "job_" ++ fresh else jobId.getD ""]
  | _ => []

/-- The clock readings of the call, in their order. -/
def times : SharedCall → List Time
  | createRun _ _ _ _ _ now => [now]
  | enqueue _ _ _ _ _ _ _ now => [now]
  | claimNext _ _ staleAfterSeconds recoveredAt now =>
      if staleAfterSeconds.isSome then [recoveredAt, now] else [now]
  | claim _ _ staleAfterSeconds recoveredAt now =>
      if staleAfterSeconds.isSome then [recoveredAt, now] else [now]
  | heartbeat _ _ now => [now]
  | complete _ _ now => [now]
  | fail _ _ _ _ now => [now]
  | recover _ _ now => [now]
  | retryDeadLetter _ _ now => [now]
  | dismissDeadLetter _ _ now => [now]

end SharedCall

/-- `list(payload.get("failure_history", []))` raises nothing. -/
def holdsHistory (payload : PyDict) : Bool :=
  match lookupEntries payload "failure_history" with
  | none => true
  | some (.list _) => true
  | some (.str _) => true
  | some (.dict _) => true
  | some _ => false

section calls
variable [PyRuntime]

namespace SharedCall

def inMemory : SharedCall → RepoM Answer
  | createRun task metadata traceId fresh trace now => do
      return .run (← InMemoryRunRepository.createRun task metadata traceId fresh trace now)
  | enqueue runId workflowName payload maxAttempts jobId status fresh now => do
      return .jobs [← InMemoryRunRepository.enqueueWorkflowJob runId workflowName payload
        maxAttempts jobId status fresh now]
  | claimNext workerId workflowName staleAfterSeconds recoveredAt now => do
      let job ← InMemoryRunRepository.claimNextWorkflowJob workerId workflowName
        staleAfterSeconds recoveredAt now
      return .jobs job.toList
  | claim jobId workerId staleAfterSeconds recoveredAt now => do
      let job ← InMemoryRunRepository.claimWorkflowJob jobId workerId staleAfterSeconds
        recoveredAt now
      return .jobs job.toList
  | heartbeat jobId workerId now => do
      return .jobs [← InMemoryRunRepository.heartbeatWorkflowJob jobId workerId now]
  | complete jobId workerId now => do
      return .jobs [← InMemoryRunRepository.completeWorkflowJob jobId workerId now]
  | fail jobId errorSummary retry workerId now => do
      return .jobs [← InMemoryRunRepository.failWorkflowJob jobId errorSummary retry workerId now]
  | recover timeoutSeconds workflowName now => do
      return .jobs
        (← InMemoryRunRepository.recoverTimedOutWorkflowJobs timeoutSeconds workflowName now)
  | retryDeadLetter jobId reason now => do
      return .jobs [← InMemoryRunRepository.retryDeadLetterWorkflowJob jobId reason now]
  | dismissDeadLetter jobId reason now => do
      return .jobs [← InMemoryRunRepository.dismissDeadLetterWorkflowJob jobId reason now]

def sql : SharedCall → SqlM Answer
  | createRun task metadata traceId fresh trace now => do
      return .run (← SqlRepository.createRun task metadata traceId fresh trace now)
  | enqueue runId workflowName payload maxAttempts jobId status fresh now => do
      return .jobs [← SqlRepository.enqueueWorkflowJob runId workflowName payload maxAttempts
        jobId status fresh now]
  | claimNext workerId workflowName staleAfterSeconds recoveredAt now => do
      let job ← SqlRepository.claimNextWorkflowJob workerId workflowName staleAfterSeconds
        recoveredAt now
      return .jobs job.toList
  | claim jobId workerId staleAfterSeconds recoveredAt now => do
      let job ← SqlRepository.claimWorkflowJob jobId workerId staleAfterSeconds recoveredAt now
      return .jobs job.toList
  | heartbeat jobId workerId now => do
      return .jobs [← SqlRepository.heartbeatWorkflowJob jobId workerId now]
  | complete jobId workerId now => do
      return .jobs [← SqlRepository.completeWorkflowJob jobId workerId now]
  | fail jobId errorSummary retry workerId now => do
      return .jobs [← SqlRepository.failWorkflowJob jobId errorSummary retry workerId now]
  | recover timeoutSeconds workflowName now => do
      return .jobs (← SqlRepository.recoverTimedOutWorkflowJobs timeoutSeconds workflowName now)
  | retryDeadLetter jobId reason now => do
      return .jobs [← SqlRepository.retryDeadLetterWorkflowJob jobId reason now]
  | dismissDeadLetter jobId reason now => do
      return .jobs [← SqlRepository.dismissDeadLetterWorkflowJob jobId reason now]

/-- What the calls must avoid for the repositories to agree: a failure with a summary
    that redaction rewrites, and a payload with a failure history that is no list. -/
def Unredacted : SharedCall → Prop
  | fail _ errorSummary _ _ _ => ∀ text, redactText errorSummary = .ok text → text = errorSummary
  | enqueue _ _ payload _ _ _ _ _ => holdsHistory payload = true
  | _ => True

end SharedCall

/-! The states of the two repositories. -/

/-- What holds of every row: it is filed under its own id, has been created by a call, its
    run is stored, and its failure history can be extended. -/
structure RowKept (past : List SharedCall) (runs : Dict String RunRecord) (jobId : String)
    (job : WorkflowJobRecord) : Prop where
  id_eq : job.id = jobId
  created : job.createdAt ∈ past.flatMap SharedCall.times
  owned : ∃ run, runs.get? job.runId = some run
  history : holdsHistory job.payload = true

/-- The two repositories after the same calls. -/
structure Agree (past : List SharedCall) (repo : Repo) (tables : Tables) : Prop where
  runs : repo.runs = tables.runs
  jobs : repo.workflowJobs = tables.workflowJobs
  order : repo.workflowJobOrder = tables.workflowJobs.keys
  kept : ∀ jobId job, tables.workflowJobs.get? jobId = some job →
    RowKept past tables.runs jobId job
  sorted : (tables.workflowJobs.values.map WorkflowJobRecord.createdAt).Pairwise (· ≤ ·)

variable {past : List SharedCall}

omit [PyRuntime] in
theorem agree_init : Agree [] Repo.init Tables.init := by
  refine ⟨rfl, rfl, rfl, ?_, ?_⟩
  · intro jobId job found
    cases found
  · exact List.Pairwise.nil

omit [PyRuntime] in
/-- A job written in place keeps the order of the rows. -/
theorem agree_stored {repo : Repo} {tables : Tables} (agree : Agree past repo tables) {jobId : String}
    {job job' : WorkflowJobRecord} (stored : tables.workflowJobs.get? jobId = some job)
    (id : job'.id = job.id) (run : job'.runId = job.runId) (created : job'.createdAt = job.createdAt)
    (history : holdsHistory job'.payload = true) :
    Agree past (repo.storeJob jobId job')
      { tables with workflowJobs := tables.workflowJobs.set jobId job' } := by
  have row := agree.kept jobId job stored
  refine ⟨agree.runs, ?_, ?_, ?_, ?_⟩
  · simp only [Repo.storeJob, agree.jobs]
  · simp only [Repo.storeJob, agree.order]
    exact (Dict.keys_set_of_found job' stored).symm
  · intro k other found
    simp only [Dict.get?_set] at found
    split at found
    · rename_i same
      cases found
      refine ⟨?_, ?_, ?_, history⟩
      · rw [id, row.id_eq, same]
      · rw [created]
        exact row.created
      · rw [run]
        exact row.owned
    · exact agree.kept k other found
  · have same : (tables.workflowJobs.set jobId job').values.map WorkflowJobRecord.createdAt =
        tables.workflowJobs.values.map WorkflowJobRecord.createdAt := by
      unfold Dict.values
      rw [List.map_map, List.map_map]
      exact map_storeEntries stored created
    rw [same]
    exact agree.sorted

omit [PyRuntime] in
/-- A run written in both. -/
theorem agree_run {repo : Repo} {tables : Tables} (agree : Agree past repo tables) (runId : String)
    (run' : RunRecord) :
    Agree past { repo with runs := repo.runs.set runId run' }
      { tables with runs := tables.runs.set runId run' } := by
  refine ⟨?_, agree.jobs, agree.order, ?_, agree.sorted⟩
  · simp only [agree.runs]
  · intro jobId job found
    have row := agree.kept jobId job found
    refine ⟨row.id_eq, row.created, ?_, row.history⟩
    obtain ⟨owner, owned⟩ := row.owned
    simp only [Dict.get?_set]
    by_cases same : runId = job.runId
    · exact ⟨run', by simp [same]⟩
    · exact ⟨owner, by simp [same, owned]⟩

/-! The failure history of a payload. -/

omit [PyRuntime] in
theorem toList_of_history {payload : PyDict} (h : holdsHistory payload = true) :
    ∃ items, PyValue.toList ((lookupEntries payload "failure_history").getD (.list [])) =
      .ok items := by
  unfold holdsHistory at h
  cases found : lookupEntries payload "failure_history" with
  | none => exact ⟨[], rfl⟩
  | some value =>
    rw [found] at h
    cases value with
    | list items => exact ⟨items, rfl⟩
    | str text => exact ⟨_, rfl⟩
    | dict entries => exact ⟨_, rfl⟩
    | _ => cases h

omit [PyRuntime] in
theorem holdsHistory_stored {payload : PyDict} {key : String} (value : PyValue)
    (other : key ≠ "failure_history") :
    holdsHistory (storeEntries payload key value) = holdsHistory payload := by
  unfold holdsHistory
  rw [lookup_storeEntries, if_neg other]

theorem withReason_history {payload payload' : PyDict} {key : String} {reason : Option String}
    (other : key ≠ "failure_history") (h : withReason payload key reason = .ok payload') :
    holdsHistory payload' = holdsHistory payload := by
  unfold withReason at h
  split at h
  · cases h
    rfl
  · split at h
    · cases h
      rfl
    · simp only [Bind.bind, Except.bind] at h
      split at h
      · cases h
      · cases h
        exact holdsHistory_stored _ other

theorem append_history {payload payload' : PyDict} {attemptCount : Int} {status : WorkflowJobStatus}
    {errorSummary : String} {recordedAt : Time} {workerId : Option String} {reason : String}
    (h : appendWorkflowFailure payload attemptCount status errorSummary recordedAt workerId reason =
      .ok payload') : holdsHistory payload' = true := by
  simp only [appendWorkflowFailure, Bind.bind, Except.bind] at h
  split at h
  · cases h
  · split at h
    · cases h
    · cases h
      rw [holdsHistory_stored _ (by decide)]
      simp [holdsHistory, lookup_storeEntries]

/-- Redaction leaves a history that is a list, a text or a dictionary one of these. -/
theorem redactEntries_history {payload payload' : PyDict} (h : redactEntries payload = .ok payload')
    (history : holdsHistory payload = true) : holdsHistory payload' = true := by
  induction payload generalizing payload' with
  | nil =>
    simp only [redactEntries, Except.ok.injEq] at h
    rw [← h]
    rfl
  | cons entry rest ih =>
    obtain ⟨key, value⟩ := entry
    simp only [redactEntries, Bind.bind, Except.bind] at h
    split at h
    · cases h
    · rename_i value' hvalue
      split at h
      · cases h
      · rename_i rest' hrest
        cases h
        unfold holdsHistory at history ⊢
        unfold lookupEntries at history ⊢
        by_cases here : key = "failure_history"
        · simp only [here, if_true] at history ⊢
          unfold redactValueAt at hvalue
          split at hvalue
          · cases hvalue
            rfl
          · cases value with
            | dict entries =>
              cases inner : redactEntries entries <;> simp [inner, Except.map] at hvalue
              rw [← hvalue]
            | list items =>
              cases inner : redactItems items <;> simp [inner, Except.map] at hvalue
              rw [← hvalue]
            | str text =>
              cases inner : redactText text <;> simp [inner, Except.map] at hvalue
              rw [← hvalue]
            | _ => cases history
        · simp only [here, if_false] at history ⊢
          exact ih hrest history

/-! The summary of a recovery is no secret. -/

omit [PyRuntime] in
theorem decimal_digits {n : Int} {c : Char} (h : c ∈ (toString n).toList) :
    c = '-' ∨ c.isDigit = true := by
  have natural : ∀ (n : Nat) (c : Char), c ∈ n.repr.toList → c.isDigit = true := by
    intro n c member
    refine Nat.isDigit_of_mem_toDigits (b := 10) (n := n) (by decide) (by decide) ?_
    simpa using member
  rw [Int.toString_eq_repr, Int.repr_eq_if] at h
  split at h
  · exact .inr (natural _ c h)
  · rw [String.toList_append, List.mem_append] at h
    rcases h with sign | digits
    · exact .inl (by simpa using sign)
    · exact .inr (natural _ c digits)

omit [PyRuntime] in
theorem digit_is_plain {c : Char} (h : c = '-' ∨ c.isDigit = true) :
    (foldChar ':' c || oneOf ":=" c) = false ∧ foldChar 'b' c = false := by
  have bounds : c = '-' ∨ (48 ≤ c.toNat ∧ c.toNat ≤ 57) := by
    rcases h with dash | digit
    · exact .inl dash
    · refine .inr ?_
      simp only [Char.isDigit, Bool.and_eq_true, decide_eq_true_eq] at digit
      exact ⟨digit.1, digit.2⟩
  rcases bounds with dash | ⟨low, high⟩
  · subst dash
    decide
  · have each : ∀ n, n < 58 → 48 ≤ n →
        (foldChar ':' (Char.ofNat n) || oneOf ":=" (Char.ofNat n)) = false ∧
          foldChar 'b' (Char.ofNat n) = false := by decide
    have here := each c.toNat (by omega) low
    rwa [Char.ofNat_toNat] at here

theorem timeoutSummary_kept (timeoutSeconds : Int) :
    redactText (timeoutSummary timeoutSeconds) = .ok (timeoutSummary timeoutSeconds) := by
  have parts : (timeoutSummary timeoutSeconds).toList =
      "Workflow job heartbeat timed out after ".toList ++
        ((toString timeoutSeconds).toList ++ " seconds.".toList) := by
    unfold timeoutSummary
    rw [String.toList_append, String.toList_append, List.append_assoc]
    rfl
  apply redactText_sentence
  · intro c member
    have front : "Workflow job heartbeat timed out after ".toList.all
        (fun c => !(foldChar ':' c || oneOf ":=" c)) = true := by decide
    have back : " seconds.".toList.all (fun c => !(foldChar ':' c || oneOf ":=" c)) = true := by
      decide
    rw [parts, List.mem_append, List.mem_append] at member
    rcases member with before | digit | after
    · exact Bool.not_eq_true' _ ▸ List.all_eq_true.mp front c before
    · exact (digit_is_plain (decimal_digits digit)).1
    · exact Bool.not_eq_true' _ ▸ List.all_eq_true.mp back c after
  · rw [parts]
    have front : nowhere "bearer".toList "Workflow job heartbeat timed out after ".toList = true := by
      decide
    have back : nowhere "bearer".toList " seconds.".toList = true := by decide
    refine nowhere_append front (nowhere_append ?_ back)
    have word : "bearer".toList = 'b' :: "earer".toList := by decide
    rw [word]
    apply nowhere_of_first
    intro c member
    exact (digit_is_plain (decimal_digits member)).2

/-! Method by method. -/

omit [PyRuntime] in
theorem transaction_twins {α : Type} {R : Repo → Tables → Prop} {a : RepoM α} {b : SqlM α}
    {repo : Repo} {tables : Tables} (h : Twins R a b repo tables) :
    Twins R a (transaction b) repo tables := by
  rcases h with ⟨e, ha, hb⟩ | ⟨value, repo', tables', ha, hb, related⟩
  · exact .inl ⟨e, ha, by simp only [transaction, hb]⟩
  · exact .inr ⟨value, repo', tables', ha, by simp only [transaction, hb], related⟩

/-- The tables after one job has been written, and its run perhaps. -/
def AgreeBut (past : List SharedCall) (tables : Tables) (jobId : String) (repo' : Repo) (tables' : Tables) : Prop :=
  Agree past repo' tables' ∧
    ∀ k, k ≠ jobId → tables'.workflowJobs.get? k = tables.workflowJobs.get? k

theorem failedRow_run (job : WorkflowJobRecord) (shouldRetry : Bool) (errorSummary : String)
    (workerId : Option String) (reason : String) (now : Time) :
    SqlJobStore.failedRow job shouldRetry errorSummary workerId reason now =
      match redactText errorSummary with
      | .error e => .error e
      | .ok text =>
          match appendWorkflowFailure job.payload job.attemptCount
            (if shouldRetry then .queued else .deadLetter) text now workerId reason with
          | .error e => .error e
          | .ok payload => .ok (failedAttempt job shouldRetry payload text now) := by
  simp only [SqlJobStore.failedRow, Bind.bind, Except.bind]
  cases redactText errorSummary with
  | error e => rfl
  | ok text =>
    simp only
    cases appendWorkflowFailure job.payload job.attemptCount
      (if shouldRetry then .queued else .deadLetter) text now workerId reason <;> rfl

/-- An attempt whose summary and history are accepted: both write the same row, and
    the run of a dead letter fails in both. -/
theorem giveUp_returns {repo : Repo} {tables : Tables} (agree : Agree past repo tables) {jobId : String}
    {job : WorkflowJobRecord} (stored : tables.workflowJobs.get? jobId = some job)
    {summary : String} (kept : redactText summary = .ok summary) {shouldRetry : Bool}
    {workerId : Option String} {reason : String} {now : Time} {payload : PyDict}
    (appended : appendWorkflowFailure job.payload job.attemptCount
      (if shouldRetry = true then .queued else .deadLetter) summary now workerId reason =
        .ok payload) :
    ∃ repo' tables',
      InMemoryRunRepository.giveUpAttempt jobId job shouldRetry summary workerId reason now repo =
        (.ok (failedAttempt job shouldRetry payload summary now), repo') ∧
      SqlRepository.giveUpAttempt jobId job shouldRetry summary workerId reason now tables =
        (.ok (failedAttempt job shouldRetry payload summary now), tables') ∧
      AgreeBut past tables jobId repo' tables' := by
  have written : Agree past (repo.storeJob jobId (failedAttempt job shouldRetry payload summary now))
      { tables with
        workflowJobs := tables.workflowJobs.set jobId
          (failedAttempt job shouldRetry payload summary now) } :=
    agree_stored agree stored rfl rfl rfl (append_history appended)
  obtain ⟨run, owned⟩ := (agree.kept jobId job stored).owned
  have others : ∀ k, k ≠ jobId → (tables.workflowJobs.set jobId
      (failedAttempt job shouldRetry payload summary now)).get? k = tables.workflowJobs.get? k :=
    fun k other => Dict.get?_set_other _ _ (Ne.symm other)
  simp only [InMemoryRunRepository.giveUpAttempt, SqlRepository.giveUpAttempt, failedRow_run,
    bind_run, ofExcept_run, kept, appended, change_run, SqlRepository.storeJob]
  cases shouldRetry with
  | true => exact ⟨_, _, rfl, rfl, written, others⟩
  | false =>
    have failing := agree_run written job.runId
      { run with status := .failed, errorSummary := some summary, updatedAt := now }
    have inMemory : (repo.storeJob jobId (failedAttempt job false payload summary now)).runs.get?
        (failedAttempt job false payload summary now).runId = some run := by
      rw [← owned, ← agree.runs]
      rfl
    have inTables : tables.runs.get? (failedAttempt job false payload summary now).runId =
        some run := owned
    have dead : (failedAttempt job false payload summary now).status = .deadLetter := rfl
    simp only [InMemoryRunRepository.failRunOf, SqlRepository.failRunOf, dead, if_true, bind_run,
      InMemoryRunRepository.getRun_run, SqlRepository.getRunModel_run, inMemory, inTables,
      found_some, ofExcept_run, kept, change_run]
    exact ⟨_, _, rfl, rfl, failing, others⟩

theorem giveUp_twins {repo : Repo} {tables : Tables} (agree : Agree past repo tables) {jobId : String}
    {job : WorkflowJobRecord} (stored : tables.workflowJobs.get? jobId = some job)
    {errorSummary : String} (kept : ∀ text, redactText errorSummary = .ok text → text = errorSummary)
    (shouldRetry : Bool) (workerId : Option String) (reason : String) (now : Time) :
    Twins (Agree past)
      (InMemoryRunRepository.giveUpAttempt jobId job shouldRetry errorSummary workerId reason now)
      (SqlRepository.giveUpAttempt jobId job shouldRetry errorSummary workerId reason now)
      repo tables := by
  cases summary : redactText errorSummary with
  | error e =>
    refine .inl ⟨e, ?_, ?_⟩
    · simp only [InMemoryRunRepository.giveUpAttempt, bind_run, ofExcept_run, summary]
    · simp only [SqlRepository.giveUpAttempt, failedRow_run, bind_run, ofExcept_run, summary]
  | ok text =>
    have same := kept text summary
    subst same
    cases appended : appendWorkflowFailure job.payload job.attemptCount
      (if shouldRetry = true then .queued else .deadLetter) text now workerId reason with
    | error e =>
      refine .inl ⟨e, ?_, ?_⟩
      · simp only [InMemoryRunRepository.giveUpAttempt, bind_run, ofExcept_run, summary, appended]
      · simp only [SqlRepository.giveUpAttempt, failedRow_run, bind_run, ofExcept_run, summary,
          appended]
    | ok payload =>
      obtain ⟨repo', tables', ha, hb, after, -⟩ := giveUp_returns agree stored summary appended
      exact .inr ⟨_, repo', tables', ha, hb, after⟩

omit [PyRuntime] in
theorem heartbeat_twins {repo : Repo} {tables : Tables} (agree : Agree past repo tables)
    (jobId workerId : String) (now : Time) :
    Twins (Agree past) (InMemoryRunRepository.heartbeatWorkflowJob jobId workerId now)
      (SqlRepository.heartbeatWorkflowJob jobId workerId now) repo tables := by
  apply transaction_twins
  unfold Twins
  simp only [InMemoryRunRepository.heartbeatWorkflowJob, bind_run,
    InMemoryRunRepository.getWorkflowJob_run, SqlRepository.getWorkflowJobModel_run, agree.jobs]
  cases stored : tables.workflowJobs.get? jobId with
  | none => exact .inl ⟨_, rfl, rfl⟩
  | some job =>
    simp only [found_some, ofExcept_run]
    cases ensureJobOwnedByWorker job workerId with
    | error e => exact .inl ⟨e, rfl, rfl⟩
    | ok _ =>
      have history := (agree.kept jobId job stored).history
      exact .inr ⟨_, _, _, rfl, rfl, agree_stored agree stored rfl rfl rfl history⟩

omit [PyRuntime] in
theorem complete_twins {repo : Repo} {tables : Tables} (agree : Agree past repo tables)
    (jobId : String) (workerId : Option String) (now : Time) :
    Twins (Agree past) (InMemoryRunRepository.completeWorkflowJob jobId workerId now)
      (SqlRepository.completeWorkflowJob jobId workerId now) repo tables := by
  apply transaction_twins
  unfold Twins
  simp only [InMemoryRunRepository.completeWorkflowJob, bind_run,
    InMemoryRunRepository.getWorkflowJob_run, SqlRepository.getWorkflowJobModel_run, agree.jobs]
  cases stored : tables.workflowJobs.get? jobId with
  | none => exact .inl ⟨_, rfl, rfl⟩
  | some job =>
    simp only [found_some]
    by_cases completed : job.status = .completed
    · simp only [completed, if_true]
      exact .inr ⟨job, repo, tables, rfl, rfl, agree⟩
    · simp only [completed, if_false, bind_run, ofExcept_run]
      cases ensureOwnedByOptional job workerId with
      | error e => exact .inl ⟨e, rfl, rfl⟩
      | ok _ =>
        have history := (agree.kept jobId job stored).history
        exact .inr ⟨_, _, _, rfl, rfl, agree_stored agree stored rfl rfl rfl history⟩

theorem fail_twins {repo : Repo} {tables : Tables} (agree : Agree past repo tables)
    (jobId : String) {errorSummary : String}
    (kept : ∀ text, redactText errorSummary = .ok text → text = errorSummary) (retry : Bool)
    (workerId : Option String) (now : Time) :
    Twins (Agree past) (InMemoryRunRepository.failWorkflowJob jobId errorSummary retry workerId now)
      (SqlRepository.failWorkflowJob jobId errorSummary retry workerId now) repo tables := by
  apply transaction_twins
  unfold Twins
  simp only [InMemoryRunRepository.failWorkflowJob, bind_run,
    InMemoryRunRepository.getWorkflowJob_run, SqlRepository.getWorkflowJobModel_run, agree.jobs]
  cases stored : tables.workflowJobs.get? jobId with
  | none => exact .inl ⟨_, rfl, rfl⟩
  | some job =>
    simp only [found_some, ofExcept_run]
    cases ensureOwnedByOptional job workerId with
    | error e => exact .inl ⟨e, rfl, rfl⟩
    | ok _ =>
      rcases giveUp_twins agree stored kept
        (retry && decide (job.attemptCount < job.maxAttempts))
        (if workerId = none ∨ workerId = some "" then job.workerId else workerId)
        "worker_failure" now with ⟨e, ha, hb⟩ | ⟨given, repo', tables', ha, hb, after⟩
      · exact .inl ⟨e, ha, hb⟩
      · exact .inr ⟨given, repo', tables', ha, hb, after⟩

theorem retryDeadLetter_twins {repo : Repo} {tables : Tables} (agree : Agree past repo tables)
    (jobId : String) (reason : Option String) (now : Time) :
    Twins (Agree past) (InMemoryRunRepository.retryDeadLetterWorkflowJob jobId reason now)
      (SqlRepository.retryDeadLetterWorkflowJob jobId reason now) repo tables := by
  apply transaction_twins
  unfold Twins
  simp only [InMemoryRunRepository.retryDeadLetterWorkflowJob, bind_run,
    InMemoryRunRepository.getWorkflowJob_run, SqlRepository.getWorkflowJobModel_run, agree.jobs]
  cases stored : tables.workflowJobs.get? jobId with
  | none => exact .inl ⟨_, rfl, rfl⟩
  | some job =>
    simp only [found_some]
    by_cases dead : job.status = .deadLetter
    · simp only [dead, ne_eq, not_true_eq_false, if_false, bind_run, ofExcept_run]
      cases PyValue.toInt ((lookupEntries job.payload "manual_retry_count").getD (.int 0)) with
      | error e => exact .inl ⟨e, rfl, rfl⟩
      | ok count =>
        simp only
        cases reasoned : withReason
          (storeEntries (storeEntries job.payload "manual_retry_count" (.int (count + 1)))
            "last_manual_retry_at" (.str (isoformat now))) "last_manual_retry_reason" reason with
        | error e => exact .inl ⟨e, rfl, rfl⟩
        | ok payload =>
          have row := agree.kept jobId job stored
          have history : holdsHistory payload = true := by
            rw [withReason_history (by decide) reasoned, holdsHistory_stored _ (by decide),
              holdsHistory_stored _ (by decide)]
            exact row.history
          obtain ⟨run, owned⟩ := row.owned
          let retried : WorkflowJobRecord :=
            { job with
              status := .queued
              payload
              maxAttempts := max job.maxAttempts (job.attemptCount + 1)
              workerId := none
              errorSummary := none
              heartbeatAt := none
              finishedAt := none
              updatedAt := now }
          have written : Agree past (repo.storeJob jobId retried)
              { tables with workflowJobs := tables.workflowJobs.set jobId retried } :=
            agree_stored agree stored rfl rfl rfl history
          have reopened := agree_run written job.runId
            { run with status := .pending, errorSummary := none, updatedAt := now }
          have inMemory : (repo.storeJob jobId retried).runs.get? job.runId = some run := by
            rw [← owned, ← agree.runs]
            rfl
          refine .inr ⟨retried, _, _, ?_, ?_, reopened⟩
          · simp only [change_run, InMemoryRunRepository.reopenRunOf, bind_run,
              InMemoryRunRepository.getRun_run]
            rw [show (repo.storeJob jobId _).runs.get? job.runId = some run from inMemory]
            rfl
          · simp only [SqlRepository.storeJob, change_run, SqlRepository.getRunModel_run, owned,
              found_some]
            rfl
    · simp only [dead, ne_eq, not_false_eq_true, if_true]
      exact .inl ⟨_, rfl, rfl⟩

theorem dismissDeadLetter_twins {repo : Repo} {tables : Tables} (agree : Agree past repo tables)
    (jobId : String) (reason : Option String) (now : Time) :
    Twins (Agree past) (InMemoryRunRepository.dismissDeadLetterWorkflowJob jobId reason now)
      (SqlRepository.dismissDeadLetterWorkflowJob jobId reason now) repo tables := by
  apply transaction_twins
  unfold Twins
  simp only [InMemoryRunRepository.dismissDeadLetterWorkflowJob, bind_run,
    InMemoryRunRepository.getWorkflowJob_run, SqlRepository.getWorkflowJobModel_run, agree.jobs]
  cases stored : tables.workflowJobs.get? jobId with
  | none => exact .inl ⟨_, rfl, rfl⟩
  | some job =>
    simp only [found_some]
    by_cases dead : job.status = .deadLetter
    · simp only [dead, ne_eq, not_true_eq_false, if_false, bind_run, ofExcept_run]
      cases reasoned : withReason
        (storeEntries job.payload "dismissed_at" (.str (isoformat now))) "dismissal_reason" reason with
      | error e => exact .inl ⟨e, rfl, rfl⟩
      | ok payload =>
        have history : holdsHistory payload = true := by
          rw [withReason_history (by decide) reasoned, holdsHistory_stored _ (by decide)]
          exact (agree.kept jobId job stored).history
        exact .inr ⟨_, _, _, rfl, rfl, agree_stored agree stored rfl rfl rfl history⟩
    · simp only [dead, ne_eq, not_false_eq_true, if_true]
      exact .inl ⟨_, rfl, rfl⟩

/-! Claims and recoveries, which walk over the rows. -/

omit [PyRuntime] in
theorem select_sorted {repo : Repo} {tables : Tables} (agree : Agree past repo tables)
    (wanted : WorkflowJobRecord → Bool) :
    selectByCreation WorkflowJobRecord.createdAt wanted tables.workflowJobs =
      tables.workflowJobs.entries.filter fun entry => wanted entry.2 := by
  apply List.mergeSort_of_pairwise
  have sorted := agree.sorted
  unfold Dict.values at sorted
  rw [List.map_map, List.pairwise_map] at sorted
  have within := sorted.sublist
    (List.filter_sublist (l := tables.workflowJobs.entries) (p := fun entry => wanted entry.2))
  exact within.imp fun h => by simpa using h

omit [PyRuntime] in
theorem entries_stored (tables : Tables) : ∀ entry ∈ tables.workflowJobs.entries,
    tables.workflowJobs.get? entry.1 = some entry.2 :=
  fun _ member => Dict.get?_of_mem_entries member

omit [PyRuntime] in
/-- The first job that a claim meets in its order is the first row that it selects. -/
theorem claimFirst_select (workerId : String) (workflow : Option String) (now : Time)
    {entries : List (String × WorkflowJobRecord)} {repo : Repo}
    (stored : ∀ entry ∈ entries, repo.workflowJobs.get? entry.1 = some entry.2) :
    InMemoryRunRepository.claimFirst workerId workflow now (entries.map Prod.fst) repo =
      match entries.filter fun entry =>
        decide (entry.2.status = .queued) && SqlJobStore.inWorkflow workflow entry.2 with
      | [] => (.ok none, repo)
      | (jobId, job) :: _ =>
          (.ok (some (claimedJob job workerId now)),
            repo.storeJob jobId (claimedJob job workerId now)) := by
  induction entries with
  | nil => rfl
  | cons entry rest ih =>
    obtain ⟨jobId, job⟩ := entry
    have here := stored (jobId, job) (by simp)
    have later := ih fun entry member => stored entry (List.mem_cons_of_mem _ member)
    simp only [List.map_cons, InMemoryRunRepository.claimFirst, bind_run, read_run,
      InMemoryRunRepository.present_run, here, found_some]
    by_cases queued : job.status = .queued
    · cases workflow with
      | none =>
        simp [queued, SqlJobStore.inWorkflow, bind_run]
      | some name =>
        by_cases own : job.workflowName = name
        · simp [queued, own, SqlJobStore.inWorkflow, bind_run]
        · simp only [queued, ne_eq, not_true_eq_false, if_false, Option.any_some, own,
            not_false_eq_true, decide_true, if_true, SqlJobStore.inWorkflow, Option.all_some,
            decide_false, Bool.and_false, List.filter_cons, Bool.false_eq_true]
          exact later
    · simp only [queued, ne_eq, not_false_eq_true, if_true, decide_false, Bool.false_and,
        List.filter_cons, Bool.false_eq_true, if_false]
      exact later

theorem append_accepts {payload : PyDict} (history : holdsHistory payload = true)
    {errorSummary text : String} (kept : redactText errorSummary = .ok text) (attemptCount : Int)
    (status : WorkflowJobStatus) (recordedAt : Time) (workerId : Option String) (reason : String) :
    ∃ payload', appendWorkflowFailure payload attemptCount status errorSummary recordedAt workerId
      reason = .ok payload' := by
  obtain ⟨items, listed⟩ := toList_of_history history
  simp only [appendWorkflowFailure, Bind.bind, Except.bind, listed, kept]
  exact ⟨_, rfl⟩

def runningIn (workflow : Option String) (job : WorkflowJobRecord) : Bool :=
  decide (job.status = .running) && SqlJobStore.inWorkflow workflow job

theorem recoverJob_run {repo : Repo} {jobId : String} {job : WorkflowJobRecord}
    (stored : repo.workflowJobs.get? jobId = some job) (timeoutSeconds : Int)
    (workflow : Option String) (referenceTime cutoff : Time) :
    InMemoryRunRepository.recoverJob timeoutSeconds workflow referenceTime cutoff jobId repo =
      if runningIn workflow job = true ∧ ¬ cutoff < job.heartbeatAt.getD job.updatedAt then
        (do
          let recovered ← InMemoryRunRepository.giveUpAttempt jobId job
            (job.attemptCount < job.maxAttempts) (timeoutSummary timeoutSeconds) job.workerId
            "heartbeat_timeout" referenceTime
          return some recovered : RepoM (Option WorkflowJobRecord)) repo
      else (.ok none, repo) := by
  simp only [InMemoryRunRepository.recoverJob, bind_run, read_run,
    InMemoryRunRepository.present_run, stored, found_some]
  cases workflow with
  | none =>
    by_cases running : job.status = .running <;>
      by_cases late : cutoff < job.heartbeatAt.getD job.updatedAt <;>
        simp [runningIn, SqlJobStore.inWorkflow, running, late, bind_run]
  | some name =>
    by_cases running : job.status = .running <;> by_cases own : job.workflowName = name <;>
      by_cases late : cutoff < job.heartbeatAt.getD job.updatedAt <;>
        simp [runningIn, SqlJobStore.inWorkflow, running, own, late, bind_run]

/-- Induction on the rows that are left: each is passed over by both, or given up by
    both. Giving one up leaves the rows that follow as they were. -/
theorem recover_rows (timeoutSeconds : Int) (workflow : Option String) (referenceTime cutoff : Time)
    {entries : List (String × WorkflowJobRecord)} (nodup : (entries.map Prod.fst).Nodup)
    {repo : Repo} {tables : Tables} (agree : Agree past repo tables)
    (stored : ∀ entry ∈ entries, tables.workflowJobs.get? entry.1 = some entry.2) :
    ∃ answer repo' tables',
      InMemoryRunRepository.recoverJobs timeoutSeconds workflow referenceTime cutoff
        (entries.map Prod.fst) repo = (.ok answer, repo') ∧
      SqlRepository.recoverRows timeoutSeconds referenceTime cutoff
        (entries.filter fun entry => runningIn workflow entry.2) tables = (.ok answer, tables') ∧
      Agree past repo' tables' := by
  induction entries generalizing repo tables with
  | nil => exact ⟨[], repo, tables, rfl, rfl, agree⟩
  | cons entry rest ih =>
    obtain ⟨jobId, job⟩ := entry
    simp only [List.map_cons, List.nodup_cons] at nodup
    have here := stored (jobId, job) (by simp)
    have rest_stored : ∀ entry ∈ rest, tables.workflowJobs.get? entry.1 = some entry.2 :=
      fun entry member => stored entry (List.mem_cons_of_mem _ member)
    have step := recoverJob_run (agree.jobs ▸ here : repo.workflowJobs.get? jobId = some job)
      timeoutSeconds workflow referenceTime cutoff
    simp only [List.map_cons, InMemoryRunRepository.recoverJobs, bind_run, step, List.filter_cons]
    by_cases selected : runningIn workflow job = true
    · by_cases late : cutoff < job.heartbeatAt.getD job.updatedAt
      · obtain ⟨answer, repo', tables', ha, hb, after⟩ := ih nodup.2 agree rest_stored
        refine ⟨answer, repo', tables', ?_, ?_, after⟩
        · simp only [late, not_true_eq_false, and_false, if_false, ha]
          rfl
        · simp only [selected, if_true, SqlRepository.recoverRows, late, hb]
      · obtain ⟨payload, appended⟩ := append_accepts (agree.kept jobId job here).history
          (timeoutSummary_kept timeoutSeconds) job.attemptCount
          (if decide (job.attemptCount < job.maxAttempts) = true then .queued else .deadLetter)
          referenceTime job.workerId "heartbeat_timeout"
        obtain ⟨middle, tables₁, gave, wrote, agree₁, others⟩ :=
          giveUp_returns agree here (timeoutSummary_kept timeoutSeconds) appended
        have rest_stored₁ : ∀ entry ∈ rest, tables₁.workflowJobs.get? entry.1 = some entry.2 := by
          intro entry member
          rw [others entry.1 fun same => nodup.1 (List.mem_map.mpr ⟨entry, member, same⟩)]
          exact rest_stored entry member
        obtain ⟨answer, repo', tables', ha, hb, after⟩ := ih nodup.2 agree₁ rest_stored₁
        refine ⟨failedAttempt job (decide (job.attemptCount < job.maxAttempts)) payload
          (timeoutSummary timeoutSeconds) referenceTime :: answer, repo', tables', ?_, ?_, after⟩
        · simp only [selected, late, not_false_eq_true, and_self, if_true, gave, pure_run, ha]
          rfl
        · simp only [selected, if_true, SqlRepository.recoverRows, late, if_false, bind_run, wrote,
            hb]
          rfl
    · obtain ⟨answer, repo', tables', ha, hb, after⟩ := ih nodup.2 agree rest_stored
      refine ⟨answer, repo', tables', ?_, ?_, after⟩
      · simp only [selected, Bool.false_eq_true, false_and, if_false, ha]
        rfl
      · simp only [selected, Bool.false_eq_true, if_false, hb]

theorem recover_matches {repo : Repo} {tables : Tables} (agree : Agree past repo tables)
    (timeoutSeconds : Int) (workflowName : Option String) (now : Time) :
    Matches (Agree past)
      (InMemoryRunRepository.recoverTimedOutWorkflowJobs timeoutSeconds workflowName now)
      (SqlRepository.recoverTimedOutWorkflowJobs timeoutSeconds workflowName now) repo tables := by
  simp only [InMemoryRunRepository.recoverTimedOutWorkflowJobs,
    SqlRepository.recoverTimedOutWorkflowJobs]
  by_cases short : timeoutSeconds < 1
  · simp only [short, if_true]
    exact ⟨rfl, agree⟩
  · simp only [short, if_false]
    unfold Matches
    simp only [bind_run, ofExcept_run, read_run]
    cases cutoffTime now timeoutSeconds with
    | error e => exact ⟨rfl, agree⟩
    | ok cutoff =>
      obtain ⟨answer, repo', tables', ha, hb, after⟩ := recover_rows timeoutSeconds
        (normalizedWorkflow workflowName) now cutoff tables.workflowJobs.keys_nodup agree
        (entries_stored tables)
      have order : repo.workflowJobOrder = tables.workflowJobs.entries.map Prod.fst := agree.order
      have rows := select_sorted agree (runningIn (normalizedWorkflow workflowName))
      simp only [order, ha]
      unfold runningIn at rows hb
      simp only [transaction, bind_run, read_run, rows, hb]
      exact ⟨trivial, after⟩

theorem recoverStale_matches {repo : Repo} {tables : Tables} (agree : Agree past repo tables)
    (staleAfterSeconds : Option Int) (workflowName : Option String) (now : Time) :
    Matches (Agree past) (InMemoryRunRepository.recoverStale staleAfterSeconds workflowName now)
      (SqlRepository.recoverStale staleAfterSeconds workflowName now) repo tables := by
  cases staleAfterSeconds with
  | none => exact ⟨rfl, agree⟩
  | some timeoutSeconds =>
    refine matches_bind (recover_matches agree timeoutSeconds workflowName now) ?_
    intro _ repo' tables' after
    exact ⟨rfl, after⟩

theorem claimNext_matches {repo : Repo} {tables : Tables} (agree : Agree past repo tables)
    (workerId : String) (workflowName : Option String) (staleAfterSeconds : Option Int)
    (recoveredAt now : Time) :
    Matches (Agree past)
      (InMemoryRunRepository.claimNextWorkflowJob workerId workflowName staleAfterSeconds
        recoveredAt now)
      (SqlRepository.claimNextWorkflowJob workerId workflowName staleAfterSeconds recoveredAt now)
      repo tables := by
  refine matches_bind (recoverStale_matches agree _ _ _) ?_
  intro _ repo tables agree
  have order : repo.workflowJobOrder = tables.workflowJobs.entries.map Prod.fst := agree.order
  have stored : ∀ entry ∈ tables.workflowJobs.entries,
      repo.workflowJobs.get? entry.1 = some entry.2 :=
    fun entry member => agree.jobs ▸ entries_stored tables entry member
  have first := claimFirst_select workerId (normalizedWorkflow workflowName) now stored
  have rows := select_sorted agree fun job =>
    decide (job.status = .queued) && SqlJobStore.inWorkflow (normalizedWorkflow workflowName) job
  unfold Matches
  simp only [bind_run, read_run, order, first, transaction, rows]
  cases selected : tables.workflowJobs.entries.filter fun entry =>
    decide (entry.2.status = .queued) &&
      SqlJobStore.inWorkflow (normalizedWorkflow workflowName) entry.2 with
  | nil => exact ⟨rfl, agree⟩
  | cons entry rest =>
    obtain ⟨jobId, job⟩ := entry
    have member : (jobId, job) ∈ tables.workflowJobs.entries := by
      refine List.mem_of_mem_filter (p := fun entry => decide (entry.2.status = .queued) &&
        SqlJobStore.inWorkflow (normalizedWorkflow workflowName) entry.2) ?_
      rw [selected]
      exact List.mem_cons_self
    have stored := entries_stored tables (jobId, job) member
    exact ⟨rfl, agree_stored agree stored rfl rfl rfl (agree.kept jobId job stored).history⟩

theorem claim_matches {repo : Repo} {tables : Tables} (agree : Agree past repo tables)
    (jobId workerId : String) (staleAfterSeconds : Option Int) (recoveredAt now : Time) :
    Matches (Agree past)
      (InMemoryRunRepository.claimWorkflowJob jobId workerId staleAfterSeconds recoveredAt now)
      (SqlRepository.claimWorkflowJob jobId workerId staleAfterSeconds recoveredAt now)
      repo tables := by
  refine matches_bind (recoverStale_matches agree _ _ _) ?_
  intro _ repo tables agree
  refine twins_match agree (transaction_twins ?_)
  unfold Twins
  simp only [bind_run, InMemoryRunRepository.getWorkflowJob_run,
    SqlRepository.getWorkflowJobModel_run, agree.jobs]
  cases stored : tables.workflowJobs.get? jobId with
  | none => exact .inl ⟨_, rfl, rfl⟩
  | some job =>
    simp only [found_some]
    by_cases queued : job.status = .queued
    · simp only [queued, ne_eq, not_true_eq_false, if_false]
      have history := (agree.kept jobId job stored).history
      exact .inr ⟨_, _, _, rfl, rfl, agree_stored agree stored rfl rfl rfl history⟩
    · simp only [queued, ne_eq, not_false_eq_true, if_true]
      exact .inr ⟨none, repo, tables, rfl, rfl, agree⟩

/-! New runs and new jobs. -/

omit [PyRuntime] in
theorem agree_extended {repo : Repo} {tables : Tables} (agree : Agree past repo tables)
    (call : SharedCall) : Agree (past ++ [call]) repo tables := by
  refine ⟨agree.runs, agree.jobs, agree.order, ?_, agree.sorted⟩
  intro jobId job found
  have row := agree.kept jobId job found
  refine ⟨row.id_eq, ?_, row.owned, row.history⟩
  rw [List.flatMap_append, List.mem_append]
  exact .inl row.created

theorem createRun_twins {repo : Repo} {tables : Tables} (agree : Agree past repo tables)
    (task : String) (metadata : PyDict) (traceId : Option String) (fresh trace : String)
    (now : Time) (unused : repo.runs.get? ("run_" ++ fresh) = none) :
    Twins (Agree past) (InMemoryRunRepository.createRun task metadata traceId fresh trace now)
      (SqlRepository.createRun task metadata traceId fresh trace now) repo tables := by
  apply transaction_twins
  unfold Twins
  simp only [InMemoryRunRepository.createRun]
  by_cases short : (strip task).length < 3
  · simp only [short, if_true]
    exact .inl ⟨_, rfl, rfl⟩
  · simp only [short, if_false, bind_run, ofExcept_run]
    cases redactEntries metadata with
    | error e => exact .inl ⟨e, rfl, rfl⟩
    | ok metadata =>
      have free : tables.runs.get? ("run_" ++ fresh) = none := agree.runs ▸ unused
      simp only [read_run, SqlRepository.insertRow, free, Option.isSome_none, Bool.false_eq_true,
        if_false, change_run]
      have started := agree_run agree ("run_" ++ fresh)
        { id := "run_" ++ fresh, task := strip task, status := .pending, metadata
          createdAt := now, updatedAt := now
          traceId := some (if strip (traceId.getD "") = "" then trace
            else strip (traceId.getD "")) }
      refine .inr ⟨_, _, _, rfl, rfl, ?_⟩
      exact ⟨started.runs, started.jobs, started.order, started.kept, started.sorted⟩

omit [PyRuntime] in
/-- A new job, created after all others. -/
theorem agree_filed {repo : Repo} {tables : Tables} {call : SharedCall}
    (agree : Agree past repo tables) {job : WorkflowJobRecord}
    (unused : tables.workflowJobs.get? job.id = none)
    (owned : ∃ run, tables.runs.get? job.runId = some run)
    (history : holdsHistory job.payload = true) (created : job.createdAt ∈ call.times)
    (later : ∀ t ∈ past.flatMap SharedCall.times, t < job.createdAt) :
    Agree (past ++ [call]) (repo.appendJob job)
      { tables with workflowJobs := tables.workflowJobs.set job.id job } := by
  refine ⟨agree.runs, ?_, ?_, ?_, ?_⟩
  · simp only [Repo.appendJob, agree.jobs]
  · simp only [Repo.appendJob, agree.order]
    exact (Dict.keys_set_of_fresh job unused).symm
  · intro k other found
    simp only [Dict.get?_set] at found
    split at found
    · rename_i same
      cases found
      refine ⟨same, ?_, owned, history⟩
      rw [List.flatMap_append, List.mem_append]
      exact .inr (by simpa using created)
    · exact (agree_extended agree call).kept k other found
  · have values : (tables.workflowJobs.set job.id job).values =
        tables.workflowJobs.values ++ [job] := by
      change (storeEntries tables.workflowJobs.entries job.id job).map Prod.snd = _
      rw [storeEntries_fresh job unused, List.map_append]
      rfl
    rw [values, List.map_append, List.pairwise_append]
    refine ⟨agree.sorted, List.pairwise_singleton _ _, ?_⟩
    intro t old u new
    simp only [List.map_cons, List.map_nil, List.mem_singleton] at new
    obtain ⟨row, member, rfl⟩ := List.mem_map.mp old
    obtain ⟨entry, inside, rfl⟩ := List.mem_map.mp member
    have known := (agree.kept entry.1 entry.2 (entries_stored tables entry inside)).created
    rw [new]
    exact Int.le_of_lt (later _ known)

theorem enqueue_twins {repo : Repo} {tables : Tables} (agree : Agree past repo tables)
    (runId workflowName : String) {payload : PyDict} (maxAttempts : Int) (jobId : Option String)
    (status : WorkflowJobStatus) (fresh : String) (now : Time)
    (history : holdsHistory payload = true)
    (unused : repo.workflowJobs.get?
      (if jobId.getD "" = "" then "job_" ++ fresh else jobId.getD "") = none)
    (later : ∀ t ∈ past.flatMap SharedCall.times, t < now) :
    Twins
      (Agree (past ++
        [.enqueue runId workflowName payload maxAttempts jobId status fresh now]))
      (InMemoryRunRepository.enqueueWorkflowJob runId workflowName payload maxAttempts jobId status
        fresh now)
      (SqlRepository.enqueueWorkflowJob runId workflowName payload maxAttempts jobId status fresh
        now) repo tables := by
  apply transaction_twins
  unfold Twins
  simp only [InMemoryRunRepository.enqueueWorkflowJob]
  by_cases named : strip workflowName = ""
  · simp only [named, if_true]
    exact .inl ⟨_, rfl, rfl⟩
  · by_cases few : maxAttempts < 1
    · simp only [named, few, if_true, if_false]
      exact .inl ⟨_, rfl, rfl⟩
    · by_cases running : status = .running
      · simp only [named, few, running, if_true, if_false]
        exact .inl ⟨_, rfl, rfl⟩
      · simp only [named, few, running, if_false, bind_run, InMemoryRunRepository.getRun_run,
          SqlRepository.getRunModel_run, agree.runs]
        cases owner : tables.runs.get? runId with
        | none => exact .inl ⟨_, rfl, rfl⟩
        | some run =>
          simp only [found_some, ofExcept_run]
          cases redacted : redactEntries payload with
          | error e => exact .inl ⟨e, rfl, rfl⟩
          | ok payload' =>
            have free := agree.jobs ▸ unused
            simp only [read_run, SqlRepository.insertRow, free, Option.isSome_none,
              Bool.false_eq_true, if_false, change_run]
            refine .inr ⟨_, _, _, rfl, rfl, ?_⟩
            exact agree_filed agree free ⟨run, owner⟩ (redactEntries_history redacted history)
              (by simp [SharedCall.times]) later

/-- One call on both repositories. -/
theorem call_matches {repo : Repo} {tables : Tables} (agree : Agree past repo tables)
    (call : SharedCall) (freshRun : ∀ runId ∈ call.newRun, repo.runs.get? runId = none)
    (freshJob : ∀ jobId ∈ call.newJob, repo.workflowJobs.get? jobId = none)
    (later : ∀ t ∈ past.flatMap SharedCall.times, ∀ u ∈ call.times, t < u)
    (unredacted : call.Unredacted) :
    Matches (Agree (past ++ [call])) call.inMemory call.sql repo tables := by
  have extended := agree_extended agree call
  cases call with
  | createRun task metadata traceId fresh trace now =>
    refine matches_bind (twins_match extended (createRun_twins extended task metadata traceId fresh
      trace now (freshRun _ (by simp [SharedCall.newRun])))) ?_
    intro run repo' tables' after
    exact ⟨rfl, after⟩
  | enqueue runId workflowName payload maxAttempts jobId status fresh now =>
    refine matches_bind (twins_match extended (enqueue_twins agree runId workflowName maxAttempts
      jobId status fresh now unredacted (freshJob _ (by simp [SharedCall.newJob])) ?_)) ?_
    · intro t old
      exact later t old now (by simp [SharedCall.times])
    · intro job repo' tables' after
      exact ⟨rfl, after⟩
  | claimNext workerId workflowName staleAfterSeconds recoveredAt now =>
    refine matches_bind (claimNext_matches extended workerId workflowName staleAfterSeconds
      recoveredAt now) ?_
    intro job repo' tables' after
    exact ⟨rfl, after⟩
  | claim jobId workerId staleAfterSeconds recoveredAt now =>
    refine matches_bind (claim_matches extended jobId workerId staleAfterSeconds recoveredAt now) ?_
    intro job repo' tables' after
    exact ⟨rfl, after⟩
  | heartbeat jobId workerId now =>
    refine matches_bind (twins_match extended (heartbeat_twins extended jobId workerId now)) ?_
    intro job repo' tables' after
    exact ⟨rfl, after⟩
  | complete jobId workerId now =>
    refine matches_bind (twins_match extended (complete_twins extended jobId workerId now)) ?_
    intro job repo' tables' after
    exact ⟨rfl, after⟩
  | fail jobId errorSummary retry workerId now =>
    refine matches_bind (twins_match extended
      (fail_twins extended jobId unredacted retry workerId now)) ?_
    intro job repo' tables' after
    exact ⟨rfl, after⟩
  | recover timeoutSeconds workflowName now =>
    refine matches_bind (recover_matches extended timeoutSeconds workflowName now) ?_
    intro jobs repo' tables' after
    exact ⟨rfl, after⟩
  | retryDeadLetter jobId reason now =>
    refine matches_bind (twins_match extended (retryDeadLetter_twins extended jobId reason now)) ?_
    intro job repo' tables' after
    exact ⟨rfl, after⟩
  | dismissDeadLetter jobId reason now =>
    refine matches_bind
      (twins_match extended (dismissDeadLetter_twins extended jobId reason now)) ?_
    intro job repo' tables' after
    exact ⟨rfl, after⟩

/-! Sequences of calls. -/

/-- The answers to a sequence of calls, and the state that it leaves. -/
def perform {σ : Type} (answer : SharedCall → Action σ PyError Answer) :
    List SharedCall → σ → List (Except PyError Answer) × σ
  | [], state => ([], state)
  | call :: rest, state =>
      let (first, state) := answer call state
      let (others, state) := perform answer rest state
      (first :: others, state)

/-- No call draws the id of a run or of a job that is stored. -/
def FreshIds : List SharedCall → Repo → Prop
  | [], _ => True
  | call :: rest, repo =>
      (∀ runId ∈ call.newRun, repo.runs.get? runId = none) ∧
        (∀ jobId ∈ call.newJob, repo.workflowJobs.get? jobId = none) ∧
        FreshIds rest (call.inMemory repo).2

theorem perform_agrees (calls : List SharedCall) {repo : Repo} {tables : Tables}
    (agree : Agree past repo tables) (fresh : FreshIds calls repo)
    (increasing : ((past ++ calls).flatMap SharedCall.times).Pairwise (· < ·))
    (unredacted : ∀ call ∈ calls, call.Unredacted) :
    (perform SharedCall.inMemory calls repo).1 = (perform SharedCall.sql calls tables).1 ∧
      Agree (past ++ calls) (perform SharedCall.inMemory calls repo).2
        (perform SharedCall.sql calls tables).2 := by
  induction calls generalizing past repo tables with
  | nil =>
    rw [List.append_nil]
    exact ⟨rfl, agree⟩
  | cons call rest ih =>
    obtain ⟨freshRun, freshJob, freshRest⟩ := fresh
    have later : ∀ t ∈ past.flatMap SharedCall.times, ∀ u ∈ call.times, t < u := by
      rw [List.flatMap_append, List.pairwise_append] at increasing
      intro t old u new
      refine increasing.2.2 t old u ?_
      rw [List.flatMap_cons, List.mem_append]
      exact .inl new
    obtain ⟨same, after⟩ := call_matches agree call freshRun freshJob later
      (unredacted call (by simp))
    have steps : past ++ call :: rest = (past ++ [call]) ++ rest := by simp
    rw [steps] at increasing ⊢
    obtain ⟨answers, final⟩ := ih after freshRest increasing
      fun other member => unredacted other (List.mem_cons_of_mem _ member)
    exact ⟨by simp only [perform, same, answers], final⟩

omit [PyRuntime] in
theorem listed_alike {repo : Repo} {tables : Tables} (agree : Agree past repo tables)
    (runId : Option String) (status : Option WorkflowJobStatus) :
    (InMemoryRunRepository.listWorkflowJobs runId status repo).1 =
      (SqlRepository.listWorkflowJobs runId status tables).1 := by
  have rows := select_sorted agree fun job =>
    runId.all (fun runId => job.runId = runId) && status.all (fun status => job.status = status)
  have inOrder : repo.jobsInOrder = tables.workflowJobs.values := by
    unfold Repo.jobsInOrder
    rw [agree.order, agree.jobs, Dict.filterMap_keys]
  have listed : (tables.workflowJobs.entries.filter fun entry =>
        runId.all (fun runId => entry.2.runId = runId) &&
          status.all (fun status => entry.2.status = status)).map Prod.snd =
      repo.jobsInOrder.filter fun job =>
        runId.all (fun runId => job.runId = runId) &&
          status.all (fun status => job.status = status) := by
    rw [inOrder]
    unfold Dict.values
    rw [List.filter_map]
    rfl
  cases runId with
  | none =>
    simp only [InMemoryRunRepository.listWorkflowJobs, SqlRepository.listWorkflowJobs, transaction,
      bind_run, pure_run, read_run, rows, listed]
  | some runId =>
    simp only [InMemoryRunRepository.listWorkflowJobs, SqlRepository.listWorkflowJobs, transaction,
      bind_run, InMemoryRunRepository.getRun_run, SqlRepository.getRunModel_run, agree.runs]
    cases tables.runs.get? runId with
    | none => rfl
    | some run => simp only [found_some, pure_run, read_run, rows, listed]

omit [PyRuntime] in
theorem run_alike {repo : Repo} {tables : Tables} (agree : Agree past repo tables)
    (runId : String) :
    (InMemoryRunRepository.getRun runId repo).1 = (SqlRepository.getRun runId tables).1 := by
  simp only [SqlRepository.getRun, transaction, InMemoryRunRepository.getRun_run,
    SqlRepository.getRunModel_run, agree.runs]
  cases tables.runs.get? runId <;> rfl

/-- The two repositories agree: in every sequence of calls at increasing times, none of
    which redaction or a strange history concerns, they answer every call alike, and
    list equal jobs and equal runs afterwards. -/
theorem repositories_agree (calls : List SharedCall) (fresh : FreshIds calls Repo.init)
    (increasing : (calls.flatMap SharedCall.times).Pairwise (· < ·))
    (unredacted : ∀ call ∈ calls, call.Unredacted) :
    let inMemory := perform SharedCall.inMemory calls Repo.init
    let sql := perform SharedCall.sql calls Tables.init
    inMemory.1 = sql.1 ∧
      (∀ runId status, (InMemoryRunRepository.listWorkflowJobs runId status inMemory.2).1 =
        (SqlRepository.listWorkflowJobs runId status sql.2).1) ∧
      ∀ runId, (InMemoryRunRepository.getRun runId inMemory.2).1 =
        (SqlRepository.getRun runId sql.2).1 := by
  intro inMemory sql
  obtain ⟨answers, final⟩ := perform_agrees calls agree_init fresh increasing unredacted
  exact ⟨answers, listed_alike final, run_alike final⟩

/-- A run with one claimed job, and the failure of its attempt. -/
def failedOnce (errorSummary : String) : List SharedCall :=
  [.createRun "Analyse spend" [] none "a" "t" 0,
    .enqueue "run_a" "procurement" [] 3 none .queued "j" 1, .claimNext "w1" none none 2 2,
    .fail "job_j" errorSummary true (some "w1") 3]

omit [PyRuntime] in
theorem plain_failure_agrees :
    let _ := plainRuntime
    (perform SharedCall.inMemory (failedOnce "disk full") Repo.init).1 =
      (perform SharedCall.sql (failedOnce "disk full") Tables.init).1 := by
  let _ := plainRuntime
  have fresh : FreshIds (failedOnce "disk full") Repo.init := by
    refine ⟨?_, ?_, ?_, ?_, ?_, ?_, ?_, ?_, trivial⟩ <;> decide
  have kept : redactText "disk full" = .ok "disk full" := by decide
  refine (repositories_agree (failedOnce "disk full") fresh (by decide) ?_).1
  intro call member
  simp only [failedOnce, List.mem_cons, List.not_mem_nil, or_false] at member
  rcases member with rfl | rfl | rfl | rfl
  · trivial
  · rfl
  · trivial
  · intro text redacted
    exact (Except.ok.inj (kept.symm.trans redacted)).symm

def errorSummaries : Except PyError Answer → List (Option String)
  | .ok (.jobs jobs) => jobs.map WorkflowJobRecord.errorSummary
  | _ => []

omit [PyRuntime] in
/-- The in-memory repository keeps a failure's summary as it was given. -/
theorem raw_summary_kept :
    let _ := plainRuntime
    FreshIds (failedOnce "token=x") Repo.init ∧
      ((failedOnce "token=x").flatMap SharedCall.times).Pairwise (· < ·) ∧
      (perform SharedCall.inMemory (failedOnce "token=x") Repo.init).1 ≠
        (perform SharedCall.sql (failedOnce "token=x") Tables.init).1 := by
  let _ := plainRuntime
  refine ⟨?_, by decide, ?_⟩
  · refine ⟨?_, ?_, ?_, ?_, ?_, ?_, ?_, ?_, trivial⟩ <;> decide
  · intro same
    have summaries := congrArg (List.map errorSummaries) same
    revert summaries
    decide +kernel

end calls
end RepositoryAgreement
