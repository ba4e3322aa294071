import AeaiOs.RunRepository

/-!
The life of a workflow job. Every method that touches the job table moves at
most one job at a time along one of four causes; what holds of all stored jobs
is read off the causes.
-/
namespace JobLifecycle
open OrderedDict CivilTime StoreAction Action RunValues RunModels Redaction InMemoryRunRepository

inductive Cause where
  | claimed (workerId : String)
  | held (workerId : String)
  | recovered
  | operator
  deriving DecidableEq

/-- What one job may become, and what must hold of it for that. -/
inductive Moves : Cause → WorkflowJobRecord → WorkflowJobRecord → Prop where
  | claim {job : WorkflowJobRecord} (queued : job.status = .queued) (workerId : String)
      (now : Time) : Moves (.claimed workerId) job (claimedJob job workerId now)
  | heartbeat {job : WorkflowJobRecord} {workerId : String} (running : job.status = .running)
      (owned : job.workerId = some workerId) (now : Time) :
      Moves (.held workerId) job { job with heartbeatAt := some now, updatedAt := now }
  | complete {job : WorkflowJobRecord} {workerId : String} (running : job.status = .running)
      (owned : job.workerId = some workerId) (now : Time) :
      Moves (.held workerId) job
        { job with status := .completed, updatedAt := now, finishedAt := some now }
  | fail {job : WorkflowJobRecord} {workerId : String} (running : job.status = .running)
      (owned : job.workerId = some workerId) (retry : Bool) (payload : PyDict)
      (errorSummary : String) (now : Time) :
      Moves (.held workerId) job
        (failedAttempt job (retry && decide (job.attemptCount < job.maxAttempts)) payload
          errorSummary now)
  | recover {job : WorkflowJobRecord} (running : job.status = .running) (payload : PyDict)
      (errorSummary : String) (now : Time) :
      Moves .recovered job
        (failedAttempt job (decide (job.attemptCount < job.maxAttempts)) payload errorSummary now)
  | retry {job : WorkflowJobRecord} (dead : job.status = .deadLetter) (payload : PyDict)
      (now : Time) :
      Moves .operator job
        { job with
          status := .queued
          payload
          maxAttempts := max job.maxAttempts (job.attemptCount + 1)
          workerId := none
          errorSummary := none
          heartbeatAt := none
          finishedAt := none
          updatedAt := now }
  | dismiss {job : WorkflowJobRecord} (dead : job.status = .deadLetter) (payload : PyDict)
      (now : Time) :
      Moves .operator job
        { job with
          status := .dismissed
          payload
          workerId := none
          heartbeatAt := none
          finishedAt := some now
          updatedAt := now }

structure WellFormed (job : WorkflowJobRecord) : Prop where
  attempts_nonneg : 0 ≤ job.attemptCount
  attempts_bounded : job.attemptCount ≤ job.maxAttempts
  queued_free : job.status = .queued → job.workerId = none ∧ job.attemptCount < job.maxAttempts
  running_held : job.status = .running → job.workerId.isSome = true ∧ 1 ≤ job.attemptCount

theorem moves_id {cause : Cause} {job job' : WorkflowJobRecord} (h : Moves cause job job') :
    job'.id = job.id := by
  cases h <;> rfl

/-- Only a queued, a running or a dead job moves. -/
theorem moves_from {cause : Cause} {job job' : WorkflowJobRecord} (h : Moves cause job job') :
    job.status = .queued ∨ job.status = .running ∨ job.status = .deadLetter := by
  cases h with
  | claim queued => exact .inl queued
  | heartbeat running => exact .inr (.inl running)
  | complete running => exact .inr (.inl running)
  | fail running => exact .inr (.inl running)
  | recover running => exact .inr (.inl running)
  | retry dead => exact .inr (.inr dead)
  | dismiss dead => exact .inr (.inr dead)

theorem failedAttempt_wellFormed {job : WorkflowJobRecord} (wf : WellFormed job)
    (retry : Bool) (payload : PyDict) (errorSummary : String) (now : Time) :
    WellFormed (failedAttempt job (retry && decide (job.attemptCount < job.maxAttempts)) payload
      errorSummary now) := by
  by_cases again : (retry && decide (job.attemptCount < job.maxAttempts)) = true
  · have left : job.attemptCount < job.maxAttempts := by simp_all
    refine ⟨wf.attempts_nonneg, wf.attempts_bounded, ?_, ?_⟩
    · intro _
      simp only [failedAttempt, again, if_true, true_and]
      exact left
    · simp [failedAttempt, again]
  · refine ⟨wf.attempts_nonneg, wf.attempts_bounded, ?_, ?_⟩ <;> simp [failedAttempt, again]

theorem moves_wellFormed {cause : Cause} {job job' : WorkflowJobRecord}
    (h : Moves cause job job') (wf : WellFormed job) : WellFormed job' := by
  have nonneg := wf.attempts_nonneg
  have bounded := wf.attempts_bounded
  cases h with
  | claim queued workerId now =>
    have left := (wf.queued_free queued).2
    exact ⟨by simp only [claimedJob]; omega, by simp only [claimedJob]; omega,
      by simp [claimedJob], fun _ => ⟨rfl, by simp only [claimedJob]; omega⟩⟩
  | heartbeat running owned now =>
    exact ⟨nonneg, bounded, wf.queued_free, wf.running_held⟩
  | complete running owned now =>
    exact ⟨nonneg, bounded, by simp, by simp⟩
  | fail running owned retry payload errorSummary now =>
    exact failedAttempt_wellFormed wf retry payload errorSummary now
  | recover running payload errorSummary now =>
    exact failedAttempt_wellFormed wf true payload errorSummary now
  | retry dead payload now =>
    exact ⟨nonneg, by simp only; omega, fun _ => ⟨rfl, by simp only; omega⟩, by simp⟩
  | dismiss dead payload now =>
    exact ⟨nonneg, bounded, by simp, by simp⟩

/-- A job that is running after a move kept its worker, or was claimed by it. -/
theorem moves_running {cause : Cause} {job job' : WorkflowJobRecord} (h : Moves cause job job')
    (running : job'.status = .running) :
    (job.status = .running ∧ job'.workerId = job.workerId) ∨
      ∃ workerId, cause = .claimed workerId ∧ job'.workerId = some workerId := by
  cases h with
  | claim queued workerId now => exact .inr ⟨workerId, rfl, rfl⟩
  | heartbeat was owned now => exact .inl ⟨was, rfl⟩
  | complete was owned now => simp at running
  | fail was owned retry payload errorSummary now =>
    simp only [failedAttempt] at running
    split at running <;> simp at running
  | recover was payload errorSummary now =>
    simp only [failedAttempt] at running
    split at running <;> simp at running
  | retry dead payload now => simp at running
  | dismiss dead payload now => simp at running

/-! What each method does to the job table. -/

/-- The table is as it was, or one job of it has moved. -/
def MovesOne (cause : Cause) (repo repo' : Repo) : Prop :=
  repo'.workflowJobs = repo.workflowJobs ∨
    ∃ jobId job job', repo.workflowJobs.get? jobId = some job ∧ Moves cause job job' ∧
      repo'.workflowJobs = repo.workflowJobs.set jobId job'

/-- Every job is as it was or has moved once; none has come or gone. -/
def MovesEach (cause : Cause) (repo repo' : Repo) : Prop :=
  ∀ jobId, match repo.workflowJobs.get? jobId, repo'.workflowJobs.get? jobId with
    | none, none => True
    | some job, some job' => job' = job ∨ Moves cause job job'
    | _, _ => False

theorem movesOne_each {cause : Cause} {repo repo' : Repo} (h : MovesOne cause repo repo') :
    MovesEach cause repo repo' := by
  intro k
  rcases h with same | ⟨jobId, job, job', found, move, stored⟩
  · rw [same]
    cases repo.workflowJobs.get? k <;> simp
  · rw [stored, Dict.get?_set]
    by_cases hit : jobId = k
    · subst hit
      simp [found, move]
    · cases repo.workflowJobs.get? k <;> simp [hit]

theorem movesEach_some {cause : Cause} {repo repo' : Repo} (h : MovesEach cause repo repo')
    {jobId : String} {job' : WorkflowJobRecord} (found : repo'.workflowJobs.get? jobId = some job') :
    ∃ job, repo.workflowJobs.get? jobId = some job ∧ (job' = job ∨ Moves cause job job') := by
  have at_id := h jobId
  rw [found] at at_id
  cases old : repo.workflowJobs.get? jobId with
  | none => simp [old] at at_id
  | some job =>
    simp only [old] at at_id
    exact ⟨job, rfl, at_id⟩

theorem movesEach_kept {cause : Cause} {repo repo' : Repo} (h : MovesEach cause repo repo')
    {jobId : String} {job : WorkflowJobRecord} (found : repo.workflowJobs.get? jobId = some job) :
    ∃ job', repo'.workflowJobs.get? jobId = some job' ∧ (job' = job ∨ Moves cause job job') := by
  have at_id := h jobId
  rw [found] at at_id
  cases new : repo'.workflowJobs.get? jobId with
  | none => simp [new] at at_id
  | some job' =>
    simp only [new] at at_id
    exact ⟨job', rfl, at_id⟩

theorem recovered_each_refl (repo : Repo) : MovesEach .recovered repo repo :=
  movesOne_each (.inl rfl)

/-- A recovered job is not running, so a pass recovers no job twice. -/
theorem recovered_each_trans (a b c : Repo) (first : MovesEach .recovered a b)
    (second : MovesEach .recovered b c) : MovesEach .recovered a c := by
  intro jobId
  have h1 := first jobId
  have h2 := second jobId
  cases ha : a.workflowJobs.get? jobId <;> cases hb : b.workflowJobs.get? jobId <;>
    cases hc : c.workflowJobs.get? jobId <;> simp only [ha, hb, hc] at h1 h2 ⊢
  rename_i job job' job''
  rcases h1 with rfl | moved
  · exact h2
  · rcases h2 with rfl | again
    · exact .inr moved
    · cases moved with
      | recover running payload errorSummary now =>
        cases again with
        | recover running' _ _ _ =>
          simp only [failedAttempt] at running'
          split at running' <;> simp at running'

variable [PyRuntime]

theorem failRunOf_jobs (job : WorkflowJobRecord) (errorSummary : String) (now : Time)
    (repo : Repo) : (failRunOf job errorSummary now repo).2.workflowJobs = repo.workflowJobs := by
  simp only [failRunOf]
  split
  · simp only [bind_run, getRun_run]
    cases repo.runs.get? job.runId with
    | none => rfl
    | some run => cases h : redactText errorSummary <;> rfl
  · rfl

omit [PyRuntime] in
theorem reopenRunOf_jobs (job : WorkflowJobRecord) (now : Time) (repo : Repo) :
    (reopenRunOf job now repo).2.workflowJobs = repo.workflowJobs := by
  simp only [reopenRunOf, bind_run, getRun_run]
  cases repo.runs.get? job.runId <;> rfl

theorem giveUpAttempt_jobs (jobId : String) (job : WorkflowJobRecord) (shouldRetry : Bool)
    (errorSummary : String) (workerId : Option String) (reason : String) (now : Time)
    (repo : Repo) :
    ((giveUpAttempt jobId job shouldRetry errorSummary workerId reason now repo).2.workflowJobs =
        repo.workflowJobs) ∨
      ∃ payload,
        (giveUpAttempt jobId job shouldRetry errorSummary workerId reason now repo).2.workflowJobs =
          repo.workflowJobs.set jobId (failedAttempt job shouldRetry payload errorSummary now) := by
  simp only [giveUpAttempt, bind_run, ofExcept_run]
  cases redactText errorSummary with
  | error e => exact .inl rfl
  | ok summary =>
    simp only
    split
    · rename_i payload s' hpayload
      obtain ⟨-, rfl⟩ := Prod.mk.injEq .. ▸ hpayload
      refine .inr ⟨payload, ?_⟩
      simp only [change_run]
      have kept := failRunOf_jobs (failedAttempt job shouldRetry payload errorSummary now)
        errorSummary now (repo.storeJob jobId (failedAttempt job shouldRetry payload errorSummary now))
      split
      · rename_i hrun
        rw [hrun] at kept
        exact kept
      · rename_i hrun
        rw [hrun] at kept
        exact kept
    · rename_i hpayload
      obtain ⟨-, rfl⟩ := Prod.mk.injEq .. ▸ hpayload
      exact .inl rfl

theorem giveUpAttempt_moves {cause : Cause} {jobId : String} {job : WorkflowJobRecord}
    {shouldRetry : Bool} {errorSummary : String} {now : Time} {repo : Repo}
    (stored : repo.workflowJobs.get? jobId = some job)
    (move : ∀ payload, Moves cause job (failedAttempt job shouldRetry payload errorSummary now))
    (workerId : Option String) (reason : String) :
    MovesOne cause repo
      (giveUpAttempt jobId job shouldRetry errorSummary workerId reason now repo).2 := by
  rcases giveUpAttempt_jobs jobId job shouldRetry errorSummary workerId reason now repo with
    same | ⟨payload, set⟩
  · exact .inl same
  · exact .inr ⟨jobId, job, _, stored, move payload, set⟩

theorem recoverJob_each (timeoutSeconds : Int) (workflow : Option String)
    (referenceTime cutoff : Time) (jobId : String) :
    Keeps (MovesEach .recovered)
      (recoverJob timeoutSeconds workflow referenceTime cutoff jobId) := by
  intro repo
  simp only [recoverJob, bind_run, read_run, present_run]
  cases stored : repo.workflowJobs.get? jobId with
  | none => exact recovered_each_refl repo
  | some job =>
    simp only [found_some]
    split
    · exact recovered_each_refl repo
    · rename_i running
      simp only [ne_eq, Decidable.not_not] at running
      split
      · exact recovered_each_refl repo
      · split
        · exact recovered_each_refl repo
        · have moved : MovesOne .recovered repo
              (giveUpAttempt jobId job (decide (job.attemptCount < job.maxAttempts))
                (timeoutSummary timeoutSeconds) job.workerId "heartbeat_timeout" referenceTime
                repo).2 :=
            giveUpAttempt_moves stored (fun payload => Moves.recover running payload _ _) _ _
          rw [bind_run]
          split
          · rename_i hgive
            rw [hgive] at moved
            exact movesOne_each moved
          · rename_i hgive
            rw [hgive] at moved
            exact movesOne_each moved

theorem recoverJobs_each (timeoutSeconds : Int) (workflow : Option String)
    (referenceTime cutoff : Time) (order : List String) :
    Keeps (MovesEach .recovered)
      (recoverJobs timeoutSeconds workflow referenceTime cutoff order) := by
  induction order with
  | nil => exact keeps_pure recovered_each_refl _
  | cons jobId rest ih =>
    refine keeps_bind recovered_each_trans (recoverJob_each _ _ _ _ jobId) fun _ => ?_
    exact keeps_bind recovered_each_trans ih fun _ => keeps_pure recovered_each_refl _

theorem recoverTimedOut_each (timeoutSeconds : Int) (workflowName : Option String) (now : Time) :
    Keeps (MovesEach .recovered)
      (recoverTimedOutWorkflowJobs timeoutSeconds workflowName now) := by
  simp only [recoverTimedOutWorkflowJobs]
  split
  · exact keeps_raise recovered_each_refl _
  · refine keeps_bind recovered_each_trans (keeps_ofExcept recovered_each_refl _) fun _ => ?_
    exact keeps_bind recovered_each_trans (keeps_read recovered_each_refl) fun _ =>
      recoverJobs_each _ _ _ _ _

theorem recoverStale_each (staleAfterSeconds : Option Int) (workflowName : Option String)
    (now : Time) : Keeps (MovesEach .recovered) (recoverStale staleAfterSeconds workflowName now) := by
  cases staleAfterSeconds with
  | none => exact keeps_pure recovered_each_refl _
  | some timeoutSeconds =>
    exact keeps_bind recovered_each_trans (recoverTimedOut_each _ _ _) fun _ =>
      keeps_pure recovered_each_refl _

/-- A claim after its recovery: it answers the job it has moved, or moves none. -/
def ClaimsOne (workerId : String) (repo : Repo)
    (result : Except PyError (Option WorkflowJobRecord) × Repo) : Prop :=
  (result.2 = repo ∧ ∀ job, result.1 ≠ .ok (some job)) ∨
    ∃ jobId job now, repo.workflowJobs.get? jobId = some job ∧ job.status = .queued ∧
      result = (.ok (some (claimedJob job workerId now)),
        repo.storeJob jobId (claimedJob job workerId now))

omit [PyRuntime] in
theorem claimFirst_claims (workerId : String) (workflow : Option String) (now : Time)
    (order : List String) (repo : Repo) :
    ClaimsOne workerId repo (claimFirst workerId workflow now order repo) := by
  induction order with
  | nil => exact .inl ⟨rfl, by simp [claimFirst]⟩
  | cons jobId rest ih =>
    simp only [claimFirst, bind_run, read_run, present_run]
    cases stored : repo.workflowJobs.get? jobId with
    | none => exact .inl ⟨rfl, by simp⟩
    | some job =>
      simp only [found_some]
      split
      · exact ih
      · rename_i queued
        simp only [ne_eq, Decidable.not_not] at queued
        split
        · exact ih
        · exact .inr ⟨jobId, job, now, stored, queued, rfl⟩

theorem claimNext_claims (workerId : String) (workflowName : Option String)
    (staleAfterSeconds : Option Int) (recoveredAt now : Time) (repo : Repo) :
    ∃ middle, MovesEach .recovered repo middle ∧
      ClaimsOne workerId middle
        (claimNextWorkflowJob workerId workflowName staleAfterSeconds recoveredAt now repo) := by
  have kept :=
    recoverStale_each staleAfterSeconds (normalizedWorkflow workflowName) recoveredAt repo
  simp only [claimNextWorkflowJob, bind_run]
  split
  · rename_i middle hstale
    rw [hstale] at kept
    exact ⟨middle, kept, claimFirst_claims _ _ _ _ _⟩
  · rename_i middle hstale
    rw [hstale] at kept
    exact ⟨middle, kept, .inl ⟨rfl, by simp⟩⟩

theorem claim_claims (jobId workerId : String) (staleAfterSeconds : Option Int)
    (recoveredAt now : Time) (repo : Repo) :
    ∃ middle, MovesEach .recovered repo middle ∧
      ClaimsOne workerId middle
        (claimWorkflowJob jobId workerId staleAfterSeconds recoveredAt now repo) := by
  have kept := recoverStale_each staleAfterSeconds none recoveredAt repo
  simp only [claimWorkflowJob, bind_run]
  split
  · rename_i middle hstale
    rw [hstale] at kept
    refine ⟨middle, kept, ?_⟩
    simp only [getWorkflowJob_run]
    cases stored : middle.workflowJobs.get? jobId with
    | none => exact .inl ⟨rfl, by simp⟩
    | some job =>
      simp only [found_some]
      split
      · exact .inl ⟨rfl, by simp⟩
      · rename_i queued
        simp only [ne_eq, Decidable.not_not] at queued
        exact .inr ⟨jobId, job, now, stored, queued, rfl⟩
  · rename_i middle hstale
    rw [hstale] at kept
    exact ⟨middle, kept, .inl ⟨rfl, by simp⟩⟩

/-- A call made with a worker's id: it is refused, or finds the job completed and
    changes nothing, or moves the job that the worker holds. -/
def HoldsOne (workerId jobId : String) (repo : Repo)
    (result : Except PyError WorkflowJobRecord × Repo) : Prop :=
  (result.2 = repo ∧ ∃ e, result.1 = .error e) ∨
    (∃ job, repo.workflowJobs.get? jobId = some job ∧ job.status = .completed ∧
      result = (.ok job, repo)) ∨
    ∃ job, repo.workflowJobs.get? jobId = some job ∧ job.status = .running ∧
      job.workerId = some workerId ∧ MovesOne (.held workerId) repo result.2 ∧
      ∀ k, k ≠ jobId → result.2.workflowJobs.get? k = repo.workflowJobs.get? k

omit [PyRuntime] in
theorem heartbeat_holds (jobId workerId : String) (now : Time) (repo : Repo) :
    HoldsOne workerId jobId repo (heartbeatWorkflowJob jobId workerId now repo) := by
  simp only [heartbeatWorkflowJob, bind_run, getWorkflowJob_run]
  cases stored : repo.workflowJobs.get? jobId with
  | none => exact .inl ⟨rfl, _, rfl⟩
  | some job =>
    simp only [found_some, ofExcept_run]
    cases owned : ensureJobOwnedByWorker job workerId with
    | error e => exact .inl ⟨rfl, _, rfl⟩
    | ok _ =>
      obtain ⟨running, mine⟩ := ensureJobOwnedByWorker_ok.mp owned
      refine .inr (.inr ⟨job, stored, running, mine, .inr ⟨jobId, job, _, stored,
        Moves.heartbeat running mine now, rfl⟩, ?_⟩)
      intro k other
      exact Dict.get?_set_other _ _ (Ne.symm other)

omit [PyRuntime] in
theorem complete_holds (jobId workerId : String) (now : Time) (repo : Repo) :
    HoldsOne workerId jobId repo (completeWorkflowJob jobId (some workerId) now repo) := by
  simp only [completeWorkflowJob, bind_run, getWorkflowJob_run]
  cases stored : repo.workflowJobs.get? jobId with
  | none => exact .inl ⟨rfl, _, rfl⟩
  | some job =>
    simp only [found_some, ensureOwnedByOptional]
    split
    · rename_i completed
      exact .inr (.inl ⟨job, stored, completed, rfl⟩)
    · simp only [bind_run, ofExcept_run]
      cases owned : ensureJobOwnedByWorker job workerId with
      | error e => exact .inl ⟨rfl, _, rfl⟩
      | ok _ =>
        obtain ⟨running, mine⟩ := ensureJobOwnedByWorker_ok.mp owned
        refine .inr (.inr ⟨job, stored, running, mine, .inr ⟨jobId, job, _, stored,
          Moves.complete running mine now, rfl⟩, ?_⟩)
        intro k other
        exact Dict.get?_set_other _ _ (Ne.symm other)

theorem fail_holds (jobId errorSummary : String) (retry : Bool) (workerId : String) (now : Time)
    (repo : Repo) :
    HoldsOne workerId jobId repo
      (failWorkflowJob jobId errorSummary retry (some workerId) now repo) := by
  simp only [failWorkflowJob, bind_run, getWorkflowJob_run, ensureOwnedByOptional]
  cases stored : repo.workflowJobs.get? jobId with
  | none => exact .inl ⟨rfl, _, rfl⟩
  | some job =>
    simp only [found_some, ofExcept_run]
    cases owned : ensureJobOwnedByWorker job workerId with
    | error e => exact .inl ⟨rfl, _, rfl⟩
    | ok _ =>
      obtain ⟨running, mine⟩ := ensureJobOwnedByWorker_ok.mp owned
      refine .inr (.inr ⟨job, stored, running, mine, giveUpAttempt_moves stored
        (fun payload => Moves.fail running mine retry payload _ _) _ _, ?_⟩)
      intro k other
      rcases giveUpAttempt_jobs jobId job (retry && decide (job.attemptCount < job.maxAttempts))
        errorSummary _ _ now repo with same | ⟨payload, set⟩
      · rw [same]
      · rw [set]
        exact Dict.get?_set_other _ _ (Ne.symm other)

theorem retryDeadLetter_moves (jobId : String) (reason : Option String) (now : Time)
    (repo : Repo) :
    MovesOne .operator repo (retryDeadLetterWorkflowJob jobId reason now repo).2 := by
  simp only [retryDeadLetterWorkflowJob, bind_run, getWorkflowJob_run]
  cases stored : repo.workflowJobs.get? jobId with
  | none => exact .inl rfl
  | some job =>
    simp only [found_some]
    split
    · exact .inl rfl
    · rename_i dead
      simp only [ne_eq, Decidable.not_not] at dead
      simp only [bind_run, ofExcept_run]
      cases PyValue.toInt ((lookupEntries job.payload "manual_retry_count").getD (.int 0)) with
      | error e => exact .inl rfl
      | ok count =>
        simp only
        split
        · rename_i payload s' hpayload
          obtain ⟨-, rfl⟩ := Prod.mk.injEq .. ▸ hpayload
          refine .inr ⟨jobId, job, _, stored, Moves.retry dead payload now, ?_⟩
          simp only [change_run]
          split
          · rename_i hrun
            exact congrArg (fun r => r.2.workflowJobs) hrun ▸ reopenRunOf_jobs _ now _
          · rename_i hrun
            exact congrArg (fun r => r.2.workflowJobs) hrun ▸ reopenRunOf_jobs _ now _
        · rename_i hpayload
          obtain ⟨-, rfl⟩ := Prod.mk.injEq .. ▸ hpayload
          exact .inl rfl

theorem dismissDeadLetter_moves (jobId : String) (reason : Option String) (now : Time)
    (repo : Repo) :
    MovesOne .operator repo (dismissDeadLetterWorkflowJob jobId reason now repo).2 := by
  simp only [dismissDeadLetterWorkflowJob, bind_run, getWorkflowJob_run]
  cases stored : repo.workflowJobs.get? jobId with
  | none => exact .inl rfl
  | some job =>
    simp only [found_some]
    split
    · exact .inl rfl
    · rename_i dead
      simp only [ne_eq, Decidable.not_not] at dead
      simp only [bind_run, ofExcept_run]
      split
      · rename_i payload s' hpayload
        obtain ⟨-, rfl⟩ := Prod.mk.injEq .. ▸ hpayload
        exact .inr ⟨jobId, job, _, stored, Moves.dismiss dead payload now, rfl⟩
      · rename_i hpayload
        obtain ⟨-, rfl⟩ := Prod.mk.injEq .. ▸ hpayload
        exact .inl rfl

/-- A refused enqueue changes nothing; an accepted one files a fresh queued job
    under the drawn id. -/
theorem enqueue_files (runId workflowName : String) (payload : PyDict) (maxAttempts : Int)
    (fresh : String) (now : Time) (repo : Repo) :
    (∃ e, enqueueWorkflowJob runId workflowName payload maxAttempts none .queued fresh now repo =
        (.error e, repo)) ∨
      ∃ job, job.id = "job_" ++ fresh ∧ WellFormed job ∧ job.status = .queued ∧
        enqueueWorkflowJob runId workflowName payload maxAttempts none .queued fresh now repo =
          (.ok job, repo.appendJob job) := by
  simp only [enqueueWorkflowJob]
  split
  · exact .inl ⟨_, rfl⟩
  · split
    · exact .inl ⟨_, rfl⟩
    · rename_i enough
      simp only [reduceCtorEq, if_false, bind_run, getRun_run]
      cases repo.runs.get? runId with
      | none => exact .inl ⟨_, rfl⟩
      | some run =>
        simp only [found_some, ofExcept_run]
        cases redactEntries payload with
        | error e => exact .inl ⟨e, rfl⟩
        | ok payload =>
          refine .inr ⟨_, ?_, ?_, ?_, rfl⟩
          · rfl
          · exact ⟨Int.le_refl 0, by simp only; omega, fun _ => ⟨rfl, by simp only; omega⟩, by simp⟩
          · rfl

/-! Sequences of calls, by any number of workers. -/

/-- The job methods with the arguments that the callers choose, and the clock
    readings and identifiers that the methods draw. -/
inductive JobCall where
  | enqueue (runId workflowName : String) (payload : PyDict) (maxAttempts : Int) (fresh : String)
      (now : Time)
  | claimNext (workerId : String) (workflowName : Option String) (staleAfterSeconds : Option Int)
      (recoveredAt now : Time)
  | claim (jobId workerId : String) (staleAfterSeconds : Option Int) (recoveredAt now : Time)
  | heartbeat (jobId workerId : String) (now : Time)
  | complete (jobId workerId : String) (now : Time)
  | fail (jobId errorSummary : String) (retry : Bool) (workerId : String) (now : Time)
  | recover (timeoutSeconds : Int) (workflowName : Option String) (now : Time)
  | retryDeadLetter (jobId : String) (reason : Option String) (now : Time)
  | dismissDeadLetter (jobId : String) (reason : Option String) (now : Time)

namespace JobCall

/-- The call on the store; it answers the jobs that it returns. -/
def perform : JobCall → RepoM (List WorkflowJobRecord)
  | enqueue runId workflowName payload maxAttempts fresh now => do
      let job ← enqueueWorkflowJob runId workflowName payload maxAttempts none .queued fresh now
      return [job]
  | claimNext workerId workflowName staleAfterSeconds recoveredAt now => do
      let job ← claimNextWorkflowJob workerId workflowName staleAfterSeconds recoveredAt now
      return job.toList
  | claim jobId workerId staleAfterSeconds recoveredAt now => do
      let job ← claimWorkflowJob jobId workerId staleAfterSeconds recoveredAt now
      return job.toList
  | heartbeat jobId workerId now => do
      let job ← heartbeatWorkflowJob jobId workerId now
      return [job]
  | complete jobId workerId now => do
      let job ← completeWorkflowJob jobId (some workerId) now
      return [job]
  | fail jobId errorSummary retry workerId now => do
      let job ← failWorkflowJob jobId errorSummary retry (some workerId) now
      return [job]
  | recover timeoutSeconds workflowName now =>
      recoverTimedOutWorkflowJobs timeoutSeconds workflowName now
  | retryDeadLetter jobId reason now => do
      let job ← retryDeadLetterWorkflowJob jobId reason now
      return [job]
  | dismissDeadLetter jobId reason now => do
      let job ← dismissDeadLetterWorkflowJob jobId reason now
      return [job]

/-- The identifier that an enqueue draws from `uuid4`. -/
def drawn : JobCall → List String
  | enqueue _ _ _ _ fresh _ => [fresh]
  | _ => []

/-- The worker that asks for a job. -/
def claimant : JobCall → Option String
  | claimNext workerId _ _ _ _ => some workerId
  | claim _ workerId _ _ _ => some workerId
  | _ => none

/-- The job that a worker says it holds, and that worker. -/
def holder : JobCall → Option (String × String)
  | heartbeat jobId workerId _ => some (jobId, workerId)
  | complete jobId workerId _ => some (jobId, workerId)
  | fail jobId _ _ workerId _ => some (jobId, workerId)
  | _ => none

end JobCall

/-- The store, and for every job the worker of its latest successful claim. -/
structure Ledger where
  repo : Repo
  lastClaim : String → Option String

def claimsAfter (call : JobCall) (answer : Except PyError (List WorkflowJobRecord))
    (lastClaim : String → Option String) (jobId : String) : Option String :=
  match call.claimant, answer with
  | some workerId, .ok [job] => if job.id = jobId then some workerId else lastClaim jobId
  | _, _ => lastClaim jobId

def step (call : JobCall) (l : Ledger) : Except PyError (List WorkflowJobRecord) × Ledger :=
  ((call.perform l.repo).1,
    ⟨(call.perform l.repo).2, claimsAfter call (call.perform l.repo).1 l.lastClaim⟩)

def runCalls (start : Repo) (calls : List JobCall) : Ledger :=
  calls.foldl (fun l call => (step call l).2) ⟨start, fun _ => none⟩

/-- What every sequence of calls keeps: jobs are filed under their own drawn ids,
    are well formed, and a running one is held by the worker that claimed it last. -/
structure Sound (drawn : List String) (l : Ledger) : Prop where
  id_eq : ∀ jobId job, l.repo.workflowJobs.get? jobId = some job → job.id = jobId
  id_drawn : ∀ jobId job, l.repo.workflowJobs.get? jobId = some job →
    ∃ fresh ∈ drawn, jobId = "job_" ++ fresh
  wellFormed : ∀ jobId job, l.repo.workflowJobs.get? jobId = some job → WellFormed job
  held : ∀ jobId job, l.repo.workflowJobs.get? jobId = some job → job.status = .running →
    job.workerId = l.lastClaim jobId

omit [PyRuntime] in
theorem sound_moves {drawn : List String} {l : Ledger} (sound : Sound drawn l) {cause : Cause}
    (unclaimed : ∀ workerId, cause ≠ .claimed workerId) {repo' : Repo}
    (moved : MovesEach cause l.repo repo') : Sound drawn ⟨repo', l.lastClaim⟩ := by
  refine ⟨?_, ?_, ?_, ?_⟩
  · intro jobId job' found
    obtain ⟨job, old, rfl | move⟩ := movesEach_some moved found
    · exact sound.id_eq jobId job' old
    · rw [moves_id move]
      exact sound.id_eq jobId job old
  · intro jobId job' found
    obtain ⟨job, old, -⟩ := movesEach_some moved found
    exact sound.id_drawn jobId job old
  · intro jobId job' found
    obtain ⟨job, old, rfl | move⟩ := movesEach_some moved found
    · exact sound.wellFormed jobId job' old
    · exact moves_wellFormed move (sound.wellFormed jobId job old)
  · intro jobId job' found running
    obtain ⟨job, old, rfl | move⟩ := movesEach_some moved found
    · exact sound.held jobId job' old running
    · rcases moves_running move running with ⟨was, same⟩ | ⟨workerId, isClaim, -⟩
      · rw [same]
        exact sound.held jobId job old was
      · exact absurd isClaim (unclaimed workerId)

omit [PyRuntime] in
theorem sound_claims {drawn : List String} {l : Ledger} (sound : Sound drawn l)
    {workerId : String} {call : JobCall} (claims : call.claimant = some workerId)
    {middle : Repo} (recovered : MovesEach .recovered l.repo middle)
    {result : Except PyError (Option WorkflowJobRecord) × Repo}
    (claimed : ClaimsOne workerId middle result) :
    Sound drawn
      ⟨result.2, claimsAfter call (result.1.map Option.toList) l.lastClaim⟩ := by
  have after := sound_moves sound (by simp) recovered
  rcases claimed with ⟨same, nothing⟩ | ⟨jobId, job, now, stored, queued, rfl⟩
  · have unclaimed : claimsAfter call (result.1.map Option.toList) l.lastClaim = l.lastClaim := by
      funext k
      simp only [claimsAfter, claims]
      cases outcome : result.1 with
      | error e => rfl
      | ok answer =>
        cases answer with
        | none => rfl
        | some job => exact absurd outcome (nothing job)
    rw [unclaimed, same]
    exact after
  · have move := Moves.claim queued workerId now
    have claimedId : (claimedJob job workerId now).id = jobId := after.id_eq jobId job stored
    refine ⟨?_, ?_, ?_, ?_⟩
    · intro k job' found
      simp only [Repo.storeJob, Dict.get?_set] at found
      split at found
      · rename_i hit
        simp only [Option.some.injEq] at found
        rw [← found, claimedId, hit]
      · exact after.id_eq k job' found
    · intro k job' found
      simp only [Repo.storeJob, Dict.get?_set] at found
      split at found
      · rename_i hit
        exact hit ▸ after.id_drawn jobId job stored
      · exact after.id_drawn k job' found
    · intro k job' found
      simp only [Repo.storeJob, Dict.get?_set] at found
      split at found
      · simp only [Option.some.injEq] at found
        exact found ▸ moves_wellFormed move (after.wellFormed jobId job stored)
      · exact after.wellFormed k job' found
    · intro k job' found running
      simp only [claimsAfter, claims, Except.map, Option.toList, claimedId]
      simp only [Repo.storeJob, Dict.get?_set] at found
      split at found
      · rename_i hit
        simp only [Option.some.injEq] at found
        simp [← found, hit, claimedJob]
      · rename_i miss
        rw [if_neg miss]
        exact after.held k job' found running

omit [PyRuntime] in
theorem sound_drawn_mono {drawn more : List String} {l : Ledger} (sound : Sound drawn l) :
    Sound (drawn ++ more) l := by
  refine ⟨sound.id_eq, ?_, sound.wellFormed, sound.held⟩
  intro jobId job found
  obtain ⟨fresh, member, same⟩ := sound.id_drawn jobId job found
  exact ⟨fresh, List.mem_append_left _ member, same⟩

omit [PyRuntime] in
theorem jobId_injective {a b : String} (h : "job_" ++ a = "job_" ++ b) : a = b := by
  have lists := congrArg String.toList h
  simp only [String.toList_append, List.append_cancel_left_eq] at lists
  exact String.toList_inj.mp lists

omit [PyRuntime] in
/-- A call that returns a record answers with that one record and leaves the same
    store. -/
theorem listed_run {α : Type} (action : RepoM α) (toAnswer : α → List WorkflowJobRecord)
    (repo : Repo) :
    ((do let job ← action; return toAnswer job) : RepoM _) repo =
      ((action repo).1.map toAnswer, (action repo).2) := by
  rw [bind_run]
  rcases action repo with ⟨e | value, repo'⟩ <;> rfl

theorem step_sound {drawn : List String} {l : Ledger} (sound : Sound drawn l)
    (call : JobCall) : Sound (drawn ++ call.drawn) (step call l).2 := by
  have quiet : ∀ answer : Except PyError (List WorkflowJobRecord), call.claimant = none →
      claimsAfter call answer l.lastClaim = l.lastClaim := by
    intro answer noClaim
    funext k
    simp [claimsAfter, noClaim]
  have unheld : ∀ (cause : Cause) (repo' : Repo) (answer : Except PyError (List WorkflowJobRecord)),
      (∀ workerId, cause ≠ .claimed workerId) → call.claimant = none →
      MovesEach cause l.repo repo' →
      Sound (drawn ++ call.drawn) ⟨repo', claimsAfter call answer l.lastClaim⟩ := by
    intro cause repo' answer unclaimed noClaim moved
    rw [quiet answer noClaim]
    exact sound_drawn_mono (sound_moves sound unclaimed moved)
  have holding : ∀ (workerId jobId : String) (result : Except PyError WorkflowJobRecord × Repo)
      (answer : Except PyError (List WorkflowJobRecord)), call.claimant = none →
      HoldsOne workerId jobId l.repo result →
      Sound (drawn ++ call.drawn) ⟨result.2, claimsAfter call answer l.lastClaim⟩ := by
    intro workerId jobId result answer noClaim holds
    rcases holds with ⟨same, -⟩ | ⟨job, -, -, same⟩ | ⟨job, -, -, -, moved, -⟩
    · exact unheld .recovered _ _ (by simp) noClaim (same ▸ recovered_each_refl _)
    · exact unheld .recovered _ _ (by simp) noClaim (same ▸ recovered_each_refl _)
    · exact unheld (.held workerId) _ _ (by simp) noClaim (movesOne_each moved)
  cases call with
  | enqueue runId workflowName payload maxAttempts f now =>
    simp only [step, JobCall.perform, listed_run, quiet _ (rfl : JobCall.claimant _ = none)]
    rcases enqueue_files runId workflowName payload maxAttempts f now l.repo with
      ⟨e, refused⟩ | ⟨job, hid, wf, queued, filed⟩
    · rw [refused]
      exact sound_drawn_mono sound
    · rw [filed]
      refine ⟨?_, ?_, ?_, ?_⟩
      · intro k job' found
        simp only [Repo.appendJob, Dict.get?_set] at found
        split at found
        · simp_all
        · exact sound.id_eq k job' found
      · intro k job' found
        simp only [Repo.appendJob, Dict.get?_set] at found
        split at found
        · rename_i hit
          exact ⟨f, by simp [JobCall.drawn], by rw [← hit, hid]⟩
        · obtain ⟨g, member, same⟩ := sound.id_drawn k job' found
          exact ⟨g, List.mem_append_left _ member, same⟩
      · intro k job' found
        simp only [Repo.appendJob, Dict.get?_set] at found
        split at found
        · simp only [Option.some.injEq] at found
          exact found ▸ wf
        · exact sound.wellFormed k job' found
      · intro k job' found running
        simp only [Repo.appendJob, Dict.get?_set] at found
        split at found
        · simp only [Option.some.injEq] at found
          rw [← found, queued] at running
          simp at running
        · exact sound.held k job' found running
  | claimNext workerId workflowName staleAfterSeconds recoveredAt now =>
    simp only [step, JobCall.perform, listed_run]
    obtain ⟨middle, recovered, claimed⟩ :=
      claimNext_claims workerId workflowName staleAfterSeconds recoveredAt now l.repo
    exact sound_drawn_mono (sound_claims sound rfl recovered claimed)
  | claim jobId workerId staleAfterSeconds recoveredAt now =>
    simp only [step, JobCall.perform, listed_run]
    obtain ⟨middle, recovered, claimed⟩ :=
      claim_claims jobId workerId staleAfterSeconds recoveredAt now l.repo
    exact sound_drawn_mono (sound_claims sound rfl recovered claimed)
  | heartbeat jobId workerId now =>
    simp only [step, JobCall.perform, listed_run]
    exact holding workerId jobId _ _ rfl (heartbeat_holds jobId workerId now l.repo)
  | complete jobId workerId now =>
    simp only [step, JobCall.perform, listed_run]
    exact holding workerId jobId _ _ rfl (complete_holds jobId workerId now l.repo)
  | fail jobId errorSummary retry workerId now =>
    simp only [step, JobCall.perform, listed_run]
    exact holding workerId jobId _ _ rfl
      (fail_holds jobId errorSummary retry workerId now l.repo)
  | recover timeoutSeconds workflowName now =>
    exact unheld .recovered _ _ (by simp) rfl
      (recoverTimedOut_each timeoutSeconds workflowName now l.repo)
  | retryDeadLetter jobId reason now =>
    simp only [step, JobCall.perform, listed_run]
    exact unheld .operator _ _ (by simp) rfl
      (movesOne_each (retryDeadLetter_moves jobId reason now l.repo))
  | dismissDeadLetter jobId reason now =>
    simp only [step, JobCall.perform, listed_run]
    exact unheld .operator _ _ (by simp) rfl
      (movesOne_each (dismissDeadLetter_moves jobId reason now l.repo))

theorem runCalls_sound {start : Repo} (noJobs : start.workflowJobs = .empty)
    (calls : List JobCall) : Sound (calls.flatMap JobCall.drawn) (runCalls start calls) := by
  have walk : ∀ (calls : List JobCall) (drawn : List String) (l : Ledger), Sound drawn l →
      Sound (drawn ++ calls.flatMap JobCall.drawn)
        (calls.foldl (fun l call => (step call l).2) l) := by
    intro calls
    induction calls with
    | nil =>
      intro drawn l sound
      simpa using sound
    | cons call rest ih =>
      intro drawn l sound
      have later := ih _ _ (step_sound sound call)
      rw [List.append_assoc] at later
      exact later
  have sound : Sound [] ⟨start, fun _ => none⟩ := by
    constructor <;> simp [noJobs]
  exact walk calls [] _ sound

/-- Completed and dismissed jobs stay as they are: no cause moves them, and an
    enqueue files its job under another id. -/
theorem step_keeps_final {drawn : List String} {l : Ledger} (sound : Sound drawn l)
    (call : JobCall) (fresh : ∀ f ∈ call.drawn, f ∉ drawn) {jobId : String}
    {job : WorkflowJobRecord} (stored : l.repo.workflowJobs.get? jobId = some job)
    (final : job.status = .completed ∨ job.status = .dismissed) :
    (step call l).2.repo.workflowJobs.get? jobId = some job := by
  have unmoved : ∀ (cause : Cause) (repo repo' : Repo), MovesEach cause repo repo' →
      repo.workflowJobs.get? jobId = some job → repo'.workflowJobs.get? jobId = some job := by
    intro cause repo repo' moved before
    obtain ⟨job', after, rfl | move⟩ := movesEach_kept moved before
    · exact after
    · rcases moves_from move with h | h | h <;> rcases final with f | f <;> simp [f] at h
  have claimed : ∀ (workerId : String) (middle : Repo)
      (result : Except PyError (Option WorkflowJobRecord) × Repo),
      MovesEach .recovered l.repo middle → ClaimsOne workerId middle result →
      result.2.workflowJobs.get? jobId = some job := by
    intro workerId middle result recovered claims
    have before := unmoved _ _ _ recovered stored
    rcases claims with ⟨same, -⟩ | ⟨k, job', now, found, queued, rfl⟩
    · rw [same]
      exact before
    · exact unmoved (.claimed workerId) middle _
        (movesOne_each (.inr ⟨k, job', _, found, Moves.claim queued workerId now, rfl⟩)) before
  have held : ∀ (workerId k : String) (result : Except PyError WorkflowJobRecord × Repo),
      HoldsOne workerId k l.repo result → result.2.workflowJobs.get? jobId = some job := by
    intro workerId k result holds
    rcases holds with ⟨same, -⟩ | ⟨job', -, -, same⟩ | ⟨job', -, -, -, moved, -⟩
    · rw [same]
      exact stored
    · rw [same]
      exact stored
    · exact unmoved _ _ _ (movesOne_each moved) stored
  cases call with
  | enqueue runId workflowName payload maxAttempts f now =>
    simp only [step, JobCall.perform, listed_run]
    rcases enqueue_files runId workflowName payload maxAttempts f now l.repo with
      ⟨e, refused⟩ | ⟨new, hid, -, -, filed⟩
    · rw [refused]
      exact stored
    · rw [filed]
      obtain ⟨g, member, same⟩ := sound.id_drawn jobId job stored
      have other : new.id ≠ jobId := by
        intro hit
        rw [hid, same] at hit
        exact fresh f (by simp [JobCall.drawn]) (jobId_injective hit ▸ member)
      exact (Dict.get?_set_other _ _ other).trans stored
  | claimNext workerId workflowName staleAfterSeconds recoveredAt now =>
    simp only [step, JobCall.perform, listed_run]
    obtain ⟨middle, recovered, claims⟩ :=
      claimNext_claims workerId workflowName staleAfterSeconds recoveredAt now l.repo
    exact claimed _ _ _ recovered claims
  | claim k workerId staleAfterSeconds recoveredAt now =>
    simp only [step, JobCall.perform, listed_run]
    obtain ⟨middle, recovered, claims⟩ :=
      claim_claims k workerId staleAfterSeconds recoveredAt now l.repo
    exact claimed _ _ _ recovered claims
  | heartbeat k workerId now =>
    simp only [step, JobCall.perform, listed_run]
    exact held _ _ _ (heartbeat_holds k workerId now l.repo)
  | complete k workerId now =>
    simp only [step, JobCall.perform, listed_run]
    exact held _ _ _ (complete_holds k workerId now l.repo)
  | fail k errorSummary retry workerId now =>
    simp only [step, JobCall.perform, listed_run]
    exact held _ _ _ (fail_holds k errorSummary retry workerId now l.repo)
  | recover timeoutSeconds workflowName now =>
    exact unmoved _ _ _ (recoverTimedOut_each timeoutSeconds workflowName now l.repo) stored
  | retryDeadLetter k reason now =>
    simp only [step, JobCall.perform, listed_run]
    exact unmoved _ _ _ (movesOne_each (retryDeadLetter_moves k reason now l.repo)) stored
  | dismissDeadLetter k reason now =>
    simp only [step, JobCall.perform, listed_run]
    exact unmoved _ _ _ (movesOne_each (dismissDeadLetter_moves k reason now l.repo)) stored

/-- What a heartbeat, a completion or a failure does in a reachable store. -/
theorem step_holds {drawn : List String} {l : Ledger} (sound : Sound drawn l)
    {call : JobCall} {jobId workerId : String} (holder : call.holder = some (jobId, workerId)) :
    ((step call l).2.repo = l.repo ∧
        ((∃ e, (step call l).1 = .error e) ∨
          ∃ job, l.repo.workflowJobs.get? jobId = some job ∧ job.status = .completed)) ∨
      ((∃ job, l.repo.workflowJobs.get? jobId = some job ∧ job.status = .running) ∧
        l.lastClaim jobId = some workerId ∧
        ∀ k, k ≠ jobId →
          (step call l).2.repo.workflowJobs.get? k = l.repo.workflowJobs.get? k) := by
  have outcome : ∀ result : Except PyError WorkflowJobRecord × Repo,
      HoldsOne workerId jobId l.repo result →
      (result.2 = l.repo ∧ ((∃ e, result.1.map (fun job => [job]) = .error e) ∨
          ∃ job, l.repo.workflowJobs.get? jobId = some job ∧ job.status = .completed)) ∨
        ((∃ job, l.repo.workflowJobs.get? jobId = some job ∧ job.status = .running) ∧
          l.lastClaim jobId = some workerId ∧
          ∀ k, k ≠ jobId → result.2.workflowJobs.get? k = l.repo.workflowJobs.get? k) := by
    intro result holds
    rcases holds with ⟨same, e, refused⟩ | ⟨job, stored, completed, same⟩ |
      ⟨job, stored, running, mine, -, others⟩
    · exact .inl ⟨same, .inl ⟨e, by rw [refused]; rfl⟩⟩
    · exact .inl ⟨by rw [same], .inr ⟨job, stored, completed⟩⟩
    · exact .inr ⟨⟨job, stored, running⟩, (sound.held jobId job stored running) ▸ mine, others⟩
  cases call with
  | heartbeat k w now =>
    simp only [JobCall.holder, Option.some.injEq, Prod.mk.injEq] at holder
    obtain ⟨rfl, rfl⟩ := holder
    simp only [step, JobCall.perform, listed_run]
    exact outcome _ (heartbeat_holds _ _ now l.repo)
  | complete k w now =>
    simp only [JobCall.holder, Option.some.injEq, Prod.mk.injEq] at holder
    obtain ⟨rfl, rfl⟩ := holder
    simp only [step, JobCall.perform, listed_run]
    exact outcome _ (complete_holds _ _ now l.repo)
  | fail k errorSummary retry w now =>
    simp only [JobCall.holder, Option.some.injEq, Prod.mk.injEq] at holder
    obtain ⟨rfl, rfl⟩ := holder
    simp only [step, JobCall.perform, listed_run]
    exact outcome _ (fail_holds _ errorSummary retry _ now l.repo)
  | enqueue => simp [JobCall.holder] at holder
  | claimNext => simp [JobCall.holder] at holder
  | claim => simp [JobCall.holder] at holder
  | recover => simp [JobCall.holder] at holder
  | retryDeadLetter => simp [JobCall.holder] at holder
  | dismissDeadLetter => simp [JobCall.holder] at holder

/-- One run, one job; `w1` claims it, its lease times out, `w2` claims it. -/
def reclaimedStart : Repo :=
  let _ := plainRuntime
  (createRun "Analyse spend" [] none "a" "t" 0 Repo.init).2

def reclaimedCalls : List JobCall :=
  [.enqueue "run_a" "procurement" [] 3 "j" 1000000, .claimNext "w1" none none 2000000 2000000,
    .claimNext "w2" none (some 5) 9000000 9000001]

end JobLifecycle
