import AeaiOs.JobLifecycle

/-!
The job table of the in-memory repository: jobs are filed under their own ids,
and the order in which claims look for a job lists exactly the filed ones. Every
method that touches the table keeps that.
-/
namespace JobLifecycle
open OrderedDict CivilTime StoreAction Action RunValues RunModels Redaction InMemoryRunRepository

structure Filed (repo : Repo) : Prop where
  listed : ∀ jobId, jobId ∈ repo.workflowJobOrder ↔ ∃ job, repo.workflowJobs.get? jobId = some job
  id_eq : ∀ jobId job, repo.workflowJobs.get? jobId = some job → job.id = jobId

/-- The same jobs in the same order, each under its own id and in its own workflow. -/
structure Rewrites (repo repo' : Repo) : Prop where
  order : repo'.workflowJobOrder = repo.workflowJobOrder
  jobs : ∀ jobId, match repo.workflowJobs.get? jobId, repo'.workflowJobs.get? jobId with
    | none, none => True
    | some job, some job' => job'.id = job.id ∧ job'.workflowName = job.workflowName
    | _, _ => False

theorem rewrites_refl (repo : Repo) : Rewrites repo repo := by
  constructor
  · rfl
  · intro jobId
    cases repo.workflowJobs.get? jobId <;> simp

theorem rewrites_trans (a b c : Repo) (first : Rewrites a b) (second : Rewrites b c) :
    Rewrites a c := by
  constructor
  · rw [second.order, first.order]
  · intro jobId
    have before := first.jobs jobId
    have after := second.jobs jobId
    cases ha : a.workflowJobs.get? jobId <;> cases hb : b.workflowJobs.get? jobId <;>
      cases hc : c.workflowJobs.get? jobId <;> simp only [ha, hb, hc] at before after ⊢
    exact ⟨after.1.trans before.1, after.2.trans before.2⟩

/-- Everything but the job table may differ. -/
theorem rewrites_of_same {repo repo' : Repo} (jobs : repo'.workflowJobs = repo.workflowJobs)
    (order : repo'.workflowJobOrder = repo.workflowJobOrder) : Rewrites repo repo' := by
  refine ⟨order, ?_⟩
  intro jobId
  rw [jobs]
  cases repo.workflowJobs.get? jobId <;> simp

theorem rewrites_stored {repo : Repo} {jobId : String} {job job' : WorkflowJobRecord}
    (stored : repo.workflowJobs.get? jobId = some job) (id : job'.id = job.id)
    (workflow : job'.workflowName = job.workflowName) :
    Rewrites repo (repo.storeJob jobId job') := by
  refine ⟨rfl, ?_⟩
  intro k
  simp only [Repo.storeJob, Dict.get?_set]
  by_cases hit : jobId = k
  · subst hit
    simp [stored, id, workflow]
  · cases repo.workflowJobs.get? k <;> simp [hit]

theorem rewrites_some {repo repo' : Repo} (h : Rewrites repo repo') {jobId : String}
    {job' : WorkflowJobRecord} (found : repo'.workflowJobs.get? jobId = some job') :
    ∃ job, repo.workflowJobs.get? jobId = some job ∧ job'.id = job.id ∧
      job'.workflowName = job.workflowName := by
  have related := h.jobs jobId
  rw [found] at related
  cases old : repo.workflowJobs.get? jobId with
  | none => simp [old] at related
  | some job =>
    simp only [old] at related
    exact ⟨job, rfl, related⟩

theorem rewrites_filed {repo repo' : Repo} (h : Rewrites repo repo') (filed : Filed repo) :
    Filed repo' := by
  constructor
  · intro jobId
    rw [h.order, filed.listed]
    have related := h.jobs jobId
    cases old : repo.workflowJobs.get? jobId <;> cases new : repo'.workflowJobs.get? jobId <;>
      simp_all
  · intro jobId job' found
    obtain ⟨job, old, id, -⟩ := rewrites_some h found
    rw [id]
    exact filed.id_eq jobId job old

section methods
variable [PyRuntime]

theorem failRunOf_rewrites (job : WorkflowJobRecord) (errorSummary : String) (now : Time) :
    Keeps Rewrites (failRunOf job errorSummary now) := by
  intro repo
  refine rewrites_of_same (failRunOf_jobs job errorSummary now repo) ?_
  simp only [failRunOf]
  split
  · simp only [bind_run, getRun_run]
    cases repo.runs.get? job.runId with
    | none => rfl
    | some run => cases redactText errorSummary <;> rfl
  · rfl

theorem giveUpAttempt_rewrites {repo : Repo} {jobId : String} {job : WorkflowJobRecord}
    (stored : repo.workflowJobs.get? jobId = some job) (shouldRetry : Bool) (errorSummary : String)
    (workerId : Option String) (reason : String) (now : Time) :
    Rewrites repo
      (giveUpAttempt jobId job shouldRetry errorSummary workerId reason now repo).2 := by
  simp only [giveUpAttempt, bind_run, ofExcept_run]
  cases redactText errorSummary with
  | error e => exact rewrites_refl repo
  | ok summary =>
    simp only
    split
    · rename_i payload s' hpayload
      obtain ⟨-, rfl⟩ := Prod.mk.injEq .. ▸ hpayload
      have written : Rewrites repo (repo.storeJob jobId
          (failedAttempt job shouldRetry payload errorSummary now)) :=
        rewrites_stored stored rfl rfl
      have failed := failRunOf_rewrites (failedAttempt job shouldRetry payload errorSummary now)
        errorSummary now (repo.storeJob jobId (failedAttempt job shouldRetry payload errorSummary now))
      have both := rewrites_trans _ _ _ written failed
      simp only [change_run]
      split
      · rename_i hrun
        rw [hrun] at both
        exact both
      · rename_i hrun
        rw [hrun] at both
        exact both
    · rename_i hpayload
      obtain ⟨-, rfl⟩ := Prod.mk.injEq .. ▸ hpayload
      exact rewrites_refl repo

theorem recoverJob_rewrites (timeoutSeconds : Int) (workflow : Option String)
    (referenceTime cutoff : Time) (jobId : String) :
    Keeps Rewrites (recoverJob timeoutSeconds workflow referenceTime cutoff jobId) := by
  intro repo
  simp only [recoverJob, bind_run, read_run, present_run]
  cases stored : repo.workflowJobs.get? jobId with
  | none => exact rewrites_refl repo
  | some job =>
    simp only [found_some]
    split_ifs
    · exact rewrites_refl repo
    · exact rewrites_refl repo
    · exact rewrites_refl repo
    · have written := giveUpAttempt_rewrites stored (decide (job.attemptCount < job.maxAttempts))
        (timeoutSummary timeoutSeconds) job.workerId "heartbeat_timeout" referenceTime
      rw [bind_run]
      split
      · rename_i hgive
        rw [hgive] at written
        exact written
      · rename_i hgive
        rw [hgive] at written
        exact written

theorem recoverJobs_rewrites (timeoutSeconds : Int) (workflow : Option String)
    (referenceTime cutoff : Time) (order : List String) :
    Keeps Rewrites (recoverJobs timeoutSeconds workflow referenceTime cutoff order) := by
  induction order with
  | nil => exact keeps_pure rewrites_refl _
  | cons jobId rest ih =>
    refine keeps_bind rewrites_trans (recoverJob_rewrites _ _ _ _ jobId) fun _ => ?_
    exact keeps_bind rewrites_trans ih fun _ => keeps_pure rewrites_refl _

theorem recoverTimedOut_rewrites (timeoutSeconds : Int) (workflowName : Option String)
    (now : Time) : Keeps Rewrites (recoverTimedOutWorkflowJobs timeoutSeconds workflowName now) := by
  simp only [recoverTimedOutWorkflowJobs]
  split
  · exact keeps_raise rewrites_refl _
  · refine keeps_bind rewrites_trans (keeps_ofExcept rewrites_refl _) fun _ => ?_
    exact keeps_bind rewrites_trans (keeps_read rewrites_refl) fun _ =>
      recoverJobs_rewrites _ _ _ _ _

theorem recoverStale_rewrites (staleAfterSeconds : Option Int) (workflowName : Option String)
    (now : Time) : Keeps Rewrites (recoverStale staleAfterSeconds workflowName now) := by
  cases staleAfterSeconds with
  | none => exact keeps_pure rewrites_refl _
  | some timeoutSeconds =>
    exact keeps_bind rewrites_trans (recoverTimedOut_rewrites _ _ _) fun _ =>
      keeps_pure rewrites_refl _

omit [PyRuntime] in
theorem claimsOne_rewrites {workerId : String} {repo : Repo}
    {result : Except PyError (Option WorkflowJobRecord) × Repo}
    (h : ClaimsOne workerId repo result) : Rewrites repo result.2 := by
  rcases h with ⟨same, -⟩ | ⟨jobId, job, now, stored, -, rfl⟩
  · rw [same]
    exact rewrites_refl repo
  · exact rewrites_stored stored rfl rfl

omit [PyRuntime] in
theorem heartbeat_rewrites (jobId workerId : String) (now : Time) :
    Keeps Rewrites (heartbeatWorkflowJob jobId workerId now) := by
  intro repo
  simp only [heartbeatWorkflowJob, bind_run, getWorkflowJob_run]
  cases stored : repo.workflowJobs.get? jobId with
  | none => exact rewrites_refl repo
  | some job =>
    simp only [found_some, ofExcept_run]
    cases ensureJobOwnedByWorker job workerId with
    | error e => exact rewrites_refl repo
    | ok _ => exact rewrites_stored stored rfl rfl

omit [PyRuntime] in
theorem complete_rewrites (jobId : String) (workerId : Option String) (now : Time) :
    Keeps Rewrites (completeWorkflowJob jobId workerId now) := by
  intro repo
  simp only [completeWorkflowJob, bind_run, getWorkflowJob_run]
  cases stored : repo.workflowJobs.get? jobId with
  | none => exact rewrites_refl repo
  | some job =>
    simp only [found_some]
    split
    · exact rewrites_refl repo
    · simp only [bind_run, ofExcept_run]
      cases ensureOwnedByOptional job workerId with
      | error e => exact rewrites_refl repo
      | ok _ => exact rewrites_stored stored rfl rfl

theorem fail_rewrites (jobId errorSummary : String) (retry : Bool) (workerId : Option String)
    (now : Time) : Keeps Rewrites (failWorkflowJob jobId errorSummary retry workerId now) := by
  intro repo
  simp only [failWorkflowJob, bind_run, getWorkflowJob_run]
  cases stored : repo.workflowJobs.get? jobId with
  | none => exact rewrites_refl repo
  | some job =>
    simp only [found_some, ofExcept_run]
    cases ensureOwnedByOptional job workerId with
    | error e => exact rewrites_refl repo
    | ok _ => exact giveUpAttempt_rewrites stored _ _ _ _ _

theorem updateResult_rewrites (jobId : String) (status : WorkflowJobStatus)
    (payload : Option PyDict) (errorSummary : Option String) (now : Time) :
    Keeps Rewrites (updateWorkflowJobResult jobId status payload errorSummary now) := by
  intro repo
  simp only [updateWorkflowJobResult]
  split
  · exact rewrites_refl repo
  · simp only [bind_run, getWorkflowJob_run]
    cases stored : repo.workflowJobs.get? jobId with
    | none => exact rewrites_refl repo
    | some job =>
      simp only [found_some]
      cases payload with
      | none =>
        cases redactOptional errorSummary with
        | error e => exact rewrites_refl repo
        | ok summary => exact rewrites_stored stored rfl rfl
      | some payload =>
        simp only
        cases redactEntries payload with
        | error e => exact rewrites_refl repo
        | ok payload =>
          cases redactOptional errorSummary with
          | error e => exact rewrites_refl repo
          | ok summary => exact rewrites_stored stored rfl rfl

theorem retryDeadLetter_rewrites (jobId : String) (reason : Option String) (now : Time) :
    Keeps Rewrites (retryDeadLetterWorkflowJob jobId reason now) := by
  intro repo
  simp only [retryDeadLetterWorkflowJob, bind_run, getWorkflowJob_run]
  cases stored : repo.workflowJobs.get? jobId with
  | none => exact rewrites_refl repo
  | some job =>
    simp only [found_some]
    split
    · exact rewrites_refl repo
    · simp only [bind_run, ofExcept_run]
      cases PyValue.toInt ((lookupEntries job.payload "manual_retry_count").getD (.int 0)) with
      | error e => exact rewrites_refl repo
      | ok count =>
        simp only
        split
        · rename_i payload s' hpayload
          obtain ⟨-, rfl⟩ := Prod.mk.injEq .. ▸ hpayload
          have reopened : ∀ (retried : WorkflowJobRecord) (repo : Repo),
              Rewrites repo (reopenRunOf retried now repo).2 := by
            intro retried repo
            refine rewrites_of_same (reopenRunOf_jobs retried now repo) ?_
            simp only [reopenRunOf, bind_run, getRun_run]
            cases repo.runs.get? retried.runId <;> rfl
          simp only [change_run]
          split
          · rename_i hrun
            have after := congrArg Prod.snd hrun
            refine rewrites_trans _ _ _ ?_ (after ▸ reopened _ _)
            exact rewrites_stored stored rfl rfl
          · rename_i hrun
            have after := congrArg Prod.snd hrun
            refine rewrites_trans _ _ _ ?_ (after ▸ reopened _ _)
            exact rewrites_stored stored rfl rfl
        · rename_i hpayload
          obtain ⟨-, rfl⟩ := Prod.mk.injEq .. ▸ hpayload
          exact rewrites_refl repo

theorem dismissDeadLetter_rewrites (jobId : String) (reason : Option String) (now : Time) :
    Keeps Rewrites (dismissDeadLetterWorkflowJob jobId reason now) := by
  intro repo
  simp only [dismissDeadLetterWorkflowJob, bind_run, getWorkflowJob_run]
  cases stored : repo.workflowJobs.get? jobId with
  | none => exact rewrites_refl repo
  | some job =>
    simp only [found_some]
    split
    · exact rewrites_refl repo
    · simp only [bind_run, ofExcept_run]
      split
      · rename_i payload s' hpayload
        obtain ⟨-, rfl⟩ := Prod.mk.injEq .. ▸ hpayload
        exact rewrites_stored stored rfl rfl
      · rename_i hpayload
        obtain ⟨-, rfl⟩ := Prod.mk.injEq .. ▸ hpayload
        exact rewrites_refl repo

end methods

/-! New jobs, and a run put in place of another. -/

theorem appendJob_filed {repo : Repo} (filed : Filed repo) (job : WorkflowJobRecord) :
    Filed (repo.appendJob job) := by
  constructor
  · intro jobId
    simp only [Repo.appendJob, List.mem_append, List.mem_singleton, Dict.get?_set, filed.listed]
    by_cases hit : job.id = jobId
    · simp [hit]
    · have other : ¬ jobId = job.id := fun h => hit h.symm
      simp [hit, other]
  · intro jobId stored found
    simp only [Repo.appendJob, Dict.get?_set] at found
    split at found
    · rename_i hit
      simp only [Option.some.injEq] at found
      rw [← found, hit]
    · exact filed.id_eq jobId stored found

theorem appendJobs_filed {repo : Repo} (filed : Filed repo) (jobs : List WorkflowJobRecord) :
    Filed (jobs.foldl Repo.appendJob repo) := by
  induction jobs generalizing repo with
  | nil => exact filed
  | cons job rest ih => exact ih (appendJob_filed filed job)

theorem withoutJobsOf_get? (repo : Repo) (runId jobId : String) :
    (repo.withoutJobsOf runId).workflowJobs.get? jobId =
      (repo.workflowJobs.get? jobId).filter fun job => job.runId ≠ runId :=
  Dict.get?_retain _ _ _

theorem withoutJobsOf_filed {repo : Repo} (filed : Filed repo) (runId : String) :
    Filed (repo.withoutJobsOf runId) := by
  constructor
  · intro jobId
    rw [withoutJobsOf_get?]
    simp only [Repo.withoutJobsOf, List.mem_filter, filed.listed]
    cases repo.workflowJobs.get? jobId with
    | none => simp
    | some job => by_cases own : job.runId = runId <;> simp [Option.filter, own]
  · intro jobId job found
    rw [withoutJobsOf_get?, Option.filter_eq_some_iff] at found
    exact filed.id_eq jobId job found.1

theorem filed_of_same {repo repo' : Repo} (filed : Filed repo)
    (jobs : repo'.workflowJobs = repo.workflowJobs)
    (order : repo'.workflowJobOrder = repo.workflowJobOrder) : Filed repo' :=
  rewrites_filed (rewrites_of_same jobs order) filed

theorem restoreRun_filed [PyRuntime] {repo : Repo} (filed : Filed repo) (contents : RunContents) :
    Filed (restoreRun contents repo).2 := by
  have emptied : Filed (Repo.withoutJobsOf
      { repo with
        runs := repo.runs.set contents.run.id contents.run
        artifacts := repo.artifacts.set contents.run.id contents.artifacts
        graphNodes := repo.graphNodes.set contents.run.id contents.graphNodes
        events := repo.events.set contents.run.id contents.events
        evaluations := repo.evaluations.set contents.run.id contents.evaluations }
      contents.run.id) := by
    refine withoutJobsOf_filed (filed_of_same filed ?_ ?_) _ <;> rfl
  have refilled := appendJobs_filed emptied contents.workflowJobs
  simp only [restoreRun, bind_run, change_run]
  cases contents.checkpoint with
  | none => exact filed_of_same refilled rfl rfl
  | some checkpoint => exact filed_of_same refilled rfl rfl

theorem enqueue_filed [PyRuntime] {repo : Repo} (filed : Filed repo) (runId workflowName : String)
    (payload : PyDict) (maxAttempts : Int) (jobId : Option String) (status : WorkflowJobStatus)
    (fresh : String) (now : Time) :
    Filed (enqueueWorkflowJob runId workflowName payload maxAttempts jobId status fresh now
      repo).2 := by
  simp only [enqueueWorkflowJob]
  split_ifs
  · exact filed
  · exact filed
  · exact filed
  all_goals
    simp only [bind_run, getRun_run]
    cases repo.runs.get? runId with
    | none => exact filed
    | some run =>
      simp only [found_some, ofExcept_run]
      cases redactEntries payload with
      | error e => exact filed
      | ok payload => exact appendJob_filed filed _

/-- The states of the repository. A method that is not named leaves the job table
    alone. -/
inductive Reached [PyRuntime] : Repo → Prop where
  | init : Reached .init
  | elsewhere {repo repo' : Repo} (reached : Reached repo)
      (jobs : repo'.workflowJobs = repo.workflowJobs)
      (order : repo'.workflowJobOrder = repo.workflowJobOrder) : Reached repo'
  | enqueue {repo : Repo} (reached : Reached repo) (runId workflowName : String)
      (payload : PyDict) (maxAttempts : Int) (jobId : Option String) (status : WorkflowJobStatus)
      (fresh : String) (now : Time) :
      Reached (enqueueWorkflowJob runId workflowName payload maxAttempts jobId status fresh now
        repo).2
  | updateResult {repo : Repo} (reached : Reached repo) (jobId : String)
      (status : WorkflowJobStatus) (payload : Option PyDict) (errorSummary : Option String)
      (now : Time) :
      Reached (updateWorkflowJobResult jobId status payload errorSummary now repo).2
  | claimNext {repo : Repo} (reached : Reached repo) (workerId : String)
      (workflowName : Option String) (staleAfterSeconds : Option Int) (recoveredAt now : Time) :
      Reached (claimNextWorkflowJob workerId workflowName staleAfterSeconds recoveredAt now repo).2
  | claim {repo : Repo} (reached : Reached repo) (jobId workerId : String)
      (staleAfterSeconds : Option Int) (recoveredAt now : Time) :
      Reached (claimWorkflowJob jobId workerId staleAfterSeconds recoveredAt now repo).2
  | heartbeat {repo : Repo} (reached : Reached repo) (jobId workerId : String) (now : Time) :
      Reached (heartbeatWorkflowJob jobId workerId now repo).2
  | complete {repo : Repo} (reached : Reached repo) (jobId : String) (workerId : Option String)
      (now : Time) : Reached (completeWorkflowJob jobId workerId now repo).2
  | fail {repo : Repo} (reached : Reached repo) (jobId errorSummary : String) (retry : Bool)
      (workerId : Option String) (now : Time) :
      Reached (failWorkflowJob jobId errorSummary retry workerId now repo).2
  | recover {repo : Repo} (reached : Reached repo) (timeoutSeconds : Int)
      (workflowName : Option String) (now : Time) :
      Reached (recoverTimedOutWorkflowJobs timeoutSeconds workflowName now repo).2
  | retryDeadLetter {repo : Repo} (reached : Reached repo) (jobId : String)
      (reason : Option String) (now : Time) :
      Reached (retryDeadLetterWorkflowJob jobId reason now repo).2
  | dismissDeadLetter {repo : Repo} (reached : Reached repo) (jobId : String)
      (reason : Option String) (now : Time) :
      Reached (dismissDeadLetterWorkflowJob jobId reason now repo).2
  | restore {repo : Repo} (reached : Reached repo) (contents : RunContents) :
      Reached (restoreRun contents repo).2

theorem reached_filed [PyRuntime] {repo : Repo} (reached : Reached repo) : Filed repo := by
  induction reached with
  | init => constructor <;> simp [Repo.init]
  | elsewhere _ jobs order ih => exact filed_of_same ih jobs order
  | enqueue _ runId workflowName payload maxAttempts jobId status fresh now ih =>
    exact enqueue_filed ih runId workflowName payload maxAttempts jobId status fresh now
  | updateResult _ jobId status payload errorSummary now ih =>
    exact rewrites_filed (updateResult_rewrites jobId status payload errorSummary now _) ih
  | claimNext _ workerId workflowName staleAfterSeconds recoveredAt now ih =>
    rename_i repo _
    have recovered := recoverStale_rewrites staleAfterSeconds (normalizedWorkflow workflowName)
      recoveredAt repo
    simp only [claimNextWorkflowJob, bind_run]
    split
    · rename_i middle hstale
      rw [hstale] at recovered
      exact rewrites_filed (rewrites_trans _ _ _ recovered
        (claimsOne_rewrites (claimFirst_claims _ _ _ _ middle))) ih
    · rename_i middle hstale
      rw [hstale] at recovered
      exact rewrites_filed recovered ih
  | claim _ jobId workerId staleAfterSeconds recoveredAt now ih =>
    rename_i repo _
    have recovered := recoverStale_rewrites staleAfterSeconds none recoveredAt repo
    simp only [claimWorkflowJob, bind_run]
    split
    · rename_i middle hstale
      rw [hstale] at recovered
      refine rewrites_filed (rewrites_trans _ _ _ recovered ?_) ih
      simp only [getWorkflowJob_run]
      cases stored : middle.workflowJobs.get? jobId with
      | none => exact rewrites_refl middle
      | some job =>
        simp only [found_some]
        split
        · exact rewrites_refl middle
        · exact rewrites_stored stored rfl rfl
    · rename_i middle hstale
      rw [hstale] at recovered
      exact rewrites_filed recovered ih
  | heartbeat _ jobId workerId now ih =>
    exact rewrites_filed (heartbeat_rewrites jobId workerId now _) ih
  | complete _ jobId workerId now ih =>
    exact rewrites_filed (complete_rewrites jobId workerId now _) ih
  | fail _ jobId errorSummary retry workerId now ih =>
    exact rewrites_filed (fail_rewrites jobId errorSummary retry workerId now _) ih
  | recover _ timeoutSeconds workflowName now ih =>
    exact rewrites_filed (recoverTimedOut_rewrites timeoutSeconds workflowName now _) ih
  | retryDeadLetter _ jobId reason now ih =>
    exact rewrites_filed (retryDeadLetter_rewrites jobId reason now _) ih
  | dismissDeadLetter _ jobId reason now ih =>
    exact rewrites_filed (dismissDeadLetter_rewrites jobId reason now _) ih
  | restore _ contents ih => exact restoreRun_filed ih contents

end JobLifecycle
