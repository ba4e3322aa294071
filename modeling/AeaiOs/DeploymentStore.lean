import AeaiOs.DeploymentCalls
import AeaiOs.JobLifecycle

/-!
What is stored of deployments, and who changes it: each operation of a call as one effect, and
the calls of workers and operators, which leave all of it alone.
-/
namespace Deployments
open OrderedDict PyText CivilTime StoreAction AtomicProgram RunValues RunModels Redaction
open InMemoryRunRepository ToolPolicy

def isDecision (event : AgentEventRecord) : Bool :=
  decide (event.nodeId = nodeId ∧ event.eventType = AgentEventType.approvalDecision.value)

def deploymentArtifacts (repo : Repo) (runId : String) : List ArtifactRecord :=
  ((repo.artifacts.get? runId).getD []).filter fun artifact => artifact.type = .deployment

def decisionEvents (repo : Repo) (runId : String) : List AgentEventRecord :=
  ((repo.events.get? runId).getD []).filter isDecision

/-- What one operation of a call does to the repository, and its note. -/
inductive Effect (env : Env) (repo : Repo) : Option Note → Repo → Prop where
  | quiet {repo' : Repo} (jobs : repo'.workflowJobs = repo.workflowJobs)
      (artifacts : repo'.artifacts = repo.artifacts) (events : repo'.events = repo.events) :
      Effect env repo none repo'
  | found {jobId : String} {job : WorkflowJobRecord}
      (stored : repo.workflowJobs.get? jobId = some job) :
      Effect env repo (some (.found jobId job)) repo
  | requested {job : WorkflowJobRecord} (t : Nat) (fresh : job.id = "job_" ++ env.uuid t) :
      Effect env repo (some (.requested job)) (repo.appendJob job)
  | decided {jobId : String} {old job : WorkflowJobRecord}
      (stored : repo.workflowJobs.get? jobId = some old) (id : job.id = old.id)
      (ends : job.status = .completed ∨ job.status = .failed) :
      Effect env repo (some (.decided jobId job)) (repo.storeJob jobId job)
  | published (artifact : ArtifactRecord) (runs : Dict String RunRecord) :
      Effect env repo (some (.published artifact)) { repo.appendArtifact artifact with runs }
  | announced (event : AgentEventRecord) :
      Effect env repo (some (.announced event)) (repo.appendEvent event)

theorem effect_same (env : Env) (repo : Repo) : Effect env repo none repo := .quiet rfl rfl rfl

theorem getArtifact_same [PyRuntime] (runId artifactId : String) (repo : Repo) :
    (getArtifact runId artifactId repo).2 = repo := by
  simp only [getArtifact, Action.bind_run, getRun_run]
  cases repo.runs.get? runId with
  | none => rfl
  | some run => simp only [found_some, Action.read_run, present_run]

theorem exec_effect [PyRuntime] (env : Env) {β : Type} (op : Op β) (site : Site) :
    Effect env site.store.repo (describe op ((handler env).handle op site).1)
      ((handler env).handle op site).2.store.repo := by
  cases op with
  | utcNow => exact effect_same env _
  | uuid4 => exact effect_same env _
  | getRun runId =>
    change Effect env _ none (getRun runId site.store.repo).2
    rw [getRun_run]
    exact effect_same env _
  | getArtifact runId artifactId =>
    change Effect env _ none (getArtifact runId artifactId site.store.repo).2
    rw [getArtifact_same]
    exact effect_same env _
  | getWorkflowJob jobId =>
    change Effect env _ (describe (.getWorkflowJob jobId)
      (getWorkflowJob jobId site.store.repo).1) (getWorkflowJob jobId site.store.repo).2
    rw [getWorkflowJob_run]
    cases stored : site.store.repo.workflowJobs.get? jobId with
    | none => exact effect_same env _
    | some job => exact .found stored
  | updateStatus runId status errorSummary =>
    change Effect env _ none (updateStatus runId status errorSummary (env.clock site.tick 0)
      site.store.repo).2
    obtain ⟨runs, updated⟩ := updateStatus_effect runId status errorSummary
      (env.clock site.tick 0) site.store.repo
    rw [updated]
    exact .quiet rfl rfl rfl
  | enqueueWorkflowJob runId workflow payload maxAttempts status =>
    change Effect env _ (describe (.enqueueWorkflowJob runId workflow payload maxAttempts status)
      (enqueueWorkflowJob runId workflow payload maxAttempts none status (env.uuid site.tick)
        (env.clock site.tick 0) site.store.repo).1)
      (enqueueWorkflowJob runId workflow payload maxAttempts none status (env.uuid site.tick)
        (env.clock site.tick 0) site.store.repo).2
    rcases enqueue_effect runId workflow payload maxAttempts status (env.uuid site.tick)
      (env.clock site.tick 0) site.store.repo with ⟨e, refused⟩ | ⟨job, fresh, -, made⟩
    · rw [refused]
      exact effect_same env _
    · rw [made]
      exact .requested site.tick fresh
  | updateWorkflowJobResult jobId status payload errorSummary =>
    change Effect env _ (describe (.updateWorkflowJobResult jobId status payload errorSummary)
      (updateWorkflowJobResult jobId status (some payload) errorSummary (env.clock site.tick 0)
        site.store.repo).1)
      (updateWorkflowJobResult jobId status (some payload) errorSummary (env.clock site.tick 0)
        site.store.repo).2
    rcases updateResult_effect jobId status payload errorSummary (env.clock site.tick 0)
      site.store.repo with ⟨e, refused⟩ | ⟨old, job, stored, id, stands, ends, -, made⟩
    · rw [refused]
      exact effect_same env _
    · rw [made]
      exact .decided stored id (by rw [stands]; exact ends)
  | addArtifact given =>
    change Effect env _ (describe (.addArtifact given) (RunArchive.addArtifact given
        (env.uuid site.tick) (env.clock site.tick 0) (env.clock site.tick 1) site.store.repo).1)
      (RunArchive.addArtifact given (env.uuid site.tick) (env.clock site.tick 0)
        (env.clock site.tick 1) site.store.repo).2
    rcases addArtifact_effect given (env.uuid site.tick) (env.clock site.tick 0)
      (env.clock site.tick 1) site.store.repo with ⟨e, refused⟩ | ⟨artifact, runs, -, -, -, made⟩
    · rw [refused]
      exact effect_same env _
    · rw [made]
      exact .published artifact runs
  | addEvent given =>
    change Effect env _ (describe (.addEvent given) (addEvent given site.store.repo).1)
      (addEvent given site.store.repo).2
    rcases addEvent_effect given site.store.repo with ⟨e, refused⟩ | ⟨payload, made⟩
    · rw [refused]
      exact effect_same env _
    · rw [made]
      exact .announced _

/-- What the rest of the program leaves alone: a job that waits or has ended, what has been
    published, and the events that tell of decisions. -/
structure LeavesAlone (jobId : String) (repo repo' : Repo) : Prop where
  ids : (∀ id job, repo.workflowJobs.get? id = some job → job.id = id) →
    ∀ id job, repo'.workflowJobs.get? id = some job → job.id = id
  job : ∀ job, repo.workflowJobs.get? jobId = some job →
    job.status = .waitingForApproval ∨ job.status = .completed ∨ job.status = .failed →
    repo'.workflowJobs.get? jobId = some job
  artifacts : ∀ runId, deploymentArtifacts repo' runId = deploymentArtifacts repo runId
  events : ∀ runId, decisionEvents repo' runId = decisionEvents repo runId

/-! Workers and operators leave deployments alone, whatever they do to other jobs. -/

section workers
open Action JobLifecycle

/-- Neither artifacts nor events have come or gone. -/
def Beside (repo repo' : Repo) : Prop :=
  repo'.artifacts = repo.artifacts ∧ repo'.events = repo.events

theorem beside_refl (repo : Repo) : Beside repo repo := ⟨rfl, rfl⟩

theorem beside_trans (a b c : Repo) (first : Beside a b) (second : Beside b c) : Beside a c :=
  ⟨second.1.trans first.1, second.2.trans first.2⟩

theorem beside_stored (jobId : String) (job : WorkflowJobRecord) :
    Keeps Beside (change fun repo : Repo => repo.storeJob jobId job : RepoM Unit) :=
  fun _ => ⟨rfl, rfl⟩

theorem beside_present {α : Type} (value : Option α) (missing : PyError) :
    Keeps Beside (present value missing) :=
  keeps_ofExcept beside_refl _

theorem beside_getRun (runId : String) : Keeps Beside (getRun runId) :=
  keeps_bind beside_trans (keeps_read beside_refl) fun _ => beside_present _ _

theorem beside_getWorkflowJob (jobId : String) : Keeps Beside (getWorkflowJob jobId) :=
  keeps_bind beside_trans (keeps_read beside_refl) fun _ => beside_present _ _

theorem beside_claimFirst (workerId : String) (workflow : Option String) (now : Time)
    (order : List String) : Keeps Beside (claimFirst workerId workflow now order) := by
  induction order with
  | nil => exact keeps_pure beside_refl _
  | cons jobId rest ih =>
    unfold claimFirst
    apply keeps_bind beside_trans (keeps_read beside_refl)
    intro repo
    apply keeps_bind beside_trans (beside_present _ _)
    intro job
    dsimp only
    split
    · exact ih
    · split
      · exact ih
      · exact keeps_bind beside_trans (beside_stored _ _) fun _ => keeps_pure beside_refl _

theorem beside_heartbeat (jobId workerId : String) (now : Time) :
    Keeps Beside (heartbeatWorkflowJob jobId workerId now) :=
  keeps_bind beside_trans (beside_getWorkflowJob _) fun _ =>
    keeps_bind beside_trans (keeps_ofExcept beside_refl _) fun _ =>
      keeps_bind beside_trans (beside_stored _ _) fun _ => keeps_pure beside_refl _

theorem beside_complete (jobId : String) (workerId : Option String) (now : Time) :
    Keeps Beside (completeWorkflowJob jobId workerId now) := by
  apply keeps_bind beside_trans (beside_getWorkflowJob _)
  intro job
  split
  · exact keeps_pure beside_refl _
  · exact keeps_bind beside_trans (keeps_ofExcept beside_refl _) fun _ =>
      keeps_bind beside_trans (beside_stored _ _) fun _ => keeps_pure beside_refl _

theorem beside_reopen (job : WorkflowJobRecord) (now : Time) :
    Keeps Beside (reopenRunOf job now) :=
  keeps_bind beside_trans (beside_getRun _) fun _ _ => ⟨rfl, rfl⟩

variable [PyRuntime]

theorem beside_failRun (job : WorkflowJobRecord) (errorSummary : String) (now : Time) :
    Keeps Beside (failRunOf job errorSummary now) := by
  unfold failRunOf
  split
  · exact keeps_bind beside_trans (beside_getRun _) fun _ =>
      keeps_bind beside_trans (keeps_ofExcept beside_refl _) fun _ _ => ⟨rfl, rfl⟩
  · exact keeps_pure beside_refl _

theorem beside_giveUp (jobId : String) (job : WorkflowJobRecord) (shouldRetry : Bool)
    (errorSummary : String) (workerId : Option String) (reason : String) (now : Time) :
    Keeps Beside (giveUpAttempt jobId job shouldRetry errorSummary workerId reason now) :=
  keeps_bind beside_trans (keeps_ofExcept beside_refl _) fun _ =>
    keeps_bind beside_trans (keeps_ofExcept beside_refl _) fun _ =>
      keeps_bind beside_trans (beside_stored _ _) fun _ =>
        keeps_bind beside_trans (beside_failRun _ _ _) fun _ => keeps_pure beside_refl _

theorem beside_recoverJobs (timeoutSeconds : Int) (workflow : Option String)
    (referenceTime cutoff : Time) (order : List String) :
    Keeps Beside (recoverJobs timeoutSeconds workflow referenceTime cutoff order) := by
  induction order with
  | nil => exact keeps_pure beside_refl _
  | cons jobId rest ih =>
    have one : Keeps Beside (recoverJob timeoutSeconds workflow referenceTime cutoff jobId) := by
      apply keeps_bind beside_trans (keeps_read beside_refl)
      intro repo
      apply keeps_bind beside_trans (beside_present _ _)
      intro job
      split
      · exact keeps_pure beside_refl _
      · split
        · exact keeps_pure beside_refl _
        · split
          · exact keeps_pure beside_refl _
          · exact keeps_bind beside_trans (beside_giveUp _ _ _ _ _ _ _) fun _ =>
              keeps_pure beside_refl _
    exact keeps_bind beside_trans one fun _ =>
      keeps_bind beside_trans ih fun _ => keeps_pure beside_refl _

theorem beside_recover (timeoutSeconds : Int) (workflowName : Option String) (now : Time) :
    Keeps Beside (recoverTimedOutWorkflowJobs timeoutSeconds workflowName now) := by
  unfold recoverTimedOutWorkflowJobs
  split
  · exact keeps_raise beside_refl _
  · exact keeps_bind beside_trans (keeps_ofExcept beside_refl _) fun _ =>
      keeps_bind beside_trans (keeps_read beside_refl) fun _ => beside_recoverJobs _ _ _ _ _

theorem beside_recoverStale (staleAfterSeconds : Option Int) (workflowName : Option String)
    (now : Time) : Keeps Beside (recoverStale staleAfterSeconds workflowName now) := by
  cases staleAfterSeconds with
  | none => exact keeps_pure beside_refl _
  | some timeoutSeconds =>
    exact keeps_bind beside_trans (beside_recover _ _ _) fun _ => keeps_pure beside_refl _

theorem beside_claimNext (workerId : String) (workflowName : Option String)
    (staleAfterSeconds : Option Int) (recoveredAt now : Time) :
    Keeps Beside (claimNextWorkflowJob workerId workflowName staleAfterSeconds recoveredAt now) :=
  keeps_bind beside_trans (beside_recoverStale _ _ _) fun _ =>
    keeps_bind beside_trans (keeps_read beside_refl) fun _ => beside_claimFirst _ _ _ _

theorem beside_claim (jobId workerId : String) (staleAfterSeconds : Option Int)
    (recoveredAt now : Time) :
    Keeps Beside (claimWorkflowJob jobId workerId staleAfterSeconds recoveredAt now) := by
  apply keeps_bind beside_trans (beside_recoverStale _ _ _)
  intro _
  apply keeps_bind beside_trans (beside_getWorkflowJob _)
  intro job
  split
  · exact keeps_pure beside_refl _
  · exact keeps_bind beside_trans (beside_stored _ _) fun _ => keeps_pure beside_refl _

theorem beside_fail (jobId errorSummary : String) (retry : Bool) (workerId : Option String)
    (now : Time) : Keeps Beside (failWorkflowJob jobId errorSummary retry workerId now) :=
  keeps_bind beside_trans (beside_getWorkflowJob _) fun _ =>
    keeps_bind beside_trans (keeps_ofExcept beside_refl _) fun _ => beside_giveUp _ _ _ _ _ _ _

theorem beside_retry (jobId : String) (reason : Option String) (now : Time) :
    Keeps Beside (retryDeadLetterWorkflowJob jobId reason now) := by
  apply keeps_bind beside_trans (beside_getWorkflowJob _)
  intro job
  split
  · exact keeps_raise beside_refl _
  · exact keeps_bind beside_trans (keeps_ofExcept beside_refl _) fun _ =>
      keeps_bind beside_trans (keeps_ofExcept beside_refl _) fun _ =>
        keeps_bind beside_trans (beside_stored _ _) fun _ =>
          keeps_bind beside_trans (beside_reopen _ _) fun _ => keeps_pure beside_refl _

theorem beside_dismiss (jobId : String) (reason : Option String) (now : Time) :
    Keeps Beside (dismissDeadLetterWorkflowJob jobId reason now) := by
  apply keeps_bind beside_trans (beside_getWorkflowJob _)
  intro job
  split
  · exact keeps_raise beside_refl _
  · exact keeps_bind beside_trans (keeps_ofExcept beside_refl _) fun _ =>
      keeps_bind beside_trans (beside_stored _ _) fun _ => keeps_pure beside_refl _

/-- The part of `LeavesAlone` that is about jobs. -/
structure JobsAlone (jobId : String) (repo repo' : Repo) : Prop where
  ids : (∀ id job, repo.workflowJobs.get? id = some job → job.id = id) →
    ∀ id job, repo'.workflowJobs.get? id = some job → job.id = id
  job : ∀ job, repo.workflowJobs.get? jobId = some job →
    job.status = .waitingForApproval ∨ job.status = .completed ∨ job.status = .failed →
    repo'.workflowJobs.get? jobId = some job

omit [PyRuntime] in
theorem JobsAlone.beside {jobId : String} {repo repo' : Repo} (jobs : JobsAlone jobId repo repo')
    (beside : Beside repo repo') : LeavesAlone jobId repo repo' where
  ids := jobs.ids
  job := jobs.job
  artifacts runId := by
    unfold deploymentArtifacts
    rw [beside.1]
  events runId := by
    unfold decisionEvents
    rw [beside.2]

omit [PyRuntime] in
theorem jobsAlone_trans {jobId : String} {a b c : Repo} (first : JobsAlone jobId a b)
    (second : JobsAlone jobId b c) : JobsAlone jobId a c where
  ids filed := second.ids (first.ids filed)
  job job stored settled := second.job job (first.job job stored settled) settled

omit [PyRuntime] in
/-- Only a queued, a running or a dead job moves, and it keeps its id. -/
theorem moves_alone (jobId : String) {cause : Cause} {repo repo' : Repo}
    (moved : MovesEach cause repo repo') : JobsAlone jobId repo repo' := by
  constructor
  · intro filed id job' found
    obtain ⟨job, stored, same | move⟩ := movesEach_some moved found
    · rw [same]
      exact filed id job stored
    · rw [moves_id move]
      exact filed id job stored
  · intro job stored settled
    obtain ⟨job', after, same | move⟩ := movesEach_kept moved stored
    · rw [after, same]
    · rcases moves_from move with h | h | h <;> rw [h] at settled <;> simp at settled

omit [PyRuntime] in
theorem claims_alone (jobId : String) {workerId : String} {repo middle : Repo}
    {result : Except PyError (Option WorkflowJobRecord) × Repo}
    (recovered : MovesEach .recovered repo middle) (claims : ClaimsOne workerId middle result) :
    JobsAlone jobId repo result.2 := by
  apply jobsAlone_trans (moves_alone jobId recovered)
  rcases claims with ⟨same, -⟩ | ⟨k, job, now, found, queued, rfl⟩
  · rw [same]
    exact moves_alone jobId (recovered_each_refl middle)
  · exact moves_alone jobId (movesOne_each (.inr ⟨k, job, _, found, .claim queued workerId now, rfl⟩))

omit [PyRuntime] in
theorem holds_alone (jobId : String) {workerId k : String} {repo : Repo}
    {result : Except PyError WorkflowJobRecord × Repo} (holds : HoldsOne workerId k repo result) :
    JobsAlone jobId repo result.2 := by
  rcases holds with ⟨same, -⟩ | ⟨job, -, -, same⟩ | ⟨job, -, -, -, moved, -⟩
  · rw [same]
    exact moves_alone jobId (recovered_each_refl repo)
  · rw [same]
    exact moves_alone jobId (recovered_each_refl repo)
  · exact moves_alone jobId (movesOne_each moved)

theorem enqueue_alone {jobId runId workflow fresh : String} {payload : PyDict} {maxAttempts : Int}
    {now : Time} (repo : Repo) (other : "job_" ++ fresh ≠ jobId) :
    LeavesAlone jobId repo
      (enqueueWorkflowJob runId workflow payload maxAttempts none .queued fresh now repo).2 := by
  rcases enqueue_effect runId workflow payload maxAttempts .queued fresh now repo with
    ⟨e, refused⟩ | ⟨job, made, -, filed⟩
  · rw [refused]
    exact (moves_alone jobId (recovered_each_refl repo)).beside (beside_refl repo)
  · rw [filed]
    have jobs : JobsAlone jobId repo (repo.appendJob job) := by
      constructor
      · intro filed id job' found
        simp only [Repo.appendJob, Dict.get?_set] at found
        split at found
        · rename_i same
          cases found
          exact same
        · exact filed id job' found
      · intro job' stored settled
        rw [← made] at other
        exact (Dict.get?_set_other _ _ other).trans stored
    exact jobs.beside ⟨rfl, rfl⟩

/-- Every call that workers and operators make on the job table, an enqueue with a fresh id too. -/
theorem workers_leave_alone {jobId : String} (call : JobCall)
    (fresh : ∀ drawn ∈ call.drawn, "job_" ++ drawn ≠ jobId) (repo : Repo) :
    LeavesAlone jobId repo (call.perform repo).2 := by
  cases call with
  | enqueue runId workflow payload maxAttempts drawn now =>
    simp only [JobCall.perform, listed_run]
    exact enqueue_alone repo (fresh drawn (by simp [JobCall.drawn]))
  | claimNext workerId workflowName staleAfterSeconds recoveredAt now =>
    simp only [JobCall.perform, listed_run]
    obtain ⟨middle, recovered, claims⟩ :=
      claimNext_claims workerId workflowName staleAfterSeconds recoveredAt now repo
    exact (claims_alone jobId recovered claims).beside (beside_claimNext _ _ _ _ _ repo)
  | claim k workerId staleAfterSeconds recoveredAt now =>
    simp only [JobCall.perform, listed_run]
    obtain ⟨middle, recovered, claims⟩ :=
      claim_claims k workerId staleAfterSeconds recoveredAt now repo
    exact (claims_alone jobId recovered claims).beside (beside_claim _ _ _ _ _ repo)
  | heartbeat k workerId now =>
    simp only [JobCall.perform, listed_run]
    exact (holds_alone jobId (heartbeat_holds k workerId now repo)).beside
      (beside_heartbeat _ _ _ repo)
  | complete k workerId now =>
    simp only [JobCall.perform, listed_run]
    exact (holds_alone jobId (complete_holds k workerId now repo)).beside
      (beside_complete _ _ _ repo)
  | fail k errorSummary retry workerId now =>
    simp only [JobCall.perform, listed_run]
    exact (holds_alone jobId (fail_holds k errorSummary retry workerId now repo)).beside
      (beside_fail _ _ _ _ _ repo)
  | recover timeoutSeconds workflowName now =>
    exact (moves_alone jobId (recoverTimedOut_each timeoutSeconds workflowName now repo)).beside
      (beside_recover _ _ _ repo)
  | retryDeadLetter k reason now =>
    simp only [JobCall.perform, listed_run]
    exact (moves_alone jobId (movesOne_each (retryDeadLetter_moves k reason now repo))).beside
      (beside_retry _ _ _ repo)
  | dismissDeadLetter k reason now =>
    simp only [JobCall.perform, listed_run]
    exact (moves_alone jobId (movesOne_each (dismissDeadLetter_moves k reason now repo))).beside
      (beside_dismiss _ _ _ repo)

/-- One call of a worker or an operator. -/
def Workers (jobId : String) (site site' : Site) : Prop :=
  ∃ call : JobCall, (∀ drawn ∈ call.drawn, "job_" ++ drawn ≠ jobId) ∧
    site'.store.repo = (call.perform site.store.repo).2

theorem workers_apart {jobId : String} (site site' : Site) (worked : Workers jobId site site') :
    LeavesAlone jobId site.store.repo site'.store.repo := by
  obtain ⟨call, fresh, done⟩ := worked
  rw [done]
  exact workers_leave_alone call fresh _

end workers

end Deployments
