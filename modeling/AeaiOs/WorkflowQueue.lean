import AeaiOs.JobTable

/-!
The queue of job ids in front of the repository. The ids in a list may be stale,
doubled, unknown or missing: a claim takes them as hints, and scans the
repository when they have led to no job.
-/
namespace WorkflowQueue
open OrderedDict PyText CivilTime StoreAction Action RunValues RunModels InMemoryRunRepository
open JobLifecycle

structure RedisWorkflowQueue where
  keyPrefix : String
  maxPopAttempts : Int

/-- `key_prefix.strip(":") or "aeai:workflow"` -/
def RedisWorkflowQueue.make (keyPrefix : String) (maxPopAttempts : Int) : RedisWorkflowQueue :=
  let bare := ((keyPrefix.toList.dropWhile (· = ':')).reverse.dropWhile (· = ':')).reverse
  { keyPrefix := if bare = [] then "aeai:workflow" else String.ofList bare, maxPopAttempts }

/-- The repository and the lists of the Redis server. -/
structure Backend where
  repo : Repo
  lists : Dict String (List String)

def Backend.listAt (backend : Backend) (key : String) : List String :=
  (backend.lists.get? key).getD []

abbrev QueueM (α : Type) : Type := Action Backend PyError α

def onRepository (action : RepoM α) : QueueM α := fun backend =>
  ((action backend.repo).1, { backend with repo := (action backend.repo).2 })

@[simp] theorem onRepository_run (action : RepoM α) (backend : Backend) :
    onRepository action backend =
      ((action backend.repo).1, { backend with repo := (action backend.repo).2 }) := rfl

def lpop (key : String) : QueueM (Option String) := fun backend =>
  match backend.listAt key with
  | [] => (.ok none, backend)
  | first :: rest => (.ok (some first), { backend with lists := backend.lists.set key rest })

def rpush (key value : String) : QueueM Unit :=
  change fun backend =>
    { backend with lists := backend.lists.set key (backend.listAt key ++ [value]) }

section queue
variable [PyRuntime] (queue : RedisWorkflowQueue)

def queueKey (workflowName : String) : String := s!"{queue.keyPrefix}:queue:{workflowName}"

def pushJob (job : WorkflowJobRecord) : QueueM Unit :=
  rpush (queueKey queue job.workflowName) job.id

def pushQueued : List WorkflowJobRecord → QueueM Unit
  | [] => pure ()
  | job :: rest => do
      if job.status = .queued then pushJob queue job else pure ()
      pushQueued rest

def enqueue (runId workflowName : String) (payload : PyDict) (maxAttempts : Int)
    (fresh : String) (now : Time) : QueueM WorkflowJobRecord := do
  let job ← onRepository <|
    enqueueWorkflowJob runId workflowName payload maxAttempts none .queued fresh now
  pushJob queue job
  return job

def fail (jobId workerId errorSummary : String) (retry : Bool) (now : Time) :
    QueueM WorkflowJobRecord := do
  let job ← onRepository (failWorkflowJob jobId errorSummary retry (some workerId) now)
  pushQueued queue [job]
  return job

def retryDeadLetter (jobId : String) (reason : Option String) (now : Time) :
    QueueM WorkflowJobRecord := do
  let job ← onRepository (retryDeadLetterWorkflowJob jobId reason now)
  pushJob queue job
  return job

def recoverTimedOut (timeoutSeconds : Int) (workflowName : Option String) (now : Time) :
    QueueM (List WorkflowJobRecord) := do
  let recovered ← onRepository (recoverTimedOutWorkflowJobs timeoutSeconds workflowName now)
  pushQueued queue recovered
  return recovered

/-- The claim of a popped id; an id that no job has counts as one that cannot be
    claimed. -/
def claimPopped (jobId workerId : String) (now : Time) : QueueM (Option WorkflowJobRecord) :=
  fun backend =>
    match onRepository (claimWorkflowJob jobId workerId none now now) backend with
    | (.error (.workflowJobNotFound _), backend') => (.ok none, backend')
    | outcome => outcome

def popLoop (key workerId : String) (now : Time) : Nat → QueueM (Option WorkflowJobRecord)
  | 0 => pure none
  | attempts + 1 => do
      match ← lpop key with
      | none => pure none
      | some jobId =>
          match ← claimPopped jobId workerId now with
          | some job => pure (some job)
          | none => popLoop key workerId now attempts

def popNamed (workerId : String) (workflowName : Option String) (now : Time) :
    QueueM (Option WorkflowJobRecord) :=
  match workflowName with
  | none => pure none
  | some name =>
      if name = "" then pure none
      else popLoop (queueKey queue name) workerId now queue.maxPopAttempts.toNat

def recoverFirst (staleAfterSeconds : Option Int) (workflowName : Option String)
    (recoveredAt : Time) : QueueM Unit :=
  match staleAfterSeconds with
  | none => pure ()
  | some timeoutSeconds => do
      let _ ← recoverTimedOut queue timeoutSeconds workflowName recoveredAt

/-- `recoveredAt` and `now` are the two readings of the clock. -/
def claimNext (workerId : String) (workflowName : Option String)
    (staleAfterSeconds : Option Int) (recoveredAt now : Time) :
    QueueM (Option WorkflowJobRecord) := do
  recoverFirst queue staleAfterSeconds workflowName recoveredAt
  match ← popNamed queue workerId workflowName now with
  | some job => pure (some job)
  | none => onRepository (claimNextWorkflowJob workerId workflowName none now now)

end queue

/-! What the pushes of a recovery and a popped id can lead to. -/

/-- Every id in the list that the repository knows names a job of the workflow. -/
def ListsOnly (workflow : String) (ids : List String) (repo : Repo) : Prop :=
  ∀ jobId ∈ ids, ∀ job, repo.workflowJobs.get? jobId = some job → job.workflowName = workflow

/-- One queued job of the workflow has been claimed; nothing else has changed. -/
def ClaimedOne (workflow workerId : String) (now : Time) (repo : Repo)
    (claimed : WorkflowJobRecord) (repo' : Repo) : Prop :=
  ∃ jobId job, repo.workflowJobs.get? jobId = some job ∧ job.status = .queued ∧
    job.workflowName = workflow ∧ claimed = claimedJob job workerId now ∧
    repo' = repo.storeJob jobId claimed

def NoneQueued (workflow : String) (repo : Repo) : Prop :=
  ∀ jobId job, repo.workflowJobs.get? jobId = some job → job.workflowName = workflow →
    job.status ≠ .queued

/-- How a claim by hints ends: with one job claimed, or with the repository as it
    was. -/
def ClaimsAtMostOne (workflow workerId : String) (now : Time) (repo : Repo)
    (result : Except PyError (Option WorkflowJobRecord) × Backend) : Prop :=
  (result.1 = .ok none ∧ result.2.repo = repo) ∨
    ∃ claimed, result.1 = .ok (some claimed) ∧
      ClaimedOne workflow workerId now repo claimed result.2.repo

theorem queueKey_injective {queue : RedisWorkflowQueue} {a b : String}
    (h : queueKey queue a = queueKey queue b) : a = b := by
  have lists := congrArg String.toList h
  simp only [queueKey, String.toList_append, List.append_cancel_left_eq] at lists
  exact String.toList_inj.mp lists

/-- A push changes the lists only. -/
theorem pushQueued_run (queue : RedisWorkflowQueue) (jobs : List WorkflowJobRecord)
    (backend : Backend) :
    ∃ lists, pushQueued queue jobs backend = (.ok (), { backend with lists := lists }) := by
  induction jobs generalizing backend with
  | nil => exact ⟨backend.lists, rfl⟩
  | cons job rest ih =>
    simp only [pushQueued]
    split
    · obtain ⟨lists, pushed⟩ := ih (pushJob queue job backend).2
      exact ⟨lists, pushed⟩
    · exact ih backend

/-- Only the ids of pushed jobs are added to a list. -/
theorem pushQueued_listed (queue : RedisWorkflowQueue) (jobs : List WorkflowJobRecord)
    (backend : Backend) (key : String) :
    ∀ jobId ∈ (pushQueued queue jobs backend).2.listAt key,
      jobId ∈ backend.listAt key ∨
        ∃ job ∈ jobs, job.id = jobId ∧ queueKey queue job.workflowName = key := by
  induction jobs generalizing backend with
  | nil =>
    intro jobId member
    exact .inl member
  | cons job rest ih =>
    intro jobId member
    simp only [pushQueued] at member
    split at member
    · rcases ih (pushJob queue job backend).2 jobId member with old | ⟨other, inside, facts⟩
      · simp only [pushJob, rpush, change_run, Backend.listAt, Dict.get?_set] at old
        split at old
        · rename_i same
          simp only [Option.getD_some, List.mem_append, List.mem_singleton] at old
          rcases old with old | new
          · exact .inl (same ▸ old)
          · exact .inr ⟨job, by simp, new.symm, same⟩
        · exact .inl old
      · exact .inr ⟨other, List.mem_cons_of_mem _ inside, facts⟩
    · rcases ih backend jobId member with old | ⟨other, inside, facts⟩
      · exact .inl old
      · exact .inr ⟨other, List.mem_cons_of_mem _ inside, facts⟩

theorem claimWorkflowJob_run [PyRuntime] (jobId workerId : String) (recoveredAt now : Time)
    (repo : Repo) :
    claimWorkflowJob jobId workerId none recoveredAt now repo =
      match repo.workflowJobs.get? jobId with
      | none => (.error (.workflowJobNotFound jobId), repo)
      | some job =>
          if job.status = .queued then
            (.ok (some (claimedJob job workerId now)),
              repo.storeJob jobId (claimedJob job workerId now))
          else (.ok none, repo) := by
  simp only [claimWorkflowJob, recoverStale, bind_run, pure_run, getWorkflowJob_run]
  cases repo.workflowJobs.get? jobId with
  | none => rfl
  | some job => by_cases queued : job.status = .queued <;> simp [queued, bind_run]

theorem claimPopped_claims [PyRuntime] {workflow : String} {backend : Backend} {jobId : String}
    (known : ∀ job, backend.repo.workflowJobs.get? jobId = some job → job.workflowName = workflow)
    (workerId : String) (now : Time) :
    ClaimsAtMostOne workflow workerId now backend.repo
        (claimPopped jobId workerId now backend) ∧
      ((claimPopped jobId workerId now backend).1 = .ok none →
        (claimPopped jobId workerId now backend).2 = backend) := by
  simp only [claimPopped, onRepository_run, claimWorkflowJob_run]
  cases stored : backend.repo.workflowJobs.get? jobId with
  | none => exact ⟨.inl ⟨rfl, rfl⟩, fun _ => rfl⟩
  | some job =>
    by_cases queued : job.status = .queued
    · simp only [queued, if_true]
      refine ⟨.inr ⟨_, rfl, jobId, job, stored, queued, known job stored, rfl, rfl⟩, ?_⟩
      intro nothing
      cases nothing
    · simp only [queued, if_false]
      exact ⟨.inl ⟨rfl, rfl⟩, fun _ => trivial⟩

theorem popLoop_next [PyRuntime] {key jobId : String} {rest : List String} {backend : Backend}
    (front : backend.listAt key = jobId :: rest) (workerId : String) (now : Time)
    (attempts : Nat) :
    popLoop key workerId now (attempts + 1) backend =
      match claimPopped jobId workerId now
          { backend with lists := backend.lists.set key rest } with
      | (.ok (some job), backend') => (.ok (some job), backend')
      | (.ok none, backend') => popLoop key workerId now attempts backend'
      | (.error e, backend') => (.error e, backend') := by
  simp only [popLoop, bind_run, lpop, front]
  rcases claimPopped jobId workerId now { backend with lists := backend.lists.set key rest } with
    ⟨e | claimed, backend'⟩
  · rfl
  · cases claimed <;> rfl

/-- Induction on the pops that are left: a popped id either leads to its job, or is
    dropped and leaves the repository alone. -/
theorem popLoop_claims [PyRuntime] {workflow key : String} (workerId : String) (now : Time)
    (attempts : Nat) {backend : Backend}
    (listed : ListsOnly workflow (backend.listAt key) backend.repo) :
    ClaimsAtMostOne workflow workerId now backend.repo
      (popLoop key workerId now attempts backend) := by
  induction attempts generalizing backend with
  | zero => exact .inl ⟨rfl, rfl⟩
  | succ attempts ih =>
    cases front : backend.listAt key with
    | nil =>
      simp only [popLoop, bind_run, lpop, front]
      exact .inl ⟨rfl, rfl⟩
    | cons jobId rest =>
      rw [front] at listed
      obtain ⟨claims, kept⟩ := @claimPopped_claims _ workflow
        { backend with lists := backend.lists.set key rest } jobId (listed jobId (by simp)) workerId now
      rw [popLoop_next front]
      rcases claims with ⟨nothing, -⟩ | ⟨claimed, answered, one⟩
      · have dropped : claimPopped jobId workerId now
            { backend with lists := backend.lists.set key rest } =
            (.ok none, { backend with lists := backend.lists.set key rest }) :=
          Prod.ext nothing (kept nothing)
        rw [dropped]
        have shorter : ListsOnly workflow
            (Backend.listAt { backend with lists := backend.lists.set key rest } key)
            backend.repo := by
          intro k member job stored
          simp only [Backend.listAt, Dict.get?_set_self, Option.getD_some] at member
          exact listed k (List.mem_cons_of_mem _ member) job stored
        exact ih shorter
      · split
        · rename_i led
          rw [led] at answered one
          cases answered
          exact .inr ⟨claimed, rfl, one⟩
        · rename_i led
          rw [led] at answered
          cases answered
        · rename_i led
          rw [led] at answered
          cases answered

/-- The scan misses no queued job of the workflow. -/
theorem claimFirst_finds {workflow workerId : String} {now : Time} {order : List String}
    {repo : Repo} (stored : ∀ jobId ∈ order, ∃ job, repo.workflowJobs.get? jobId = some job) :
    (claimFirst workerId (some workflow) now order repo = (.ok none, repo) ∧
        ∀ jobId ∈ order, ∀ job, repo.workflowJobs.get? jobId = some job →
          job.workflowName = workflow → job.status ≠ .queued) ∨
      ∃ claimed repo', claimFirst workerId (some workflow) now order repo =
          (.ok (some claimed), repo') ∧
        ClaimedOne workflow workerId now repo claimed repo' := by
  induction order with
  | nil => exact .inl ⟨rfl, by simp⟩
  | cons jobId rest ih =>
    obtain ⟨job, found⟩ := stored jobId (by simp)
    have later := ih fun k member => stored k (List.mem_cons_of_mem _ member)
    simp only [claimFirst, bind_run, read_run, present_run, found, found_some]
    by_cases queued : job.status = .queued
    · by_cases own : job.workflowName = workflow
      · refine .inr ⟨claimedJob job workerId now, repo.storeJob jobId _, ?_,
          jobId, job, found, queued, own, rfl, rfl⟩
        simp [queued, own, bind_run]
      · simp only [queued, ne_eq, not_true_eq_false, if_false, Option.any_some, own,
          not_false_eq_true, decide_true, if_true]
        rcases later with ⟨nothing, none⟩ | claims
        · refine .inl ⟨nothing, ?_⟩
          intro k member stored' at_k same
          rcases List.mem_cons.mp member with here | there
          · subst here
            rw [found] at at_k
            cases at_k
            exact absurd same own
          · exact none k there stored' at_k same
        · exact .inr claims
    · simp only [queued, ne_eq, not_false_eq_true, if_true]
      rcases later with ⟨nothing, none⟩ | claims
      · refine .inl ⟨nothing, ?_⟩
        intro k member stored' at_k same
        rcases List.mem_cons.mp member with here | there
        · subst here
          rw [found] at at_k
          cases at_k
          exact queued
        · exact none k there stored' at_k same
      · exact .inr claims

/-! The recovery that a claim begins with. -/

section recovery
variable [PyRuntime]

theorem giveUpAttempt_answers {jobId : String} {job given : WorkflowJobRecord}
    {shouldRetry : Bool} {errorSummary : String} {workerId : Option String} {reason : String}
    {now : Time} {repo repo' : Repo}
    (h : giveUpAttempt jobId job shouldRetry errorSummary workerId reason now repo =
      (.ok given, repo')) : given.id = job.id ∧ given.workflowName = job.workflowName := by
  simp only [giveUpAttempt, bind_run, ofExcept_run] at h
  cases summary : Redaction.redactText errorSummary with
  | error e => simp [summary] at h
  | ok summary' =>
    simp only [summary] at h
    split at h
    · simp only [change_run] at h
      split at h
      · simp only [pure_run, Prod.mk.injEq, Except.ok.injEq] at h
        rw [← h.1]
        exact ⟨rfl, rfl⟩
      · simp at h
    · simp at h

theorem recoverJob_answers {timeoutSeconds : Int} {workflow : Option String}
    {referenceTime cutoff : Time} {jobId : String} {given : WorkflowJobRecord} {repo repo' : Repo}
    (filed : Filed repo)
    (h : recoverJob timeoutSeconds workflow referenceTime cutoff jobId repo =
      (.ok (some given), repo')) :
    ∃ job, repo.workflowJobs.get? given.id = some job ∧ job.workflowName = given.workflowName := by
  simp only [recoverJob, bind_run, read_run, present_run] at h
  cases stored : repo.workflowJobs.get? jobId with
  | none => simp [stored] at h
  | some job =>
    simp only [stored, found_some] at h
    split_ifs at h
    · simp at h
    · simp at h
    · simp at h
    · rw [bind_run] at h
      split at h
      · rename_i outcome
        simp only [pure_run, Prod.mk.injEq, Except.ok.injEq, Option.some.injEq] at h
        obtain ⟨id, name⟩ := giveUpAttempt_answers outcome
        rw [h.1] at id name
        rw [id, filed.id_eq jobId job stored]
        exact ⟨job, stored, name.symm⟩
      · simp at h

/-- A recovery answers with records of filed jobs. -/
theorem recoverJobs_answers {timeoutSeconds : Int} {workflow : Option String}
    {referenceTime cutoff : Time} {order : List String} {repo repo' : Repo}
    {recovered : List WorkflowJobRecord} (filed : Filed repo)
    (h : recoverJobs timeoutSeconds workflow referenceTime cutoff order repo =
      (.ok recovered, repo')) :
    ∀ given ∈ recovered, ∃ job, repo.workflowJobs.get? given.id = some job ∧
      job.workflowName = given.workflowName := by
  induction order generalizing repo recovered with
  | nil =>
    simp only [recoverJobs, pure_run, Prod.mk.injEq, Except.ok.injEq] at h
    simp [← h.1]
  | cons jobId rest ih =>
    simp only [recoverJobs, bind_run] at h
    have first := recoverJob_rewrites timeoutSeconds workflow referenceTime cutoff jobId repo
    split at h
    · rename_i one middle outcome
      rw [outcome] at first
      split at h
      · rename_i others last later
        simp only [pure_run, Prod.mk.injEq, Except.ok.injEq] at h
        intro given member
        rw [← h.1, List.mem_append] at member
        rcases member with here | there
        · cases one with
          | none => simp at here
          | some answer =>
            simp only [Option.toList, List.mem_singleton] at here
            subst here
            exact recoverJob_answers filed outcome
        · have refiled : Filed middle := rewrites_filed first filed
          obtain ⟨job, stored, name⟩ := ih refiled (later.trans (by rw [h.2])) given there
          obtain ⟨old, before, -, same⟩ := rewrites_some first stored
          exact ⟨old, before, same.symm.trans name⟩
      · simp at h
    · simp at h

theorem recoverTimedOut_answers {timeoutSeconds : Int} {workflowName : Option String} {now : Time}
    {repo repo' : Repo} {recovered : List WorkflowJobRecord} (filed : Filed repo)
    (h : recoverTimedOutWorkflowJobs timeoutSeconds workflowName now repo =
      (.ok recovered, repo')) :
    ∀ given ∈ recovered, ∃ job, repo.workflowJobs.get? given.id = some job ∧
      job.workflowName = given.workflowName := by
  simp only [recoverTimedOutWorkflowJobs] at h
  split at h
  · simp at h
  · simp only [bind_run, ofExcept_run, read_run] at h
    split at h
    · rename_i cutoff same
      simp only [Prod.mk.injEq] at same
      obtain ⟨-, rfl⟩ := same
      exact recoverJobs_answers filed h
    · simp at h

omit [PyRuntime] in
theorem listsOnly_rewritten {workflow : String} {ids : List String} {repo repo' : Repo}
    (listed : ListsOnly workflow ids repo) (h : Rewrites repo repo') :
    ListsOnly workflow ids repo' := by
  intro jobId member job' found
  obtain ⟨job, stored, -, same⟩ := rewrites_some h found
  rw [same]
  exact listed jobId member job stored

/-- The recovery of the queue is that of the repository, and it adds only ids of jobs
    of the workflow to the workflow's list. -/
theorem recoverFirst_recovers (queue : RedisWorkflowQueue) (staleAfterSeconds : Option Int)
    {workflow : String} (recoveredAt : Time) {backend : Backend} (filed : Filed backend.repo)
    (listed : ListsOnly workflow (backend.listAt (queueKey queue workflow)) backend.repo) :
    ∃ lists,
      recoverFirst queue staleAfterSeconds (some workflow) recoveredAt backend =
        ((recoverStale staleAfterSeconds (some workflow) recoveredAt backend.repo).1,
          ⟨(recoverStale staleAfterSeconds (some workflow) recoveredAt backend.repo).2, lists⟩) ∧
      ListsOnly workflow
        (Backend.listAt
          ⟨(recoverStale staleAfterSeconds (some workflow) recoveredAt backend.repo).2, lists⟩
          (queueKey queue workflow))
        (recoverStale staleAfterSeconds (some workflow) recoveredAt backend.repo).2 := by
  cases staleAfterSeconds with
  | none => exact ⟨backend.lists, rfl, listed⟩
  | some timeoutSeconds =>
    have kept := recoverTimedOut_rewrites timeoutSeconds (some workflow) recoveredAt backend.repo
    simp only [recoverFirst, recoverTimedOut, recoverStale, bind_run, onRepository_run]
    rcases outcome : recoverTimedOutWorkflowJobs timeoutSeconds (some workflow) recoveredAt
      backend.repo with ⟨e | recovered, after⟩
    · rw [outcome] at kept
      exact ⟨backend.lists, rfl, listsOnly_rewritten listed kept⟩
    · rw [outcome] at kept
      simp only
      obtain ⟨lists, pushed⟩ := pushQueued_run queue recovered { backend with repo := after }
      have added := pushQueued_listed queue recovered { backend with repo := after }
        (queueKey queue workflow)
      rw [pushed] at added ⊢
      refine ⟨lists, rfl, ?_⟩
      intro jobId member job found
      rcases added jobId member with old | ⟨given, inside, id, key⟩
      · exact listsOnly_rewritten listed kept jobId old job found
      · obtain ⟨old, stored, name⟩ := recoverTimedOut_answers filed outcome given inside
        obtain ⟨old', stored', -, same⟩ := rewrites_some kept found
        rw [id, stored'] at stored
        cases stored
        rw [same, name]
        exact queueKey_injective key

end recovery

/-- What a claim must have done, given the repository after the recovery. -/
def ClaimsExactly (workflow workerId : String) (now : Time) (after : Repo)
    (result : Except PyError (Option WorkflowJobRecord) × Backend) : Prop :=
  (result.1 = .ok none ↔ NoneQueued workflow after) ∧
    (result.1 = .ok none → result.2.repo = after) ∧
    ∀ claimed, result.1 = .ok (some claimed) →
      ClaimedOne workflow workerId now after claimed result.2.repo

theorem claimsExactly_of_claimed {workflow workerId : String} {now : Time} {after : Repo}
    {result : Except PyError (Option WorkflowJobRecord) × Backend} {claimed : WorkflowJobRecord}
    (answered : result.1 = .ok (some claimed))
    (one : ClaimedOne workflow workerId now after claimed result.2.repo) :
    ClaimsExactly workflow workerId now after result := by
  obtain ⟨jobId, job, stored, queued, own, -⟩ := id one
  refine ⟨?_, ?_, ?_⟩
  · rw [answered]
    constructor
    · intro nothing
      cases nothing
    · intro none
      exact absurd queued (none jobId job stored own)
  · intro nothing
    rw [answered] at nothing
    cases nothing
  · intro other same
    rw [answered] at same
    cases same
    exact one

/-- The scan of the repository, after pops that have led to no job. -/
theorem scan_claimsExactly [PyRuntime] {workflow : String} (stripped : strip workflow = workflow)
    (named : workflow ≠ "") (workerId : String) (now : Time) {backend : Backend}
    (filed : Filed backend.repo) :
    ClaimsExactly workflow workerId now backend.repo
      (onRepository (claimNextWorkflowJob workerId (some workflow) none now now) backend) ∧
    ∃ answer, (onRepository (claimNextWorkflowJob workerId (some workflow) none now now)
      backend).1 = .ok answer := by
  have normal : normalizedWorkflow (some workflow) = some workflow := by
    simp [normalizedWorkflow, named, stripped]
  simp only [onRepository_run, claimNextWorkflowJob, recoverStale, bind_run, pure_run, read_run,
    normal]
  have stored : ∀ jobId ∈ backend.repo.workflowJobOrder,
      ∃ job, backend.repo.workflowJobs.get? jobId = some job :=
    fun jobId member => (filed.listed jobId).mp member
  rcases @claimFirst_finds workflow workerId now _ _ stored with
    ⟨nothing, none⟩ | ⟨claimed, repo', answered, one⟩
  · rw [nothing]
    refine ⟨⟨?_, fun _ => rfl, ?_⟩, Option.none, rfl⟩
    · constructor
      · intro _ jobId job found
        exact none jobId ((filed.listed jobId).mpr ⟨job, found⟩) job found
      · intro _
        rfl
    · intro claimed same
      cases same
  · rw [answered]
    exact ⟨claimsExactly_of_claimed rfl one, some claimed, rfl⟩

/-- One queued job; the list of its workflow begins with an id that no job has. -/
def indexedJob : Backend :=
  let _ := plainRuntime
  let repo := (createRun "Analyse spend" [] none "a" "t" 0 Repo.init).2
  { repo := (enqueueWorkflowJob "run_a" "procurement" [] 3 none .queued "j" 1000000 repo).2
    lists := Dict.empty.set "aeai:workflow:queue:procurement" ["job_lost", "job_j"] }

end WorkflowQueue
