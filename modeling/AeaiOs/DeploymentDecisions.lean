import AeaiOs.DeploymentStore

/-!
Requests and decisions in any order of their single operations, with the rest of the program
beside them. What is stored of a deployment is what the calls have noted, and a decision is
the last that a later reader could have made.
-/
namespace Deployments
open OrderedDict PyText CivilTime StoreAction AtomicProgram RunValues RunModels Redaction
open InMemoryRunRepository ToolPolicy ProgramPool
open RunArchive (RunStore)

inductive Call where
  | request (registry : ToolPermissionRegistry) (given : Request)
  | decide (given : Decision)

inductive Answer where
  | requested (job : WorkflowJobRecord)
  | decided (result : DecisionResult)

section calls
variable [PyRuntime]

def Call.program : Call → Prog Answer
  | .request registry given =>
      (requestDeploymentApproval registry given).bind fun job => .returned (.requested job)
  | .decide given =>
      (decideDeploymentApproval given).bind fun result => .returned (.decided result)

def Call.Notes : Call → List Note → Prop
  | .request _ given => given.Notes
  | .decide given => given.Notes

def Call.Ends : Call → Outcome PyError Answer → List Note → Prop
  | .decide given, .returned (.decided result), notes =>
      ∃ job event, given.Done result job event notes
  | .decide _, .returned (.requested _), _ => False
  | .decide _, .unfinished, _ => False
  | call, _, notes => call.Notes notes

theorem call_notes (call : Call) :
    call.program.wp (noting describe Answers call.Notes) call.Ends [] ∧ call.Notes [] := by
  cases call with
  | request registry given =>
    refine ⟨?_, .nothing⟩
    unfold Call.program
    apply (Program.wp_bind _ _ _).mpr
    apply Program.wp_mono (request_notes registry given)
    intro outcome notes reached
    cases outcome with
    | returned job => exact reached
    | raised e => exact reached
    | unfinished => exact reached.elim
  | decide given =>
    refine ⟨?_, .nothing⟩
    unfold Call.program
    apply (Program.wp_bind _ _ _).mpr
    apply Program.wp_mono (decide_notes given)
    intro outcome notes reached
    cases outcome with
    | returned result => exact reached
    | raised e => exact reached
    | unfinished => exact reached

end calls

/-! What the log tells of the repository. -/

def Note.publication (runId : String) : Note → Option ArtifactRecord
  | .published artifact =>
      if artifact.runId = runId ∧ artifact.type = .deployment then some artifact else none
  | _ => none

def Note.decision (runId : String) : Note → Option AgentEventRecord
  | .announced event => if event.runId = runId ∧ isDecision event then some event else none
  | _ => none

def Note.result (jobId : String) : Note → Option WorkflowJobRecord
  | .decided id job => if id = jobId then some job else none
  | _ => none

section log
variable {ι : Type}

/-- The deployment artifacts that the calls have published in a run, in their order. -/
def publications (runId : String) (log : List (ι × Note)) : List ArtifactRecord :=
  (log.filterMap fun entry => entry.2.publication runId).reverse

def decisions (runId : String) (log : List (ι × Note)) : List AgentEventRecord :=
  (log.filterMap fun entry => entry.2.decision runId).reverse

/-- The result of the last decision on a job. -/
def lastResult (jobId : String) (log : List (ι × Note)) : Option WorkflowJobRecord :=
  log.findSome? fun entry => entry.2.result jobId

/-- Who reads the job after a decision on it does not find it waiting. -/
def Closed (jobId : String) (log : List (ι × Note)) : Prop :=
  ∀ newer i result older, log = newer ++ (i, .decided jobId result) :: older →
    ∀ k job, (k, .found jobId job) ∈ newer → job.status ≠ .waitingForApproval

end log

/-! One job that waits at the start. -/

/-- The repository as the log tells of it. -/
structure Told {ι : Type} (jobId : String) (initial : WorkflowJobRecord) (start repo : Repo)
    (log : List (ι × Note)) : Prop where
  ids : ∀ id job, repo.workflowJobs.get? id = some job → job.id = id
  job : repo.workflowJobs.get? jobId = some ((lastResult jobId log).getD initial)
  artifacts : ∀ runId, deploymentArtifacts repo runId =
    deploymentArtifacts start runId ++ publications runId log
  events : ∀ runId, decisionEvents repo runId = decisionEvents start runId ++ decisions runId log
  found : ∀ i id job, (i, .found id job) ∈ log → job.id = id
  ended : ∀ result, lastResult jobId log = some result →
    result.status = .completed ∨ result.status = .failed
  closed : Closed jobId log

section told
variable {ι : Type} {jobId : String} {initial : WorkflowJobRecord} {start repo repo' : Repo}
  {log : List (ι × Note)}

theorem lastResult_cons_other {entry : ι × Note} (none_of : entry.2.result jobId = none)
    (log : List (ι × Note)) : lastResult jobId (entry :: log) = lastResult jobId log := by
  unfold lastResult
  rw [List.findSome?_cons, none_of]

theorem lastResult_of_mem {i : ι} {result : WorkflowJobRecord} {newer older : List (ι × Note)} :
    (lastResult jobId (newer ++ (i, .decided jobId result) :: older)).isSome = true := by
  unfold lastResult
  rw [List.findSome?_isSome_iff]
  exact ⟨(i, .decided jobId result), List.mem_append_right _ List.mem_cons_self,
    by simp only [Note.result, if_true, Option.isSome_some]⟩

theorem publications_plain {runId : String} {entry : ι × Note}
    (plain : entry.2.publication runId = none) (log : List (ι × Note)) :
    publications runId (entry :: log) = publications runId log := by
  unfold publications
  rw [List.filterMap_cons, plain]

theorem decisions_plain {runId : String} {entry : ι × Note}
    (plain : entry.2.decision runId = none) (log : List (ι × Note)) :
    decisions runId (entry :: log) = decisions runId log := by
  unfold decisions
  rw [List.filterMap_cons, plain]

theorem publications_cons (runId : String) (entry : ι × Note) (log : List (ι × Note)) :
    publications runId (entry :: log) =
      publications runId log ++ (entry.2.publication runId).toList := by
  unfold publications
  rw [List.filterMap_cons]
  cases entry.2.publication runId with
  | none => simp only [Option.toList_none, List.append_nil]
  | some artifact => simp only [List.reverse_cons, Option.toList_some]

theorem decisions_cons (runId : String) (entry : ι × Note) (log : List (ι × Note)) :
    decisions runId (entry :: log) = decisions runId log ++ (entry.2.decision runId).toList := by
  unfold decisions
  rw [List.filterMap_cons]
  cases entry.2.decision runId with
  | none => simp only [Option.toList_none, List.append_nil]
  | some event => simp only [List.reverse_cons, Option.toList_some]

theorem deploymentArtifacts_append (artifact : ArtifactRecord) (repo : Repo)
    (runs : Dict String RunRecord) (runId : String) :
    deploymentArtifacts { repo.appendArtifact artifact with runs } runId =
      deploymentArtifacts repo runId ++ ((Note.published artifact).publication runId).toList := by
  unfold deploymentArtifacts Repo.appendArtifact Note.publication
  simp only [Dict.get?_set]
  by_cases here : artifact.runId = runId
  · subst here
    rw [if_pos rfl, Option.getD_some, List.filter_append, List.append_cancel_left_eq]
    by_cases typed : artifact.type = .deployment
    · rw [List.filter_cons, if_pos (decide_eq_true typed), if_pos ⟨rfl, typed⟩]
      rfl
    · rw [List.filter_cons, if_neg fun kept => typed (of_decide_eq_true kept),
        if_neg fun both => typed both.2]
      rfl
  · simp only [here, if_false, false_and, Option.toList_none, List.append_nil]

theorem decisionEvents_append (event : AgentEventRecord) (repo : Repo) (runId : String) :
    decisionEvents (repo.appendEvent event) runId =
      decisionEvents repo runId ++ ((Note.announced event).decision runId).toList := by
  unfold decisionEvents Repo.appendEvent Note.decision
  simp only [Dict.get?_set]
  by_cases here : event.runId = runId
  · subst here
    rw [if_pos rfl, Option.getD_some, List.filter_append, List.append_cancel_left_eq]
    by_cases typed : isDecision event = true
    · rw [List.filter_cons_of_pos typed, if_pos ⟨rfl, typed⟩]
      rfl
    · rw [List.filter_cons_of_neg typed, if_neg fun both => typed both.2]
      rfl
  · simp only [here, if_false, false_and, Option.toList_none, List.append_nil]

theorem closed_cons {entry : ι × Note} (closed : Closed jobId log)
    (reads : ∀ job, entry.2 = .found jobId job → (lastResult jobId log).isSome = true →
      job.status ≠ .waitingForApproval) : Closed jobId (entry :: log) := by
  intro newer i result older split k job member
  cases newer with
  | nil => cases member
  | cons first newer =>
    simp only [List.cons_append, List.cons.injEq] at split
    obtain ⟨rfl, split⟩ := split
    rcases List.mem_cons.mp member with same | member
    · subst same
      apply reads job rfl
      rw [split]
      exact lastResult_of_mem
    · exact closed newer i result older split k job member

theorem Told.quiet (told : Told jobId initial start repo log)
    (jobs : repo'.workflowJobs = repo.workflowJobs) (artifacts : repo'.artifacts = repo.artifacts)
    (events : repo'.events = repo.events) : Told jobId initial start repo' log where
  ids := by rw [jobs]; exact told.ids
  job := by rw [jobs]; exact told.job
  artifacts runId := by
    unfold deploymentArtifacts
    rw [artifacts]
    exact told.artifacts runId
  events runId := by
    unfold decisionEvents
    rw [events]
    exact told.events runId
  found := told.found
  ended := told.ended
  closed := told.closed

/-- Where a job has been decided, it does not wait. -/
theorem Told.decided (told : Told jobId initial start repo log)
    (some_result : (lastResult jobId log).isSome = true) {job : WorkflowJobRecord}
    (stored : repo.workflowJobs.get? jobId = some job) : job.status ≠ .waitingForApproval := by
  obtain ⟨result, last⟩ := Option.isSome_iff_exists.mp some_result
  have is_result := told.job
  rw [stored, last, Option.getD_some, Option.some.injEq] at is_result
  subst is_result
  rcases told.ended job last with done | failed
  · rw [done]
    decide
  · rw [failed]
    decide

theorem Told.ids_found (told : Told jobId initial start repo log) {i : ι} {note : Note}
    (names : ∀ id job, note = .found id job → job.id = id) :
    ∀ k id job, (k, .found id job) ∈ (i, note) :: log → job.id = id := by
  intro k id job member
  rcases List.mem_cons.mp member with same | member
  · cases same
    exact names id job rfl
  · exact told.found k id job member

/-- A note that reads no job and settles none, of an operation that leaves the job alone. -/
theorem Told.aside (told : Told jobId initial start repo log) (i : ι) {note : Note}
    (unread : ∀ id job, note ≠ .found id job) (unsettled : note.result jobId = none)
    (ids : ∀ id job, repo'.workflowJobs.get? id = some job → job.id = id)
    (job : repo'.workflowJobs.get? jobId = repo.workflowJobs.get? jobId)
    (artifacts : ∀ runId, deploymentArtifacts repo' runId =
      deploymentArtifacts repo runId ++ (note.publication runId).toList)
    (events : ∀ runId, decisionEvents repo' runId =
      decisionEvents repo runId ++ (note.decision runId).toList) :
    Told jobId initial start repo' ((i, note) :: log) where
  ids := ids
  job := by
    rw [lastResult_cons_other unsettled, job]
    exact told.job
  artifacts runId := by
    rw [publications_cons, artifacts, told.artifacts, List.append_assoc]
  events runId := by
    rw [decisions_cons, events, told.events, List.append_assoc]
  found := told.ids_found fun id job same => (unread id job same).elim
  ended := by
    rw [lastResult_cons_other unsettled]
    exact told.ended
  closed := closed_cons told.closed fun job same => (unread jobId job same).elim

theorem Told.read (told : Told jobId initial start repo log) (i : ι) {id : String}
    {job : WorkflowJobRecord} (stored : repo.workflowJobs.get? id = some job) :
    Told jobId initial start repo ((i, .found id job) :: log) where
  ids := told.ids
  job := by
    rw [lastResult_cons_other rfl]
    exact told.job
  artifacts runId := by
    rw [publications_plain rfl]
    exact told.artifacts runId
  events runId := by
    rw [decisions_plain rfl]
    exact told.events runId
  found := by
    apply told.ids_found
    intro id' job' same
    cases same
    exact told.ids id job stored
  ended := by
    rw [lastResult_cons_other rfl]
    exact told.ended
  closed := by
    apply closed_cons told.closed
    intro job' same decided
    cases same
    exact told.decided decided stored

theorem Told.settle (told : Told jobId initial start repo log) (i : ι) {id : String}
    {old job : WorkflowJobRecord} (stored : repo.workflowJobs.get? id = some old)
    (kept : job.id = old.id) (ends : job.status = .completed ∨ job.status = .failed) :
    Told jobId initial start (repo.storeJob id job) ((i, .decided id job) :: log) where
  ids := by
    intro id' job' found
    simp only [Repo.storeJob, Dict.get?_set] at found
    split at found
    · rename_i same
      cases found
      rw [kept, told.ids id old stored, same]
    · exact told.ids id' job' found
  job := by
    simp only [lastResult, List.findSome?_cons, Note.result, Repo.storeJob, Dict.get?_set]
    by_cases mine : id = jobId
    · rw [if_pos mine, if_pos mine]
      rfl
    · rw [if_neg mine, if_neg mine]
      exact told.job
  artifacts runId := by
    rw [publications_plain rfl]
    exact told.artifacts runId
  events runId := by
    rw [decisions_plain rfl]
    exact told.events runId
  found := told.ids_found fun id' job' same => by cases same
  ended := by
    intro result last
    simp only [lastResult, List.findSome?_cons, Note.result] at last
    by_cases mine : id = jobId
    · rw [if_pos mine] at last
      cases last
      exact ends
    · rw [if_neg mine] at last
      exact told.ended result last
  closed := closed_cons told.closed fun job' same => by cases same

/-- What the log tells stays true by whatever operation of a call is next. -/
theorem Told.effect {env : Env} (told : Told jobId initial start repo log)
    (fresh : ∀ t, "job_" ++ env.uuid t ≠ jobId) (i : ι) {note : Option Note}
    (effect : Effect env repo note repo') :
    Told jobId initial start repo' (record (note.map fun note => (i, note)) log) := by
  cases effect with
  | quiet jobs artifacts events => exact told.quiet jobs artifacts events
  | found stored => exact told.read i stored
  | @requested job t made =>
    have other : job.id ≠ jobId := by
      rw [made]
      exact fresh t
    apply told.aside i
    · intro id job' same
      cases same
    · rfl
    · intro id job' found
      simp only [Repo.appendJob, Dict.get?_set] at found
      split at found
      · rename_i same
        cases found
        exact same
      · exact told.ids id job' found
    · simp only [Repo.appendJob, Dict.get?_set, if_neg other]
    · intro runId
      exact (List.append_nil _).symm
    · intro runId
      exact (List.append_nil _).symm
  | decided stored kept ends => exact told.settle i stored kept ends
  | published artifact runs =>
    apply told.aside i
    · intro id job same
      cases same
    · rfl
    · exact told.ids
    · rfl
    · exact deploymentArtifacts_append artifact repo runs
    · intro runId
      exact (List.append_nil _).symm
  | announced event =>
    apply told.aside i
    · intro id job same
      cases same
    · rfl
    · exact told.ids
    · rfl
    · intro runId
      exact (List.append_nil _).symm
    · exact decisionEvents_append event repo

theorem Told.apart (told : Told jobId initial start repo log)
    (waits : initial.status = .waitingForApproval) (alone : LeavesAlone jobId repo repo') :
    Told jobId initial start repo' log where
  ids := alone.ids told.ids
  job := by
    apply alone.job _ told.job
    cases last : lastResult jobId log with
    | none => exact .inl waits
    | some result => exact .inr (told.ended result last)
  artifacts runId := by rw [alone.artifacts, told.artifacts]
  events runId := by rw [alone.events, told.events]
  found := told.found
  ended := told.ended
  closed := told.closed

end told

section runs
variable [PyRuntime] {ι : Type} [DecidableEq ι]

/-- Calls that have yet to begin, on a repository where the job waits. Ids that are drawn from
    now on are not the job's. -/
structure Opening (env : Env) (jobId : String) (initial : WorkflowJobRecord) (calls : ι → Call)
    (pool : Pool ι Op PyError Answer Site Note) : Prop where
  programs : ∀ i, pool.programs i = (calls i).program
  log : pool.log = []
  ids : ∀ id job, pool.store.store.repo.workflowJobs.get? id = some job → job.id = id
  stored : pool.store.store.repo.workflowJobs.get? jobId = some initial
  waits : initial.status = .waitingForApproval
  fresh : ∀ t, "job_" ++ env.uuid t ≠ jobId

variable {env : Env} {jobId : String} {initial : WorkflowJobRecord} {calls : ι → Call}
  {world : Site → Site → Prop} {start pool : Pool ι Op PyError Answer Site Note}

omit [DecidableEq ι] in
theorem Opening.told (opening : Opening env jobId initial calls start) :
    Told jobId initial start.store.store.repo start.store.store.repo start.log := by
  rw [opening.log]
  constructor
  · exact opening.ids
  · exact opening.stored
  · intro runId
    exact (List.append_nil _).symm
  · intro runId
    exact (List.append_nil _).symm
  · intro i id job member
    cases member
  · intro result last
    cases last
  · intro newer i result older split
    simp at split

theorem told_run (opening : Opening env jobId initial calls start)
    (apart : ∀ site site', world site site' →
      LeavesAlone jobId site.store.repo site'.store.repo)
    (run : Run (handler env) describe world start pool) :
    Told jobId initial start.store.store.repo pool.store.store.repo pool.log := by
  apply run_keeps (fun site log =>
    Told jobId initial start.store.store.repo site.store.repo log) _ _ opening.told run
  · intro i β op site log told
    exact told.effect opening.fresh i (exec_effect env op site)
  · intro site site' log told moved
    exact told.apart opening.waits (apart site site' moved)

theorem notes_run (opening : Opening env jobId initial calls start)
    (run : Run (handler env) describe world start pool) (i : ι) :
    (pool.programs i).wp (noting describe Answers (calls i).Notes) (calls i).Ends
        (own i pool.log) ∧
      (calls i).Notes (own i pool.log) := by
  apply run_own (exec_answers env) _ run
  rw [opening.programs i, opening.log]
  exact call_notes (calls i)

theorem returned_done (opening : Opening env jobId initial calls start)
    (run : Run (handler env) describe world start pool) {i : ι} {given : Decision}
    (call : calls i = .decide given) {answer : Answer}
    (returned : pool.programs i = .returned answer) :
    ∃ result job event, answer = .decided result ∧ given.Done result job event (own i pool.log) := by
  obtain ⟨right, -⟩ := notes_run opening run i
  rw [returned, call] at right
  cases answer with
  | requested job => exact right.elim
  | decided result =>
    obtain ⟨job, event, done⟩ := right
    exact ⟨result, job, event, rfl, done⟩

end runs

/-! An approval and a denial of one job that both read it before either has decided it. -/

def rivalJob : WorkflowJobRecord where
  id := "job_1"
  runId := "run_1"
  workflowName := workflowName
  status := .waitingForApproval
  payload := [("request_type", .str "deployment_approval"), ("artifact_ids", .list []),
    ("destination", .str "staging")]
  attemptCount := 0
  maxAttempts := 1
  createdAt := 0
  updatedAt := 0

def rivalRun : RunRecord where
  id := "run_1"
  task := "deploy"
  status := .waitingForApproval
  metadata := []
  createdAt := 0
  updatedAt := 0

def rivals : Bool → Call
  | true => .decide ⟨"run_1", "job_1", true, "ann", none⟩
  | false => .decide ⟨"run_1", "job_1", false, "bob", none⟩

def rivalEnv : Env := ⟨fun _ _ => 0, fun _ => "drawn"⟩

def rivalRepo : Repo := (Repo.init.storeRun rivalRun).appendJob rivalJob

def rivalStart : Pool Bool Op PyError Answer Site Note :=
  let _ := plainRuntime
  { programs := fun i => (rivals i).program
    store := ⟨{ RunStore.init with repo := rivalRepo }, 0⟩
    log := [] }

def rivalPool : Pool Bool Op PyError Answer Site Note :=
  let _ := plainRuntime
  turns (handler rivalEnv) describe
    ([true, true, false, false] ++ List.replicate 8 true ++ List.replicate 8 false) rivalStart

theorem rivals_open : let _ := plainRuntime
    Opening rivalEnv "job_1" rivalJob rivals rivalStart := by
  intro _
  constructor
  · intro i
    rfl
  · rfl
  · intro id job found
    rw [show rivalStart.store.store.repo = rivalRepo from rfl] at found
    unfold rivalRepo Repo.appendJob at found
    rw [Dict.get?_set] at found
    split at found
    · rename_i same
      cases found
      exact same
    · cases found
  · rfl
  · rfl
  · intro t
    rw [show rivalEnv.uuid t = "drawn" from rfl]
    decide

theorem rivals_run : let _ := plainRuntime
    Run (handler rivalEnv) describe (Workers "job_1") rivalStart rivalPool := by
  intro _
  unfold rivalPool
  exact run_turns _ _ _

end Deployments
