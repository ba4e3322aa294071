import AeaiOs.RunArchive
import AeaiOs.CheckpointRoundTrip
import AeaiOs.Lib.OwnedTables

/-!
What an accepted import changes beside its own run, in both repositories. The
children of an archive are stored under the run ids that they carry themselves.
-/
namespace RunArchive
open OrderedDict OwnedTables StoreAction Action ExceptLists RunValues RunModels
open InMemoryRunRepository (Repo RepoM RunContents found)
open SqlRepository (Tables insertRow insertRows contentsRows)

/-! What a confined import leaves alone. -/

/-- The other runs read what they read before, and every record added carries the
    run's id. -/
structure Confined (runId : String) (before after : Repo) : Prop where
  runs : ∀ other, other ≠ runId → after.runs.get? other = before.runs.get? other
  restored : ∀ run, after.runs.get? runId = some run → run.id = runId
  artifacts : ListsConfined ArtifactRecord.runId runId before.artifacts after.artifacts
  graphNodes : ListsConfined GraphNodeRecord.runId runId before.graphNodes after.graphNodes
  events : ListsConfined AgentEventRecord.runId runId before.events after.events
  evaluations :
    ListsConfined EvaluationResultRecord.runId runId before.evaluations after.evaluations
  checkpoints : ∀ other, other ≠ runId → after.checkpoints.get? other = before.checkpoints.get? other
  checkpoint : ∀ checkpoint, after.checkpoints.get? runId = some checkpoint →
    checkpoint.runId = runId
  workflowJobs : IndexConfined WorkflowJobRecord.runId runId before.workflowJobOrder
    before.workflowJobs after.workflowJobOrder after.workflowJobs

/-- The same for the tables of the database, whose listings select rows by run. -/
structure TablesConfined (runId : String) (before after : Tables) : Prop where
  runs : ∀ other, other ≠ runId → after.runs.get? other = before.runs.get? other
  restored : ∀ run, after.runs.get? runId = some run → run.id = runId
  artifacts : RowsConfined ArtifactRecord.runId runId before.artifacts after.artifacts
  graphNodes : RowsConfined GraphNodeRecord.runId runId before.graphNodes after.graphNodes
  events : RowsConfined AgentEventRecord.runId runId before.events after.events
  evaluations : RowsConfined EvaluationResultRecord.runId runId before.evaluations after.evaluations
  checkpoints : RowsConfined RunCheckpointRecord.runId runId before.checkpoints after.checkpoints
  workflowJobs : RowsConfined WorkflowJobRecord.runId runId before.workflowJobs after.workflowJobs

/-- Every child but the jobs carries the id of the run. -/
structure OwnsChildren (contents : RunContents) : Prop where
  artifacts : ∀ artifact ∈ contents.artifacts, artifact.runId = contents.run.id
  graphNodes : ∀ node ∈ contents.graphNodes, node.runId = contents.run.id
  events : ∀ event ∈ contents.events, event.runId = contents.run.id
  evaluations : ∀ evaluation ∈ contents.evaluations, evaluation.runId = contents.run.id
  checkpoint : ∀ checkpoint ∈ contents.checkpoint, checkpoint.runId = contents.run.id

def jobRows (contents : RunContents) : List (String × WorkflowJobRecord) :=
  contents.workflowJobs.map fun job => (job.id, job)

/-! The repository in memory. -/

theorem appendJobs_run (jobs : List WorkflowJobRecord) (repo : Repo) :
    jobs.foldl Repo.appendJob repo =
      { repo with
        workflowJobOrder := repo.workflowJobOrder ++ jobs.map WorkflowJobRecord.id
        workflowJobs := (jobs.map fun job => (job.id, job)).foldl
          (fun table row => table.set row.1 row.2) repo.workflowJobs } := by
  induction jobs generalizing repo with
  | nil => simp
  | cons job rest ih =>
    simp only [List.foldl_cons, ih, Repo.appendJob, List.map_cons, List.append_assoc,
      List.cons_append, List.nil_append]

def restoredCheckpoints (contents : RunContents) (repo : Repo) : Dict String RunCheckpointRecord :=
  match contents.checkpoint with
  | none => repo.checkpoints.erase contents.run.id
  | some checkpoint => repo.checkpoints.set contents.run.id checkpoint

theorem restoreRun_run (contents : RunContents) (repo : Repo) :
    InMemoryRunRepository.restoreRun contents repo =
      (.ok contents.run,
        { runs := repo.runs.set contents.run.id contents.run
          artifacts := repo.artifacts.set contents.run.id contents.artifacts
          graphNodes := repo.graphNodes.set contents.run.id contents.graphNodes
          events := repo.events.set contents.run.id contents.events
          evaluations := repo.evaluations.set contents.run.id contents.evaluations
          checkpoints := restoredCheckpoints contents repo
          workflowJobs := refilled WorkflowJobRecord.runId contents.run.id repo.workflowJobs
            (jobRows contents)
          workflowJobOrder := reindexed WorkflowJobRecord.runId contents.run.id
            repo.workflowJobOrder repo.workflowJobs (jobRows contents) }) := by
  have ids : contents.workflowJobs.map WorkflowJobRecord.id =
      (jobRows contents).map Prod.fst := by
    unfold jobRows
    rw [List.map_map]
    rfl
  simp only [InMemoryRunRepository.restoreRun, bind_run, change_run, appendJobs_run, ids]
  unfold restoredCheckpoints
  cases contents.checkpoint with
  | none => rfl
  | some checkpoint => rfl

theorem restoredCheckpoints_confined (contents : RunContents) (repo : Repo) :
    (∀ checkpoint,
        (restoredCheckpoints contents repo).get? contents.run.id = some checkpoint →
          checkpoint.runId = contents.run.id) ↔
      ∀ checkpoint ∈ contents.checkpoint, checkpoint.runId = contents.run.id := by
  unfold restoredCheckpoints
  cases contents.checkpoint with
  | none => simp [Dict.get?_erase]
  | some checkpoint => simp

theorem restoredCheckpoints_others (contents : RunContents) (repo : Repo) {other : String}
    (different : other ≠ contents.run.id) :
    (restoredCheckpoints contents repo).get? other = repo.checkpoints.get? other := by
  unfold restoredCheckpoints
  cases contents.checkpoint with
  | none => simp [Dict.get?_erase, different]
  | some checkpoint => exact Dict.get?_set_other _ _ (Ne.symm different)

theorem restoreRun_confined (contents : RunContents) (repo : Repo) :
    Confined contents.run.id repo (InMemoryRunRepository.restoreRun contents repo).2 ↔
      OwnsChildren contents ∧
        TakesOwn WorkflowJobRecord.runId contents.run.id repo.workflowJobs (jobRows contents) := by
  rw [restoreRun_run]
  constructor
  · intro confined
    constructor
    · constructor
      · exact (listsConfined_iff _ _ _ _).mp confined.artifacts
      · exact (listsConfined_iff _ _ _ _).mp confined.graphNodes
      · exact (listsConfined_iff _ _ _ _).mp confined.events
      · exact (listsConfined_iff _ _ _ _).mp confined.evaluations
      · exact (restoredCheckpoints_confined contents repo).mp confined.checkpoint
    · exact (indexConfined_iff _ _ _ _ _).mp confined.workflowJobs
  · rintro ⟨owns, takes⟩
    constructor
    · intro other different
      exact Dict.get?_set_other _ _ (Ne.symm different)
    · intro run stored
      rw [Dict.get?_set_self, Option.some.injEq] at stored
      exact stored ▸ rfl
    · exact (listsConfined_iff _ _ _ _).mpr owns.artifacts
    · exact (listsConfined_iff _ _ _ _).mpr owns.graphNodes
    · exact (listsConfined_iff _ _ _ _).mpr owns.events
    · exact (listsConfined_iff _ _ _ _).mpr owns.evaluations
    · intro other different
      exact restoredCheckpoints_others contents repo different
    · exact (restoredCheckpoints_confined contents repo).mpr owns.checkpoint
    · exact (indexConfined_iff _ _ _ _ _).mpr takes

/-! The tables of the database. -/

theorem insertRows_entries {κ δ : Type} [DecidableEq κ] {key : δ → κ} {rows : List δ}
    {table table' : Dict κ δ} (inserted : insertRows key rows table = .ok table') :
    table'.entries = table.entries ++ rows.map fun row => (key row, row) := by
  induction rows generalizing table with
  | nil =>
    simp only [insertRows, Except.ok.injEq] at inserted
    simp [inserted]
  | cons row rest ih =>
    simp only [insertRows, bind_eq_ok] at inserted
    obtain ⟨one, first, others⟩ := inserted
    unfold insertRow at first
    split at first
    · cases first
    · rename_i fresh
      rw [Bool.not_eq_true, Option.isSome_eq_false_iff, Option.isNone_iff_eq_none] at fresh
      simp only [Except.ok.injEq] at first
      have entries : one.entries = table.entries ++ [(key row, row)] := by
        rw [← first]
        exact storeEntries_fresh row fresh
      rw [ih others, entries, List.append_assoc]
      rfl

/-- Rows inserted in place of those of a run are confined to it if and only if the
    records that they were made from carry its id. -/
theorem inserted_confined {κ δ : Type} [DecidableEq κ] {owner : δ → String} {key : δ → κ}
    {runId : String} {before after : Dict κ δ} {records rows : List δ}
    (inserted : insertRows key rows (before.retain fun _ row => owner row ≠ runId) = .ok after)
    (same : rows.map owner = records.map owner) :
    RowsConfined owner runId before after ↔ ∀ record ∈ records, owner record = runId := by
  rw [rowsConfined_iff (insertRows_entries inserted), List.forall_mem_map]
  have owners : ∀ rows : List δ,
      (∀ row ∈ rows, owner row = runId) ↔ ∀ name ∈ rows.map owner, name = runId := by
    intro rows
    rw [List.forall_mem_map]
  rw [owners records, ← same, ← owners rows]

theorem insertRow_set {κ δ : Type} [DecidableEq κ] {key : κ} {row : δ} {table table' : Dict κ δ}
    (inserted : insertRow key row table = .ok table') : table' = table.set key row := by
  unfold insertRow at inserted
  split at inserted
  · cases inserted
  · exact (Except.ok.inj inserted).symm

section rows
variable [PyRuntime]

theorem restoreRun_accepted {foreignKeys : Bool} {contents : RunContents}
    {tables tables' : Tables} {restored : RunRecord}
    (accepted : SqlRepository.restoreRun foreignKeys contents tables = (.ok restored, tables')) :
    ∃ rows, contentsRows contents = .ok rows ∧
      (tables.withoutRun contents.run.id).insertContents rows = .ok tables' := by
  unfold SqlRepository.restoreRun SqlRepository.transaction at accepted
  simp only [bind_run, ofExcept_run, change_run, read_run] at accepted
  cases made : contentsRows contents with
  | error e => simp [made] at accepted
  | ok rows =>
    simp only [made] at accepted
    cases inserted : (tables.withoutRun contents.run.id).insertContents rows with
    | error e => simp [inserted] at accepted
    | ok after =>
      simp only [inserted] at accepted
      by_cases dangling : (foreignKeys && !(SqlRepository.referredRuns rows).all
          fun runId => (after.runs.get? runId).isSome) = true
      · simp [dangling] at accepted
      · simp [dangling, bind_run] at accepted
        exact ⟨rows, rfl, inserted.trans (congrArg _ accepted.2)⟩

theorem artifactRow_run {artifact row : ArtifactRecord}
    (made : SqlRepository.artifactRow artifact = .ok row) : row.runId = artifact.runId := by
  simp only [SqlRepository.artifactRow, bind_eq_ok] at made
  obtain ⟨uri, -, metadata, -, made⟩ := made
  split at made
  · simp only [bind_eq_ok, pure_eq_ok] at made
    obtain ⟨storageKey, -, rfl⟩ := made
    rfl
  · split at made
    all_goals
      simp only [bind_eq_ok, pure_eq_ok] at made
      obtain ⟨storageKey, -, rfl⟩ := made
      rfl

theorem eventRow_run {event row : AgentEventRecord}
    (made : SqlRepository.eventRow event = .ok row) : row.runId = event.runId := by
  simp only [SqlRepository.eventRow, bind_eq_ok, pure_eq_ok] at made
  obtain ⟨payload, -, rfl⟩ := made
  rfl

theorem evaluationRow_run {evaluation row : EvaluationResultRecord}
    (made : SqlRepository.evaluationRow evaluation = .ok row) : row.runId = evaluation.runId := by
  unfold SqlRepository.evaluationRow at made
  split at made
  · cases made
  · simp only [bind_eq_ok, pure_eq_ok] at made
    obtain ⟨checks, -, rfl⟩ := made
    rfl

theorem workflowJobRow_run {job row : WorkflowJobRecord}
    (made : SqlRepository.workflowJobRow job = .ok row) : row.runId = job.runId := by
  simp only [SqlRepository.workflowJobRow, bind_eq_ok, pure_eq_ok] at made
  obtain ⟨payload, -, errorSummary, -, rfl⟩ := made
  rfl

theorem checkpointRow_run {checkpoint row : RunCheckpointRecord}
    (made : SqlRepository.checkpointRow checkpoint = .ok row) : row.runId = checkpoint.runId := by
  simp only [SqlRepository.checkpointRow, bind_eq_ok, pure_eq_ok] at made
  obtain ⟨state, -, rfl⟩ := made
  rfl

/-- The rows carry the run ids of the records. -/
structure SameOwners (contents rows : RunContents) : Prop where
  run : rows.run.id = contents.run.id
  artifacts : rows.artifacts.map ArtifactRecord.runId = contents.artifacts.map ArtifactRecord.runId
  graphNodes : rows.graphNodes = contents.graphNodes
  events : rows.events.map AgentEventRecord.runId = contents.events.map AgentEventRecord.runId
  evaluations : rows.evaluations.map EvaluationResultRecord.runId =
    contents.evaluations.map EvaluationResultRecord.runId
  workflowJobs : rows.workflowJobs.map WorkflowJobRecord.runId =
    contents.workflowJobs.map WorkflowJobRecord.runId
  checkpoint : rows.checkpoint.toList.map RunCheckpointRecord.runId =
    contents.checkpoint.toList.map RunCheckpointRecord.runId

theorem contentsRows_owners {contents rows : RunContents}
    (made : contentsRows contents = .ok rows) : SameOwners contents rows := by
  simp only [contentsRows, bind_eq_ok] at made
  obtain ⟨run, runMade, artifacts, artifactsMade, events, eventsMade, evaluations,
    evaluationsMade, workflowJobs, jobsMade, made⟩ := made
  have stored : ∃ checkpoint : Option RunCheckpointRecord,
      checkpoint.toList.map RunCheckpointRecord.runId =
        contents.checkpoint.toList.map RunCheckpointRecord.runId ∧
      rows = { contents with run, artifacts, events, evaluations, workflowJobs, checkpoint } := by
    split at made
    · rename_i without
      simp only [bind_eq_ok, pure_eq_ok] at made
      obtain ⟨checkpoint, rfl, rfl⟩ := made
      exact ⟨none, by rw [without], rfl⟩
    · rename_i record found
      simp only [bind_eq_ok, pure_eq_ok] at made
      obtain ⟨checkpoint, mapped, rfl⟩ := made
      obtain ⟨row, rowMade, rfl⟩ := except_map_ok mapped
      refine ⟨some row, ?_, rfl⟩
      rw [found]
      simp only [Option.toList_some, List.map_cons, List.map_nil, checkpointRow_run rowMade]
  obtain ⟨checkpoint, same, rfl⟩ := stored
  constructor
  · simp only [SqlRepository.runRow, bind_eq_ok, pure_eq_ok] at runMade
    obtain ⟨metadata, -, errorSummary, -, rfl⟩ := runMade
    rfl
  · exact mapM_keeps (fun _ _ => artifactRow_run) artifactsMade
  · rfl
  · exact mapM_keeps (fun _ _ => eventRow_run) eventsMade
  · exact mapM_keeps (fun _ _ => evaluationRow_run) evaluationsMade
  · exact mapM_keeps (fun _ _ => workflowJobRow_run) jobsMade
  · exact same

theorem restoreRun_confined_rows {foreignKeys : Bool} {contents : RunContents}
    {tables tables' : Tables} {restored : RunRecord}
    (accepted : SqlRepository.restoreRun foreignKeys contents tables = (.ok restored, tables')) :
    TablesConfined contents.run.id tables tables' ↔
      OwnsChildren contents ∧ ∀ job ∈ contents.workflowJobs, job.runId = contents.run.id := by
  obtain ⟨rows, made, inserted⟩ := restoreRun_accepted accepted
  have same := contentsRows_owners made
  simp only [Tables.insertContents, bind_eq_ok, pure_eq_ok] at inserted
  obtain ⟨runs, runInserted, artifacts, artifactsInserted, graphNodes, nodesInserted, events,
    eventsInserted, evaluations, evaluationsInserted, checkpoints, checkpointInserted,
    workflowJobs, jobsInserted, rfl⟩ := inserted
  have artifactsIff := inserted_confined artifactsInserted same.artifacts
  have nodesIff := inserted_confined nodesInserted (congrArg _ same.graphNodes)
  have eventsIff := inserted_confined eventsInserted same.events
  have evaluationsIff := inserted_confined evaluationsInserted same.evaluations
  have checkpointIff := inserted_confined checkpointInserted same.checkpoint
  have jobsIff := inserted_confined jobsInserted same.workflowJobs
  simp only [Option.mem_toList] at checkpointIff
  constructor
  · intro confined
    refine ⟨⟨?_, ?_, ?_, ?_, ?_⟩, ?_⟩
    · exact artifactsIff.mp confined.artifacts
    · exact nodesIff.mp confined.graphNodes
    · exact eventsIff.mp confined.events
    · exact evaluationsIff.mp confined.evaluations
    · exact checkpointIff.mp confined.checkpoints
    · exact jobsIff.mp confined.workflowJobs
  · rintro ⟨owns, jobs⟩
    have runStored : runs = (tables.runs.erase contents.run.id).set rows.run.id rows.run :=
      insertRow_set runInserted
    rw [same.run] at runStored
    constructor
    · intro other different
      rw [runStored, Dict.get?_set_other _ _ (Ne.symm different), Dict.get?_erase,
        if_neg different]
    · intro run stored
      rw [runStored, Dict.get?_set_self, Option.some.injEq] at stored
      rw [← stored, same.run]
    · exact artifactsIff.mpr owns.artifacts
    · exact nodesIff.mpr owns.graphNodes
    · exact eventsIff.mpr owns.events
    · exact evaluationsIff.mpr owns.evaluations
    · exact checkpointIff.mpr owns.checkpoint
    · exact jobsIff.mpr jobs

end rows

/-! The import. -/

section imports
variable [ArchiveRuntime]

omit [ArchiveRuntime] in
theorem refuseExisting_state {σ : Type} {getRun : String → Action σ PyError RunRecord}
    (reads : ∀ runId s, (getRun runId s).2 = s) (runId : String) (overwrite : Bool) (s : σ) :
    (refuseExisting getRun runId overwrite s).2 = s := by
  have same := reads runId s
  unfold refuseExisting
  rcases looked : getRun runId s with ⟨answer, s₁⟩
  rw [looked] at same
  simp only at same
  subst same
  cases answer with
  | ok run => cases overwrite <;> rfl
  | error e => cases e <;> rfl

/-- An accepted import has read the whole archive and put its run in place. -/
theorem import_accepted {σ : Type} {getRun : String → Action σ PyError RunRecord}
    (reads : ∀ runId s, (getRun runId s).2 = s) {restoreRun : RunContents → Action σ PyError RunRecord}
    {archive : PyDict} {overwrite : Bool} {s s' : σ} {restored : RunRecord}
    (accepted : importRunArchive getRun restoreRun archive overwrite s = (.ok restored, s')) :
    ∃ contents, readArchive archive = .ok contents ∧ restoreRun contents s = (.ok restored, s') := by
  unfold importRunArchive at accepted
  cases schema : optional archive "schema_version" with
  | str version =>
    simp only [schema] at accepted
    by_cases supported : version = runArchiveSchemaVersion
    · simp only [supported, if_true, bind_run, ofExcept_run] at accepted
      unfold readArchive
      cases parsed : requiredMapping archive "run" >>= runFromArchive with
      | error e =>
        rw [parsed] at accepted
        cases accepted
      | ok run =>
        simp only [parsed] at accepted
        have unchanged := refuseExisting_state reads run.id overwrite s
        rcases refused : refuseExisting getRun run.id overwrite s with ⟨answer, s₁⟩
        rw [refused] at accepted unchanged
        simp only at unchanged
        subst unchanged
        cases answer with
        | error e => cases accepted
        | ok u =>
          simp only [Bind.bind, Except.bind]
          cases contents : contentsFromArchive run archive with
          | error e => simp [contents] at accepted
          | ok contents' =>
            simp only [contents] at accepted
            exact ⟨contents', rfl, accepted⟩
    · simp [supported] at accepted
  | _ =>
    simp only [schema] at accepted
    cases accepted

end imports

/-- The texts that the archives below hold are read as they are written. -/
abbrev plainArchiveRuntime : ArchiveRuntime where
  toPyRuntime := plainRuntime
  fromisoformat text := if text = "2026-07-08T00:00:00+00:00" then some 1783468800000000 else none
  floatOf _ := none
  stateOf _ :=
    { runId := "", task := "", plan := [], pendingNodeIds := [], completedNodeIds := []
      failedNodeIds := [], waitingForApprovalNodeId := none, agentOutputs := .empty
      artifacts := .empty, approvals := .empty, evaluationResults := [], errors := .empty }

def stamps : PyDict :=
  [("created_at", .str "2026-07-08T00:00:00+00:00"), ("updated_at", .str "2026-07-08T00:00:00+00:00")]

/-- An archive of one run with these children. -/
def archiveOf (children : PyDict) : PyDict :=
  [("schema_version", .str runArchiveSchemaVersion),
    ("run", .dict ([("id", .str "run_b"), ("task", .str "Analyse spend"),
      ("status", .str "completed")] ++ stamps))] ++ children

def restoredRun : RunRecord where
  id := "run_b"
  task := "Analyse spend"
  status := .completed
  metadata := []
  createdAt := 1783468800000000
  updatedAt := 1783468800000000

def otherRun : RunRecord := { restoredRun with id := "run_a", status := .running }

def otherJob : WorkflowJobRecord where
  id := "job_j"
  runId := "run_a"
  workflowName := "dynamic_analysis"
  status := .running
  payload := []
  attemptCount := 1
  maxAttempts := 1
  workerId := some "w1"
  createdAt := 0
  updatedAt := 0

def repoOfOther : Repo :=
  Repo.appendJob { Repo.init with runs := Dict.empty.set "run_a" otherRun } otherJob

def tablesOfOther : Tables := { Tables.init with runs := Dict.empty.set "run_a" otherRun }

def takenJob : PyDict :=
  [("workflow_jobs", .list [.dict ([("id", .str "job_j"), ("run_id", .str "run_b"),
    ("workflow_name", .str "dynamic_analysis"), ("status", .str "completed")] ++ stamps)])]

def strayNode : PyDict :=
  [("graph_nodes", .list [.dict ([("id", .str "n"), ("run_id", .str "run_a"),
    ("agent_type", .str "reporting"), ("status", .str "completed")] ++ stamps)])]

end RunArchive
