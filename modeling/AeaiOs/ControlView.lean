import AeaiOs.QuietSteps

/-!
What a run is controlled by: its status, its node records and its checkpoint. The
repository seen through that view does what `control` allows, operation by
operation.
-/
namespace Orchestration
open OrderedDict CivilTime StoreAction Action AtomicProgram RunValues RunModels Redaction
  InMemoryRunRepository ToolPolicy

/-! Frames: what the methods on jobs and artifacts leave alone. -/

/-- Graphs and checkpoints are as they were, and of every run what `f` tells. -/
structure Leaves (f : RunRecord → γ) (repo repo' : Repo) : Prop where
  graphNodes : repo'.graphNodes = repo.graphNodes
  checkpoints : repo'.checkpoints = repo.checkpoints
  runs : ∀ runId, (repo'.runs.get? runId).map f = (repo.runs.get? runId).map f

theorem leaves_refl (f : RunRecord → γ) (repo : Repo) : Leaves f repo repo := ⟨rfl, rfl, fun _ => rfl⟩

theorem leaves_trans (f : RunRecord → γ) (a b c : Repo) (first : Leaves f a b)
    (second : Leaves f b c) : Leaves f a c :=
  ⟨second.graphNodes.trans first.graphNodes, second.checkpoints.trans first.checkpoints,
    fun runId => (second.runs runId).trans (first.runs runId)⟩

/-- A run replaced by one that `f` cannot tell from it. -/
theorem leaves_setRun {f : RunRecord → γ} {repo : Repo} {runId : String} {run run' : RunRecord}
    (stored : repo.runs.get? runId = some run) (same : f run' = f run) :
    Leaves f repo { repo with runs := repo.runs.set runId run' } := by
  refine ⟨rfl, rfl, ?_⟩
  intro other
  simp only [Dict.get?_set]
  split
  · rename_i hit
    subst hit
    simp [stored, same]
  · rfl

section frames
variable {f : RunRecord → γ}

theorem leaves_bind {first : RepoM α} {rest : α → RepoM β} (h : Keeps (Leaves f) first)
    (later : ∀ value, Keeps (Leaves f) (rest value)) : Keeps (Leaves f) (first >>= rest) :=
  keeps_bind (leaves_trans f) h later

theorem leaves_pure (value : α) : Keeps (Leaves f) (pure value : RepoM α) :=
  keeps_pure (leaves_refl f) value

theorem leaves_raise (e : PyError) : Keeps (Leaves f) (raise e : RepoM α) :=
  keeps_raise (leaves_refl f) e

theorem leaves_read : Keeps (Leaves f) (read : RepoM Repo) := keeps_read (leaves_refl f)

theorem leaves_ofExcept (r : Except PyError α) : Keeps (Leaves f) (ofExcept r : RepoM α) :=
  keeps_ofExcept (leaves_refl f) r

theorem leaves_storeJob (jobId : String) (job : WorkflowJobRecord) :
    Keeps (Leaves f) (change fun repo => repo.storeJob jobId job : RepoM Unit) :=
  fun _ => ⟨rfl, rfl, fun _ => rfl⟩

theorem getRun_leaves (runId : String) : Keeps (Leaves f) (getRun runId) :=
  leaves_bind leaves_read fun _ => leaves_ofExcept _

theorem getWorkflowJob_leaves (jobId : String) : Keeps (Leaves f) (getWorkflowJob jobId) :=
  leaves_bind leaves_read fun _ => leaves_ofExcept _

theorem reopenRunOf_leaves (job : WorkflowJobRecord) (now : Time) :
    Keeps (Leaves RunRecord.id) (reopenRunOf job now) := by
  intro repo
  simp only [reopenRunOf, bind_run, getRun_run]
  cases stored : repo.runs.get? job.runId with
  | none => exact leaves_refl _ repo
  | some run => exact leaves_setRun stored rfl

variable [PyRuntime]

theorem failRunOf_leaves (job : WorkflowJobRecord) (errorSummary : String) (now : Time) :
    Keeps (Leaves RunRecord.id) (failRunOf job errorSummary now) := by
  intro repo
  unfold failRunOf
  split
  · simp only [bind_run, getRun_run]
    cases stored : repo.runs.get? job.runId with
    | none => exact leaves_refl _ repo
    | some run =>
      simp only [found_some, ofExcept_run]
      cases redactText errorSummary with
      | error e => exact leaves_refl _ repo
      | ok summary => exact leaves_setRun stored rfl
  · exact leaves_refl _ repo

theorem giveUpAttempt_leaves (jobId : String) (job : WorkflowJobRecord) (shouldRetry : Bool)
    (errorSummary : String) (workerId : Option String) (reason : String) (now : Time) :
    Keeps (Leaves RunRecord.id)
      (giveUpAttempt jobId job shouldRetry errorSummary workerId reason now) := by
  unfold giveUpAttempt
  refine leaves_bind (leaves_ofExcept _) fun summary => ?_
  refine leaves_bind (leaves_ofExcept _) fun payload => ?_
  refine leaves_bind (leaves_storeJob _ _) fun _ => ?_
  exact leaves_bind (failRunOf_leaves _ _ _) fun _ => leaves_pure _

theorem recoverJobs_leaves (timeoutSeconds : Int) (workflow : Option String)
    (referenceTime cutoff : Time) (order : List String) :
    Keeps (Leaves RunRecord.id)
      (recoverJobs timeoutSeconds workflow referenceTime cutoff order) := by
  induction order with
  | nil => exact leaves_pure _
  | cons jobId rest ih =>
    unfold recoverJobs
    refine leaves_bind ?_ fun _ => leaves_bind ih fun _ => leaves_pure _
    unfold recoverJob
    refine leaves_bind leaves_read fun repo => leaves_bind (leaves_ofExcept _) fun job => ?_
    split
    · exact leaves_pure _
    · split
      · exact leaves_pure _
      · split
        · exact leaves_pure _
        · exact leaves_bind (giveUpAttempt_leaves _ _ _ _ _ _ _) fun _ => leaves_pure _

theorem recoverStale_leaves (staleAfterSeconds : Option Int) (workflowName : Option String)
    (now : Time) :
    Keeps (Leaves RunRecord.id) (recoverStale staleAfterSeconds workflowName now) := by
  unfold recoverStale
  split
  · exact leaves_pure _
  · refine leaves_bind ?_ fun _ => leaves_pure _
    unfold recoverTimedOutWorkflowJobs
    split
    · exact leaves_raise _
    · refine leaves_bind (leaves_ofExcept _) fun cutoff => leaves_bind leaves_read fun repo => ?_
      exact recoverJobs_leaves _ _ _ _ _

theorem claimNext_leaves (workerId : String) (workflowName : Option String)
    (staleAfterSeconds : Option Int) (recoveredAt now : Time) :
    Keeps (Leaves RunRecord.id)
      (claimNextWorkflowJob workerId workflowName staleAfterSeconds recoveredAt now) := by
  have search : ∀ order, Keeps (Leaves RunRecord.id)
      (claimFirst workerId (normalizedWorkflow workflowName) now order) := by
    intro order
    induction order with
    | nil => exact leaves_pure _
    | cons jobId rest ih =>
      unfold claimFirst
      refine leaves_bind leaves_read fun repo => leaves_bind (leaves_ofExcept _) fun job => ?_
      split
      · exact ih
      · split
        · exact ih
        · exact leaves_bind (leaves_storeJob _ _) fun _ => leaves_pure _
  refine leaves_bind (recoverStale_leaves _ _ _) fun _ => ?_
  exact leaves_bind leaves_read fun repo => search _

omit [PyRuntime] in
theorem heartbeat_leaves (jobId workerId : String) (now : Time) :
    Keeps (Leaves f) (heartbeatWorkflowJob jobId workerId now) := by
  refine leaves_bind (getWorkflowJob_leaves _) fun job => ?_
  refine leaves_bind (leaves_ofExcept _) fun _ => ?_
  exact leaves_bind (leaves_storeJob _ _) fun _ => leaves_pure _

omit [PyRuntime] in
theorem complete_leaves (jobId : String) (workerId : Option String) (now : Time) :
    Keeps (Leaves f) (completeWorkflowJob jobId workerId now) := by
  refine leaves_bind (getWorkflowJob_leaves _) fun job => ?_
  split
  · exact leaves_pure _
  · refine leaves_bind (leaves_ofExcept _) fun _ => ?_
    exact leaves_bind (leaves_storeJob _ _) fun _ => leaves_pure _

theorem fail_leaves (jobId errorSummary : String) (retry : Bool) (workerId : Option String)
    (now : Time) :
    Keeps (Leaves RunRecord.id) (failWorkflowJob jobId errorSummary retry workerId now) := by
  refine leaves_bind (getWorkflowJob_leaves _) fun job => ?_
  refine leaves_bind (leaves_ofExcept _) fun _ => ?_
  exact giveUpAttempt_leaves _ _ _ _ _ _ _

theorem retryDeadLetter_leaves (jobId : String) (reason : Option String) (now : Time) :
    Keeps (Leaves RunRecord.id) (retryDeadLetterWorkflowJob jobId reason now) := by
  refine leaves_bind (getWorkflowJob_leaves _) fun job => ?_
  split
  · exact leaves_raise _
  · refine leaves_bind (leaves_ofExcept _) fun count => ?_
    refine leaves_bind (leaves_ofExcept _) fun payload => ?_
    refine leaves_bind (leaves_storeJob _ _) fun _ => ?_
    exact leaves_bind (reopenRunOf_leaves _ _) fun _ => leaves_pure _

theorem enqueue_leaves (runId workflowName : String) (payload : PyDict) (maxAttempts : Int)
    (jobId : Option String) (status : WorkflowJobStatus) (fresh : String) (now : Time) :
    Keeps (Leaves f)
      (enqueueWorkflowJob runId workflowName payload maxAttempts jobId status fresh now) := by
  unfold enqueueWorkflowJob
  simp only
  split
  · exact leaves_raise _
  · split
    · exact leaves_raise _
    · split
      · exact leaves_raise _
      · refine leaves_bind (getRun_leaves _) fun run => ?_
        refine leaves_bind (leaves_ofExcept _) fun payload => ?_
        exact leaves_bind (fun _ => ⟨rfl, rfl, fun _ => rfl⟩) fun _ => leaves_pure _

omit [PyRuntime] in
theorem listWorkflowJobs_leaves (runId : Option String) (status : Option WorkflowJobStatus) :
    Keeps (Leaves f) (listWorkflowJobs runId status) := by
  unfold listWorkflowJobs
  split
  · exact leaves_bind (getRun_leaves _) fun _ => leaves_bind leaves_read fun _ => leaves_pure _
  · exact leaves_bind leaves_read fun _ => leaves_pure _

omit [PyRuntime] in
theorem recordArtifact_leaves (artifact : ArtifactRecord) (now : Time) :
    Keeps (Leaves fun run => (run.id, run.status)) (recordArtifact artifact now) := by
  intro repo
  simp only [recordArtifact, bind_run, getRun_run]
  cases stored : repo.runs.get? artifact.runId with
  | none => exact leaves_refl _ repo
  | some run =>
    simp only [found_some, change_run]
    split
    · have kept : Leaves (fun run => (run.id, run.status)) repo
          { repo with
            runs := repo.runs.set artifact.runId
              { run with datasetArtifactId := some artifact.id, updatedAt := now } } :=
        leaves_setRun stored rfl
      exact ⟨rfl, rfl, kept.runs⟩
    · exact ⟨rfl, rfl, fun _ => rfl⟩

omit [PyRuntime] in
theorem recordArtifacts_leaves (now : Time) (artifacts : List ArtifactRecord) (repo : Repo) :
    Leaves (fun run => (run.id, run.status)) repo (recordArtifacts now artifacts repo) := by
  induction artifacts generalizing repo with
  | nil => exact leaves_refl _ repo
  | cons artifact rest ih =>
    exact leaves_trans _ _ _ _ (recordArtifact_leaves artifact now repo) (ih _)

end frames

/-! Node lists: one record an id. -/

theorem upserted_ids (node : GraphNodeRecord) (nodes : List GraphNodeRecord) :
    (upserted node nodes).map GraphNodeRecord.id =
      if node.id ∈ nodes.map GraphNodeRecord.id then nodes.map GraphNodeRecord.id
      else nodes.map GraphNodeRecord.id ++ [node.id] := by
  induction nodes with
  | nil => rfl
  | cons first rest ih =>
    unfold upserted
    by_cases same : first.id = node.id
    · simp [same]
    · have other : ¬ node.id = first.id := fun h => same h.symm
      simp only [same, if_false, List.map_cons, ih, List.mem_cons, other, false_or]
      split <;> simp

theorem upserted_nodup (node : GraphNodeRecord) {nodes : List GraphNodeRecord}
    (h : (nodes.map GraphNodeRecord.id).Nodup) :
    ((upserted node nodes).map GraphNodeRecord.id).Nodup := by
  rw [upserted_ids]
  split
  · exact h
  · rename_i fresh
    exact List.nodup_append.mpr ⟨h, by simp, by
      intro a ha b hb
      simp only [List.mem_singleton] at hb
      intro same
      exact fresh (hb ▸ same ▸ ha)⟩

theorem mem_upserted {node other : GraphNodeRecord} {nodes : List GraphNodeRecord}
    (nodup : (nodes.map GraphNodeRecord.id).Nodup) :
    other ∈ upserted node nodes ↔ other = node ∨ other ∈ nodes ∧ other.id ≠ node.id := by
  induction nodes with
  | nil => simp [upserted]
  | cons first rest ih =>
    simp only [List.map_cons, List.nodup_cons] at nodup
    unfold upserted
    by_cases same : first.id = node.id
    · have apart : ∀ k ∈ rest, k.id ≠ node.id := by
        intro k hk hid
        exact nodup.1 (same ▸ hid ▸ List.mem_map_of_mem hk)
      simp only [same, if_true, List.mem_cons]
      constructor
      · rintro (new | old)
        · exact Or.inl new
        · exact Or.inr ⟨Or.inr old, apart other old⟩
      · rintro (new | ⟨first' | old, different⟩)
        · exact Or.inl new
        · exact absurd (first' ▸ same) different
        · exact Or.inr old
    · simp only [same, if_false, List.mem_cons, ih nodup.2]
      constructor
      · rintro (new | new | ⟨old, different⟩)
        · exact Or.inr ⟨Or.inl new, new ▸ same⟩
        · exact Or.inl new
        · exact Or.inr ⟨Or.inr old, different⟩
      · rintro (new | ⟨first' | old, different⟩)
        · exact Or.inr (Or.inl new)
        · exact Or.inl first'
        · exact Or.inr (Or.inr ⟨old, different⟩)

/-! The view. -/

structure Control where
  status : RunStatus
  nodes : List GraphNodeRecord
  checkpoint : Option LangGraphRunState

def World.control (runId : String) (w : World) : Control where
  status := ((w.repo.runs.get? runId).map RunRecord.status).getD .pending
  nodes := w.repo.nodesOf runId
  checkpoint := (w.repo.checkpoints.get? runId).map RunCheckpointRecord.state

/-- The run exists, and its node records are filed under it, one an id. -/
structure World.Holds (runId : String) (w : World) : Prop where
  run : (w.repo.runs.get? runId).map RunRecord.id = some runId
  ids_nodup : ((w.repo.nodesOf runId).map GraphNodeRecord.id).Nodup
  own : ∀ node ∈ w.repo.nodesOf runId, node.runId = runId

section control
variable [PyRuntime]

/-- What an operation answers and does to the run that is viewed. -/
def controlAllows (registry : ToolPermissionRegistry) (runId : String) :
    {β : Type} → Op β → Control → Except PyError β → Control → Prop
  | _, .utcNow, c, answer, c' => c' = c ∧ ∃ now, answer = .ok now
  | _, .uuid4, c, answer, c' => c' = c ∧ ∃ id, answer = .ok id
  | _, .currentTraceId, c, answer, c' => c' = c ∧ ∃ id, answer = .ok id
  | _, .getRun id, c, answer, c' =>
      c' = c ∧ (id = runId → ∃ run, answer = .ok run ∧ run.id = runId ∧ run.status = c.status)
  | _, .updateStatus id status errorSummary, c, answer, c' =>
      (id ≠ runId → c' = c) ∧
        (id = runId → match redactOptional errorSummary with
          | .ok _ => c' = { c with status } ∧ ∃ run, answer = .ok run
          | .error e => c' = c ∧ answer = .error e)
  | _, .getArtifact id _, c, answer, c' =>
      c' = c ∧ (id = runId →
        ∀ e, answer = .error e → ∃ missing, e = .artifactNotFound missing)
  | _, .upsertGraphNode node, c, answer, c' =>
      (node.runId ≠ runId → c' = c) ∧
        (node.runId = runId → c' = { c with nodes := upserted node c.nodes } ∧ answer = .ok node)
  | _, .getGraphNode id nodeId, c, answer, c' =>
      c' = c ∧ (id = runId → answer =
        found (c.nodes.find? fun node => node.id = nodeId) (.graphNodeNotFound nodeId))
  | _, .listGraphNodes id, c, answer, c' => c' = c ∧ (id = runId → answer = .ok c.nodes)
  | _, .addEvent _, c, _, c' => c' = c
  | _, .saveCheckpoint id state, c, answer, c' =>
      (id ≠ runId → c' = c) ∧
        (id = runId → match redactState state with
          | .ok stored => c' = { c with checkpoint := some stored } ∧ ∃ saved, answer = .ok saved
          | .error e => c' = c ∧ answer = .error e)
  | _, .getCheckpoint id, c, answer, c' =>
      c' = c ∧ (id = runId → match c.checkpoint with
        | some state => ∃ checkpoint, answer = .ok checkpoint ∧ checkpoint.state = state
        | none => answer = .error (.runCheckpointNotFound runId))
  | _, .evaluateTool tool _ approved context, c, answer, c' =>
      c' = c ∧ answer = .ok (registry.decisionIn tool approved context)
  | _, .agentStart _ _, c, answer, c' => c' = c ∧ answer = .ok ()
  | _, .agentFinish _ _, c, answer, c' => c' = c ∧ ∃ result, answer = .ok result
  | _, .createPlan _ _, c, _, c' => c' = c
  | _, _, c, _, c' => c'.nodes = c.nodes ∧ c'.checkpoint = c.checkpoint

def control (registry : ToolPermissionRegistry) (runId : String) : Behaviour Op PyError Control where
  asks _ _ := True
  allows := controlAllows registry runId

/-! The handler does what the view allows. -/

omit [PyRuntime] in
theorem World.Holds.stored {runId : String} {w : World} (holds : w.Holds runId) :
    ∃ run, w.repo.runs.get? runId = some run ∧ run.id = runId ∧
      run.status = (w.control runId).status := by
  obtain ⟨run, stored, same⟩ := Option.map_eq_some_iff.mp holds.run
  exact ⟨run, stored, same, by simp [World.control, stored]⟩

omit [PyRuntime] in
theorem holds_of_leaves {runId : String} {w : World} (holds : w.Holds runId) {repo : Repo}
    (leaves : Leaves RunRecord.id w.repo repo) (tick : Nat) :
    World.Holds runId ⟨repo, tick⟩ := by
  have sameNodes : repo.nodesOf runId = w.repo.nodesOf runId := by
    simp only [Repo.nodesOf, leaves.graphNodes]
  refine ⟨(leaves.runs runId).trans holds.run, ?_, ?_⟩
  · simp only [sameNodes]
    exact holds.ids_nodup
  · simp only [sameNodes]
    exact holds.own

omit [PyRuntime] in
theorem control_of_leaves (runId : String) {w : World} {repo : Repo}
    (leaves : Leaves f w.repo repo) (tick : Nat) :
    (World.control runId ⟨repo, tick⟩).nodes = (w.control runId).nodes ∧
      (World.control runId ⟨repo, tick⟩).checkpoint = (w.control runId).checkpoint := by
  simp only [World.control, Repo.nodesOf, leaves.graphNodes, leaves.checkpoints, and_self]

omit [PyRuntime] in
/-- An operation on jobs: the run stays, and so do its nodes and its checkpoint. -/
theorem jobs_control {runId : String} {w : World} (holds : w.Holds runId) {action : RepoM β}
    (leaves : Keeps (Leaves RunRecord.id) action) :
    (w.perform action).2.Holds runId ∧
      ((w.perform action).2.control runId).nodes = (w.control runId).nodes ∧
      ((w.perform action).2.control runId).checkpoint = (w.control runId).checkpoint :=
  ⟨holds_of_leaves holds (leaves w.repo) _, control_of_leaves runId (leaves w.repo) _⟩

omit [PyRuntime] in
/-- An operation that only reads. -/
theorem read_control {runId : String} {w : World} (holds : w.Holds runId) (tick : Nat) :
    World.Holds runId ⟨w.repo, tick⟩ ∧ World.control runId ⟨w.repo, tick⟩ = w.control runId :=
  ⟨⟨holds.run, holds.ids_nodup, holds.own⟩, rfl⟩

theorem updateStatus_control {runId : String} {w : World} (holds : w.Holds runId) (id : String)
    (status : RunStatus) (errorSummary : Option String) (now : Time) :
    (w.perform (updateStatus id status errorSummary now)).2.Holds runId ∧
      (id ≠ runId →
        (w.perform (updateStatus id status errorSummary now)).2.control runId = w.control runId) ∧
      (id = runId → match redactOptional errorSummary with
        | .ok _ => (w.perform (updateStatus id status errorSummary now)).2.control runId =
            { w.control runId with status } ∧
            ∃ run, (w.perform (updateStatus id status errorSummary now)).1 = .ok run
        | .error e => (w.perform (updateStatus id status errorSummary now)).2.control runId =
            w.control runId ∧
            (w.perform (updateStatus id status errorSummary now)).1 = .error e) := by
  simp only [World.perform, updateStatus, bind_run, getRun_run]
  cases stored : w.repo.runs.get? id with
  | none =>
    refine ⟨⟨holds.run, holds.ids_nodup, holds.own⟩, fun _ => rfl, ?_⟩
    intro own
    subst own
    obtain ⟨run, stored', -, -⟩ := holds.stored
    rw [stored] at stored'
    cases stored'
  | some run =>
    simp only [found_some, ofExcept_run]
    cases redactOptional errorSummary with
    | error e => exact ⟨⟨holds.run, holds.ids_nodup, holds.own⟩, fun _ => rfl, fun _ => ⟨rfl, rfl⟩⟩
    | ok summary =>
      simp only [change_run, pure_run]
      have leaves : Leaves RunRecord.id w.repo
          { w.repo with
            runs := w.repo.runs.set id
              { run with status, errorSummary := summary, updatedAt := now } } :=
        leaves_setRun stored rfl
      refine ⟨holds_of_leaves holds leaves _, ?_, ?_⟩
      · intro other
        simp [World.control, Dict.get?_set_other _ _ other, Repo.nodesOf]
      · intro own
        subst own
        exact ⟨by simp [World.control, Repo.nodesOf], _, rfl⟩

omit [PyRuntime] in
theorem upsertGraphNode_control {runId : String} {w : World} (holds : w.Holds runId)
    (node : GraphNodeRecord) :
    (w.perform (upsertGraphNode node)).2.Holds runId ∧
      (node.runId ≠ runId →
        (w.perform (upsertGraphNode node)).2.control runId = w.control runId) ∧
      (node.runId = runId →
        (w.perform (upsertGraphNode node)).2.control runId =
          { w.control runId with nodes := upserted node (w.control runId).nodes } ∧
        (w.perform (upsertGraphNode node)).1 = .ok node) := by
  simp only [World.perform, upsertGraphNode, bind_run, getRun_run]
  by_cases own : node.runId = runId
  · subst own
    obtain ⟨run, stored, -, -⟩ := holds.stored
    simp only [stored, found_some, change_run, pure_run]
    have nodes : (w.repo.storeNodes node.runId
        (upserted node (w.repo.nodesOf node.runId))).nodesOf node.runId =
          upserted node (w.repo.nodesOf node.runId) := by
      simp [Repo.nodesOf, Repo.storeNodes]
    refine ⟨⟨holds.run, ?_, ?_⟩, fun other => absurd rfl other, fun _ => ⟨?_, trivial⟩⟩
    · simp only [nodes]
      exact upserted_nodup node holds.ids_nodup
    · simp only [nodes]
      intro other member
      rcases (mem_upserted holds.ids_nodup).mp member with new | ⟨old, -⟩
      · rw [new]
      · exact holds.own other old
    · simp only [World.control, nodes]
      rfl
  · cases stored : w.repo.runs.get? node.runId with
    | none =>
      exact ⟨⟨holds.run, holds.ids_nodup, holds.own⟩, fun _ => rfl, fun same => absurd same own⟩
    | some run =>
      simp only [found_some, change_run, pure_run]
      have nodes : (w.repo.storeNodes node.runId
          (upserted node (w.repo.nodesOf node.runId))).nodesOf runId = w.repo.nodesOf runId := by
        simp [Repo.nodesOf, Repo.storeNodes, Dict.get?_set_other _ _ own]
      refine ⟨⟨holds.run, ?_, ?_⟩, fun _ => ?_, fun same => absurd same own⟩
      · simp only [nodes]
        exact holds.ids_nodup
      · simp only [nodes]
        exact holds.own
      · simp only [World.control, nodes]
        rfl

theorem saveCheckpoint_control {runId : String} {w : World} (holds : w.Holds runId) (id : String)
    (state : LangGraphRunState) (now : Time) :
    (w.perform (saveCheckpoint id state now)).2.Holds runId ∧
      (id ≠ runId →
        (w.perform (saveCheckpoint id state now)).2.control runId = w.control runId) ∧
      (id = runId → match redactState state with
        | .ok stored => (w.perform (saveCheckpoint id state now)).2.control runId =
            { w.control runId with checkpoint := some stored } ∧
            ∃ saved, (w.perform (saveCheckpoint id state now)).1 = .ok saved
        | .error e => (w.perform (saveCheckpoint id state now)).2.control runId =
            w.control runId ∧ (w.perform (saveCheckpoint id state now)).1 = .error e) := by
  simp only [World.perform, saveCheckpoint, bind_run, getRun_run]
  cases stored : w.repo.runs.get? id with
  | none =>
    refine ⟨⟨holds.run, holds.ids_nodup, holds.own⟩, fun _ => rfl, ?_⟩
    intro own
    subst own
    obtain ⟨run, stored', -, -⟩ := holds.stored
    rw [stored] at stored'
    cases stored'
  | some run =>
    simp only [found_some, read_run, ofExcept_run]
    cases redactState state with
    | error e => exact ⟨⟨holds.run, holds.ids_nodup, holds.own⟩, fun _ => rfl, fun _ => ⟨rfl, rfl⟩⟩
    | ok redactedState =>
      simp only [change_run, pure_run]
      refine ⟨⟨holds.run, holds.ids_nodup, holds.own⟩, ?_, ?_⟩
      · intro other
        simp [World.control, Repo.storeCheckpoint, Dict.get?_set_other _ _ other, Repo.nodesOf]
      · intro own
        subst own
        exact ⟨by simp [World.control, Repo.storeCheckpoint, Repo.nodesOf], _, rfl⟩

theorem addEvent_control {runId : String} {w : World} (holds : w.Holds runId)
    (event : AgentEventRecord) :
    (w.perform (addEvent event)).2.Holds runId ∧
      (w.perform (addEvent event)).2.control runId = w.control runId := by
  simp only [World.perform, addEvent, bind_run, getRun_run]
  cases w.repo.runs.get? event.runId with
  | none => exact read_control holds _
  | some run =>
    simp only [found_some, ofExcept_run]
    cases redactEntries event.payload with
    | error e => exact read_control holds _
    | ok payload => exact ⟨⟨holds.run, holds.ids_nodup, holds.own⟩, rfl⟩

omit [PyRuntime] in
/-- A read of something filed under the run. -/
theorem lookup_control {runId : String} {w : World} (holds : w.Holds runId) (id : String)
    (value : Repo → Option α) (missing : PyError) :
    let action : RepoM α := do
      let _ ← getRun id
      let repo ← read
      present (value repo) missing
    (w.perform action).2.Holds runId ∧ (w.perform action).2.control runId = w.control runId ∧
      (id = runId → (w.perform action).1 = found (value w.repo) missing) := by
  simp only [World.perform, bind_run, getRun_run]
  by_cases own : id = runId
  · subst own
    obtain ⟨run, stored, -, -⟩ := holds.stored
    simp only [stored, found_some, read_run, present_run]
    exact ⟨(read_control holds _).1, rfl, fun _ => trivial⟩
  · cases w.repo.runs.get? id with
    | none => exact ⟨(read_control holds _).1, rfl, fun same => absurd same own⟩
    | some run =>
      simp only [found_some, read_run, present_run]
      exact ⟨(read_control holds _).1, rfl, fun same => absurd same own⟩

theorem exec_control (env : Env) (runId : String) :
    Simulates (handler env) (World.Holds runId) (World.control runId)
      (control env.registry runId) := by
  intro β op w holds _
  show (exec env op w).2.Holds runId ∧ controlAllows env.registry runId op (w.control runId)
    (exec env op w).1 ((exec env op w).2.control runId)
  cases op with
  | utcNow => exact ⟨(read_control holds _).1, rfl, _, rfl⟩
  | uuid4 => exact ⟨(read_control holds _).1, rfl, _, rfl⟩
  | currentTraceId => exact ⟨(read_control holds _).1, rfl, _, rfl⟩
  | getRun id =>
    simp only [exec, World.perform, getRun_run, controlAllows]
    refine ⟨(read_control holds _).1, rfl, ?_⟩
    intro own
    subst own
    obtain ⟨run, stored, same, status⟩ := holds.stored
    exact ⟨run, by rw [stored, found_some], same, status⟩
  | updateStatus id status errorSummary => exact updateStatus_control holds id status errorSummary _
  | enqueueWorkflowJob id name payload attempts =>
    exact jobs_control holds (enqueue_leaves _ _ _ _ _ _ _ _)
  | listWorkflowJobs id status => exact jobs_control holds (listWorkflowJobs_leaves _ _)
  | claimNextWorkflowJob worker name stale => exact jobs_control holds (claimNext_leaves _ _ _ _ _)
  | heartbeatWorkflowJob job worker => exact jobs_control holds (heartbeat_leaves _ _ _)
  | completeWorkflowJob job worker => exact jobs_control holds (complete_leaves _ _ _)
  | failWorkflowJob job summary retry worker => exact jobs_control holds (fail_leaves _ _ _ _ _)
  | retryDeadLetterWorkflowJob job reason =>
    exact jobs_control holds (retryDeadLetter_leaves _ _ _)
  | getArtifact id artifactId =>
    obtain ⟨still, same, answer⟩ := lookup_control holds id
      (fun repo => ((repo.artifacts.get? id).getD []).find? fun artifact =>
        artifact.id = artifactId) (.artifactNotFound artifactId)
    refine ⟨still, same, ?_⟩
    intro own e raised
    have told := (answer own).symm.trans raised
    cases search : ((w.repo.artifacts.get? id).getD []).find? fun artifact =>
        artifact.id = artifactId with
    | none =>
      simp only [search, found_none, Except.error.injEq] at told
      exact ⟨artifactId, told.symm⟩
    | some artifact => simp [search] at told
  | upsertGraphNode node => exact upsertGraphNode_control holds node
  | getGraphNode id nodeId =>
    obtain ⟨still, same, answer⟩ := lookup_control holds id
      (fun repo => (repo.nodesOf id).find? fun node => node.id = nodeId) (.graphNodeNotFound nodeId)
    refine ⟨still, same, ?_⟩
    intro own
    subst own
    exact answer rfl
  | listGraphNodes id =>
    simp only [exec, World.perform, listGraphNodes, bind_run, getRun_run, controlAllows]
    by_cases own : id = runId
    · subst own
      obtain ⟨run, stored, -, -⟩ := holds.stored
      simp only [stored, found_some, read_run, pure_run]
      exact ⟨(read_control holds _).1, rfl, fun _ => rfl⟩
    · cases w.repo.runs.get? id with
      | none => exact ⟨(read_control holds _).1, rfl, fun same => absurd same own⟩
      | some run => exact ⟨(read_control holds _).1, rfl, fun same => absurd same own⟩
  | addEvent event => exact addEvent_control holds event
  | saveCheckpoint id state => exact saveCheckpoint_control holds id state _
  | getCheckpoint id =>
    obtain ⟨still, same, answer⟩ := lookup_control holds id
      (fun repo => repo.checkpoints.get? id) (.runCheckpointNotFound id)
    refine ⟨still, same, ?_⟩
    intro own
    subst own
    simp only [World.control]
    have told := answer rfl
    cases search : w.repo.checkpoints.get? id with
    | none => exact told.trans (by rw [search, found_none])
    | some checkpoint => exact ⟨checkpoint, told.trans (by rw [search, found_some]), rfl⟩
  | evaluateTool tool summary approved context => exact ⟨(read_control holds _).1, rfl, rfl⟩
  | agentStart agentType input => exact ⟨(read_control holds _).1, rfl, rfl⟩
  | agentFinish agentType input =>
    have leaves := recordArtifacts_leaves (env.clock w.tick 0)
      (env.agent w.tick agentType input).artifacts w.repo
    have ids : Leaves RunRecord.id w.repo (recordArtifacts (env.clock w.tick 0)
        (env.agent w.tick agentType input).artifacts w.repo) := by
      refine ⟨leaves.graphNodes, leaves.checkpoints, ?_⟩
      intro id
      have both := congrArg (Option.map Prod.fst) (leaves.runs id)
      simpa only [Option.map_map, Function.comp_def] using both
    have statuses := congrArg (Option.map Prod.snd) (leaves.runs runId)
    simp only [Option.map_map, Function.comp_def] at statuses
    refine ⟨holds_of_leaves holds ids _, ?_, _, rfl⟩
    have same := control_of_leaves runId leaves (w.tick + 1)
    simp only [exec, World.control, Control.mk.injEq]
    refine ⟨?_, same.1, same.2⟩
    exact congrArg (fun status => status.getD RunStatus.pending) statuses
  | createPlan name run => exact ⟨(read_control holds _).1, rfl⟩

end control
end Orchestration
