import AeaiOs.CallAgreement
import AeaiOs.GraphValidation

/-!
The main loop always finds something to do: a graph has no cycle, so that among the
nodes which are not completed some node waits for none of the others.
-/
namespace Orchestration
open OrderedDict PyText CivilTime AtomicProgram CycleCheck ExceptLists RunValues RunModels Redaction
  InMemoryRunRepository ToolPolicy

theorem dependenciesCompleted_done {statuses : Dict String GraphNodeStatus}
    {dependsOn : List String}
    (done : ∀ dependency ∈ dependsOn, statuses.get? dependency = some .completed) :
    dependenciesCompleted statuses dependsOn = .ok true := by
  induction dependsOn with
  | nil => rfl
  | cons dependency rest ih =>
    obtain ⟨first, later⟩ := List.forall_mem_cons.mp done
    unfold dependenciesCompleted
    simp only [first, if_true]
    exact ih later

/-- No node that may be started is left out. -/
theorem readyNodes_complete {limit : Nat} {statuses : Dict String GraphNodeStatus}
    {nodes ready : List GraphNodeRecord} (h : readyNodes limit statuses nodes = .ok ready)
    {node : GraphNodeRecord} (member : node ∈ nodes)
    (open' : node.status = .pending ∨ node.status = .failed) (left : node.retryCount < limit)
    (done : ∀ dependency ∈ node.dependsOn, statuses.get? dependency = some .completed) :
    node ∈ ready := by
  induction nodes generalizing ready with
  | nil => cases member
  | cons first rest ih =>
    unfold readyNodes at h
    rcases List.mem_cons.mp member with same | inside
    · subst same
      rw [if_pos ⟨open', left⟩, dependenciesCompleted_done done] at h
      simp only [bind_eq_ok, pure_eq_ok] at h
      obtain ⟨completed, told, others, -, same⟩ := h
      simp only [Except.ok.injEq] at told
      subst told same
      exact List.mem_cons_self
    · split at h
      · simp only [bind_eq_ok, pure_eq_ok] at h
        obtain ⟨completed, -, others, later, same⟩ := h
        have found := ih later inside
        subst same
        cases completed with
        | true => exact List.mem_cons_of_mem _ found
        | false => exact found
      · exact ih h inside

theorem nodeStatuses_of_mem {nodes : List GraphNodeRecord} (nodup : (idsOf nodes).Nodup)
    {node : GraphNodeRecord} (member : node ∈ nodes) :
    (nodeStatuses nodes).get? node.id = some node.status := by
  have keys : (nodes.map fun node => (node.id, node.status)).map Prod.fst = idsOf nodes := by
    simp [idsOf]
  apply (Dict.get?_ofPairs_iff (keys ▸ nodup)).mpr
  exact List.mem_map_of_mem (f := fun node : GraphNodeRecord => (node.id, node.status)) member

section stuck
variable {graph : ExecutionGraph} {agents : List String} {nodes : List GraphNodeRecord}
  {state : LangGraphRunState} {limit : Nat} {status : RunStatus}

/-- Where the nodes of a valid graph are not all completed, one of them is not, and all
    that it depends on is. -/
theorem valid_has_source (valid : graph.Valid agents) (open' : ¬ AllCompleted graph.ids nodes) :
    ∃ planned ∈ graph.nodes,
      (∀ node, recordOf nodes planned.id = some node → node.status ≠ .completed) ∧
      ∀ dependency ∈ planned.dependsOn, ∃ node,
        recordOf nodes dependency = some node ∧ node.status = .completed := by
  classical
  obtain ⟨order, ordered, covers⟩ := valid.acyclic
  let completed (id : String) : Prop := ∃ node, recordOf nodes id = some node ∧ node.status = .completed
  have some' : ∃ id ∈ order, id ∈ graph.ids ∧ ¬ completed id := by
    unfold AllCompleted at open'
    push Not at open'
    obtain ⟨id, inside, unfinished⟩ := open'
    refine ⟨id, covers id inside, inside, ?_⟩
    intro done
    obtain ⟨node, stored, finished⟩ := done
    exact unfinished node stored finished
  obtain ⟨id, -, left, clear⟩ := topological_has_source ordered _ some'
  obtain ⟨inside, unfinished⟩ := left
  obtain ⟨planned, member, rfl⟩ := List.mem_map.mp inside
  refine ⟨planned, member, fun node stored done => unfinished ⟨node, stored, done⟩, ?_⟩
  intro dependency needed
  have within := valid.depends_inside planned member dependency needed
  have named : dependency ∈ graph.dependsOn planned.id := by
    rw [ExecutionGraph.dependsOn_of_mem valid.ids_nodup member]
    exact needed
  have outside := (clear dependency named).2
  by_contra pending
  exact outside ⟨within, pending⟩

/-- The main loop never ends because no node is ready. -/
theorem not_stuck (valid : graph.Valid agents) (orderly : Orderly limit graph.ids nodes state)
    (tasks : ∀ planned ∈ graph.nodes,
      ∃ node, recordOf nodes planned.id = some node ∧ TaskOf node planned)
    (proceeding : ¬ Pausing (synced state nodes))
    (unfinished : ¬ (planNodes state nodes ≠ [] ∧
      ∀ node ∈ planNodes state nodes, node.status = .completed))
    (unspent : ∀ node ∈ planNodes state nodes, node.status = .failed → node.retryCount < limit) :
    readyNodes limit (nodeStatuses (planNodes state nodes)) (planNodes state nodes) ≠ .ok [] := by
  intro unready
  have recorded : ∀ id ∈ graph.ids, ∃ node, recordOf nodes id = some node := by
    intro id member
    obtain ⟨planned, inside, rfl⟩ := List.mem_map.mp member
    obtain ⟨node, stored, -⟩ := tasks planned inside
    exact ⟨node, stored⟩
  have planned_of : ∀ id ∈ graph.ids, ∀ node, recordOf nodes id = some node →
      node ∈ planNodes state nodes := by
    intro id member node stored
    apply (mem_planNodes_iff orderly.nodup).mpr
    rw [recordOf_id stored, orderly.plan]
    exact ⟨mem_of_recordOf stored, member⟩
  have open' : ¬ AllCompleted graph.ids nodes := by
    intro all
    apply unfinished
    exact ⟨planNodes_some orderly.nodup orderly.plan (valid_some valid) recorded,
      (allCompleted_iff orderly.nodup orderly.plan recorded).mp all⟩
  obtain ⟨planned, member, pending, done⟩ := valid_has_source valid open'
  have inside : planned.id ∈ graph.ids := List.mem_map_of_mem member
  obtain ⟨node, stored, task⟩ := tasks planned member
  obtain ⟨node', stored', rests⟩ := orderly.rest planned.id inside
  rw [stored, Option.some.injEq] at stored'
  subst stored'
  have here := planned_of planned.id inside node stored
  have nodup : (idsOf (planNodes state nodes)).Nodup := by
    rw [planNodes_ids orderly.nodup, orderly.plan]
    exact valid.ids_nodup.filter _
  have waits : node.status ≠ .waitingForApproval := by
    intro waiting
    apply proceeding
    rw [pausing_iff orderly.nodup orderly.plan valid.ids_nodup (valid_named valid)]
    exact List.ne_nil_of_mem (mem_idsWith.mpr ⟨inside, node, stored, waiting⟩)
  have startable : (node.status = .pending ∨ node.status = .failed) ∧ node.retryCount < limit := by
    have notDone := pending node stored
    have still := rests.still
    cases status : node.status with
    | pending => exact ⟨Or.inl rfl, rests.left (Or.inl status)⟩
    | failed => exact ⟨Or.inr rfl, unspent node here status⟩
    | running => exact absurd status still.1
    | skipped => exact absurd status still.2
    | completed => exact absurd status notDone
    | waitingForApproval => exact absurd status waits
  have found : node ∈ ([] : List GraphNodeRecord) := by
    apply readyNodes_complete unready here startable.1 startable.2
    intro dependency needed
    rw [task.dependsOn] at needed
    obtain ⟨record, stored'', completed⟩ := done dependency needed
    have within := valid.depends_inside planned member dependency needed
    rw [← completed, ← recordOf_id stored'']
    exact nodeStatuses_of_mem nodup (planned_of dependency within record stored'')
  cases found

/-- A call that fails its run without a denial has found a node with no attempt left. -/
theorem left_explained {c : Control} (valid : graph.Valid agents)
    (tasks : ∀ planned ∈ graph.nodes,
      ∃ node, recordOf c.nodes planned.id = some node ∧ TaskOf node planned)
    [UnicodeDatabase] (left : LeftOrderly limit graph.ids status c) :
    status = .failed ↔
      idsWith c.nodes .waitingForApproval graph.ids = [] ∧ Exhausted limit graph.ids c.nodes := by
  cases left with
  | paused nodes stored halted =>
    apply iff_of_false (by simp)
    intro told
    have one := halted.waits
    rw [told.1] at one
    cases one
  | finished nodes state stored status orderly exit redacts =>
    have pausing := pausing_iff orderly.nodup orderly.plan valid.ids_nodup (valid_named valid)
    cases exit with
    | waiting halted =>
      apply iff_of_false (by simp)
      exact fun told => pausing.mp halted told.1
    | completed proceeding some' done =>
      apply iff_of_false (by simp)
      rintro ⟨-, id, member, node, stored', failed, -⟩
      have completed := done node ((mem_planNodes_iff orderly.nodup).mpr (by
        rw [recordOf_id stored', orderly.plan]
        exact ⟨mem_of_recordOf stored', member⟩))
      rw [failed] at completed
      cases completed
    | exhausted proceeding node member failed spent =>
      obtain ⟨stored', inPlan⟩ := (mem_planNodes_iff orderly.nodup).mp member
      rw [orderly.plan] at inPlan
      refine iff_of_true rfl ⟨not_not.mp fun waits => proceeding (pausing.mpr waits), ?_⟩
      exact ⟨node.id, inPlan, node, recordOf_of_mem orderly.nodup stored', failed, spent⟩
    | stuck proceeding unfinished unspent unready =>
      exact absurd unready (not_stuck valid orderly tasks proceeding unfinished unspent)

end stuck

section progress
variable [PyRuntime] (env : Env) (service : OrchestratorService) (fuel : Nat) (runId : String)

/-- As long as every call returns, a call that denies nothing returns `failed` exactly
    where no node of the plan waits and one of them has failed as often as it may: the
    main loop never ends because no node is ready. -/
theorem calls_never_stuck (requests : List Call) (request : Call) (w : World)
    (fixed : KeepsIds service (request :: requests)) (fresh : Fresh runId w)
    (returned : ∀ done ∈ (runCalls env service fuel runId (request :: requests) w).1,
      returns done.outcome = true)
    (approves : ¬ request.denies) :
    let log := (runCalls env service fuel runId (request :: requests) w).1
    let c := (runCalls env service fuel runId (request :: requests) w).2.control runId
    ∃ graph result, currentGraph service log = some graph ∧
      log.head?.map Done.outcome = some (.returned result) ∧
      (result.status = .failed ↔ idsWith c.nodes .waitingForApproval graph.ids = [] ∧
        Exhausted service.maxAttempts graph.ids c.nodes) := by
  intro log c
  obtain ⟨graph, result, current, last, -, -, left⟩ := calls_in_step env fuel
    (namesOnce_calls fixed) (graphsOf_fixed fixed) fresh (graphsOf_within _) returned
  obtain ⟨resting, -, -⟩ := runCalls_rest env fuel (namesOnce_calls fixed)
    (graphsOf_within (request :: requests)) fresh
  refine ⟨graph, result, current, last, ?_⟩
  apply left_explained (ExecutionGraph.validate_ok (currentGraph_accepted current).1) ?_
    (left approves)
  intro planned member
  apply resting.tasks planned
  unfold currentTasks
  rw [current]
  exact member

omit [PyRuntime] in
/-- An agent that always fails: the run fails, for want of attempts. -/
theorem failing_never_stuck :
    let _ := plainRuntime
    let reached := runCalls (steadyEnv ⟨.empty, .empty⟩ fun _ => .failed) analysts 3 "run_1"
      [.execute soloGraph] newWorld
    let c := reached.2.control "run_1"
    ∃ graph result, currentGraph analysts reached.1 = some graph ∧
      reached.1.head?.map Done.outcome = some (.returned result) ∧
      (result.status = .failed ↔ idsWith c.nodes .waitingForApproval graph.ids = [] ∧
        Exhausted analysts.maxAttempts graph.ids c.nodes) := by
  intro _ reached c
  exact calls_never_stuck (steadyEnv ⟨.empty, .empty⟩ fun _ => .failed) analysts 3 "run_1"
    [] (.execute soloGraph) newWorld (plain_fixed (by decide +kernel)) newWorld_fresh
    (by decide +kernel) (by simp [Call.denies])

end progress
end Orchestration
