import AeaiOs.CallLaws

/-!
Four views of one run: the status that a call returns, the status of the run, the
records of its nodes, and the lists of its checkpoint. Calls that return leave them in
agreement.
-/
namespace Orchestration
open OrderedDict PyText CivilTime AtomicProgram RunValues RunModels Redaction InMemoryRunRepository
  ToolPolicy

/-- The ids whose records have a status, in the order of the plan. -/
def idsWith (nodes : List GraphNodeRecord) (status : GraphNodeStatus) (ids : List String) :
    List String :=
  ids.filter fun id => decide ((recordOf nodes id).map GraphNodeRecord.status = some status)

/-- The checkpoint shows what the records of its plan are like. -/
structure Agrees (ids : List String) (nodes : List GraphNodeRecord) (state : LangGraphRunState) :
    Prop where
  plan : state.plan.map PlanItem.id = ids
  pending : state.pendingNodeIds = idsWith nodes .pending ids
  completed : state.completedNodeIds = idsWith nodes .completed ids
  failed : state.failedNodeIds = idsWith nodes .failed ids
  waiting : state.waitingForApprovalNodeId = (idsWith nodes .waitingForApproval ids).head?

def AllCompleted (ids : List String) (nodes : List GraphNodeRecord) : Prop :=
  ∀ id ∈ ids, ∃ node, recordOf nodes id = some node ∧ node.status = .completed

/-- Some node of the plan has failed as often as it may. -/
def Exhausted (limit : Nat) (ids : List String) (nodes : List GraphNodeRecord) : Prop :=
  ∃ id ∈ ids, ∃ node, recordOf nodes id = some node ∧ node.status = .failed ∧
    limit ≤ node.retryCount

/-- A record that no agent works on; what is still to be done has an attempt left. -/
structure Rests (limit : Nat) (node : GraphNodeRecord) : Prop where
  still : node.status ≠ .running ∧ node.status ≠ .skipped
  left : node.status = .pending ∨ node.status = .waitingForApproval → node.retryCount < limit

def AllRest (limit : Nat) (ids : List String) (nodes : List GraphNodeRecord) : Prop :=
  ∀ id ∈ ids, ∃ node, recordOf nodes id = some node ∧ Rests limit node

section records
variable {ids : List String} {nodes : List GraphNodeRecord} {limit : Nat}

theorem AllRest.upserted {node : GraphNodeRecord} (rest : AllRest limit ids nodes)
    (rests : node.id ∈ ids → Rests limit node) : AllRest limit ids (upserted node nodes) := by
  intro id member
  rw [recordOf_upserted]
  by_cases here : node.id = id
  · exact ⟨node, if_pos here, rests (here ▸ member)⟩
  · obtain ⟨record, stored, stays⟩ := rest id member
    exact ⟨record, (if_neg here).trans stored, stays⟩

theorem Law.Final.rests {node final : GraphNodeRecord} {outcome : GraphNodeStatus}
    (ends : Law.Final limit node final outcome) (left : node.retryCount < limit) :
    Rests limit final := by
  rcases ends.tried with ⟨stopped, same⟩ | ⟨more, retried⟩
  · refine ⟨?_, fun _ => ?_⟩
    · rw [ends.status]
      rcases stopped with rfl | rfl <;> simp
    · omega
  · constructor
    · rw [ends.status, retried]
      split <;> simp
    · intro again
      rw [ends.status, retried] at again
      split at again
      · omega
      · simp at again

theorem mem_idsWith {status : GraphNodeStatus} {id : String} :
    id ∈ idsWith nodes status ids ↔
      id ∈ ids ∧ ∃ node, recordOf nodes id = some node ∧ node.status = status := by
  simp [idsWith, Option.map_eq_some_iff]

theorem nodeIdsWith_eq {state : LangGraphRunState} (nodup : (idsOf nodes).Nodup)
    (unique : (state.plan.map PlanItem.id).Nodup) (status : GraphNodeStatus) :
    nodeIdsWith (nodeStatuses (planNodes state nodes)) status =
      idsWith nodes status (state.plan.map PlanItem.id) := by
  have keys : ((planNodes state nodes).map fun node => (node.id, node.status)).map Prod.fst =
      idsOf (planNodes state nodes) := by
    simp [idsOf]
  have apart : (idsOf (planNodes state nodes)).Nodup := by
    rw [planNodes_ids nodup]
    exact unique.filter _
  unfold nodeIdsWith nodeStatuses
  rw [Dict.entries_ofPairs (keys ▸ apart), planNodes_eq nodup]
  generalize state.plan = plan
  induction plan with
  | nil => rfl
  | cons item rest ih =>
    unfold idsWith at ih ⊢
    cases found : recordOf nodes item.id with
    | none => simpa [found] using ih
    | some node =>
      have named : node.id = item.id := recordOf_id found
      by_cases here : node.status = status
      · simpa [found, here, named] using ih
      · simpa [found, here, named] using ih

theorem synced_agrees {state : LangGraphRunState} (nodup : (idsOf nodes).Nodup)
    (plan : state.plan.map PlanItem.id = ids) (unique : ids.Nodup) :
    Agrees ids nodes (synced state nodes) := by
  subst plan
  refine ⟨rfl, ?_, ?_, ?_, ?_⟩
  · exact nodeIdsWith_eq nodup unique .pending
  · exact nodeIdsWith_eq nodup unique .completed
  · exact nodeIdsWith_eq nodup unique .failed
  · exact congrArg List.head? (nodeIdsWith_eq nodup unique .waitingForApproval)

/-- A write of another status takes the node out of the list. -/
theorem idsWith_upserted_other {node : GraphNodeRecord} {status : GraphNodeStatus}
    (other : node.status ≠ status) :
    idsWith (upserted node nodes) status ids =
      (idsWith nodes status ids).filter fun id => decide (id ≠ node.id) := by
  unfold idsWith
  rw [List.filter_filter]
  apply List.filter_congr
  intro id _
  rw [recordOf_upserted]
  by_cases here : node.id = id
  · simp [here, other]
  · have apart : id ≠ node.id := fun same => here same.symm
    simp [here, apart]

theorem idsWith_upserted_length {node : GraphNodeRecord} {status : GraphNodeStatus}
    (other : node.status ≠ status) :
    (idsWith (upserted node nodes) status ids).length ≤ (idsWith nodes status ids).length := by
  rw [idsWith_upserted_other other]
  exact List.length_filter_le _ _

theorem idsWith_upserted_alone {node : GraphNodeRecord} {status : GraphNodeStatus}
    (none : idsWith nodes status ids = []) (same : node.status = status) (unique : ids.Nodup)
    (member : node.id ∈ ids) : idsWith (upserted node nodes) status ids = [node.id] := by
  have only : idsWith (upserted node nodes) status ids = ids.filter fun id => decide (id = node.id) := by
    unfold idsWith
    apply List.filter_congr
    intro id inside
    rw [recordOf_upserted]
    by_cases here : node.id = id
    · simp [here, same]
    · have absent := List.filter_eq_nil_iff.mp none id inside
      have apart : id ≠ node.id := fun same => here same.symm
      simp only [here, if_false, apart, decide_false]
      simpa using absent
  rw [only, List.filter_eq, List.count_eq_one_of_mem unique member]
  rfl

theorem pausing_iff {state : LangGraphRunState} (nodup : (idsOf nodes).Nodup)
    (plan : state.plan.map PlanItem.id = ids) (unique : ids.Nodup) (named : "" ∉ ids) :
    Pausing (synced state nodes) ↔ idsWith nodes .waitingForApproval ids ≠ [] := by
  have agrees : Agrees ids nodes (synced state nodes) := synced_agrees nodup plan unique
  unfold Pausing
  rw [agrees.waiting]
  cases waits : idsWith nodes .waitingForApproval ids with
  | nil => simp
  | cons id rest =>
    have inside : id ∈ idsWith nodes .waitingForApproval ids := waits ▸ List.mem_cons_self
    have some : id ≠ "" := fun blank => named (blank ▸ (mem_idsWith.mp inside).1)
    simp [some]

end records

section redacted
variable [UnicodeDatabase] {ids : List String} {nodes : List GraphNodeRecord}

theorem redactTexts_within {status : GraphNodeStatus} (fixed : ∀ id ∈ ids, Fixed id)
    {texts : List String} (redacts : redactTexts (idsWith nodes status ids) = .ok texts) :
    texts = idsWith nodes status ids := by
  have same : redactTexts (idsWith nodes status ids) = .ok (idsWith nodes status ids) :=
    redactTexts_fixed.mpr fun id member => fixed id (mem_idsWith.mp member).1
  rw [same, Except.ok.injEq] at redacts
  exact redacts.symm

/-- Redaction keeps the agreement where it leaves the ids alone. -/
theorem Agrees.redacted {state stored : LangGraphRunState} (agrees : Agrees ids nodes state)
    (fixed : ∀ id ∈ ids, Fixed id) (redacts : redactState state = .ok stored) :
    Agrees ids nodes stored := by
  have fields := redactState_ok redacts
  have plan := redactPlan_texts fields.plan
  rw [agrees.plan, redactTexts_fixed.mpr fixed, Except.ok.injEq] at plan
  refine ⟨plan.symm, ?_, ?_, ?_, ?_⟩
  · exact redactTexts_within fixed (agrees.pending ▸ fields.pending)
  · exact redactTexts_within fixed (agrees.completed ▸ fields.completed)
  · exact redactTexts_within fixed (agrees.failed ▸ fields.failed)
  · have told := fields.waiting
    rw [agrees.waiting] at told
    cases first : (idsWith nodes .waitingForApproval ids).head? with
    | none =>
      rw [first] at told
      simp only [redactOptional, Except.ok.injEq] at told
      exact told.symm
    | some id =>
      have member := (mem_idsWith.mp (List.mem_of_mem_head? first)).1
      have same : redactText id = .ok id := fixed id member
      rw [first] at told
      simp only [redactOptional, same, Except.map, Except.ok.injEq] at told
      exact told.symm

end redacted

/-! What a call carries along. -/

/-- Where a call enters its main loop: at most one node of the plan waits. -/
structure Orderly (limit : Nat) (ids : List String) (nodes : List GraphNodeRecord)
    (state : LangGraphRunState) : Prop where
  nodup : (idsOf nodes).Nodup
  plan : state.plan.map PlanItem.id = ids
  waits : (idsWith nodes .waitingForApproval ids).length ≤ 1
  rest : AllRest limit ids nodes

/-- Between two node executions no node waits. -/
structure Moving (limit : Nat) (ids : List String) (nodes : List GraphNodeRecord)
    (state : LangGraphRunState) : Prop where
  nodup : (idsOf nodes).Nodup
  plan : state.plan.map PlanItem.id = ids
  waits : idsWith nodes .waitingForApproval ids = []
  rest : AllRest limit ids nodes

/-- Where a call has put a node to wait. -/
structure Halted (limit : Nat) (ids : List String) (nodes : List GraphNodeRecord)
    (state : LangGraphRunState) : Prop where
  agrees : Agrees ids nodes state
  waits : (idsWith nodes .waitingForApproval ids).length = 1
  rest : AllRest limit ids nodes

section carried
variable [PyRuntime] {law : Law} {ids : List String}

theorem agreement_carried (fit : ∀ planned, law.fit planned → planned = ids)
    (fixed : ∀ id ∈ ids, Fixed id) (unique : ids.Nodup) (named : "" ∉ ids) :
    law.Carried (Orderly law.maxAttempts ids) (Moving law.maxAttempts ids)
      (Halted law.maxAttempts ids) where
  enter nodes state orderly proceeding := by
    refine ⟨orderly.nodup, orderly.plan, ?_, orderly.rest⟩
    rw [pausing_iff orderly.nodup orderly.plan unique named] at proceeding
    exact not_not.mp proceeding
  ran := by
    intro node final state before stored c history outcome s moving startable between ran
    have nodup : (idsOf (upserted final c.nodes)).Nodup := ran.nodes ▸ ran.inv.nodup
    have plan : before.plan.map PlanItem.id = ids := by
      rw [ran.endState.plan]
      exact moving.plan
    have agrees : Agrees ids (upserted final c.nodes) stored :=
      (synced_agrees nodup plan unique).redacted fixed ran.redacts
    have rest := moving.rest.upserted fun _ => ran.ends.rests startable.left
    rw [ran.nodes]
    split
    · rename_i waits
      refine ⟨agrees, ?_, rest⟩
      obtain ⟨planned, inPlan, inside⟩ := startable.planned
      rw [fit planned inPlan, ← ran.ends.id] at inside
      rw [idsWith_upserted_alone moving.waits (ran.ends.status.trans waits) unique inside]
      rfl
    · rename_i proceeds
      refine ⟨nodup, agrees.plan, ?_, rest⟩
      have other : final.status ≠ .waitingForApproval := ran.ends.status ▸ proceeds
      rw [idsWith_upserted_other other, moving.waits]
      rfl
  leave nodes state moving := by
    refine ⟨moving.nodup, moving.plan, ?_, moving.rest⟩
    rw [moving.waits]
    exact Nat.zero_le _

end carried

/-! How a call that returns leaves its run. -/

/-- The status of the run is the one returned, and the checkpoint shows the records. -/
structure InStep (limit : Nat) (ids : List String) (status : RunStatus) (c : Control) : Prop where
  status : c.status = status
  checkpoint : ∃ state, c.checkpoint = some state ∧ Agrees ids c.nodes state
  waits : (idsWith c.nodes .waitingForApproval ids).length ≤ 1
  rest : AllRest limit ids c.nodes

/-- The status says what the records of the plan say. -/
structure Truthful (ids : List String) (status : RunStatus) (nodes : List GraphNodeRecord) : Prop where
  completed : status = .completed ↔ AllCompleted ids nodes
  waiting : status = .waitingForApproval ↔ (idsWith nodes .waitingForApproval ids).length = 1

section truthful
variable {ids : List String} {nodes : List GraphNodeRecord} {limit : Nat} {status : RunStatus}

theorem not_completed_of_waiting (waits : (idsWith nodes .waitingForApproval ids).length = 1) :
    ¬ AllCompleted ids nodes := by
  intro all
  obtain ⟨id, only⟩ := List.length_eq_one_iff.mp waits
  have inside : id ∈ idsWith nodes .waitingForApproval ids := only ▸ List.mem_singleton_self id
  obtain ⟨member, node, stored, waiting⟩ := mem_idsWith.mp inside
  obtain ⟨node', stored', done⟩ := all id member
  rw [stored, Option.some.injEq] at stored'
  subst stored'
  rw [waiting] at done
  cases done

/-- The nodes of the plan are all completed if their records are. -/
theorem allCompleted_iff {state : LangGraphRunState} (nodup : (idsOf nodes).Nodup)
    (plan : state.plan.map PlanItem.id = ids)
    (recorded : ∀ id ∈ ids, ∃ node, recordOf nodes id = some node) :
    AllCompleted ids nodes ↔ ∀ node ∈ planNodes state nodes, node.status = .completed := by
  constructor
  · intro all node member
    obtain ⟨stored, inPlan⟩ := (mem_planNodes_iff nodup).mp member
    rw [plan] at inPlan
    obtain ⟨node', found, done⟩ := all node.id inPlan
    rw [recordOf_of_mem nodup stored, Option.some.injEq] at found
    rw [found]
    exact done
  · intro all id member
    obtain ⟨node, found⟩ := recorded id member
    refine ⟨node, found, all node ?_⟩
    apply (mem_planNodes_iff nodup).mpr
    rw [recordOf_id found, plan]
    exact ⟨mem_of_recordOf found, member⟩

theorem planNodes_some {state : LangGraphRunState} (nodup : (idsOf nodes).Nodup)
    (plan : state.plan.map PlanItem.id = ids) (some' : ids ≠ [])
    (recorded : ∀ id ∈ ids, ∃ node, recordOf nodes id = some node) : planNodes state nodes ≠ [] := by
  obtain ⟨id, member⟩ := List.exists_mem_of_ne_nil ids some'
  obtain ⟨node, found⟩ := recorded id member
  have inside : node ∈ planNodes state nodes := by
    apply (mem_planNodes_iff nodup).mpr
    rw [recordOf_id found, plan]
    exact ⟨mem_of_recordOf found, member⟩
  exact List.ne_nil_of_mem inside

theorem exit_truthful {state : LangGraphRunState} (orderly : Orderly limit ids nodes state)
    (unique : ids.Nodup) (named : "" ∉ ids) (some' : ids ≠ [])
    (recorded : ∀ id ∈ ids, ∃ node, recordOf nodes id = some node)
    (exit : Exit limit state nodes status) : Truthful ids status nodes := by
  have all := allCompleted_iff orderly.nodup orderly.plan recorded
  have pausing := pausing_iff orderly.nodup orderly.plan unique named
  have still : ¬ Pausing (synced state nodes) →
      (idsWith nodes .waitingForApproval ids).length ≠ 1 := by
    intro proceeding
    rw [pausing, not_not] at proceeding
    simp [proceeding]
  cases exit with
  | waiting halted =>
    rw [pausing] at halted
    have one : (idsWith nodes .waitingForApproval ids).length = 1 := by
      have most := orderly.waits
      have least := List.length_pos_iff.mpr halted
      omega
    exact ⟨iff_of_false (by simp) (not_completed_of_waiting one), iff_of_true rfl one⟩
  | completed proceeding _ done =>
    exact ⟨iff_of_true rfl (all.mpr done), iff_of_false (by simp) (still proceeding)⟩
  | exhausted proceeding node member failed spent =>
    refine ⟨iff_of_false (by simp) ?_, iff_of_false (by simp) (still proceeding)⟩
    intro done
    have completed := all.mp done node member
    rw [failed] at completed
    cases completed
  | stuck proceeding unfinished unspent unready =>
    refine ⟨iff_of_false (by simp) ?_, iff_of_false (by simp) (still proceeding)⟩
    intro done
    exact unfinished ⟨planNodes_some orderly.nodup orderly.plan some' recorded, all.mp done⟩

end truthful

section left
variable [UnicodeDatabase] {ids : List String} {limit : Nat} {status : RunStatus}

/-- How a call that denies nothing leaves its run. -/
def LeftOrderly (limit : Nat) (ids : List String) : RunStatus → Control → Prop :=
  Left limit (Orderly limit ids) (Halted limit ids)

theorem left_in_step {c : Control} (fixed : ∀ id ∈ ids, Fixed id) (unique : ids.Nodup)
    (named : "" ∉ ids) (some' : ids ≠ [])
    (recorded : ∀ id ∈ ids, ∃ node, recordOf c.nodes id = some node)
    (left : LeftOrderly limit ids status c) :
    InStep limit ids status c ∧ Truthful ids status c.nodes := by
  cases left with
  | finished nodes state stored _ orderly exit redacts =>
    have agrees := (synced_agrees orderly.nodup orderly.plan unique).redacted fixed redacts
    exact ⟨⟨rfl, ⟨stored, rfl, agrees⟩, orderly.waits, orderly.rest⟩,
      exit_truthful orderly unique named some' recorded exit⟩
  | paused nodes stored halted =>
    exact ⟨⟨rfl, ⟨stored, rfl, halted.agrees⟩, halted.waits.le, halted.rest⟩,
      ⟨iff_of_false (by simp) (not_completed_of_waiting halted.waits), iff_of_true rfl halted.waits⟩⟩

theorem denied_in_step {c c' : Control} {nodeId : String} (fixed : ∀ id ∈ ids, Fixed id)
    (unique : ids.Nodup) (nodup : (idsOf c.nodes).Nodup) {status' : RunStatus}
    (before : InStep limit ids status' c) (denied : Denied c nodeId status c') :
    InStep limit ids status c' ∧ (nodeId ∈ ids → Truthful ids status c'.nodes) := by
  obtain ⟨state, node, finished, updated, refreshed, stored, found, current, waiting, plan, rfl,
    redacts, rfl⟩ := denied
  obtain ⟨state', found', agrees⟩ := before.checkpoint
  rw [found, Option.some.injEq] at found'
  subst found'
  have samePlan : refreshed.plan.map PlanItem.id = ids := plan ▸ agrees.plan
  have nodup' := upserted_nodup
    { node with status := .failed, finishedAt := some finished, updatedAt := updated } nodup
  have named : node.id = nodeId := recordOf_id current
  have after := @idsWith_upserted_other ids c.nodes
    { node with status := .failed, finishedAt := some finished, updatedAt := updated }
    .waitingForApproval (by simp)
  refine ⟨⟨rfl, ⟨stored, rfl, (synced_agrees nodup' samePlan unique).redacted fixed redacts⟩,
    ?_, ?_⟩, ?_⟩
  · exact (idsWith_upserted_length (by simp)).trans before.waits
  · exact before.rest.upserted fun _ => ⟨by simp, by simp⟩
  · intro member
    have inside : nodeId ∈ idsWith c.nodes .waitingForApproval ids :=
      mem_idsWith.mpr ⟨member, node, current, waiting⟩
    -- the denied node was the one that waited
    have only : idsWith c.nodes .waitingForApproval ids = [nodeId] := by
      have most := before.waits
      cases waits : idsWith c.nodes .waitingForApproval ids with
      | nil => simp [waits] at inside
      | cons first rest =>
        have alone : rest = [] := by
          rw [waits, List.length_cons] at most
          exact List.length_eq_zero_iff.mp (by omega)
        subst alone
        rw [waits, List.mem_singleton] at inside
        rw [inside]
    refine ⟨iff_of_false (by simp) ?_, iff_of_false (by simp) ?_⟩
    · intro all
      obtain ⟨record, stored', done⟩ := all nodeId member
      simp only [recordOf_upserted, named, if_true, Option.some.injEq] at stored'
      rw [← stored'] at done
      cases done
    · rw [after, only]
      simp [named]

end left

/-! Calls that return, one after the other. -/

section calls
variable [PyRuntime] {env : Env} {service : OrchestratorService} {fuel : Nat} {runId : String}
  {graphs : List ExecutionGraph}

omit [PyRuntime] in
theorem valid_named {graph : ExecutionGraph} {agents : List String} (valid : graph.Valid agents) :
    "" ∉ graph.ids := by
  intro inside
  obtain ⟨node, member, blank⟩ := List.mem_map.mp inside
  apply valid.id_not_blank node member
  rw [blank]
  rfl

omit [PyRuntime] in
theorem valid_some {graph : ExecutionGraph} {agents : List String} (valid : graph.Valid agents) :
    graph.ids ≠ [] := by
  intro none
  exact valid.nonempty (List.map_eq_nil_iff.mp none)

theorem tasks_recorded {log : List Done} {w : World} {graph : ExecutionGraph}
    (resting : Resting service runId graphs log w) (current : currentGraph service log = some graph) :
    ∀ id ∈ graph.ids, ∃ node, recordOf (w.control runId).nodes id = some node := by
  intro id member
  obtain ⟨planned, inside, same⟩ := List.mem_map.mp member
  obtain ⟨node, found, -⟩ := resting.tasks planned (by
    unfold currentTasks
    rw [current]
    exact inside)
  exact ⟨node, same ▸ found⟩

/-- The records that an execution starts with: none of its nodes waits. -/
theorem setup_orderly {graph : ExecutionGraph} {now : Time} {records : List GraphNodeRecord}
    {limit : Nat} (positive : 0 < limit) {run : RunRecord} {stored : LangGraphRunState}
    (unique : graph.ids.Nodup)
    (fixed : FixedIds graph) (nodup : (idsOf records).Nodup)
    (redacts : redactState (buildInitialState run graph) = .ok stored) :
    Orderly limit graph.ids (setupNodes runId now graph.nodes records) stored := by
  have plan : (buildInitialState run graph).plan.map PlanItem.id = graph.ids := by
    simp only [buildInitialState, List.map_map, ExecutionGraph.ids]
    rfl
  have kept := redactPlan_texts (redactState_ok redacts).plan
  rw [plan, redactTexts_fixed.mpr fixed, Except.ok.injEq] at kept
  have started : ∀ id ∈ graph.ids, ∃ planned,
      recordOf (setupNodes runId now graph.nodes records) id =
        some (initialRecord runId now planned) := by
    intro id member
    obtain ⟨node, inside, same⟩ := List.mem_map.mp member
    have found : graph.nodes.find? (fun other => other.id = id) ≠ none := by
      intro absent
      have other := List.find?_eq_none.mp absent node inside
      simp [same] at other
    obtain ⟨first, search⟩ := Option.ne_none_iff_exists'.mp found
    refine ⟨first, ?_⟩
    rw [recordOf_setup unique, search]
    rfl
  refine ⟨?_, kept.symm, ?_, ?_⟩
  · have walk : ∀ nodes : List ExecutionNode, ∀ records : List GraphNodeRecord,
        (idsOf records).Nodup → (idsOf (setupNodes runId now nodes records)).Nodup := by
      intro nodes
      induction nodes with
      | nil => exact fun _ apart => apart
      | cons node rest ih => exact fun records apart => ih _ (upserted_nodup _ apart)
    exact walk graph.nodes records nodup
  · have none : idsWith (setupNodes runId now graph.nodes records) .waitingForApproval graph.ids = [] := by
      apply List.filter_eq_nil_iff.mpr
      intro id member
      obtain ⟨first, stored⟩ := started id member
      rw [stored]
      simp [initialRecord]
    rw [none]
    exact Nat.zero_le _
  · intro id member
    obtain ⟨first, stored⟩ := started id member
    exact ⟨_, stored, by simp [initialRecord], fun _ => positive⟩

/-- What is in step may be resumed, and a node of it approved or retried. -/
theorem InStep.reopens {ids : List String} {status : RunStatus} {c : Control}
    (before : InStep service.maxAttempts ids status c) (fixed : ∀ id ∈ ids, Fixed id)
    (nodup : (idsOf c.nodes).Nodup)
    {state : LangGraphRunState} (stored : c.checkpoint = some state) :
    Reopens (Orderly service.maxAttempts ids) c state := by
  obtain ⟨state', found, agrees⟩ := before.checkpoint
  rw [stored, Option.some.injEq] at found
  subst found
  have opened : ∀ (node : GraphNodeRecord) (refreshed kept : LangGraphRunState),
      node.status ≠ .waitingForApproval → (node.id ∈ ids → Rests service.maxAttempts node) →
      refreshed.plan = state.plan →
      redactState (synced refreshed (upserted node c.nodes)) = .ok kept →
      Orderly service.maxAttempts ids (upserted node c.nodes) kept := by
    intro node refreshed kept other rests plan redacts
    refine ⟨upserted_nodup node nodup, ?_, ?_, before.rest.upserted rests⟩
    · have told := redactPlan_texts (redactState_ok redacts).plan
      rw [synced_plan, plan, agrees.plan, redactTexts_fixed.mpr fixed, Except.ok.injEq] at told
      exact told.symm
    · exact (idsWith_upserted_length other).trans before.waits
  refine ⟨⟨nodup, agrees.plan, before.waits, before.rest⟩, ?_, ?_⟩
  · intro nodeId node updated refreshed kept current waiting plan _ redacts
    refine opened _ _ _ (by simp) ?_ plan redacts
    intro member
    obtain ⟨record, stored', rests⟩ := before.rest node.id member
    rw [recordOf_id current, current, Option.some.injEq] at stored'
    subst stored'
    exact ⟨by simp, fun _ => rests.left (Or.inr waiting)⟩
  · intro nodeId node updated refreshed kept _ _ plan _ redacts
    refine opened _ _ _ (by simp) ?_ plan redacts
    exact fun _ => ⟨by simp, fun _ => service.retryPolicy.positive⟩

def Call.denies : Call → Prop
  | .approve _ false _ => True
  | _ => False

/-- A call is a denial of a node outside these. -/
def Call.deniesOutside (ids : List String) : Call → Prop
  | .approve nodeId false _ => nodeId ∉ ids
  | _ => False

theorem started_in_step (once : NamesOnce graphs) (fixed : ∀ graph ∈ graphs, FixedIds graph)
    {earlier : List Done} {request : Call} {w : World} {graph : ExecutionGraph}
    (starts : request.starts service = some graph) (member : graph ∈ graphs)
    (resting : Resting service runId graphs earlier w)
    (recounted : Recounted service earlier (w.control runId))
    (after : Resting service runId graphs ((makeCall env service fuel runId request w).1 :: earlier)
      (makeCall env service fuel runId request w).2)
    {result : OrchestrationResult}
    (returned : (makeCall env service fuel runId request w).1.outcome = .returned result) :
    let c := (makeCall env service fuel runId request w).2.control runId
    InStep service.maxAttempts graph.ids result.status c ∧
      Truthful graph.ids result.status c.nodes ∧
      LeftOrderly service.maxAttempts graph.ids result.status c := by
  intro c
  have valid := ExecutionGraph.validate_ok (starts_accepted starts).2.1
  have plan : request.plan service (w.control runId) = graph.ids := by simp [Call.plan, starts]
  have carried : (lawOf env service runId graphs earlier (w.control runId) request).Carried
      (Orderly service.maxAttempts graph.ids) (Moving service.maxAttempts graph.ids)
      (Halted service.maxAttempts graph.ids) := by
    apply agreement_carried _ (fixed graph member) valid.ids_nodup (valid_named valid)
    intro planned redactions
    exact Redactions.fixed (fixed graph member) (plan ▸ redactions)
  obtain ⟨holds, -, leaves⟩ := started_works env fuel once starts member resting
    recounted carried fun run now stored _ redacts =>
      setup_orderly service.retryPolicy.positive valid.ids_nodup (fixed graph member)
        resting.holds.ids_nodup redacts
  have current : currentGraph service ((makeCall env service fuel runId request w).1 :: earlier) =
      some graph := currentGraph_starts starts
  have left := leaves result returned
  obtain ⟨rfl, -⟩ := starts_accepted starts
  obtain ⟨inStep, truthful⟩ := left_in_step (fixed graph member) valid.ids_nodup
    (valid_named valid) (valid_some valid) (tasks_recorded after current) left
  exact ⟨inStep, truthful, left⟩

theorem continued_in_step (once : NamesOnce graphs) (fixed : ∀ graph ∈ graphs, FixedIds graph)
    {earlier : List Done} {request : Call} {w : World} {graph : ExecutionGraph}
    (starts : request.starts service = none)
    (within : ∀ graph, currentGraph service earlier = some graph → graph ∈ graphs)
    (current : currentGraph service earlier = some graph) {status : RunStatus}
    (before : InStep service.maxAttempts graph.ids status (w.control runId))
    (resting : Resting service runId graphs earlier w)
    (recounted : Recounted service earlier (w.control runId))
    (after : Resting service runId graphs ((makeCall env service fuel runId request w).1 :: earlier)
      (makeCall env service fuel runId request w).2)
    {result : OrchestrationResult}
    (returned : (makeCall env service fuel runId request w).1.outcome = .returned result) :
    let c := (makeCall env service fuel runId request w).2.control runId
    InStep service.maxAttempts graph.ids result.status c ∧
      (¬ request.deniesOutside graph.ids → Truthful graph.ids result.status c.nodes) ∧
      (¬ request.denies → LeftOrderly service.maxAttempts graph.ids result.status c) := by
  intro c
  have member := within graph current
  have valid := ExecutionGraph.validate_ok (currentGraph_accepted current).1
  obtain ⟨state, stored, agrees⟩ := before.checkpoint
  have working : ∀ other, request ≠ .execute other := by
    intro other same
    subst same
    have idle : Idle service (w.control runId) (.execute other) := by
      intro accepted
      simp [Call.starts, accepted] at starts
    obtain ⟨-, -, -, e, raised⟩ := @run_refused _ env service runId fuel
      (.execute other) w resting.holds idle
    rw [raised] at returned
    cases returned
  have plan : request.plan service (w.control runId) = graph.ids := by
    simp only [Call.plan, starts, stored, Option.map_some, Option.getD_some]
    exact agrees.plan
  have carried : (lawOf env service runId graphs earlier (w.control runId) request).Carried
      (Orderly service.maxAttempts graph.ids) (Moving service.maxAttempts graph.ids)
      (Halted service.maxAttempts graph.ids) := by
    apply agreement_carried _ (fixed graph member) valid.ids_nodup (valid_named valid)
    intro planned redactions
    exact Redactions.fixed (fixed graph member) (plan ▸ redactions)
  obtain ⟨holds, -, leaves⟩ := continued_works env fuel once starts working within
    stored resting recounted carried
    (before.reopens (fixed graph member) resting.holds.ids_nodup stored)
  have further : currentGraph service ((makeCall env service fuel runId request w).1 :: earlier) =
      some graph := (currentGraph_continues starts).trans current
  have left := leaves result returned
  have finish : LeftOrderly service.maxAttempts graph.ids result.status c →
      InStep service.maxAttempts graph.ids result.status c ∧
        Truthful graph.ids result.status c.nodes :=
    left_in_step (fixed graph member) valid.ids_nodup (valid_named valid) (valid_some valid)
      (tasks_recorded after further)
  cases request with
  | execute other => exact absurd rfl (working other)
  | resume => exact ⟨(finish left).1, fun _ => (finish left).2, fun _ => left⟩
  | approve nodeId approved comment =>
    cases approved with
    | true => exact ⟨(finish left).1, fun _ => (finish left).2, fun _ => left⟩
    | false =>
      have nodup : (idsOf (w.control runId).nodes).Nodup := resting.holds.ids_nodup
      obtain ⟨inStep, truthful⟩ := denied_in_step (fixed graph member) valid.ids_nodup nodup before
        left
      exact ⟨inStep, fun inside => truthful (not_not.mp inside), fun other => absurd trivial other⟩
  | retry nodeId => exact ⟨(finish left).1, fun _ => (finish left).2, fun _ => left⟩

theorem call_in_step (once : NamesOnce graphs) (fixed : ∀ graph ∈ graphs, FixedIds graph)
    {earlier : List Done} {request : Call} {w : World}
    (starts : ∀ graph, request.starts service = some graph → graph ∈ graphs)
    (within : ∀ graph, currentGraph service earlier = some graph → graph ∈ graphs)
    (resting : Resting service runId graphs earlier w)
    (recounted : Recounted service earlier (w.control runId))
    (before : request.starts service = none → ∃ graph status,
      currentGraph service earlier = some graph ∧
        InStep service.maxAttempts graph.ids status (w.control runId))
    {result : OrchestrationResult}
    (returned : (makeCall env service fuel runId request w).1.outcome = .returned result) :
    let made := makeCall env service fuel runId request w
    ∃ graph, currentGraph service (made.1 :: earlier) = some graph ∧
      InStep service.maxAttempts graph.ids result.status (made.2.control runId) ∧
      (¬ request.deniesOutside graph.ids →
        Truthful graph.ids result.status (made.2.control runId).nodes) ∧
      (¬ request.denies →
        LeftOrderly service.maxAttempts graph.ids result.status (made.2.control runId)) := by
  intro made
  obtain ⟨after, -, -⟩ := call_rests env fuel once starts within resting recounted
  cases started : request.starts service with
  | some graph =>
    obtain ⟨inStep, truthful, left⟩ := started_in_step once fixed started (starts graph started)
      resting recounted after returned
    exact ⟨graph, currentGraph_starts started, inStep, fun _ => truthful, fun _ => left⟩
  | none =>
    obtain ⟨graph, status, current, inStep⟩ := before started
    exact ⟨graph, (currentGraph_continues started).trans current,
      continued_in_step once fixed started within current inStep resting recounted after returned⟩

end calls

def returns : Outcome ε α → Bool
  | .returned _ => true
  | _ => false

theorem returned_of_returns {outcome : Outcome ε α} (h : returns outcome = true) :
    ∃ value, outcome = .returned value := by
  cases outcome with
  | returned value => exact ⟨value, rfl⟩
  | raised e => cases h
  | unfinished => cases h

section agreement
variable [PyRuntime] (env : Env) (service : OrchestratorService) (fuel : Nat) (runId : String)

variable {env service fuel runId} in
/-- On a new run only an execution returns. -/
theorem first_returned {request : Call} {w : World} (fresh : Fresh runId w)
    (starts : request.starts service = none) {result : OrchestrationResult} :
    (makeCall env service fuel runId request w).1.outcome ≠ .returned result := by
  have idle : Idle service (w.control runId) request := by
    cases request with
    | execute graph =>
      intro accepted
      simp [Call.starts, accepted] at starts
    | resume => exact fresh.unstored
    | approve nodeId approved comment => exact fresh.unstored
    | retry nodeId => exact fresh.unstored
  obtain ⟨-, -, -, e, raised⟩ := @run_refused _ env service runId fuel request w fresh.holds idle
  rw [raised]
  simp

variable {service runId} in
theorem calls_in_step {requests : List Call} {request : Call} {w : World}
    {graphs : List ExecutionGraph} (once : NamesOnce graphs)
    (fixed : ∀ graph ∈ graphs, FixedIds graph) (fresh : Fresh runId w)
    (within : ∀ other ∈ request :: requests, ∀ graph,
      other.starts service = some graph → graph ∈ graphs)
    (returned : ∀ done ∈ (runCalls env service fuel runId (request :: requests) w).1,
      returns done.outcome = true) :
    let log := (runCalls env service fuel runId (request :: requests) w).1
    let c := (runCalls env service fuel runId (request :: requests) w).2.control runId
    ∃ graph result, currentGraph service log = some graph ∧
      log.head?.map Done.outcome = some (.returned result) ∧
      InStep service.maxAttempts graph.ids result.status c ∧
      (¬ request.deniesOutside graph.ids → Truthful graph.ids result.status c.nodes) ∧
      (¬ request.denies → LeftOrderly service.maxAttempts graph.ids result.status c) := by
  induction requests generalizing request with
  | nil =>
    obtain ⟨result, last⟩ := returned_of_returns (returned _ List.mem_cons_self)
    have resting : Resting service runId graphs [] w := resting_fresh fresh
    obtain ⟨-, recounted, -⟩ := @runCalls_rest _ env service fuel runId graphs once [] w
      (by simp) fresh
    obtain ⟨graph, current, inStep, told⟩ := call_in_step once fixed
      (within request List.mem_cons_self) (fun _ impossible => by cases impossible) resting recounted
      (fun starts => absurd last (first_returned fresh starts)) last
    exact ⟨graph, result, current, congrArg some last, inStep, told⟩
  | cons first rest ih =>
    obtain ⟨result, last⟩ := returned_of_returns (returned _ List.mem_cons_self)
    have within' : ∀ other ∈ first :: rest, ∀ graph,
        other.starts service = some graph → graph ∈ graphs :=
      fun other member => within other (List.mem_cons_of_mem _ member)
    obtain ⟨resting, recounted, -⟩ := runCalls_rest env fuel once within' fresh
    obtain ⟨graph, before, current, -, inStep, -⟩ := ih within' fun done member =>
      returned done (List.mem_cons_of_mem _ member)
    obtain ⟨graph', current', inStep', told⟩ := call_in_step once fixed
      (within request List.mem_cons_self) (fun graph => runCalls_current within') resting recounted
      (fun _ => ⟨graph, before.status, current, inStep⟩) last
    exact ⟨graph', result, current', congrArg some last, inStep', told⟩

/-- As long as every call returns, the status of the run is the one that the last call
    returned, and the checkpoint lists the nodes of the plan by the statuses of their
    records. Unless the call has denied a node of another graph, it returned `completed`
    where every node of the plan is completed, and `waitingForApproval` where exactly
    one of them waits. -/
theorem calls_agree (requests : List Call) (request : Call) (w : World)
    (fixed : KeepsIds service (request :: requests)) (fresh : Fresh runId w)
    (returned : ∀ done ∈ (runCalls env service fuel runId (request :: requests) w).1,
      returns done.outcome = true) :
    let log := (runCalls env service fuel runId (request :: requests) w).1
    let c := (runCalls env service fuel runId (request :: requests) w).2.control runId
    ∃ graph result state, currentGraph service log = some graph ∧
      log.head?.map Done.outcome = some (.returned result) ∧ c.status = result.status ∧
      c.checkpoint = some state ∧ Agrees graph.ids c.nodes state ∧
      (¬ request.deniesOutside graph.ids →
        (result.status = .completed ↔ AllCompleted graph.ids c.nodes) ∧
        (result.status = .waitingForApproval ↔
          (idsWith c.nodes .waitingForApproval graph.ids).length = 1)) := by
  intro log c
  obtain ⟨graph, result, current, last, inStep, truthful, -⟩ := calls_in_step env fuel
    (namesOnce_calls fixed) (graphsOf_fixed fixed) fresh (graphsOf_within _) returned
  obtain ⟨state, stored, agrees⟩ := inStep.checkpoint
  refine ⟨graph, result, state, current, last, inStep.status, stored, agrees, fun inside => ?_⟩
  exact ⟨(truthful inside).completed, (truthful inside).waiting⟩

omit [PyRuntime] in
/-- A node waits, and resuming its run does not change that. -/
theorem waiting_agrees :
    let _ := plainRuntime
    let reached := runCalls (steadyEnv ⟨.empty, .empty⟩ fun _ => .waitingForApproval) analysts 1 "run_1"
      [.resume, .execute soloGraph] newWorld
    let c := reached.2.control "run_1"
    ∃ graph result state, currentGraph analysts reached.1 = some graph ∧
      reached.1.head?.map Done.outcome = some (.returned result) ∧ c.status = result.status ∧
      c.checkpoint = some state ∧ Agrees graph.ids c.nodes state ∧
      (¬ Call.resume.deniesOutside graph.ids →
        (result.status = .completed ↔ AllCompleted graph.ids c.nodes) ∧
        (result.status = .waitingForApproval ↔
          (idsWith c.nodes .waitingForApproval graph.ids).length = 1)) := by
  intro _ reached c
  exact calls_agree (steadyEnv ⟨.empty, .empty⟩ fun _ => .waitingForApproval) analysts 1 "run_1"
    [.execute soloGraph] .resume newWorld (plain_fixed (by decide +kernel)) newWorld_fresh
    (by decide +kernel)

end agreement
end Orchestration
