import AeaiOs.CallProtocol

/-!
Every control call keeps the protocol, and a call that returns has set the status
that it returns after its last write of a node record.
-/
namespace Orchestration
open OrderedDict AtomicProgram Program RunValues RunModels Redaction ToolPolicy

/-! The plan of a state and the records that it names. -/

theorem mem_planNodes {state : LangGraphRunState} {nodes : List GraphNodeRecord}
    {node : GraphNodeRecord} (h : node ∈ planNodes state nodes) : node ∈ nodes := by
  simp only [planNodes, List.mem_filterMap] at h
  obtain ⟨item, -, found⟩ := h
  obtain ⟨other, member, same⟩ := List.mem_map.mp (Dict.mem_of_get?_ofPairs found)
  simp only [Prod.mk.injEq] at same
  rw [← same.2]
  exact member

theorem planNodes_covers {state : LangGraphRunState} {nodes : List GraphNodeRecord}
    {item : PlanItem} (planned : item ∈ state.plan) (stored : ∃ node ∈ nodes, node.id = item.id) :
    ∃ node ∈ planNodes state nodes, node.id = item.id := by
  obtain ⟨node, member, same⟩ := stored
  have pair : (item.id, node) ∈ nodes.map fun node => (node.id, node) := by
    rw [← same]
    exact List.mem_map_of_mem (f := fun node : GraphNodeRecord => (node.id, node)) member
  obtain ⟨found, search⟩ := Dict.get?_ofPairs_of_mem pair
  obtain ⟨other, -, key⟩ := List.mem_map.mp (Dict.mem_of_get?_ofPairs search)
  simp only [Prod.mk.injEq] at key
  refine ⟨found, List.mem_filterMap.mpr ⟨item, planned, search⟩, ?_⟩
  rw [← key.2]
  exact key.1

theorem planItem_planned {state : LangGraphRunState} {nodeId : String} {item : PlanItem}
    (h : planItem state nodeId = .ok item) : nodeId ∈ state.plan.map PlanItem.id := by
  unfold planItem at h
  split at h
  · rename_i found search
    have same := List.find?_some search
    simp only [decide_eq_true_eq] at same
    rw [← same]
    exact List.mem_map_of_mem (List.mem_of_find?_eq_some search)
  · simp at h

theorem readyNodes_ok {maxAttempts : Nat} {statuses : Dict String GraphNodeStatus}
    {nodes ready : List GraphNodeRecord} (h : readyNodes maxAttempts statuses nodes = .ok ready) :
    ∀ node ∈ ready, node ∈ nodes ∧ (node.status = .pending ∨ node.status = .failed) ∧
      node.retryCount < maxAttempts := by
  induction nodes generalizing ready with
  | nil =>
    simp only [readyNodes, Except.ok.injEq] at h
    simp [← h]
  | cons node rest ih =>
    simp only [readyNodes] at h
    split at h
    · rename_i startable
      simp only [Bind.bind, Except.bind] at h
      cases deps : dependenciesCompleted statuses node.dependsOn with
      | error e => simp [deps] at h
      | ok completed =>
        cases others : readyNodes maxAttempts statuses rest with
        | error e => simp [deps, others] at h
        | ok later =>
          simp only [deps, others, Pure.pure, Except.pure, Except.ok.injEq] at h
          intro k member
          have old : k ∈ later → k ∈ node :: rest ∧ (k.status = .pending ∨ k.status = .failed) ∧
              k.retryCount < maxAttempts := by
            intro hk
            exact ⟨List.mem_cons_of_mem _ (ih others k hk).1, (ih others k hk).2⟩
          rw [← h] at member
          split at member
          · rcases List.mem_cons.mp member with same | hk
            · subst same
              exact ⟨List.mem_cons_self, startable⟩
            · exact old hk
          · exact old member
    · intro k member
      exact ⟨List.mem_cons_of_mem _ (ih h k member).1, (ih h k member).2⟩

namespace Scope
variable [PyRuntime] {scope : Scope} {history : List Entry}

/-! Reads. -/

theorem refresh_kept {runId : String} (own : runId = scope.runId) (state : LangGraphRunState) :
    (refreshStateFromNodes runId state).wp scope.protocol
      (Returns fun refreshed history' => ∃ nodes, history' = .listed runId nodes :: history ∧
        refreshed = syncStateFromNodeStatuses state (nodeStatuses (planNodes state nodes)))
      history := by
  unfold refreshStateFromNodes orderedNodes
  simp only [bind_eq, bind_assoc]
  refine returns_perform own ?_
  intro nodes history' allowed
  exact ⟨nodes, allowed.1, rfl⟩

theorem loadState_kept {runId : String} (own : runId = scope.runId)
    (ready : scope.Ready history) :
    (loadState runId).wp scope.protocol
      (Returns fun state history' => history' = history ∧ scope.StateFits state) history := by
  unfold loadState
  simp only [bind_eq]
  rw [wp_bind, wp_tryCatch, wp_perform]
  refine ⟨own, ?_, ?_⟩
  · intro checkpoint history' allowed
    exact ⟨allowed.1, allowed.2 checkpoint rfl ready⟩
  · intro e history' allowed
    cases e <;> trivial

/-- The refreshed state is saved; the node records of its listing are history. -/
theorem storeState_kept {runId : String} (own : runId = scope.runId) {state : LangGraphRunState}
    (fits : scope.StateFits state) (ready : scope.Ready history)
    {good : β → List Entry → Prop} {rest : LangGraphRunState → Prog β}
    (later : ∀ refreshed nodes, scope.StateFits refreshed →
      (rest refreshed).wp scope.protocol (Returns good)
        (.saved runId refreshed :: .listed runId nodes :: history)) :
    ((refreshStateFromNodes runId state).bind fun refreshed =>
      (perform (.saveCheckpoint runId refreshed)).bind fun _ => rest refreshed).wp scope.protocol
        (Returns good) history := by
  refine returns_then (refresh_kept own state) ?_
  rintro refreshed _ ⟨nodes, rfl, synced⟩
  have still : scope.StateFits refreshed := by
    rw [synced]
    exact ⟨fits.plan, fits.approvals⟩
  refine returns_perform ⟨own, still, fun notYet => absurd ?_ notYet⟩ ?_
  · exact ready.grow (List.suffix_cons _ _)
  · intro checkpoint history' allowed
    have grown := allowed.1
    subst grown
    exact later refreshed nodes still

/-! The end of a node execution. -/

/-- Between two node executions. -/
structure Settled (scope : Scope) (history : List Entry) : Prop where
  ready : scope.Ready history
  idle : phase history = .idle

omit [PyRuntime] in
theorem Settled.stored {node : GraphNodeRecord} {runId runId' : String}
    {nodes : List GraphNodeRecord} {state : LangGraphRunState} (ready : scope.Ready history)
    (idle : node.status ≠ .running) :
    scope.Settled (.saved runId state :: .listed runId' nodes :: .upserted node :: history) where
  ready := ready.grow ((List.suffix_cons _ _).trans
    ((List.suffix_cons _ _).trans (List.suffix_cons _ _)))
  idle := by simp [phase, idle]

theorem completeNode_kept {node : GraphNodeRecord} (fits : scope.NodeFits history node)
    (ready : scope.Ready history) (answered : phase history = .answered node.id .succeeded)
    {state : LangGraphRunState} (stateFits : scope.StateFits state) (output : AgentOutput) :
    (completeNode node state output).wp scope.protocol
      (Returns fun _ history' => scope.Settled history') history := by
  have calm := protocol_calm scope
  have own := fits.runId
  unfold completeNode
  simp only [bind_eq]
  refine (calm.perform .utcNow).returns fun finished => ?_
  refine (calm.perform .utcNow).returns fun updated => ?_
  refine returns_perform ⟨fun _ => ⟨?_, answered⟩, fun notYet => absurd ready notYet⟩ ?_
  · exact
      { runId := own
        planned := fits.planned
        budget := by simp
        used := by simp
        completed := fun _ _ => Or.inr (succeeded_of_answered answered) }
  · intro stored history' allowed
    have grown := allowed.1
    subst grown
    refine (nodeDurationMs_still calm node).returns fun duration => ?_
    refine (calm.perform .utcNow).returns fun timestamp => ?_
    rw [own]
    refine (recordEvent_still calm _ _ _).returns fun _ => ?_
    refine storeState_kept rfl ?_ (ready.grow (suffix_record _ history)) ?_
    · exact ⟨stateFits.plan, stateFits.approvals⟩
    · intro refreshed nodes _
      exact Settled.stored ready (by simp)

theorem pauseForApproval_kept {node : GraphNodeRecord} (fits : scope.NodeFits history node)
    (running : node.status = .running) (ready : scope.Ready history)
    (asked : phase history = .executing node.id ∨
      phase history = .answered node.id .waitingForApproval)
    {state : LangGraphRunState} (stateFits : scope.StateFits state) (output : AgentOutput) :
    (pauseForApproval node state output).wp scope.protocol
      (Returns fun _ history' => scope.Settled history') history := by
  have calm := protocol_calm scope
  have own := fits.runId
  unfold pauseForApproval
  simp only [bind_eq]
  refine (calm.perform .utcNow).returns fun updated => ?_
  refine returns_perform ⟨fun _ => ⟨?_, asked⟩, fun notYet => absurd ready notYet⟩ ?_
  · exact
      { runId := own
        planned := fits.planned
        budget := fun planned _ => fits.budget planned (by simp [running])
        used := by simp
        completed := by simp }
  · intro stored history' allowed
    have grown := allowed.1
    subst grown
    refine (nodeDurationMs_still calm node).returns fun duration => ?_
    refine (calm.perform .utcNow).returns fun timestamp => ?_
    rw [own]
    refine (recordEvent_still calm _ _ _).returns fun _ => ?_
    refine storeState_kept rfl ?_ (ready.grow (suffix_record _ history)) ?_
    · exact ⟨stateFits.plan, stateFits.approvals⟩
    · intro refreshed nodes _
      exact Settled.stored ready (by simp)

theorem failNode_kept {service : OrchestratorService}
    (sameLimit : scope.maxAttempts = service.maxAttempts) {node : GraphNodeRecord}
    (fits : scope.NodeFits history node) (ready : scope.Ready history)
    (asked : phase history = .executing node.id ∨ phase history = .answered node.id .failed)
    {state : LangGraphRunState} (stateFits : scope.StateFits state) (output : AgentOutput) :
    (failNode service node state output).wp scope.protocol
      (Returns fun _ history' => scope.Settled history') history := by
  have calm := protocol_calm scope
  have own := fits.runId
  unfold failNode
  simp only [bind_eq]
  refine (failureTime_still calm _).returns fun finished => ?_
  refine (calm.perform .utcNow).returns fun updated => ?_
  rw [wp_ofExcept_bind]
  split
  · rename_i errors _
    refine returns_perform ⟨fun _ => ⟨?_, ?_⟩, fun notYet => absurd ready notYet⟩ ?_
    · refine
        { runId := own
          planned := fits.planned
          budget := ?_
          used := by simp only; split <;> simp
          completed := by simp only; split <;> simp }
      intro planned open'
      simp only at open' ⊢
      rw [sameLimit]
      split at open'
      · rename_i left
        simpa using left
      · simp at open'
    · have either := asked.imp_right (Or.inl (b := ∀ other, .upserted other ∉ history))
      by_cases left : node.retryCount + 1 < service.maxAttempts
      · simpa only [MayWrite, left, decide_true, if_true] using either
      · simpa only [MayWrite, left, decide_false, Bool.false_eq_true, if_false] using either
    · intro stored history' allowed
      have grown := allowed.1
      subst grown
      refine (nodeDurationMs_still calm node).returns fun duration => ?_
      refine (calm.perform .utcNow).returns fun timestamp => ?_
      rw [own]
      refine (recordEvent_still calm _ _ _).returns fun _ => ?_
      refine storeState_kept rfl ?_ (ready.grow (suffix_record _ history)) ?_
      · exact ⟨stateFits.plan, stateFits.approvals⟩
      · intro refreshed nodes _
        exact Settled.stored ready (by simp only; split <;> simp)
  · trivial

/-- The gate's output comes before the agent is asked, the agent's after. -/
theorem finishNode_kept {service : OrchestratorService}
    (sameLimit : scope.maxAttempts = service.maxAttempts) {node : GraphNodeRecord}
    (fits : scope.NodeFits history node) (running : node.status = .running)
    (ready : scope.Ready history) {output : AgentOutput}
    (given : phase history = .executing node.id ∧ output.status ≠ .succeeded ∨
      phase history = .answered node.id output.status)
    {state : LangGraphRunState} (stateFits : scope.StateFits state) :
    (finishNode service node state output).wp scope.protocol
      (Returns fun _ history' => scope.Settled history') history := by
  unfold finishNode
  simp only [bind_eq]
  refine (recordOutputEvents_still (protocol_calm scope) fits.runId _).returns fun _ => ?_
  cases status : output.status with
  | succeeded =>
    rw [status] at given
    have answered := given.resolve_left fun h => h.2 rfl
    exact completeNode_kept fits ready answered stateFits output
  | waitingForApproval =>
    rw [status] at given
    exact pauseForApproval_kept fits running ready (given.imp_left And.left) stateFits output
  | failed =>
    rw [status] at given
    exact failNode_kept sameLimit fits ready (given.imp_left And.left) stateFits output

theorem callAgent_kept {service : OrchestratorService} {node : GraphNodeRecord}
    (fits : scope.NodeFits history node) (ready : scope.Ready history)
    (executing : phase history = .executing node.id) (gate : scope.Gate history node)
    {state : LangGraphRunState} (stateFits : scope.StateFits state) :
    (callAgent service node state).wp scope.protocol
      (Returns fun output history' =>
        phase history' = .answered node.id output.status ∧ history <:+ history') history := by
  unfold callAgent
  split
  · trivial
  · simp only [bind_eq]
    rw [wp_ofExcept_bind]
    split
    · rename_i item found
      refine returns_perform ⟨fits.runId, ?_, ready, executing, node, rfl, rfl, fits, gate⟩ ?_
      · rw [← stateFits.plan]
        exact planItem_planned found
      intro _ history' allowed
      have grown := allowed.1
      subst grown
      refine returns_perform executing ?_
      intro answer history' allowed
      have grown := allowed.1
      subst grown
      cases answer with
      | ok output => exact ⟨rfl, (List.suffix_cons _ _).trans (List.suffix_cons _ _)⟩
      | error e => exact ⟨rfl, (List.suffix_cons _ _).trans (List.suffix_cons _ _)⟩
    · trivial

theorem executeNode_kept {service : OrchestratorService}
    (sameLimit : scope.maxAttempts = service.maxAttempts) {node : GraphNodeRecord}
    (fits : scope.NodeFits history node) (left : node.retryCount < service.maxAttempts)
    (settled : scope.Settled history)
    {state : LangGraphRunState} (stateFits : scope.StateFits state) :
    (executeNode service node state).wp scope.protocol
      (Returns fun _ history' => scope.Settled history') history := by
  have calm := protocol_calm scope
  have own := fits.runId
  unfold executeNode
  simp only [bind_eq]
  refine (calm.perform .utcNow).returns fun started => ?_
  rw [own]
  refine (calm.perform .getRun).returns fun run => ?_
  have runningFits : scope.NodeFits history (runningRecord node started) :=
    { runId := own
      planned := fits.planned
      budget := fun _ _ => sameLimit ▸ left
      used := by simp [runningRecord]
      completed := by simp [runningRecord] }
  refine returns_perform ⟨fun _ => ⟨runningFits, settled.idle⟩,
    fun notYet => absurd settled.ready notYet⟩ ?_
  intro stored history' allowed
  have grown := allowed.1
  subst grown
  refine (calm.perform .utcNow).returns fun timestamp => ?_
  refine (recordEvent_still calm _ _ _).returns fun _ => ?_
  refine storeState_kept rfl stateFits (settled.ready.grow (suffix_record _ history)) ?_
  intro refreshed nodes _
  have since : history <:+ .saved scope.runId refreshed :: .listed scope.runId nodes ::
      .upserted (runningRecord node started) :: history :=
    (List.suffix_cons _ _).trans ((List.suffix_cons _ _).trans (List.suffix_cons _ _))
  rw [wp_bind]
  refine authorizeNodeTools_wp calm (protocol_evaluates scope) runningFits.runId state
    (fun _ _ => trivial) ?_ (fun _ _ _ => trivial)
  intro inputSummary decisions history' evaluated
  have adds := evaluated_adds evaluated
  have executing : phase history' = .executing node.id := adds.samePhase
  have ready := settled.ready.grow (since.trans adds.grown)
  have stillFits := runningFits.grow (since.trans adds.grown)
  cases gated : gateOutput decisions with
  | some output =>
    refine finishNode_kept sameLimit stillFits rfl ready (Or.inl ⟨executing, ?_⟩) stateFits
    rcases gateOutput_status gated with failed | waiting
    · simp [failed]
    · simp [waiting]
  | none =>
    have allowed := gateOutput_none gated
    have gate : scope.Gate history' (runningRecord node started) := by
      refine ⟨?_, ?_⟩
      · intro tool member
        obtain ⟨summary, context, decision, inside, entry⟩ := adds.each tool member
        rw [allowed decision inside] at entry
        exact ⟨summary, _, context, entry⟩
      · intro tool summary given context status member
        rcases adds.told tool summary given context status member with
          old | ⟨rfl, own, decision, inside, same, rfl⟩
        · simp [describe, attempt] at old
        · refine ⟨allowed decision inside, own, same ▸ allowed decision inside, ?_⟩
          intro approved
          simp only [decide_eq_true_eq] at approved
          rcases stateFits.approvals _ _ approved with known | denied | hidden
          · exact known.2
          · simp at denied
          · simp [redacted] at hidden
    refine returns_then (callAgent_kept stillFits ready executing gate stateFits) ?_
    rintro output history'' ⟨answered, later⟩
    exact finishNode_kept sameLimit (stillFits.grow later) rfl (ready.grow later)
      (Or.inr answered) stateFits

/-! The main loop. -/

theorem runReady_kept {service : OrchestratorService}
    (sameLimit : scope.maxAttempts = service.maxAttempts) (nodes : List GraphNodeRecord)
    (fits : ∀ node ∈ nodes, scope.NodeFits history node ∧ node.retryCount < service.maxAttempts)
    (settled : scope.Settled history) {state : LangGraphRunState}
    (stateFits : scope.StateFits state) :
    (runReady service scope.runId nodes state).wp scope.protocol
      (Returns fun pass history' => scope.Settled history' ∧ match pass with
        | .again state => scope.StateFits state
        | .waiting _ => closing history' = some .waitingForApproval) history := by
  induction nodes generalizing history state with
  | nil => exact ⟨settled, stateFits⟩
  | cons node rest ih =>
    obtain ⟨nodeFits, left⟩ := fits node List.mem_cons_self
    unfold runReady
    simp only [bind_eq]
    have first : (executeNode service node state).wp scope.protocol
        (Returns fun _ history' => scope.Settled history' ∧ history <:+ history') history := by
      refine wp_mono (protocol_grows (executeNode_kept sameLimit nodeFits left settled stateFits)) ?_
      rintro (outcome | e | _) history' ⟨reached, grown⟩
      · exact ⟨reached, grown⟩
      · trivial
      · trivial
    refine returns_then first ?_
    · rintro outcome history' ⟨settled', grown⟩
      refine returns_then (loadState_kept rfl settled'.ready) ?_
      rintro state' _ ⟨rfl, stateFits'⟩
      split
      · refine returns_perform ⟨rfl, settled'.ready, settled'.idle, trivial⟩ ?_
        intro run history'' allowed
        have later := allowed.1
        subst later
        exact ⟨⟨settled'.ready.grow (suffix_record _ _), settled'.idle⟩, rfl⟩
      · split
        · exact ⟨settled', stateFits'⟩
        · refine ih ?_ settled' stateFits'
          intro k member
          obtain ⟨kFits, kLeft⟩ := fits k (List.mem_cons_of_mem _ member)
          exact ⟨kFits.grow grown, kLeft⟩

/-- What a call that returns has shown. -/
def Closed (_scope : Scope) (result : OrchestrationResult) (history : List Entry) : Prop :=
  closing history = some result.status ∧
    (result.status = .completed ∨ result.status = .failed ∨ result.status = .waitingForApproval)

theorem result_kept {status : RunStatus}
    (final : status = .completed ∨ status = .failed ∨ status = .waitingForApproval)
    (closed : closing history = some status) (state : LangGraphRunState) :
    (result scope.runId status state).wp scope.protocol (Returns scope.Closed) history := by
  unfold result
  simp only [bind_eq]
  refine returns_then (refresh_kept rfl state) ?_
  rintro refreshed _ ⟨nodes, rfl, -⟩
  exact ⟨closed, final⟩

theorem finishRun_kept {status : RunStatus} (settled : scope.Settled history)
    (final : status = .completed ∧ scope.SeenCompleted history ∨ status = .failed ∨
      status = .waitingForApproval)
    (errorSummary : Option String) {state : LangGraphRunState} (stateFits : scope.StateFits state) :
    (finishRun scope.runId status errorSummary state).wp scope.protocol (Returns scope.Closed)
      history := by
  unfold finishRun
  simp only [bind_eq]
  refine returns_perform ⟨rfl, settled.ready, settled.idle, ?_⟩ ?_
  · rcases final with ⟨rfl, seen⟩ | rfl | rfl
    · exact seen
    · trivial
    · trivial
  · intro run history' allowed
    have grown := allowed.1
    subst grown
    refine returns_perform ⟨rfl, stateFits, fun notYet => absurd ?_ notYet⟩ ?_
    · exact settled.ready.grow (suffix_record _ _)
    · intro checkpoint history'' allowed'
      have grown := allowed'.1
      subst grown
      exact result_kept (final.imp_left And.left) rfl state

omit [PyRuntime] in
/-- A plan whose listed records are all completed covers the graph. -/
theorem seenCompleted_of_plan {state : LangGraphRunState} {nodes : List GraphNodeRecord}
    (stateFits : scope.StateFits state) (listing : scope.Listing history nodes)
    (member : .listed scope.runId nodes ∈ history)
    (all : ∀ node ∈ planNodes state nodes, node.status = .completed) :
    scope.SeenCompleted history := by
  refine ⟨nodes, member, ?_⟩
  intro id planned
  rw [← stateFits.plan] at planned
  obtain ⟨item, inPlan, same⟩ := List.mem_map.mp planned
  have stored : ∃ node ∈ nodes, node.id = item.id := by
    rw [same]
    exact listing.complete id (stateFits.plan ▸ planned)
  obtain ⟨node, inNodes, sameId⟩ := planNodes_covers inPlan stored
  exact ⟨node, mem_planNodes inNodes, sameId.trans same, all node inNodes⟩

theorem resumeLoop_kept {service : OrchestratorService}
    (sameLimit : scope.maxAttempts = service.maxAttempts) (fuel : Nat)
    (settled : scope.Settled history) {state : LangGraphRunState}
    (stateFits : scope.StateFits state) :
    (resumeLoop service scope.runId fuel state).wp scope.protocol (Returns scope.Closed)
      history := by
  induction fuel generalizing history state with
  | zero => trivial
  | succ fuel ih =>
    unfold resumeLoop
    simp only [bind_eq]
    refine returns_then (refresh_kept rfl state) ?_
    rintro refreshed _ ⟨before, rfl, synced⟩
    have stateFits' : scope.StateFits refreshed := by
      rw [synced]
      exact ⟨stateFits.plan, stateFits.approvals⟩
    have settled' : scope.Settled (.listed scope.runId before :: history) :=
      ⟨settled.ready.grow (List.suffix_cons _ _), settled.idle⟩
    split
    · exact finishRun_kept settled' (Or.inr (Or.inr rfl)) none stateFits'
    · unfold orderedNodes
      simp only [bind_eq, bind_assoc]
      refine returns_perform rfl ?_
      intro nodes history' allowed
      have listing := allowed.2 nodes rfl settled'.ready
      have grown := allowed.1
      subst grown
      have settled'' : scope.Settled (.listed scope.runId nodes ::
          .listed scope.runId before :: history) :=
        ⟨settled'.ready.grow (List.suffix_cons _ _), settled'.idle⟩
      have listing' : scope.Listing (.listed scope.runId nodes ::
          .listed scope.runId before :: history) nodes :=
        ⟨fun node member => (listing.fits node member).grow (List.suffix_cons _ _),
          listing.complete⟩
      simp only [pure_eq, Program.bind]
      split
      · rename_i done
        refine finishRun_kept settled'' (Or.inl ⟨rfl, ?_⟩) none stateFits'
        exact seenCompleted_of_plan stateFits' listing' List.mem_cons_self done.2
      · split
        · exact finishRun_kept settled'' (Or.inr (Or.inl rfl)) _ stateFits'
        · rw [wp_ofExcept_bind]
          split
          · rename_i ready found
            split
            · exact finishRun_kept settled'' (Or.inr (Or.inl rfl)) _ stateFits'
            · refine returns_then (runReady_kept sameLimit ready ?_ settled'' stateFits') ?_
              · intro node member
                obtain ⟨inPlan, -, left⟩ := readyNodes_ok found node member
                exact ⟨listing'.fits node (mem_planNodes inPlan), left⟩
              · rintro (state' | state') history' ⟨reached, rest⟩
                · exact ih reached rest
                · exact result_kept (Or.inr (Or.inr rfl)) rest state'
          · trivial

/-! The control calls. -/

theorem resumeRun_kept {service : OrchestratorService}
    (sameLimit : scope.maxAttempts = service.maxAttempts) (fuel : Nat)
    (settled : scope.Settled history) :
    (resumeRun service fuel scope.runId).wp scope.protocol (Returns scope.Closed) history := by
  unfold resumeRun
  simp only [bind_eq]
  refine ((protocol_calm scope).perform .getRun).returns fun run => ?_
  refine returns_then (loadState_kept rfl settled.ready) ?_
  rintro state _ ⟨rfl, stateFits⟩
  refine returns_perform ⟨rfl, settled.ready, settled.idle, trivial⟩ ?_
  intro run history' allowed
  have grown := allowed.1
  subst grown
  refine resumeLoop_kept sameLimit fuel ?_ stateFits
  exact ⟨settled.ready.grow (suffix_record _ _), settled.idle⟩

theorem upsertNodes_kept (now : CivilTime.Time) (nodes : List ExecutionNode)
    (inside : ∀ node ∈ nodes, node ∈ scope.graph.nodes) (unsaved : ¬ scope.Ready history)
    (idle : phase history = .idle) :
    (upsertNodes scope.runId now nodes).wp scope.protocol
      (fun o history' => match o with
        | .returned _ => phase history' = .idle ∧
            ∀ node ∈ nodes, .upserted (initialRecord scope.runId now node) ∈ history'
        | .raised _ => False
        | .unfinished => False) history := by
  induction nodes generalizing history with
  | nil => exact ⟨idle, by simp⟩
  | cons node rest ih =>
    unfold upsertNodes
    simp only [bind_eq]
    refine (wp_perform_bind _ _ _).mpr ⟨⟨fun ready => absurd ready unsaved,
      fun _ => ⟨node, inside node List.mem_cons_self, now, rfl⟩⟩, ?_, ?_⟩
    · intro stored history' allowed
      have grown := allowed.1
      subst grown
      have unsaved' : ¬ scope.Ready
          (record (describe (.upsertGraphNode (initialRecord scope.runId now node)) (.ok stored))
            history) := by
        intro ready
        refine unsaved fun stores => ?_
        obtain ⟨runId, state, member⟩ := ready stores
        refine ⟨runId, state, ?_⟩
        rcases List.mem_cons.mp member with same | old
        · cases same
        · exact old
      refine wp_mono (protocol_grows
        (ih (fun k member => inside k (List.mem_cons_of_mem _ member)) unsaved' rfl)) ?_
      rintro (_ | e | _) history'' ⟨reached, grown⟩
      · refine ⟨reached.1, ?_⟩
        intro k member
        rcases List.mem_cons.mp member with same | old
        · subst same
          exact grown.subset List.mem_cons_self
        · exact reached.2 k old
      · exact reached
      · exact reached
    · intro e history' allowed
      have impossible := allowed.2
      cases impossible

/-- What an execution of a graph does once the graph is stored. -/
def startStored (service : OrchestratorService) (fuel : Nat) (runId : String) :
    Prog OrchestrationResult := do
  let _ ← perform (.updateStatus runId .running none)
  resumeRun service fuel runId

theorem startStored_kept {service : OrchestratorService}
    (sameLimit : scope.maxAttempts = service.maxAttempts) (fuel : Nat)
    (settled : scope.Settled history) :
    (startStored service fuel scope.runId).wp scope.protocol (Returns scope.Closed) history := by
  refine returns_perform ⟨rfl, settled.ready, settled.idle, trivial⟩ ?_
  intro run history' allowed
  have grown := allowed.1
  subst grown
  refine resumeRun_kept sameLimit fuel ?_
  exact ⟨settled.ready.grow (suffix_record _ _), settled.idle⟩

/-- The first checkpoint of a graph has been saved, or redaction has refused it. -/
def Stored (scope : Scope) (history : List Entry) : Prop :=
  scope.Ready history ∨ ∃ runId state, .saveRefused runId state ∈ history

/-- An execution of a graph that is accepted. -/
theorem executeRun_kept {service : OrchestratorService}
    (sameLimit : scope.maxAttempts = service.maxAttempts) (fuel : Nat)
    (stores : scope.storesGraph = true)
    (valid : scope.graph.validate service.agentTypes = .ok ())
    (available : assertAgentsAvailable service scope.graph = .ok ()) :
    (executeRun service fuel scope.runId scope.graph).wp scope.protocol
      (fun o history' => Returns scope.Closed o history' ∧ scope.Stored history') [] := by
  have unsaved : ¬ scope.Ready [] := by
    intro ready
    obtain ⟨_, _, member⟩ := ready stores
    simp at member
  unfold executeRun
  simp only [bind_eq]
  refine (wp_perform_bind _ _ _).mpr ⟨rfl, ?_, ?_⟩
  swap
  · intro e history' allowed
    obtain ⟨run, impossible, -⟩ := allowed.2
    cases impossible
  intro run history' allowed
  have same : history' = [] := allowed.1
  subst same
  obtain ⟨_, answer, own⟩ := allowed.2
  simp only [Except.ok.injEq] at answer
  subst answer
  rw [own, wp_ofExcept_bind, valid]
  simp only
  rw [wp_ofExcept_bind, available]
  refine (wp_perform_bind _ _ _).mpr ⟨trivial, ?_, ?_⟩
  swap
  · intro e history' allowed
    obtain ⟨now, impossible⟩ := allowed.2
    cases impossible
  intro now history' allowed
  have same : history' = [] := allowed.1
  subst same
  rw [wp_bind]
  refine wp_mono (upsertNodes_kept now scope.graph.nodes (fun _ member => member) unsaved rfl) ?_
  rintro (_ | e | _) history' reached
  swap
  · exact reached.elim
  swap
  · exact reached.elim
  obtain ⟨idle, all⟩ := reached
  have stateFits : scope.StateFits (buildInitialState run scope.graph) := by
    refine ⟨?_, ?_⟩
    · simp only [buildInitialState, List.map_map, ExecutionGraph.ids]
      rfl
    · intro nodeId decision found
      simp [buildInitialState] at found
  refine (wp_perform_bind _ _ _).mpr
    ⟨⟨rfl, stateFits, fun _ planned member => ⟨now, all planned member⟩⟩, ?_, ?_⟩
  swap
  · intro e history'' allowed'
    refine ⟨trivial, Or.inr ⟨scope.runId, buildInitialState run scope.graph, ?_⟩⟩
    rw [allowed'.1]
    exact List.mem_cons_self
  intro checkpoint history'' allowed'
  have grown := allowed'.1
  subst grown
  have ready : scope.Ready
      (record (describe (.saveCheckpoint scope.runId (buildInitialState run scope.graph))
        (.ok checkpoint)) history') :=
    fun _ => ⟨_, _, List.mem_cons_self⟩
  -- the checkpoint stays stored whatever comes of the rest
  refine wp_mono (protocol_grows (startStored_kept sameLimit fuel ⟨ready, idle⟩)) ?_
  rintro o history'' ⟨returned, grown⟩
  exact ⟨returned, Or.inl (ready.grow grown)⟩

theorem approveNode_kept {service : OrchestratorService}
    (sameLimit : scope.maxAttempts = service.maxAttempts) (fuel : Nat) (nodeId : String)
    (approved : Bool) (comment : Option String) (known : approved = true → scope.approved nodeId)
    (ready : scope.Ready []) :
    (approveNode service fuel scope.runId nodeId approved comment).wp scope.protocol
      (Returns scope.Closed) [] := by
  have calm := protocol_calm scope
  unfold approveNode
  simp only [bind_eq]
  refine returns_then (loadState_kept rfl ready) ?_
  rintro state _ ⟨rfl, stateFits⟩
  refine returns_perform rfl ?_
  intro node history' allowed
  have same : history' = [] := allowed.1
  subst same
  have fits := (allowed.2 node rfl).2 ready
  split
  · trivial
  · rename_i waiting
    simp only [ne_eq, Decidable.not_not] at waiting
    have decided : ∀ decision,
        (decision = "approved" ∧ scope.approved nodeId ∨ decision = "denied") →
        scope.StateFits
          { state with
            approvals := state.approvals.set nodeId decision
            waitingForApprovalNodeId := none } := by
      intro decision given
      refine ⟨stateFits.plan, ?_⟩
      intro other found lookup
      simp only [Dict.get?_set] at lookup
      split at lookup
      · rename_i same
        subst same
        simp only [Option.some.injEq] at lookup
        subst lookup
        exact given.imp_right Or.inl
      · exact stateFits.approvals other found lookup
    refine (calm.perform .utcNow).returns fun timestamp => ?_
    refine (recordEvent_still calm _ _ _).returns fun _ => ?_
    split
    · rename_i given
      refine (calm.perform .utcNow).returns fun updated => ?_
      refine returns_perform ⟨fun _ => ⟨?_, Or.inr (Or.inr (by simp))⟩,
        fun notYet => absurd ready notYet⟩ ?_
      · exact
          { runId := fits.runId
            planned := fits.planned
            budget := fun planned _ => fits.budget planned (by simp [waiting])
            used := by simp
            completed := by simp }
      · intro stored history' allowed'
        have grown := allowed'.1
        subst grown
        refine storeState_kept rfl (decided "approved" (Or.inl ⟨rfl, known given⟩))
          (ready.grow (suffix_record _ _)) ?_
        intro refreshed nodes _
        exact resumeRun_kept sameLimit fuel (Settled.stored ready (by simp))
    · refine (calm.perform .utcNow).returns fun finished => ?_
      refine (calm.perform .utcNow).returns fun updated => ?_
      refine returns_perform ⟨fun _ => ⟨?_, Or.inr (Or.inr (by simp))⟩,
        fun notYet => absurd ready notYet⟩ ?_
      · exact
          { runId := fits.runId
            planned := fits.planned
            budget := by simp
            used := by simp
            completed := by simp }
      · intro stored history' allowed'
        have grown := allowed'.1
        subst grown
        refine storeState_kept rfl (decided "denied" (Or.inr rfl))
          (ready.grow (suffix_record _ _)) ?_
        intro refreshed nodes _
        refine returns_perform ⟨rfl, ?_, rfl, trivial⟩ ?_
        · exact ready.grow (List.nil_suffix)
        intro run history'' allowed''
        have grown := allowed''.1
        subst grown
        exact result_kept (Or.inr (Or.inl rfl)) rfl refreshed

theorem retryFailedNode_kept {service : OrchestratorService}
    (sameLimit : scope.maxAttempts = service.maxAttempts) (fuel : Nat) (nodeId : String)
    (ready : scope.Ready []) :
    (retryFailedNode service fuel scope.runId nodeId).wp scope.protocol (Returns scope.Closed)
      [] := by
  have calm := protocol_calm scope
  unfold retryFailedNode
  simp only [bind_eq]
  refine returns_then (loadState_kept rfl ready) ?_
  rintro state _ ⟨rfl, stateFits⟩
  refine returns_perform rfl ?_
  intro node history' allowed
  have same : history' = [] := allowed.1
  subst same
  have fits := (allowed.2 node rfl).2 ready
  split
  · trivial
  · refine (calm.perform .utcNow).returns fun updated => ?_
    refine returns_perform ⟨fun _ => ⟨?_, Or.inr (Or.inr (by simp))⟩,
      fun notYet => absurd ready notYet⟩ ?_
    · exact
        { runId := fits.runId
          planned := fits.planned
          budget := fun _ _ => sameLimit ▸ service.retryPolicy.positive
          used := by simp
          completed := by simp }
    · intro stored history' allowed'
      have grown := allowed'.1
      subst grown
      refine storeState_kept rfl stateFits (ready.grow (suffix_record _ _)) ?_
      intro refreshed nodes _
      exact resumeRun_kept sameLimit fuel (Settled.stored ready (by simp))

end Scope
end Orchestration
