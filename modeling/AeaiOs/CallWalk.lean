import AeaiOs.ControlCalls
import AeaiOs.NodeWalk

/-!
The main loop and the control calls, walked through: every step of a call is legal,
the loop ends before the attempts do, and what a call that returns has found.
-/
namespace Orchestration
open OrderedDict PyText CivilTime AtomicProgram Program ExceptLists RunValues RunModels Redaction
  InMemoryRunRepository ToolPolicy

/-- The state names a node that waits for approval. -/
def Pausing (state : LangGraphRunState) : Prop :=
  (state.waitingForApprovalNodeId.filter fun nodeId => nodeId ≠ "").isSome = true

/-! The nodes that are ready. -/

theorem dependenciesCompleted_true {statuses : Dict String GraphNodeStatus}
    {dependsOn : List String} (h : dependenciesCompleted statuses dependsOn = .ok true) :
    ∀ dependency ∈ dependsOn, statuses.get? dependency = some .completed := by
  induction dependsOn with
  | nil => simp
  | cons dependency rest ih =>
    unfold dependenciesCompleted at h
    cases found : statuses.get? dependency with
    | none => simp [found] at h
    | some status =>
      simp only [found] at h
      split at h
      · rename_i done
        subst done
        exact List.forall_mem_cons.mpr ⟨found, ih h⟩
      · simp at h

theorem dependenciesCompleted_total {statuses : Dict String GraphNodeStatus}
    {dependsOn : List String}
    (known : ∀ dependency ∈ dependsOn, ∃ status, statuses.get? dependency = some status) :
    ∃ ready, dependenciesCompleted statuses dependsOn = .ok ready := by
  induction dependsOn with
  | nil => exact ⟨true, rfl⟩
  | cons dependency rest ih =>
    obtain ⟨status, found⟩ := known dependency List.mem_cons_self
    unfold dependenciesCompleted
    simp only [found]
    split
    · exact ih fun other member => known other (List.mem_cons_of_mem _ member)
    · exact ⟨false, rfl⟩

theorem readyNodes_sublist {limit : Nat} {statuses : Dict String GraphNodeStatus}
    {nodes ready : List GraphNodeRecord} (h : readyNodes limit statuses nodes = .ok ready) :
    ready.Sublist nodes ∧ ∀ node ∈ ready, dependenciesCompleted statuses node.dependsOn = .ok true := by
  induction nodes generalizing ready with
  | nil =>
    simp only [readyNodes, Except.ok.injEq] at h
    subst h
    exact ⟨List.Sublist.refl _, by simp⟩
  | cons node rest ih =>
    unfold readyNodes at h
    split at h
    · simp only [bind_eq_ok, pure_eq_ok] at h
      obtain ⟨completed, deps, others, later, same⟩ := h
      obtain ⟨sub, each⟩ := ih later
      cases completed with
      | true =>
        rw [if_pos rfl] at same
        subst same
        exact ⟨sub.cons_cons node, List.forall_mem_cons.mpr ⟨deps, each⟩⟩
      | false =>
        rw [if_neg (by simp)] at same
        subst same
        exact ⟨sub.cons node, each⟩
    · obtain ⟨sub, each⟩ := ih h
      exact ⟨sub.cons node, each⟩

theorem readyNodes_total {limit : Nat} {statuses : Dict String GraphNodeStatus}
    {nodes : List GraphNodeRecord}
    (known : ∀ node ∈ nodes, ∀ dependency ∈ node.dependsOn,
      ∃ status, statuses.get? dependency = some status) :
    ∃ ready, readyNodes limit statuses nodes = .ok ready := by
  induction nodes with
  | nil => exact ⟨[], rfl⟩
  | cons node rest ih =>
    obtain ⟨others, later⟩ := ih fun other member => known other (List.mem_cons_of_mem _ member)
    unfold readyNodes
    split
    · obtain ⟨ready, deps⟩ := dependenciesCompleted_total (known node List.mem_cons_self)
      rw [deps, later]
      exact ⟨_, rfl⟩
    · exact ⟨others, later⟩

theorem nodeStatuses_get {nodes : List GraphNodeRecord} {id : String} {status : GraphNodeStatus}
    (h : (nodeStatuses nodes).get? id = some status) :
    ∃ node ∈ nodes, node.id = id ∧ node.status = status := by
  obtain ⟨node, member, same⟩ := List.mem_map.mp (Dict.mem_of_get?_ofPairs h)
  simp only [Prod.mk.injEq] at same
  exact ⟨node, member, same⟩

theorem nodeStatuses_known {nodes : List GraphNodeRecord} {node : GraphNodeRecord}
    (member : node ∈ nodes) : ∃ status, (nodeStatuses nodes).get? node.id = some status :=
  Dict.get?_ofPairs_of_mem
    (List.mem_map_of_mem (f := fun node : GraphNodeRecord => (node.id, node.status)) member)

namespace Law
variable [PyRuntime] {law : Law} {c : Control} {history : List Entry} {cut : Prop}
  {service : OrchestratorService}

/-- The ready nodes of a plan may all be started. -/
theorem startable_of_ready (between : law.Between c history) {state : LangGraphRunState}
    (fits : law.Fits history state) {ready : List GraphNodeRecord}
    (found : readyNodes law.maxAttempts (nodeStatuses (planNodes state c.nodes))
      (planNodes state c.nodes) = .ok ready) : ∀ node ∈ ready, law.Startable c node := by
  intro node member
  have nodup := between.inv.nodup
  obtain ⟨inPlan, open', left⟩ := readyNodes_ok found node member
  obtain ⟨stored, planned⟩ := (mem_planNodes_iff nodup).mp inPlan
  refine ⟨recordOf_of_mem nodup stored, open', left, ?_, _, fits.plan, planned⟩
  intro dependency needed
  have done := dependenciesCompleted_true ((readyNodes_sublist found).2 node member) dependency needed
  obtain ⟨other, inPlan', same, completed⟩ := nodeStatuses_get done
  rw [← same]
  exact ⟨other, recordOf_of_mem nodup (mem_planNodes inPlan'), completed⟩

theorem ready_apart (sound : law.Sound) (between : law.Between c history)
    {state : LangGraphRunState} (fits : law.Fits history state) {ready : List GraphNodeRecord}
    (found : readyNodes law.maxAttempts (nodeStatuses (planNodes state c.nodes))
      (planNodes state c.nodes) = .ok ready) : (idsOf ready).Nodup := by
  have sub : (idsOf ready).Sublist (idsOf (planNodes state c.nodes)) := (readyNodes_sublist found).1.map _
  apply sub.nodup
  rw [planNodes_ids between.inv.nodup]
  have known : ((state.plan.map PlanItem.id).filter fun id => id ∈ idsOf c.nodes).Sublist
      ((state.plan.map PlanItem.id).filter fun id => id ∈ law.records) := by
    apply List.monotone_filter_right
    intro id member
    simp only [decide_eq_true_eq] at member ⊢
    exact between.inv.known id member
  exact known.nodup (sound.apart _ fits.plan)

/-! After a node execution. -/

section ran
variable {node final : GraphNodeRecord} {state before stored : LangGraphRunState}
  {outcome : GraphNodeStatus} {s : Control × List Entry}
  (ran : law.Ran node state c history outcome final before stored s)
include ran

theorem Ran.nodes : s.1.nodes = upserted final c.nodes := by rw [ran.reached]

theorem Ran.checkpoint : s.1.checkpoint = some stored := by rw [ran.reached]

theorem Ran.fits : law.Fits s.2 stored := ran.inv.plan ran.saved stored ran.checkpoint

theorem Ran.between (between : law.Between c history) (proceeds : outcome ≠ .waitingForApproval) :
    law.Between s.1 s.2 where
  inv := ran.inv
  saved := ran.saved
  idle := ran.idle
  notPaused := ran.notPaused proceeds
  written stores planned member := by
    obtain ⟨now, entry⟩ := between.written stores planned member
    exact ⟨now, ran.grown.subset entry⟩

/-- The other nodes are as they were. -/
theorem Ran.startable (started : law.Startable c node) {other : GraphNodeRecord}
    (startable : law.Startable c other) (apart : other.id ≠ node.id) :
    law.Startable s.1 other where
  current := by
    rw [ran.nodes, recordOf_upserted, if_neg fun same => apart (same.symm.trans ran.ends.id)]
    exact startable.current
  open' := startable.open'
  left := startable.left
  ready := by
    rw [ran.nodes]
    exact startable.ready.upserted (ran.ends.id ▸ started.current) started.unfinished
  planned := startable.planned

/-- An attempt is used up, unless the node waits. -/
theorem Ran.attemptsLeft (sound : law.Sound) (between : law.Between c history)
    (started : law.Startable c node) (counts : law.counts)
    (proceeds : outcome ≠ .waitingForApproval) :
    attemptsLeft law.maxAttempts s.1.nodes law.counted <
      Orchestration.attemptsLeft law.maxAttempts c.nodes law.counted := by
  obtain ⟨nodup, covers⟩ := sound.counted counts
  obtain ⟨ids, fit, member⟩ := started.planned
  have known : node.id ∈ law.records := by
    apply between.inv.known
    exact recordOf_isSome.mp ⟨node, started.current⟩
  have inside : final.id ∈ law.counted := by
    rw [ran.ends.id]
    exact covers ids fit node.id member known
  have step : Orchestration.attemptsLeft law.maxAttempts (upserted final c.nodes) law.counted +
      leftOf law.maxAttempts c.nodes final.id =
        Orchestration.attemptsLeft law.maxAttempts c.nodes law.counted +
          attemptsOf law.maxAttempts final := attemptsLeft_upserted nodup inside
  have old : leftOf law.maxAttempts c.nodes final.id = law.maxAttempts - node.retryCount := by
    unfold leftOf
    rw [ran.ends.id, started.current]
    simp [attemptsOf, started.unfinished]
  have room := started.left
  have less : attemptsOf law.maxAttempts final < law.maxAttempts - node.retryCount := by
    unfold attemptsOf
    rcases ran.ends.tried with ⟨done | waits, -⟩ | ⟨more, -⟩
    · rw [ran.ends.status, if_pos done]
      omega
    · exact absurd waits proceeds
    · rw [more]
      split <;> omega
  rw [ran.nodes]
  omega

end ran

/-! One pass over the ready nodes. -/

/-- What a call carries along: `kept` from round to round, `free` through the node
    executions of a round, `paused` once one of them waits. -/
structure Carried (law : Law)
    (kept free paused : List GraphNodeRecord → LangGraphRunState → Prop) : Prop where
  enter : ∀ nodes state, kept nodes state → ¬ Pausing (synced state nodes) →
    free nodes (synced state nodes)
  ran : ∀ {node final : GraphNodeRecord} {state before stored : LangGraphRunState} {c : Control}
    {history : List Entry} {outcome : GraphNodeStatus} {s : Control × List Entry},
    free c.nodes state → law.Startable c node → law.Between c history →
      law.Ran node state c history outcome final before stored s →
      if outcome = .waitingForApproval then paused s.1.nodes stored else free s.1.nodes stored
  leave : ∀ nodes state, free nodes state → kept nodes state

variable {kept free paused : List GraphNodeRecord → LangGraphRunState → Prop}

/-- How a pass ends. -/
def Passed (law : Law) (free paused : List GraphNodeRecord → LangGraphRunState → Prop) (c : Control)
    (nodes : List GraphNodeRecord) : Pass → Control × List Entry → Prop
  | .again state, s => law.Between s.1 s.2 ∧ law.Fits s.2 state ∧ free s.1.nodes state ∧
      (law.counts →
        attemptsLeft law.maxAttempts s.1.nodes law.counted ≤
          attemptsLeft law.maxAttempts c.nodes law.counted ∧
        (nodes ≠ [] → attemptsLeft law.maxAttempts s.1.nodes law.counted <
          attemptsLeft law.maxAttempts c.nodes law.counted))
  | .waiting state, s => s.1.status = .waitingForApproval ∧ paused s.1.nodes state ∧
      s.1.checkpoint = some state

theorem runReady_walk (sound : law.Sound) (able : law.Able service)
    (sameLimit : law.maxAttempts = service.maxAttempts) (carried : law.Carried kept free paused)
    (nodes : List GraphNodeRecord) (each : ∀ node ∈ nodes, law.Startable c node)
    (apart : (idsOf nodes).Nodup) (between : law.Between c history) {state : LangGraphRunState}
    (fits : law.Fits history state) (inv : free c.nodes state) :
    (runReady service law.runId nodes state).wp law.work
      (Ends (law.Passed free paused c nodes) law.Excused cut) (c, history) := by
  induction nodes generalizing c history state with
  | nil => exact ⟨between, fits, inv, fun _ => ⟨le_rfl, fun some => absurd rfl some⟩⟩
  | cons node rest ih =>
    obtain ⟨startable, others⟩ := List.forall_mem_cons.mp each
    unfold runReady
    simp only [bind_eq]
    apply ends_then (executeNode_walk able sameLimit startable between fits)
    rintro outcome ⟨c', history'⟩ ⟨final, before, stored, ran⟩
    apply loadState_walk ran.checkpoint
    have carries := carried.ran inv startable between ran
    split
    · rename_i waits
      rw [if_pos waits] at carries
      apply status_walk
      intro run
      exact ⟨rfl, carries, ran.checkpoint⟩
    · rename_i proceeds
      rw [if_neg proceeds] at carries
      have between' := ran.between between proceeds
      have less := fun counts => ran.attemptsLeft sound between startable counts proceeds
      split
      · exact ⟨between', ran.fits, carries, fun counts => ⟨(less counts).le, fun _ => less counts⟩⟩
      · have fresh : node.id ∉ idsOf rest ∧ (idsOf rest).Nodup := List.nodup_cons.mp apart
        have startables : ∀ other ∈ rest, law.Startable c' other := by
          intro other member
          apply ran.startable startable (others other member)
          intro same
          exact fresh.1 (same ▸ List.mem_map_of_mem member)
        apply ends_mono (ih startables fresh.2 between' ran.fits carries) _ id
        rintro (state' | state') s passed
        · obtain ⟨between'', fits'', carries'', measure⟩ := passed
          refine ⟨between'', fits'', carries'', fun counts => ?_⟩
          have first := less counts
          have later := (measure counts).1
          simp only at first
          exact ⟨by omega, fun _ => by omega⟩
        · exact passed

/-! The main loop. -/

end Law

/-- Why the main loop may end with a status. -/
inductive Exit (limit : Nat) (state : LangGraphRunState) (nodes : List GraphNodeRecord) :
    RunStatus → Prop
  | waiting (pausing : Pausing (synced state nodes)) : Exit limit state nodes .waitingForApproval
  | completed (proceeding : ¬ Pausing (synced state nodes)) (some' : planNodes state nodes ≠ [])
      (done : ∀ node ∈ planNodes state nodes, node.status = .completed) :
      Exit limit state nodes .completed
  | exhausted (proceeding : ¬ Pausing (synced state nodes)) (node : GraphNodeRecord)
      (member : node ∈ planNodes state nodes) (failed : node.status = .failed)
      (spent : limit ≤ node.retryCount) : Exit limit state nodes .failed
  | stuck (proceeding : ¬ Pausing (synced state nodes))
      (unfinished : ¬ (planNodes state nodes ≠ [] ∧
        ∀ node ∈ planNodes state nodes, node.status = .completed))
      (unspent : ∀ node ∈ planNodes state nodes, node.status = .failed → node.retryCount < limit)
      (unready : readyNodes limit (nodeStatuses (planNodes state nodes)) (planNodes state nodes) =
        .ok []) : Exit limit state nodes .failed

/-- How a call that returns leaves its run: at an exit of the main loop, or with a node
    that waits. -/
inductive Left [UnicodeDatabase] (limit : Nat)
    (kept paused : List GraphNodeRecord → LangGraphRunState → Prop) :
    RunStatus → Control → Prop
  | finished (nodes : List GraphNodeRecord) (state stored : LangGraphRunState) (status : RunStatus)
      (carried : kept nodes state) (exit : Exit limit state nodes status)
      (redacts : redactState (synced state nodes) = .ok stored) :
      Left limit kept paused status ⟨status, nodes, some stored⟩
  | paused (nodes : List GraphNodeRecord) (stored : LangGraphRunState)
      (carried : paused nodes stored) :
      Left limit kept paused .waitingForApproval ⟨.waitingForApproval, nodes, some stored⟩

/-- A denied node: its record is failed, and so is the run. -/
def Denied [UnicodeDatabase] (c : Control) (nodeId : String) (status : RunStatus) (c' : Control) : Prop :=
  ∃ state node finished updated before stored, c.checkpoint = some state ∧
    recordOf c.nodes nodeId = some node ∧ node.status = .waitingForApproval ∧
    before.plan = state.plan ∧ status = .failed ∧
    redactState (synced before (upserted
      { node with status := .failed, finishedAt := some finished, updatedAt := updated }
      c.nodes)) = .ok stored ∧
    c' = ⟨.failed, upserted
      { node with status := .failed, finishedAt := some finished, updatedAt := updated } c.nodes,
      some stored⟩

namespace Law
variable [PyRuntime] {law : Law} {c : Control} {history : List Entry} {cut : Prop}
  {service : OrchestratorService}
  {kept free paused : List GraphNodeRecord → LangGraphRunState → Prop}

theorem result_walk (status : RunStatus) (state : LangGraphRunState)
    {good : OrchestrationResult → Control × List Entry → Prop}
    (later : ∀ shown : OrchestrationResult, shown.status = status →
      good shown (c, .listed law.runId c.nodes :: history)) :
    (result law.runId status state).wp law.work (Ends good law.Excused cut) (c, history) := by
  unfold result
  simp only [bind_eq]
  apply refresh_walk
  exact later _ rfl

theorem finishRun_walk (between : law.Between c history) {state : LangGraphRunState}
    (fits : law.Fits history state) (inv : kept c.nodes state) {status : RunStatus}
    (exit : Exit law.maxAttempts state c.nodes status) (errorSummary : Option String) :
    (finishRun law.runId status errorSummary (synced state c.nodes)).wp law.work
      (Ends (fun r s => Left law.maxAttempts kept paused r.status s.1) law.Excused cut)
      (c, history) := by
  unfold finishRun
  simp only [bind_eq]
  apply status_walk
  intro run
  have grown : history <:+ .statusSet law.runId status errorSummary :: history := List.suffix_cons _ _
  apply save_walk ((fits.grow grown).synced c.nodes) (not_storing_grow grown between.saved)
  intro stored _ redacts _
  apply result_walk
  intro shown same
  rw [same]
  exact .finished c.nodes state stored status inv exit redacts

/-- What has been listed does not end the time between two node executions. -/
theorem Between.listed (between : law.Between c history) (nodes : List GraphNodeRecord) :
    law.Between c (.listed law.runId nodes :: history) where
  inv := between.inv.noted (by simp) (by simp)
  saved := not_storing_grow (List.suffix_cons _ _) between.saved
  idle := between.idle
  notPaused other member := between.notPaused other (by simpa using member)
  written stores planned member := by
    obtain ⟨now, entry⟩ := between.written stores planned member
    exact ⟨now, List.mem_cons_of_mem _ entry⟩

/-- In a strict call every dependency in the plan has a status. -/
theorem Able.known (able : law.Able service) (strict : law.strict)
    (between : law.Between c history) {state : LangGraphRunState} (fits : law.Fits history state) :
    ∀ node ∈ planNodes state c.nodes, ∀ dependency ∈ node.dependsOn,
      ∃ status, (nodeStatuses (planNodes state c.nodes)).get? dependency = some status := by
  intro node member dependency needed
  have nodup := between.inv.nodup
  obtain ⟨stored, planned⟩ := (mem_planNodes_iff nodup).mp member
  obtain ⟨task, inside, -, same⟩ :=
    able.task strict between fits.plan planned (recordOf_of_mem nodup stored)
  rw [same.dependsOn] at needed
  have inPlan := able.closed strict task inside dependency needed
  rw [← able.whole strict _ fits.plan] at inPlan
  have inTasks := inPlan
  rw [able.whole strict _ fits.plan] at inTasks
  obtain ⟨other, inside', named⟩ := List.mem_map.mp inTasks
  obtain ⟨record, found, -⟩ := between.inv.tasks other inside' fun stores =>
    between.written stores other inside'
  have here : record ∈ planNodes state c.nodes := by
    apply (mem_planNodes_iff nodup).mpr
    rw [recordOf_id found, named]
    exact ⟨mem_of_recordOf found, inPlan⟩
  obtain ⟨status, known⟩ := nodeStatuses_known here
  rw [recordOf_id found, named] at known
  exact ⟨status, known⟩

theorem resumeLoop_walk (sound : law.Sound) (able : law.Able service)
    (sameLimit : law.maxAttempts = service.maxAttempts) (carried : law.Carried kept free paused)
    (fuel : Nat) (between : law.Between c history) {state : LangGraphRunState}
    (fits : law.Fits history state) (inv : kept c.nodes state) :
    (resumeLoop service law.runId fuel state).wp law.work
      (Ends (fun r s => Left law.maxAttempts kept paused r.status s.1) law.Excused
        (law.counts → fuel ≤ attemptsLeft law.maxAttempts c.nodes law.counted)) (c, history) := by
  induction fuel generalizing c history state with
  | zero => exact fun _ => Nat.zero_le _
  | succ fuel ih =>
    unfold resumeLoop
    simp only [bind_eq]
    apply refresh_walk
    have between' := between.listed c.nodes
    have fits' := fits.grow (List.suffix_cons (.listed law.runId c.nodes) history)
    split
    · rename_i pausing
      exact finishRun_walk between' fits' inv (.waiting pausing) none
    · rename_i proceeding
      apply ordered_walk
      have listed := between'.listed c.nodes
      have fitsListed := fits'.grow (List.suffix_cons (.listed law.runId c.nodes) _)
      -- what is listed is the plan of the state before it was refreshed
      have plan : planNodes (synced state c.nodes) c.nodes = planNodes state c.nodes := rfl
      rw [plan]
      split
      · rename_i done
        exact finishRun_walk listed fitsListed inv (.completed proceeding done.1 done.2) none
      · rename_i unfinished
        split
        · rename_i spent
          obtain ⟨node, member⟩ := List.exists_mem_of_ne_nil _ spent
          simp only [List.mem_filter, decide_eq_true_eq] at member
          obtain ⟨inPlan, failed, limit⟩ := member
          exact finishRun_walk listed fitsListed inv
            (.exhausted proceeding node inPlan failed (sameLimit ▸ limit)) _
        · rename_i unspent
          have within : ∀ node ∈ planNodes state c.nodes, node.status = .failed →
              node.retryCount < law.maxAttempts := by
            intro node member failed
            simp only [ne_eq, Decidable.not_not, List.filter_eq_nil_iff, decide_eq_true_eq,
              not_and, Nat.not_le] at unspent
            exact sameLimit ▸ unspent node member failed
          rw [wp_ofExcept_bind, ← sameLimit]
          cases search : readyNodes law.maxAttempts (nodeStatuses (planNodes state c.nodes))
              (planNodes state c.nodes) with
          | error e =>
            refine Or.inr (Or.inr fun strict => ?_)
            obtain ⟨ready, found⟩ := readyNodes_total (able.known strict between fits)
            rw [search] at found
            cases found
          | ok ready =>
            simp only
            split
            · rename_i unready
              subst unready
              exact finishRun_walk listed fitsListed inv
                (.stuck proceeding unfinished within search) _
            · rename_i some
              have startable := startable_of_ready between fits search
              apply ends_then (runReady_walk sound able sameLimit carried ready startable
                (ready_apart sound between fits search) listed (fitsListed.synced c.nodes)
                (carried.enter _ _ inv proceeding))
              rintro (state' | state') ⟨c', history'⟩ passed
              · obtain ⟨between'', fits'', inv', measure⟩ := passed
                apply ends_mono (ih between'' fits'' (carried.leave _ _ inv')) fun _ _ reached => reached
                intro cut counts
                have less := (measure counts).2 some
                have short := cut counts
                simp only at less short
                omega
              · obtain ⟨status, waits, checkpoint⟩ := passed
                apply result_walk
                intro shown same
                rw [same]
                cases c'
                simp only at status checkpoint
                subst status checkpoint
                exact .paused _ state' waits

/-! The control calls. -/

theorem resumeRun_walk (sound : law.Sound) (able : law.Able service)
    (sameLimit : law.maxAttempts = service.maxAttempts) (carried : law.Carried kept free paused)
    (fuel : Nat) (between : law.Between c history) {state : LangGraphRunState}
    (stored : c.checkpoint = some state) (inv : kept c.nodes state) :
    (resumeRun service fuel law.runId).wp law.work
      (Ends (fun r s => Left law.maxAttempts kept paused r.status s.1) law.Excused
        (law.counts → fuel ≤ attemptsLeft law.maxAttempts c.nodes law.counted)) (c, history) := by
  unfold resumeRun
  simp only [bind_eq]
  refine ((work_calm law).perform .getRun).ends fun run => ?_
  apply loadState_walk stored
  apply status_walk
  intro run
  have grown : history <:+ .statusSet law.runId .running none :: history := List.suffix_cons _ _
  have between' : law.Between { c with status := .running }
      (.statusSet law.runId .running none :: history) :=
    { inv := between.inv.status.noted (by simp) (by simp)
      saved := not_storing_grow grown between.saved
      idle := between.idle
      notPaused := fun other member => between.notPaused other (by simpa using member)
      written := fun stores planned member => by
        obtain ⟨now, entry⟩ := between.written stores planned member
        exact ⟨now, List.mem_cons_of_mem _ entry⟩ }
  exact resumeLoop_walk sound able sameLimit carried fuel between'
    ((between.inv.plan between.saved state stored).grow grown) inv

/-- A call that starts from a checkpoint. -/
structure Starts (law : Law) (c : Control) (state : LangGraphRunState) : Prop where
  stored : c.checkpoint = some state
  inv : law.Inv c []
  stores : law.stores = false
  bounded : attemptsLeft law.maxAttempts c.nodes law.counted ≤ law.bound

theorem Starts.saved {state : LangGraphRunState} (starts : law.Starts c state) :
    ¬ law.Storing history := by
  intro storing
  have impossible := storing.1.symm.trans starts.stores
  cases impossible

theorem Starts.between {state : LangGraphRunState} (starts : law.Starts c state) :
    law.Between c [] where
  inv := starts.inv
  saved := starts.saved
  idle := rfl
  notPaused _ member := by simp at member
  written stores := by
    rw [starts.stores] at stores
    cases stores

/-- A record that is open again, written before anything else. -/
theorem reopen_walk (sound : law.Sound) (able : law.Able service)
    (sameLimit : law.maxAttempts = service.maxAttempts) (carried : law.Carried kept free paused)
    (fuel : Nat) {state : LangGraphRunState} (starts : law.Starts c state)
    {node new : GraphNodeRecord} (current : recordOf c.nodes node.id = some node)
    (moves : law.Moves c [] node new) (pending : new.status = .pending)
    (bounded : attemptsLeft law.maxAttempts (upserted new c.nodes) law.counted ≤ law.bound)
    {before : LangGraphRunState} (plan : before.plan = state.plan)
    (errors : before.errors = state.errors)
    (resumes : ∀ stored, redactState (synced before (upserted new c.nodes)) = .ok stored →
      kept (upserted new c.nodes) stored) :
    ((perform (.upsertGraphNode new)).bind fun _ =>
      (refreshStateFromNodes law.runId before).bind fun refreshed =>
        (perform (.saveCheckpoint law.runId refreshed)).bind fun _ =>
          resumeRun service fuel law.runId).wp law.work
      (Ends (fun r s => Left law.maxAttempts kept paused r.status s.1) law.Excused
        (law.counts → fuel ≤ law.bound)) (c, []) := by
  have own : node.runId = law.runId := starts.inv.own node (mem_of_recordOf current)
  apply upsert_walk own current starts.saved moves
  intro inv
  have fits := (starts.inv.plan starts.saved state starts.stored).grow (List.suffix_cons (.upserted new) [])
  apply store_walk (fits.like plan errors) starts.saved
  intro stored redacts inv'
  have between : law.Between { c with nodes := upserted new c.nodes, checkpoint := some stored }
      [.saved law.runId (synced before (upserted new c.nodes)),
        .listed law.runId (upserted new c.nodes), .upserted new] :=
    { inv := inv'
      saved := starts.saved
      idle := by simp [phase, pending]
      notPaused := by simp [NotPaused, pending]
      written := fun stores => by
        rw [starts.stores] at stores
        cases stores }
  apply ends_mono (resumeRun_walk sound able sameLimit carried fuel between rfl
    (resumes stored redacts)) fun _ _ reached => reached
  intro cut counts
  exact (cut counts).trans bounded

/-- A lookup of a record of the run. -/
theorem getNode_walk {nodeId : String} {good : β → Control × List Entry → Prop}
    {rest : GraphNodeRecord → Prog β}
    (found : ∀ node, recordOf c.nodes nodeId = some node → node.id = nodeId →
      (rest node).wp law.work (Ends good law.Excused cut) (c, history))
    (missing : ∀ e, law.Excused e (c, history)) :
    ((perform (.getGraphNode law.runId nodeId)).bind rest).wp law.work (Ends good law.Excused cut)
      (c, history) := by
  apply ends_perform
  · exact rfl
  · rintro node ⟨c', history'⟩ ⟨⟨same, told⟩, noted, -⟩
    simp only at same told noted
    subst same noted
    have answered := told trivial
    cases search : c'.nodes.find? fun node => node.id = nodeId with
    | none =>
      rw [search] at answered
      cases answered
    | some other =>
      rw [search, found_some, Except.ok.injEq] at answered
      subst answered
      have named : recordOf c'.nodes nodeId = some node := search
      exact found node named (recordOf_id named)
  · rintro e ⟨c', history'⟩ ⟨⟨same, -⟩, noted, -⟩
    simp only at same noted
    subst same noted
    exact missing e

/-- Approving is like deciding on the node and reopening its record. -/
theorem approveNode_walk (sound : law.Sound) (able : law.Able service) (lenient : ¬ law.strict)
    (sameLimit : law.maxAttempts = service.maxAttempts) (carried : law.Carried kept free paused)
    (fuel : Nat) {state : LangGraphRunState} (starts : law.Starts c state) (nodeId : String)
    (comment : Option String)
    (resumes : ∀ node updated before stored, recordOf c.nodes nodeId = some node →
      node.status = .waitingForApproval → before.plan = state.plan → before.errors = state.errors →
      redactState (synced before (upserted { node with status := .pending, updatedAt := updated }
        c.nodes)) = .ok stored →
      kept (upserted { node with status := .pending, updatedAt := updated } c.nodes) stored) :
    (approveNode service fuel law.runId nodeId true comment).wp law.work
      (Ends (fun r s => Left law.maxAttempts kept paused r.status s.1) law.Excused
        (law.counts → fuel ≤ law.bound)) (c, []) := by
  have calm := work_calm law
  unfold approveNode
  simp only [bind_eq, if_true]
  apply loadState_walk starts.stored
  apply getNode_walk
  · intro node current sameId
    subst sameId
    split
    · exact Or.inr (Or.inr lenient)
    · rename_i waiting
      simp only [ne_eq, Decidable.not_not] at waiting
      refine (calm.perform .utcNow).ends fun timestamp => ?_
      refine (recordEvent_still calm _ _ _).ends fun _ => ?_
      refine (calm.perform .utcNow).ends fun updated => ?_
      have moves : law.Moves c [] node { node with status := .pending, updatedAt := updated } :=
        .approve updated waiting fun node => by simp
      apply reopen_walk sound able sameLimit carried fuel starts current moves rfl
      · have same : attemptsOf law.maxAttempts { node with status := .pending, updatedAt := updated } ≤
            attemptsOf law.maxAttempts node := by simp [attemptsOf, waiting]
        exact (attemptsLeft_rewritten current same rfl _).trans starts.bounded
      · rfl
      · rfl
      · intro stored redacts
        refine resumes node updated _ stored current waiting ?_ ?_ redacts
        · rfl
        · rfl
  · intro e
    exact Or.inr (Or.inr lenient)

theorem denyNode_walk (lenient : ¬ law.strict) (fuel : Nat) {state : LangGraphRunState}
    (starts : law.Starts c state) (nodeId : String) (comment : Option String) :
    (approveNode service fuel law.runId nodeId false comment).wp law.work
      (Ends (fun r s => Denied c nodeId r.status s.1) law.Excused cut) (c, []) := by
  have calm := work_calm law
  unfold approveNode
  simp only [bind_eq, Bool.false_eq_true, if_false]
  apply loadState_walk starts.stored
  apply getNode_walk
  · intro node current sameId
    subst sameId
    split
    · exact Or.inr (Or.inr lenient)
    · rename_i waiting
      simp only [ne_eq, Decidable.not_not] at waiting
      have own : node.runId = law.runId := starts.inv.own node (mem_of_recordOf current)
      refine (calm.perform .utcNow).ends fun timestamp => ?_
      refine (recordEvent_still calm _ _ _).ends fun _ => ?_
      refine (calm.perform .utcNow).ends fun finished => ?_
      refine (calm.perform .utcNow).ends fun updated => ?_
      have moves : law.Moves c [] node
          { node with status := .failed, finishedAt := some finished, updatedAt := updated } :=
        .deny finished updated waiting fun node => by simp
      apply upsert_walk own current starts.saved moves
      intro inv
      apply store_walk ?_ starts.saved ?_
      · have fits := starts.inv.plan starts.saved state starts.stored
        apply (fits.grow List.nil_suffix).like
        · rfl
        · rfl
      · intro stored redacts inv'
        apply status_walk
        intro run
        apply result_walk
        intro shown same
        refine ⟨state, node, finished, updated, _, stored, starts.stored, current, waiting, ?_, same,
          redacts, rfl⟩
        rfl
  · intro e
    exact Or.inr (Or.inr lenient)

theorem retryFailedNode_walk (sound : law.Sound) (able : law.Able service) (lenient : ¬ law.strict)
    (sameLimit : law.maxAttempts = service.maxAttempts) (carried : law.Carried kept free paused)
    (fuel : Nat) {state : LangGraphRunState} (starts : law.Starts c state) (nodeId : String)
    (bounded : ∀ node updated, recordOf c.nodes nodeId = some node → node.status = .failed →
      attemptsLeft law.maxAttempts
        (upserted
          { node with status := .pending, retryCount := 0, finishedAt := none, updatedAt := updated }
          c.nodes) law.counted ≤ law.bound)
    (resumes : ∀ node updated before stored, recordOf c.nodes nodeId = some node →
      node.status = .failed → before.plan = state.plan → before.errors = state.errors →
      redactState (synced before (upserted
        { node with status := .pending, retryCount := 0, finishedAt := none, updatedAt := updated }
        c.nodes)) = .ok stored →
      kept (upserted
        { node with status := .pending, retryCount := 0, finishedAt := none, updatedAt := updated }
        c.nodes) stored) :
    (retryFailedNode service fuel law.runId nodeId).wp law.work
      (Ends (fun r s => Left law.maxAttempts kept paused r.status s.1) law.Excused
        (law.counts → fuel ≤ law.bound)) (c, []) := by
  have calm := work_calm law
  unfold retryFailedNode
  simp only [bind_eq]
  apply loadState_walk starts.stored
  apply getNode_walk
  · intro node current sameId
    subst sameId
    split
    · exact Or.inr (Or.inr lenient)
    · rename_i failed
      simp only [ne_eq, Decidable.not_not] at failed
      refine (calm.perform .utcNow).ends fun updated => ?_
      have within := bounded node updated current failed
      apply reopen_walk sound able sameLimit carried fuel starts current
        (.retry updated failed (fun node => by simp) within) rfl
      · exact within
      · rfl
      · rfl
      · intro stored redacts
        refine resumes node updated _ stored current failed ?_ ?_ redacts
        · rfl
        · rfl
  · intro e
    exact Or.inr (Or.inr lenient)

/-! An execution of a graph: its records first, then its first checkpoint. -/

omit [PyRuntime] in
theorem storing_upserted {node : GraphNodeRecord} (storing : law.Storing history) :
    law.Storing (.upserted node :: history) :=
  (storing_cons_iff (by simp)).mpr storing

end Law

/-- The records of a run once those of a graph have been written. -/
def setupNodes (runId : String) (now : Time) (nodes : List ExecutionNode)
    (records : List GraphNodeRecord) : List GraphNodeRecord :=
  nodes.foldl (fun records node => upserted (initialRecord runId now node) records) records

def setupEntries (runId : String) (now : Time) (nodes : List ExecutionNode) : List Entry :=
  (nodes.map fun node => .upserted (initialRecord runId now node)).reverse

theorem recordOf_setup {runId : String} {now : Time} {nodes : List ExecutionNode}
    (nodup : (nodes.map ExecutionNode.id).Nodup) (records : List GraphNodeRecord) (id : String) :
    recordOf (setupNodes runId now nodes records) id =
      ((nodes.find? fun node => node.id = id).map (initialRecord runId now)).or
        (recordOf records id) := by
  induction nodes generalizing records with
  | nil => rfl
  | cons node rest ih =>
    simp only [List.map_cons, List.nodup_cons] at nodup
    have later := ih nodup.2 (upserted (initialRecord runId now node) records)
    unfold setupNodes at later ⊢
    rw [List.foldl_cons, later, recordOf_upserted]
    by_cases here : node.id = id
    · have absent : rest.find? (fun other => decide (other.id = id)) = none := by
        rw [List.find?_eq_none]
        intro other member same
        simp only [decide_eq_true_eq] at same
        exact nodup.1 (here.trans same.symm ▸ List.mem_map_of_mem member)
      have named : (initialRecord runId now node).id = id := here
      simp [absent, here, named]
    · have named : ¬ (initialRecord runId now node).id = id := here
      simp [here, named]

theorem phase_setup (runId : String) (now : Time) (nodes : List ExecutionNode) :
    phase (setupEntries runId now nodes) = .idle := by
  unfold setupEntries
  cases split : (nodes.map fun node => Entry.upserted (initialRecord runId now node)).reverse with
  | nil => rfl
  | cons entry older =>
    have member : entry ∈ (nodes.map fun node =>
        Entry.upserted (initialRecord runId now node)).reverse := split ▸ List.mem_cons_self
    simp only [List.mem_reverse, List.mem_map] at member
    obtain ⟨node, -, rfl⟩ := member
    rfl

namespace Law
variable [PyRuntime] {law : Law} {c : Control} {history : List Entry} {cut : Prop}
  {service : OrchestratorService}
  {kept free paused : List GraphNodeRecord → LangGraphRunState → Prop}

theorem upsertNodes_walk (now : Time) (nodes : List ExecutionNode)
    (inside : ∀ node ∈ nodes, node ∈ law.tasks) (inv : law.Inv c history)
    (storing : law.Storing history) {post : Outcome PyError β → Control × List Entry → Prop}
    {rest : Prog β}
    (later : law.Inv { c with nodes := setupNodes law.runId now nodes c.nodes }
        (setupEntries law.runId now nodes ++ history) →
      law.Storing (setupEntries law.runId now nodes ++ history) →
      rest.wp law.work post
        ({ c with nodes := setupNodes law.runId now nodes c.nodes },
          setupEntries law.runId now nodes ++ history)) :
    ((upsertNodes law.runId now nodes).bind fun _ => rest).wp law.work post (c, history) := by
  induction nodes generalizing c history with
  | nil => exact later inv storing
  | cons node others ih =>
    unfold upsertNodes
    simp only [bind_eq, bind_assoc]
    have planned := inside node List.mem_cons_self
    refine (wp_perform_bind _ _ _).mpr ⟨?_, ?_, ?_⟩
    · exact ⟨rfl, fun _ => ⟨node, planned, now, rfl⟩, fun saved => absurd storing saved⟩
    · rintro stored ⟨c', history'⟩ ⟨⟨-, told⟩, noted, inv', -⟩
      simp only at told noted inv'
      obtain ⟨same, answer⟩ := told rfl
      simp only [Except.ok.injEq] at answer
      subst same noted answer
      apply ih (fun other member => inside other (List.mem_cons_of_mem _ member)) inv'
        (storing_upserted storing)
      intro inv'' storing'
      have entries : setupEntries law.runId now (node :: others) ++ history =
          setupEntries law.runId now others ++
            .upserted (initialRecord law.runId now node) :: history := by
        simp [setupEntries]
      rw [entries] at later
      exact later inv'' storing'
    · rintro e ⟨c', history'⟩ ⟨⟨-, told⟩, -⟩
      have impossible := (told rfl).2
      cases impossible

/-- The records of an accepted graph are written whatever comes after. -/
theorem setup_walk {graph : ExecutionGraph} (tasks : law.tasks = graph.nodes)
    (accepted : Accepted service graph) (stores : law.stores = true) (inv : law.Inv c [])
    (fuel : Nat) {post : Outcome PyError OrchestrationResult → Control × List Entry → Prop}
    (later : ∀ run now, run.id = law.runId →
      law.Inv { c with nodes := setupNodes law.runId now graph.nodes c.nodes }
        (setupEntries law.runId now graph.nodes) →
      law.Storing (setupEntries law.runId now graph.nodes) →
      ((perform (.saveCheckpoint law.runId (buildInitialState run graph))).bind fun _ =>
        Scope.startStored service fuel law.runId).wp law.work post
          ({ c with nodes := setupNodes law.runId now graph.nodes c.nodes },
            setupEntries law.runId now graph.nodes)) :
    (executeRun service fuel law.runId graph).wp law.work post (c, []) := by
  have storing : law.Storing [] := ⟨stores, by simp⟩
  unfold executeRun
  simp only [bind_eq]
  refine (wp_perform_bind _ _ _).mpr ⟨rfl, ?_, ?_⟩
  swap
  · rintro e ⟨c', history'⟩ ⟨⟨-, told⟩, -⟩
    obtain ⟨run, impossible, -⟩ := told rfl
    cases impossible
  rintro run ⟨c', history'⟩ ⟨⟨same, told⟩, noted, -⟩
  simp only at same told noted
  obtain ⟨run', answer, own, -⟩ := told trivial
  simp only [Except.ok.injEq] at answer
  subst same noted answer
  rw [own, wp_ofExcept_bind, accepted.1]
  simp only
  rw [wp_ofExcept_bind, accepted.2]
  refine (wp_perform_bind _ _ _).mpr ⟨trivial, ?_, ?_⟩
  swap
  · rintro e ⟨c'', history''⟩ ⟨⟨-, now, impossible⟩, -⟩
    cases impossible
  rintro now ⟨c'', history''⟩ ⟨⟨same, -⟩, noted, -⟩
  simp only at same noted
  subst same noted
  apply upsertNodes_walk now graph.nodes (fun node member => tasks ▸ member) inv storing
  intro inv' storing'
  rw [List.append_nil] at inv' storing' ⊢
  exact later run now own inv' storing'

theorem work_grows {post : Outcome PyError α → Control × List Entry → Prop} {p : Prog α}
    {s : Control × List Entry} (h : p.wp law.work post s) :
    p.wp law.work (fun o s' => post o s' ∧ s.2 <:+ s'.2) s := by
  refine wp_tracks (R := fun s s' => s.2 <:+ s'.2) (fun _ => List.suffix_refl _)
    (fun _ _ _ => List.IsSuffix.trans) ?_ h
  intro β op s answer s' allowed
  rw [allowed.2.1]
  exact Scope.suffix_record _ _

theorem startStored_walk (sound : law.Sound) (able : law.Able service)
    (sameLimit : law.maxAttempts = service.maxAttempts) (carried : law.Carried kept free paused)
    (fuel : Nat) {graph : ExecutionGraph} (tasks : law.tasks = graph.nodes) {run : RunRecord}
    {now : Time} (fit : law.fit graph.ids)
    (bounded : law.counted.length * law.maxAttempts ≤ law.bound)
    (begins : ∀ stored, redactState (buildInitialState run graph) = .ok stored →
      kept c.nodes stored) :
    ((perform (.saveCheckpoint law.runId (buildInitialState run graph))).bind fun _ =>
      Scope.startStored service fuel law.runId).wp law.work
      (fun o s => Ends (fun r s => Left law.maxAttempts kept paused r.status s.1) law.Excused
          (law.counts → fuel ≤ law.bound) o s ∧
        ∀ result, o = .returned result → ¬ law.Storing s.2)
      (c, setupEntries law.runId now graph.nodes) := by
  have within : attemptsLeft law.maxAttempts c.nodes law.counted ≤ law.bound :=
    (attemptsLeft_le _ _ _).trans bounded
  have fits : law.Fits (setupEntries law.runId now graph.nodes) (buildInitialState run graph) := by
    refine ⟨?_, ?_, ?_⟩
    · have ids : (buildInitialState run graph).plan.map PlanItem.id = graph.ids := by
        simp only [buildInitialState, List.map_map, ExecutionGraph.ids]
        rfl
      rw [ids]
      exact fit
    · intro _ id stored found
      simp [buildInitialState] at found
    · intro id text found
      simp [buildInitialState] at found
  have setUp : law.SetUp (setupEntries law.runId now graph.nodes) := by
    intro planned member
    refine ⟨now, ?_⟩
    rw [tasks] at member
    simp only [setupEntries, List.mem_reverse, List.mem_map, Entry.upserted.injEq]
    exact ⟨planned, member, rfl⟩
  refine (wp_perform_bind _ _ _).mpr ⟨⟨rfl, fits, fun _ => ⟨setUp, within⟩⟩, ?_, ?_⟩
  swap
  · rintro e ⟨c', history'⟩ ⟨-, noted, -⟩
    simp only at noted
    subst noted
    exact ⟨Or.inl ⟨_, List.mem_cons_self, rfl⟩, by simp⟩
  rintro checkpoint ⟨c', history'⟩ ⟨⟨-, told⟩, noted, inv', -⟩
  have answered := told rfl
  split at answered
  swap
  · obtain ⟨-, impossible⟩ := answered
    cases impossible
  rename_i stored redacts
  simp only at answered noted inv'
  obtain ⟨same, -⟩ := answered
  subst same noted
  have saved : ¬ law.Storing (.saved law.runId (buildInitialState run graph) ::
      setupEntries law.runId now graph.nodes) :=
    fun storing => storing.2 law.runId _ List.mem_cons_self
  suffices goes : (Scope.startStored service fuel law.runId).wp law.work
      (Ends (fun r s => Left law.maxAttempts kept paused r.status s.1) law.Excused
        (law.counts → fuel ≤ law.bound))
      ({ c with checkpoint := some stored }, .saved law.runId (buildInitialState run graph) ::
        setupEntries law.runId now graph.nodes) by
    refine wp_mono (work_grows goes) ?_
    rintro o s ⟨reached, grown⟩
    exact ⟨reached, fun _ _ => not_storing_grow grown saved⟩
  unfold Scope.startStored
  simp only [bind_eq]
  apply status_walk
  intro run'
  have between : law.Between { c with status := .running, checkpoint := some stored }
      (.statusSet law.runId .running none ::
        .saved law.runId (buildInitialState run graph) :: setupEntries law.runId now graph.nodes) :=
    { inv := inv'.status.noted (by simp) (by simp)
      saved := fun again => again.2 law.runId _ (List.mem_cons_of_mem _ List.mem_cons_self)
      idle := phase_setup law.runId now graph.nodes
      notPaused := by
        intro node member
        simp only [setupEntries, List.mem_cons, reduceCtorEq, List.mem_reverse, List.mem_map,
          Entry.upserted.injEq, false_or] at member
        obtain ⟨planned, -, rfl⟩ := member
        simp [initialRecord]
      written := by
        intro _ planned member
        obtain ⟨now', entry⟩ := setUp planned member
        exact ⟨now', List.mem_cons_of_mem _ (List.mem_cons_of_mem _ entry)⟩ }
  apply ends_mono (resumeRun_walk sound able sameLimit carried fuel between rfl (begins stored redacts))
    fun _ _ reached => reached
  intro cut counts
  exact (cut counts).trans within

/-- An execution leaves the records of its graph in its history, also where it raises. -/
theorem executeRun_walk (sound : law.Sound) (able : law.Able service)
    (sameLimit : law.maxAttempts = service.maxAttempts) (carried : law.Carried kept free paused)
    (fuel : Nat) {graph : ExecutionGraph} (tasks : law.tasks = graph.nodes)
    (accepted : Accepted service graph) (stores : law.stores = true) (inv : law.Inv c [])
    (fit : law.fit graph.ids)
    (bounded : law.counted.length * law.maxAttempts ≤ law.bound)
    (begins : ∀ run now stored, run.id = law.runId →
      redactState (buildInitialState run graph) = .ok stored →
      kept (setupNodes law.runId now graph.nodes c.nodes) stored) :
    (executeRun service fuel law.runId graph).wp law.work
      (fun o s => Ends (fun r s => Left law.maxAttempts kept paused r.status s.1) law.Excused
          (law.counts → fuel ≤ law.bound) o s ∧
        (∃ now, setupEntries law.runId now graph.nodes <:+ s.2) ∧
        ∀ result, o = .returned result → ¬ law.Storing s.2) (c, []) := by
  apply setup_walk tasks accepted stores inv fuel
  intro run now own _ _
  refine wp_mono (work_grows (startStored_walk sound able sameLimit carried fuel tasks fit bounded
    ?_)) ?_
  · intro stored redacts
    exact begins run now stored own redacts
  · rintro o s ⟨⟨reached, saved⟩, grown⟩
    exact ⟨reached, ⟨now, grown⟩, saved⟩

end Law
end Orchestration
