import AeaiOs.NodeMoves

/-!
The execution of one node, walked through: every step of it is legal, and it leaves
one new record, one new checkpoint and the rest of the run as it was.
-/
namespace Orchestration
open OrderedDict PyText CivilTime AtomicProgram Program RunValues RunModels Redaction
  InMemoryRunRepository ToolPolicy

/-- `_refresh_state_from_nodes` on these records. -/
def synced (state : LangGraphRunState) (nodes : List GraphNodeRecord) : LangGraphRunState :=
  syncStateFromNodeStatuses state (nodeStatuses (planNodes state nodes))

@[simp] theorem synced_plan (state : LangGraphRunState) (nodes : List GraphNodeRecord) :
    (synced state nodes).plan = state.plan := rfl

@[simp] theorem synced_errors (state : LangGraphRunState) (nodes : List GraphNodeRecord) :
    (synced state nodes).errors = state.errors := rfl

theorem planItem_found {state : LangGraphRunState} {nodeId : String}
    (planned : nodeId ∈ state.plan.map PlanItem.id) : ∃ item, planItem state nodeId = .ok item := by
  obtain ⟨item, member, same⟩ := List.mem_map.mp planned
  unfold planItem
  cases search : state.plan.find? fun item => item.id = nodeId with
  | some found => exact ⟨found, rfl⟩
  | none =>
    have absent := List.find?_eq_none.mp search item member
    simp [same] at absent

/-- A write of a record that is not completed disturbs no dependency. -/
theorem DepsDone.upserted {nodes : List GraphNodeRecord} {node new old : GraphNodeRecord}
    (ready : DepsDone nodes node) (current : recordOf nodes new.id = some old)
    (unfinished : old.status ≠ .completed) :
    DepsDone (InMemoryRunRepository.upserted new nodes) node := by
  intro dependency member
  obtain ⟨record, found, done⟩ := ready dependency member
  have other : new.id ≠ dependency := by
    intro same
    rw [← same, current, Option.some.injEq] at found
    exact unfinished (found ▸ done)
  rw [recordOf_upserted, if_neg other]
  exact ⟨record, found, done⟩

namespace Law
variable [PyRuntime] {law : Law} {c : Control} {history : List Entry} {cut : Prop}

/-- What a call that raises has to show for it. -/
def Excused (law : Law) (_ : PyError) (s : Control × List Entry) : Prop :=
  (∃ entry ∈ s.2, entry.refuses = true) ∨
    (∃ id, isSensitiveKey id = true ∧ 2 ≤ law.scarred + answersOf id .failed s.2) ∨ ¬ law.strict

theorem work_calm (law : Law) : Calm law.work law.runId law.Excused where
  free s quiet := by
    cases quiet with
    | utcNow => trivial
    | uuid4 => trivial
    | currentTraceId => trivial
    | getRun => exact rfl
    | addEvent event own => exact own
  kept := by
    rintro β op ⟨c, history⟩ ⟨c', history'⟩ value quiet ⟨allowed, noted, -⟩
    simp only at allowed noted
    have same : c' = c := by
      cases quiet with
      | addEvent event own => exact allowed
      | _ => exact allowed.1
    subst same noted
    cases quiet <;> rfl
  raised := by
    rintro β op ⟨c, history⟩ ⟨c', history'⟩ error quiet ⟨allowed, noted, -⟩
    simp only at allowed noted
    cases quiet with
    | utcNow =>
      obtain ⟨-, now, impossible⟩ := allowed
      cases impossible
    | uuid4 =>
      obtain ⟨-, id, impossible⟩ := allowed
      cases impossible
    | currentTraceId =>
      obtain ⟨-, id, impossible⟩ := allowed
      cases impossible
    | getRun =>
      obtain ⟨run, impossible, -⟩ := allowed.2 rfl
      cases impossible
    | addEvent event own =>
      subst noted
      exact Or.inl ⟨_, List.mem_cons_self, rfl⟩
  artifactFree _ _ := rfl
  artifactKept := by
    rintro ⟨c, history⟩ ⟨c', history'⟩ artifactId answer ⟨allowed, noted, -⟩
    simp only at allowed noted
    obtain ⟨same, told⟩ := allowed
    subst same noted
    refine ⟨?_, told rfl⟩
    cases answer <;> rfl

theorem work_evaluates (law : Law) :
    Evaluates law.work law.registry fun s entry => (s.1, entry :: s.2) where
  free _ _ _ _ _ := trivial
  noted := by
    rintro ⟨c, history⟩ ⟨c', history'⟩ tool inputSummary approved context answer
      ⟨⟨same, told⟩, noted, -⟩
    simp only at same told noted
    subst same told noted
    exact ⟨rfl, rfl⟩

/-! Reads and writes. -/

theorem ordered_walk {state : LangGraphRunState} {good : β → Control × List Entry → Prop}
    {rest : List GraphNodeRecord → Prog β}
    (later : (rest (planNodes state c.nodes)).wp law.work (Ends good law.Excused cut)
      (c, .listed law.runId c.nodes :: history)) :
    ((orderedNodes law.runId state).bind rest).wp law.work (Ends good law.Excused cut)
      (c, history) := by
  unfold orderedNodes
  simp only [bind_eq, bind_assoc]
  apply ends_perform
  · exact rfl
  · rintro nodes ⟨c', history'⟩ ⟨⟨same, told⟩, noted, -⟩
    simp only at same told noted
    have listed := told trivial
    simp only [Except.ok.injEq] at listed
    subst same listed noted
    exact later
  · rintro e ⟨c', history'⟩ ⟨⟨-, told⟩, -⟩
    have impossible := told rfl
    cases impossible

theorem refresh_walk {state : LangGraphRunState} {good : β → Control × List Entry → Prop}
    {rest : LangGraphRunState → Prog β}
    (later : (rest (synced state c.nodes)).wp law.work (Ends good law.Excused cut)
      (c, .listed law.runId c.nodes :: history)) :
    ((refreshStateFromNodes law.runId state).bind rest).wp law.work (Ends good law.Excused cut)
      (c, history) := by
  unfold refreshStateFromNodes
  simp only [bind_eq, bind_assoc]
  apply ordered_walk
  exact later

theorem loadState_walk {state : LangGraphRunState} (stored : c.checkpoint = some state)
    {good : β → Control × List Entry → Prop} {rest : LangGraphRunState → Prog β}
    (later : (rest state).wp law.work (Ends good law.Excused cut) (c, history)) :
    ((loadState law.runId).bind rest).wp law.work (Ends good law.Excused cut) (c, history) := by
  unfold loadState
  simp only [bind_eq, bind_assoc]
  rw [wp_bind, wp_tryCatch, wp_perform]
  refine ⟨rfl, ?_, ?_⟩
  · rintro checkpoint ⟨c', history'⟩ ⟨⟨same, told⟩, noted, -⟩
    simp only at same told noted
    obtain ⟨checkpoint', answer, sameState⟩ := by simpa only [stored] using told trivial
    simp only [Except.ok.injEq] at answer
    subst same noted answer
    unfold thenPost catchPost
    simp only [sameState, pure_eq, Program.bind]
    exact later
  · rintro e ⟨c', history'⟩ ⟨⟨same, told⟩, -⟩
    simp only [stored, forall_const] at told
    obtain ⟨checkpoint', answer, -⟩ := told
    cases answer

theorem save_walk {state : LangGraphRunState} (fits : law.Fits history state)
    (saved : ¬ law.Storing history) {good : β → Control × List Entry → Prop}
    {rest : RunCheckpointRecord → Prog β}
    (later : ∀ stored checkpoint, redactState state = .ok stored →
      law.Inv { c with checkpoint := some stored } (.saved law.runId state :: history) →
      (rest checkpoint).wp law.work (Ends good law.Excused cut)
        ({ c with checkpoint := some stored }, .saved law.runId state :: history)) :
    ((perform (.saveCheckpoint law.runId state)).bind rest).wp law.work
      (Ends good law.Excused cut) (c, history) := by
  apply ends_perform
  · exact ⟨rfl, fits, fun storing => absurd storing saved⟩
  · rintro checkpoint ⟨c', history'⟩ ⟨⟨-, told⟩, noted, inv, -⟩
    have answered := told rfl
    split at answered
    · rename_i stored redacts
      simp only at answered noted inv
      obtain ⟨same, -⟩ := answered
      subst same noted
      exact later stored checkpoint redacts inv
    · obtain ⟨-, impossible⟩ := answered
      cases impossible
  · rintro e ⟨c', history'⟩ ⟨-, noted, -⟩
    simp only at noted
    subst noted
    exact Or.inl ⟨_, List.mem_cons_self, rfl⟩

theorem status_walk {status : RunStatus} {errorSummary : Option String}
    {good : β → Control × List Entry → Prop} {rest : RunRecord → Prog β}
    (later : ∀ run, (rest run).wp law.work (Ends good law.Excused cut)
      ({ c with status }, .statusSet law.runId status errorSummary :: history)) :
    ((perform (.updateStatus law.runId status errorSummary)).bind rest).wp law.work
      (Ends good law.Excused cut) (c, history) := by
  apply ends_perform
  · exact rfl
  · rintro run ⟨c', history'⟩ ⟨⟨-, told⟩, noted, -⟩
    have answered := told rfl
    split at answered
    · simp only at answered noted
      obtain ⟨same, -⟩ := answered
      subst same noted
      exact later run
    · obtain ⟨-, impossible⟩ := answered
      cases impossible
  · rintro e ⟨c', history'⟩ ⟨-, noted, -⟩
    simp only at noted
    subst noted
    exact Or.inl ⟨_, List.mem_cons_self, rfl⟩

theorem upsert_walk {node old : GraphNodeRecord} (own : old.runId = law.runId)
    (current : recordOf c.nodes old.id = some old) (saved : ¬ law.Storing history)
    (moves : law.Moves c history old node) {good : β → Control × List Entry → Prop}
    {rest : GraphNodeRecord → Prog β}
    (later : law.Inv { c with nodes := upserted node c.nodes } (.upserted node :: history) →
      (rest node).wp law.work (Ends good law.Excused cut)
        ({ c with nodes := upserted node c.nodes }, .upserted node :: history)) :
    ((perform (.upsertGraphNode node)).bind rest).wp law.work (Ends good law.Excused cut)
      (c, history) := by
  obtain ⟨sameId, sameRun, -⟩ := moves.same
  have ownNode : node.runId = law.runId := sameRun.trans own
  apply ends_perform
  · exact ⟨ownNode, fun storing => absurd storing saved, fun _ => ⟨old, sameId ▸ current, moves⟩⟩
  · rintro stored ⟨c', history'⟩ ⟨⟨-, told⟩, noted, inv, -⟩
    simp only at told noted inv
    obtain ⟨same, answer⟩ := told ownNode
    simp only [Except.ok.injEq] at answer
    subst same noted answer
    exact later inv
  · rintro e ⟨c', history'⟩ ⟨⟨-, told⟩, -⟩
    have impossible := (told ownNode).2
    cases impossible

omit [PyRuntime] in
theorem not_storing_grow {history' : List Entry} (grown : history <:+ history')
    (saved : ¬ law.Storing history) : ¬ law.Storing history' :=
  fun storing => saved ⟨storing.1, fun runId state member =>
    storing.2 runId state (grown.subset member)⟩

theorem Fits.synced {state : LangGraphRunState} (fits : law.Fits history state)
    (nodes : List GraphNodeRecord) : law.Fits history (synced state nodes) :=
  fits.like rfl rfl

/-- The refreshed state is saved. -/
theorem store_walk {state : LangGraphRunState} (fits : law.Fits history state)
    (saved : ¬ law.Storing history) {good : β → Control × List Entry → Prop}
    {rest : LangGraphRunState → Prog β}
    (later : ∀ stored, redactState (synced state c.nodes) = .ok stored →
      law.Inv { c with checkpoint := some stored }
        (.saved law.runId (synced state c.nodes) :: .listed law.runId c.nodes :: history) →
      (rest (synced state c.nodes)).wp law.work (Ends good law.Excused cut)
        ({ c with checkpoint := some stored },
          .saved law.runId (synced state c.nodes) :: .listed law.runId c.nodes :: history)) :
    ((refreshStateFromNodes law.runId state).bind fun refreshed =>
      (perform (.saveCheckpoint law.runId refreshed)).bind fun _ => rest refreshed).wp law.work
        (Ends good law.Excused cut) (c, history) := by
  apply refresh_walk
  have grown : history <:+ .listed law.runId c.nodes :: history := List.suffix_cons _ _
  apply save_walk ((fits.grow grown).synced c.nodes) (not_storing_grow grown saved)
  intro stored _ redacts inv
  exact later stored redacts inv

/-! The end of a node execution. -/

/-- What becomes of a record when the execution of its node ends. -/
structure Final (limit : Nat) (node final : GraphNodeRecord) (outcome : GraphNodeStatus) : Prop where
  id : final.id = node.id
  task : final.agentType = node.agentType ∧ final.dependsOn = node.dependsOn ∧
    final.requiredTools = node.requiredTools
  status : final.status = outcome
  tried : (outcome = .completed ∨ outcome = .waitingForApproval) ∧
      final.retryCount = node.retryCount ∨
    final.retryCount = node.retryCount + 1 ∧
      outcome = if node.retryCount + 1 < limit then .pending else .failed

/-- What becomes of the state: the plan stays, and so do the errors of the other nodes;
    a node that has failed has errors. -/
structure EndState (nodeId : String) (outcome : GraphNodeStatus) (state before : LangGraphRunState) :
    Prop where
  plan : before.plan = state.plan
  others : ∀ id, id ≠ nodeId → before.errors.get? id = state.errors.get? id
  blamed : outcome = .pending ∨ outcome = .failed → ∃ texts, before.errors.get? nodeId = some texts

/-- The execution of a node has ended: one record written, one checkpoint saved. -/
def Ended (law : Law) (node : GraphNodeRecord) (state : LangGraphRunState) (c : Control)
    (history : List Entry) (outcome : GraphNodeStatus) (s : Control × List Entry) : Prop :=
  ∃ final before stored, Final law.maxAttempts node final outcome ∧
    EndState node.id outcome state before ∧
    redactState (synced before (upserted final c.nodes)) = .ok stored ∧ law.Inv s.1 s.2 ∧
    s = ({ c with nodes := upserted final c.nodes, checkpoint := some stored },
      .saved law.runId (synced before (upserted final c.nodes)) ::
        .listed law.runId (upserted final c.nodes) :: .upserted final :: history)

/-- The common end: the record is written, the event recorded, the state saved. -/
theorem ending_walk {node final : GraphNodeRecord} {outcome : GraphNodeStatus}
    (own : node.runId = law.runId) (current : recordOf c.nodes node.id = some node)
    (saved : ¬ law.Storing history) (moves : law.Moves c history node final)
    (ends : Final law.maxAttempts node final outcome) {state before : LangGraphRunState}
    (endState : EndState node.id outcome state before) (fits : law.Fits history before)
    (eventType : String) (payload : PyValue → Time → PyDict) :
    ((perform (.upsertGraphNode final)).bind fun _ =>
      (nodeDurationMs node).bind fun duration =>
        (perform .utcNow).bind fun timestamp =>
          (recordEvent node.runId node.id eventType (payload duration timestamp)).bind fun _ =>
            (refreshStateFromNodes node.runId before).bind fun refreshed =>
              (perform (.saveCheckpoint node.runId refreshed)).bind fun _ =>
                (.returned outcome : Prog GraphNodeStatus)).wp law.work
      (Ends (law.Ended node state c history) law.Excused cut) (c, history) := by
  have calm := work_calm law
  apply upsert_walk own current saved moves
  intro inv
  refine (nodeDurationMs_still calm node).ends fun duration => ?_
  refine (calm.perform .utcNow).ends fun timestamp => ?_
  rw [own]
  refine (recordEvent_still calm _ _ _).ends fun _ => ?_
  have grown : history <:+ .upserted final :: history := List.suffix_cons _ _
  apply store_walk (fits.grow grown) (not_storing_grow grown saved)
  intro stored redacts inv'
  exact ⟨final, before, stored, ends, endState, redacts, inv', rfl⟩

theorem completeNode_walk {node : GraphNodeRecord} (own : node.runId = law.runId)
    (current : recordOf c.nodes node.id = some node) (running : node.status = .running)
    (answered : phase history = .answered node.id .succeeded) (saved : ¬ law.Storing history)
    {state : LangGraphRunState} (fits : law.Fits history state) (output : AgentOutput) :
    (completeNode node state output).wp law.work
      (Ends (law.Ended node state c history) law.Excused cut) (c, history) := by
  have calm := work_calm law
  unfold completeNode
  simp only [bind_eq, pure_eq]
  refine (calm.perform .utcNow).ends fun finished => ?_
  refine (calm.perform .utcNow).ends fun updated => ?_
  have erased : ∀ id stored, (state.errors.erase node.id).get? id = some stored →
      state.errors.get? id = some stored := by
    intro id stored found
    rw [Dict.get?_erase] at found
    split at found
    · cases found
    · exact found
  apply ending_walk own current saved (.complete finished updated running answered)
  · exact ⟨rfl, ⟨rfl, rfl, rfl⟩, rfl, Or.inl ⟨Or.inl rfl, rfl⟩⟩
  · refine ⟨rfl, ?_, by simp⟩
    intro id other
    simp only [Dict.get?_erase]
    rw [if_neg]
    exact other
  · exact ⟨fits.plan, fun strict id stored found => fits.blamed strict id stored (erased id stored found),
      fun id text found => fits.legible id text (erased id _ found)⟩

theorem pauseForApproval_walk {node : GraphNodeRecord} (own : node.runId = law.runId)
    (current : recordOf c.nodes node.id = some node) (running : node.status = .running)
    (asked : phase history = .executing node.id ∧ Untried history ∧ ¬ law.strict ∨
      phase history = .answered node.id .waitingForApproval)
    (saved : ¬ law.Storing history) {state : LangGraphRunState} (fits : law.Fits history state)
    (output : AgentOutput) :
    (pauseForApproval node state output).wp law.work
      (Ends (law.Ended node state c history) law.Excused cut) (c, history) := by
  have calm := work_calm law
  unfold pauseForApproval
  simp only [bind_eq, pure_eq]
  refine (calm.perform .utcNow).ends fun updated => ?_
  apply ending_walk own current saved (.pause updated running asked)
  · exact ⟨rfl, ⟨rfl, rfl, rfl⟩, rfl, Or.inl ⟨Or.inr rfl, rfl⟩⟩
  · exact ⟨rfl, fun _ _ => rfl, by simp⟩
  · exact fits.like rfl rfl

omit [PyRuntime] in
/-- Errors are added to a list of errors; redaction may have put a text in its place. -/
theorem extendErrors_cases (errors : Dict String StoredTexts) (nodeId : String)
    (new : List String) :
    (∃ texts, extendErrors errors nodeId new = .ok (errors.set nodeId (.items texts))) ∨
      (∃ text, errors.get? nodeId = some (.text text)) ∧
        extendErrors errors nodeId new = .error .attributeError := by
  unfold extendErrors
  cases found : errors.get? nodeId with
  | none => exact Or.inl ⟨new, rfl⟩
  | some stored =>
    cases stored with
    | items old => exact Or.inl ⟨old ++ new, rfl⟩
    | text value => exact Or.inr ⟨⟨value, rfl⟩, rfl⟩

theorem failNode_walk {service : OrchestratorService}
    (sameLimit : law.maxAttempts = service.maxAttempts) {node : GraphNodeRecord}
    (own : node.runId = law.runId) (current : recordOf c.nodes node.id = some node)
    (running : node.status = .running)
    (asked : phase history = .executing node.id ∧ Untried history ∧ ¬ law.strict ∨
      phase history = .answered node.id .failed)
    (saved : ¬ law.Storing history) {state : LangGraphRunState} (fits : law.Fits history state)
    (counted : law.strict → 1 ≤ law.scarred + answersOf node.id .failed history)
    (twice : law.strict → ∀ stored, state.errors.get? node.id = some stored →
      2 ≤ law.scarred + answersOf node.id .failed history)
    (output : AgentOutput) :
    (failNode service node state output).wp law.work
      (Ends (law.Ended node state c history) law.Excused cut) (c, history) := by
  have calm := work_calm law
  unfold failNode
  simp only [bind_eq, pure_eq]
  refine (failureTime_still calm _).ends fun finished => ?_
  refine (calm.perform .utcNow).ends fun updated => ?_
  rw [wp_ofExcept_bind]
  rcases extendErrors_cases state.errors node.id
    (if output.errors = [] then [output.summary] else output.errors) with
    ⟨texts, extended⟩ | ⟨⟨text, stored⟩, refused⟩
  · rw [extended]
    have legal : law.Moves c history node
        { node with
          status := if decide (node.retryCount + 1 < service.maxAttempts) = true then .pending
            else .failed
          retryCount := node.retryCount + 1
          finishedAt := finished
          updatedAt := updated } := by
      simp only [decide_eq_true_eq, ← sameLimit]
      exact .fail finished updated running asked
    apply ending_walk own current saved legal
    · refine ⟨rfl, ⟨rfl, rfl, rfl⟩, rfl, Or.inr ⟨rfl, ?_⟩⟩
      simp only [decide_eq_true_eq, sameLimit]
    · refine ⟨rfl, ?_, fun _ => ⟨.items texts, Dict.get?_set_self _ _ _⟩⟩
      intro id other
      exact Dict.get?_set_other _ _ fun same => other same.symm
    · refine ⟨fits.plan, ?_, ?_⟩
      · intro strict id stored found
        simp only [Dict.get?_set] at found
        split at found
        · rename_i same
          rw [← same]
          exact counted strict
        · exact fits.blamed strict id stored found
      · intro id text found
        simp only [Dict.get?_set] at found
        split at found
        · cases found
        · exact fits.legible id text found
  · rw [refused]
    by_cases strict : law.strict
    · exact Or.inr (Or.inl ⟨node.id, fits.legible node.id text stored, twice strict _ stored⟩)
    · exact Or.inr (Or.inr strict)

/-- An output comes from the gate before the agent is asked, or from the agent. -/
inductive Given (law : Law) (node : GraphNodeRecord) (state : LangGraphRunState)
    (history : List Entry) (status : AgentStatus) : Prop
  | gate (executing : phase history = .executing node.id) (untried : Untried history)
      (refused : status ≠ .succeeded) (lenient : ¬ law.strict)
  | agent (answered : phase history = .answered node.id status)
      (counted : status = .failed → 1 ≤ answersOf node.id .failed history)
      (twice : law.strict → status = .failed → ∀ stored, state.errors.get? node.id = some stored →
        2 ≤ law.scarred + answersOf node.id .failed history)

theorem finishNode_walk {service : OrchestratorService}
    (sameLimit : law.maxAttempts = service.maxAttempts) {node : GraphNodeRecord}
    (own : node.runId = law.runId) (current : recordOf c.nodes node.id = some node)
    (running : node.status = .running) (saved : ¬ law.Storing history)
    {state : LangGraphRunState} (fits : law.Fits history state) {output : AgentOutput}
    (given : law.Given node state history output.status) :
    (finishNode service node state output).wp law.work
      (Ends (law.Ended node state c history) law.Excused cut) (c, history) := by
  unfold finishNode
  simp only [bind_eq]
  refine (recordOutputEvents_still (work_calm law) own _).ends fun _ => ?_
  cases status : output.status with
  | succeeded =>
    rw [status] at given
    cases given with
    | gate _ _ refused => exact absurd rfl refused
    | agent answered => exact completeNode_walk own current running answered saved fits output
  | waitingForApproval =>
    rw [status] at given
    apply pauseForApproval_walk own current running ?_ saved fits output
    cases given with
    | gate executing untried _ lenient => exact Or.inl ⟨executing, untried, lenient⟩
    | agent answered => exact Or.inr answered
  | failed =>
    rw [status] at given
    cases given with
    | gate executing untried _ lenient =>
      exact failNode_walk sameLimit own current running (Or.inl ⟨executing, untried, lenient⟩)
        saved fits
        (fun strict => absurd strict lenient) (fun strict => absurd strict lenient) output
    | agent answered counted twice =>
      apply failNode_walk sameLimit own current running (Or.inr answered) saved fits ?_ ?_ output
      · intro _
        have one := counted rfl
        omega
      · exact fun strict => twice strict rfl

theorem callAgent_walk {service : OrchestratorService} {node : GraphNodeRecord}
    (current : recordOf c.nodes node.id = some node) (running : node.status = .running)
    (executing : phase history = .executing node.id) (untried : Untried history)
    (ready : DepsDone c.nodes node) (saved : ¬ law.Storing history) {state : LangGraphRunState}
    (planned : law.strict → node.id ∈ state.plan.map PlanItem.id)
    (able : law.strict → node.agentType ∈ service.agents) :
    (callAgent service node state).wp law.work
      (Ends (fun output s => s.1 = c ∧ ∃ input, input.nodeId = node.id ∧
          law.answers input output.status ∧
          s.2 = .agentAnswered input output.status :: .agentStarted node.agentType input :: history)
        law.Excused cut) (c, history) := by
  unfold callAgent
  split
  · rename_i missing
    exact Or.inr (Or.inr fun strict => missing (able strict))
  · simp only [bind_eq]
    rw [wp_ofExcept_bind]
    cases search : planItem state node.id with
    | error e =>
      refine Or.inr (Or.inr fun strict => ?_)
      obtain ⟨item, found⟩ := planItem_found (planned strict)
      rw [search] at found
      cases found
    | ok item =>
      apply ends_perform
      · exact ⟨saved, executing, untried, node, current, running, rfl, ready⟩
      · rintro _ ⟨c', history'⟩ ⟨⟨same, -⟩, noted, -⟩
        simp only at same noted
        subst same noted
        apply ends_perform
        · exact ⟨not_storing_grow (List.suffix_cons _ _) saved, executing⟩
        · rintro answer ⟨c'', history''⟩ ⟨⟨same, -⟩, noted, -, told⟩
          simp only at same noted told
          subst same noted
          have answered := told _ rfl
          cases answer with
          | ok output => exact ⟨rfl, _, rfl, answered, rfl⟩
          | error e => exact ⟨rfl, _, rfl, answered, rfl⟩
        · rintro e ⟨c'', history''⟩ ⟨⟨-, result, impossible⟩, -⟩
          cases impossible
      · rintro e ⟨c', history'⟩ ⟨⟨-, impossible⟩, -⟩
        cases impossible

/-! Evaluating the tools of a node writes no record and starts no agent. -/

omit [PyRuntime] in
theorem untried_cons {entry : Entry} (untried : Untried history)
    (other : ∀ agentType input, entry ≠ .agentStarted agentType input) :
    Untried (entry :: history) := by
  intro agentType input member
  cases entry with
  | upserted node => simp [attempt] at member
  | _ =>
    rcases List.mem_cons.mp member with same | old
    · exact other agentType input same.symm
    · exact untried agentType input old

theorem evaluated_walk {registry : ToolPermissionRegistry} {inputSummary : String} {approved : Bool}
    {tools : List String} {decisions : List ToolPolicyDecision} {s s' : Control × List Entry}
    (h : Evaluated registry (fun s entry => (s.1, entry :: s.2)) inputSummary approved tools
      decisions s s') :
    s'.1 = s.1 ∧ phase s'.2 = phase s.2 ∧ s.2 <:+ s'.2 ∧ (Untried s.2 → Untried s'.2) ∧
      (∀ node, .upserted node ∈ s'.2 → .upserted node ∈ s.2) ∧
      (∀ id status, answersOf id status s'.2 = answersOf id status s.2) ∧
      ∀ decision ∈ decisions, ∃ tool ∈ tools, ∃ context,
        decision = registry.decisionIn tool approved context := by
  induction h with
  | nil s => exact ⟨rfl, rfl, List.suffix_refl _, id, fun _ => id, fun _ _ => rfl, by simp⟩
  | @cons tool rest decisions s s' context sameApproval later ih =>
    obtain ⟨same, stands, grown, untried, unwritten, unanswered, each⟩ := ih
    refine ⟨same, stands, (List.suffix_cons _ _).trans grown, ?_, ?_, ?_, ?_⟩
    · intro before
      exact untried (untried_cons before (by simp))
    · intro node member
      have earlier := unwritten node member
      simpa using earlier
    · intro id status
      rw [unanswered]
      simp [answersOf, Entry.answers]
    · intro decision member
      rcases List.mem_cons.mp member with first | old
      · exact ⟨tool, List.mem_cons_self, context, first⟩
      · obtain ⟨tool', inside, context', decided⟩ := each decision old
        exact ⟨tool', List.mem_cons_of_mem _ inside, context', decided⟩

/-! One node execution. -/

/-- Between two node executions of a call. -/
structure Between (law : Law) (c : Control) (history : List Entry) : Prop where
  inv : law.Inv c history
  saved : ¬ law.Storing history
  idle : phase history = .idle
  notPaused : NotPaused history
  written : law.stores = true → ∀ planned ∈ law.tasks, ∃ now,
    .upserted (initialRecord law.runId now planned) ∈ history

/-- A node whose execution may start. -/
structure Startable (law : Law) (c : Control) (node : GraphNodeRecord) : Prop where
  current : recordOf c.nodes node.id = some node
  open' : node.status = .pending ∨ node.status = .failed
  left : node.retryCount < law.maxAttempts
  ready : DepsDone c.nodes node
  planned : ∃ ids, law.fit ids ∧ node.id ∈ ids

/-- What a strict call can count on: its plan is its graph, the agents of the graph are
    there, and its tools are allowed. -/
structure Able (law : Law) (service : OrchestratorService) : Prop where
  whole : law.strict → ∀ ids, law.fit ids → ids = law.tasks.map ExecutionNode.id
  closed : law.strict → ∀ planned ∈ law.tasks, ∀ dependency ∈ planned.dependsOn,
    dependency ∈ law.tasks.map ExecutionNode.id
  agents : law.strict → ∀ planned ∈ law.tasks, planned.agent ∈ service.agents
  allowed : law.strict → ∀ planned ∈ law.tasks, ∀ tool ∈ planned.requiredTools,
    ∀ approved context, (law.registry.decisionIn tool approved context).decision = .allow

/-- The execution of a node, from before its start to after its end. -/
structure Ran (law : Law) (node : GraphNodeRecord) (state : LangGraphRunState) (c : Control)
    (history : List Entry) (outcome : GraphNodeStatus) (final : GraphNodeRecord)
    (before stored : LangGraphRunState) (s : Control × List Entry) : Prop where
  ends : Final law.maxAttempts node final outcome
  endState : EndState node.id outcome state before
  redacts : redactState (synced before (upserted final c.nodes)) = .ok stored
  reached : s.1 = { c with nodes := upserted final c.nodes, checkpoint := some stored }
  inv : law.Inv s.1 s.2
  saved : ¬ law.Storing s.2
  idle : phase s.2 = .idle
  notPaused : outcome ≠ .waitingForApproval → NotPaused s.2
  grown : history <:+ s.2

/-- The record of a node of the plan has the task of a node of the graph. -/
theorem Able.task {service : OrchestratorService} (able : law.Able service) (strict : law.strict)
    (between : law.Between c history) {ids : List String} (fit : law.fit ids) {id : String}
    (member : id ∈ ids) {node : GraphNodeRecord} (current : recordOf c.nodes id = some node) :
    ∃ planned ∈ law.tasks, planned.id = id ∧ TaskOf node planned := by
  rw [able.whole strict ids fit] at member
  obtain ⟨planned, inside, same⟩ := List.mem_map.mp member
  obtain ⟨record, search, task⟩ := between.inv.tasks planned inside fun stores =>
    between.written stores planned inside
  rw [same, current, Option.some.injEq] at search
  subst search
  exact ⟨planned, inside, same, task⟩

/-- The end of an execution, seen from before its start. -/
theorem Ended.ran {node : GraphNodeRecord} {state : LangGraphRunState} {started : Time}
    {stored : Option LangGraphRunState} {earlier : List Entry} {outcome : GraphNodeStatus}
    {s : Control × List Entry}
    (ended : law.Ended (runningRecord node started) state
      { c with nodes := upserted (runningRecord node started) c.nodes, checkpoint := stored }
      history outcome s)
    (saved : ¬ law.Storing history) (notPaused : NotPaused history) (grown : earlier <:+ history) :
    ∃ final before stored, law.Ran node state c earlier outcome final before stored s := by
  obtain ⟨final, before, stored', ends, endState, redacts, inv, rfl⟩ := ended
  have same : final.id = (runningRecord node started).id := ends.id
  have nodes : upserted final (upserted (runningRecord node started) c.nodes) =
      upserted final c.nodes := upserted_upserted same.symm c.nodes
  simp only [nodes] at redacts inv ⊢
  have since : history <:+ .saved law.runId (synced before (upserted final c.nodes)) ::
      .listed law.runId (upserted final c.nodes) :: .upserted final :: history :=
    (List.suffix_cons _ _).trans ((List.suffix_cons _ _).trans (List.suffix_cons _ _))
  refine ⟨final, before, stored', ⟨⟨ends.id, ends.task, ends.status, ends.tried⟩, endState, redacts,
    rfl, inv, not_storing_grow since saved, ?_, ?_, grown.trans since⟩⟩
  · have stopped : outcome ≠ .running := by
      rcases ends.tried with ⟨rfl | rfl, -⟩ | ⟨-, retried⟩
      · simp
      · simp
      · rw [retried]
        split <;> simp
    have still : final.status ≠ .running := ends.status ▸ stopped
    simp [phase, still]
  · intro proceeds other member
    simp only [List.mem_cons, reduceCtorEq, Entry.upserted.injEq, false_or] at member
    rcases member with here | old
    · rw [here, ends.status]
      exact proceeds
    · exact notPaused other old

omit [PyRuntime] in
theorem Startable.unfinished {node : GraphNodeRecord} (startable : law.Startable c node) :
    node.status ≠ .completed := by
  intro done
  rcases startable.open' with h | h <;> rw [done] at h <;> cases h

theorem Startable.inPlan {service : OrchestratorService} {node : GraphNodeRecord}
    (startable : law.Startable c node) (able : law.Able service) (strict : law.strict)
    {state : LangGraphRunState} (fits : law.Fits history state) :
    node.id ∈ state.plan.map PlanItem.id := by
  obtain ⟨ids, fit, member⟩ := startable.planned
  rw [able.whole strict _ fits.plan, ← able.whole strict _ fit]
  exact member

/-- What a strict call finds for a node that may start: its agent, and its tools allowed. -/
theorem Startable.able {service : OrchestratorService} {node : GraphNodeRecord}
    (startable : law.Startable c node) (able : law.Able service) (strict : law.strict)
    (between : law.Between c history) :
    node.agentType ∈ service.agents ∧ ∀ tool ∈ node.requiredTools, ∀ approved context,
      (law.registry.decisionIn tool approved context).decision = .allow := by
  obtain ⟨ids, fit, member⟩ := startable.planned
  obtain ⟨planned, inside, -, task⟩ := able.task strict between fit member startable.current
  rw [task.agentType, task.requiredTools]
  exact ⟨able.agents strict planned inside, able.allowed strict planned inside⟩

theorem Given.answer {node : GraphNodeRecord} {state : LangGraphRunState} {agentType : String}
    {input : AgentInput} {status : AgentStatus} (fits : law.Fits history state)
    (own : input.nodeId = node.id) :
    law.Given node state (.agentAnswered input status :: .agentStarted agentType input :: history)
      status := by
  have more : status = .failed → answersOf node.id .failed
      (.agentAnswered input status :: .agentStarted agentType input :: history) =
        answersOf node.id .failed history + 1 := by
    intro failed
    simp [answersOf, Entry.answers, own, failed]
  refine .agent (by simp [phase, own]) ?_ ?_
  · intro failed
    rw [more failed]
    omega
  · intro strict failed stored found
    have before := fits.blamed strict node.id stored found
    rw [more failed]
    omega

theorem executeNode_walk {service : OrchestratorService}
    (able : law.Able service) (sameLimit : law.maxAttempts = service.maxAttempts)
    {node : GraphNodeRecord} (startable : law.Startable c node) (between : law.Between c history)
    {state : LangGraphRunState} (fits : law.Fits history state) :
    (executeNode service node state).wp law.work
      (Ends (fun outcome s => ∃ final before stored,
        law.Ran node state c history outcome final before stored s) law.Excused cut)
      (c, history) := by
  have calm := work_calm law
  have own : node.runId = law.runId := between.inv.own node (mem_of_recordOf startable.current)
  unfold executeNode
  simp only [bind_eq]
  refine (calm.perform .utcNow).ends fun started => ?_
  rw [own]
  refine (calm.perform .getRun).ends fun run => ?_
  have starts : law.Moves c history node (runningRecord node started) :=
    .start started startable.open' startable.left startable.ready startable.planned between.idle
      between.notPaused
  apply upsert_walk own startable.current between.saved starts
  intro inv
  refine (calm.perform .utcNow).ends fun timestamp => ?_
  refine (recordEvent_still calm _ _ _).ends fun _ => ?_
  have since : history <:+ .upserted (runningRecord node started) :: history := List.suffix_cons _ _
  apply store_walk (fits.grow since) (not_storing_grow since between.saved)
  intro stored redacts inv'
  have ownRunning : (runningRecord node started).runId = law.runId := own
  have current : recordOf (upserted (runningRecord node started) c.nodes)
      (runningRecord node started).id = some (runningRecord node started) := by
    rw [recordOf_upserted]
    exact if_pos rfl
  have running : (runningRecord node started).status = .running := rfl
  have ready : DepsDone (upserted (runningRecord node started) c.nodes)
      (runningRecord node started) :=
    startable.ready.upserted startable.current startable.unfinished
  have notPaused : NotPaused (.saved law.runId
      (synced state (upserted (runningRecord node started) c.nodes)) ::
        .listed law.runId (upserted (runningRecord node started) c.nodes) ::
          .upserted (runningRecord node started) :: history) := by
    intro other member
    simp only [List.mem_cons, reduceCtorEq, Entry.upserted.injEq, false_or] at member
    rcases member with rfl | old
    · simp [runningRecord]
    · exact between.notPaused other old
  rw [wp_bind]
  refine authorizeNodeTools_wp calm (work_evaluates law) ownRunning state ?_ ?_ ?_
  rotate_left 2
  · exact fun _ _ reached => reached
  · intro e missing
    refine Or.inr (Or.inr fun strict => ?_)
    obtain ⟨item, found⟩ := planItem_found (startable.inPlan able strict fits)
    have search : planItem state node.id = .error e := missing
    rw [search] at found
    cases found
  · rintro inputSummary decisions ⟨c', history'⟩ evaluated
    obtain ⟨same, stands, grown, untried, unwritten, -, each⟩ := evaluated_walk evaluated
    simp only at same stands grown untried unwritten
    subst same
    have executing : phase history' = .executing node.id := stands
    have grown' : history <:+ history' :=
      since.trans ((List.suffix_cons _ _).trans ((List.suffix_cons _ _).trans grown))
    have untried' : Untried history' := untried fun agentType input => by simp [attempt]
    have saved' := not_storing_grow grown' between.saved
    have notPaused' : NotPaused history' := fun other member =>
      notPaused other (unwritten other member)
    cases gated : gateOutput decisions with
    | some output =>
      have given : law.Given (runningRecord node started) state history' output.status := by
        refine .gate executing untried' ?_ ?_
        · rcases gateOutput_status gated with failed | waiting
          · simp [failed]
          · simp [waiting]
        · intro strict
          have passes : gateOutput decisions = none := by
            apply gateOutput_allowed
            intro decision member
            obtain ⟨tool, inside, context, decided⟩ := each decision member
            rw [decided]
            exact (startable.able able strict between).2 tool inside _ context
          rw [passes] at gated
          cases gated
      apply ends_mono (finishNode_walk sameLimit ownRunning current running saved' (fits.grow grown') given) _ id
      intro outcome s ended
      exact ended.ran saved' notPaused' grown'
    | none =>
      apply ends_then (callAgent_walk current running executing untried' ready saved'
        (fun strict => startable.inPlan able strict fits)
        (fun strict => (startable.able able strict between).1))
      rintro output ⟨c', history''⟩ ⟨same, input, ownInput, told, noted⟩
      simp only at same noted
      subst same noted
      have later : history' <:+ .agentAnswered input output.status ::
          .agentStarted (runningRecord node started).agentType input :: history' :=
        (List.suffix_cons _ _).trans (List.suffix_cons _ _)
      have given : law.Given (runningRecord node started) state
          (.agentAnswered input output.status ::
            .agentStarted (runningRecord node started).agentType input :: history') output.status :=
        Given.answer (fits.grow grown') ownInput
      have savedLater := not_storing_grow later saved'
      apply ends_mono (finishNode_walk sameLimit ownRunning current running savedLater
        (fits.grow (grown'.trans later)) given) _ id
      intro outcome s ended
      apply ended.ran savedLater ?_ (grown'.trans later)
      intro other member
      simp only [List.mem_cons, reduceCtorEq, false_or] at member
      exact notPaused' other member

end Law
end Orchestration
