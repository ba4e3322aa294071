import AeaiOs.CheckpointRoundTrip
import AeaiOs.ControlView
import AeaiOs.ProtocolKept

/-!
A store on which a call works as its protocol says: while the call is under way
the records and the checkpoint of the run stay such that it may rely on them.
-/
namespace Orchestration
open OrderedDict PyText AtomicProgram Program RunValues RunModels Redaction InMemoryRunRepository
  ToolPolicy

namespace Scope

/-- A graph with one node an id, whose ids redaction leaves alone. -/
structure Sound [UnicodeDatabase] (scope : Scope) : Prop where
  ids_nodup : scope.graph.ids.Nodup
  ids_fixed : ∀ id ∈ scope.graph.ids, Fixed id
  limit : 0 < scope.maxAttempts

/-- What the control of the run promises at a point of the call. -/
structure Kept (scope : Scope) (c : Control) (history : List Entry) : Prop where
  listing : scope.Ready history → scope.Listing history c.nodes
  state : scope.Ready history → ∀ state, c.checkpoint = some state → scope.StateFits state
  setup : ¬ scope.Ready history → ∀ node, .upserted node ∈ history →
    ∃ stored ∈ c.nodes, stored.id = node.id ∧ scope.NodeFits history stored

variable {scope : Scope} {c : Control} {history : List Entry}

theorem ready_cons_iff {entry : Entry} (idle : ∀ runId state, entry ≠ .saved runId state) :
    scope.Ready (entry :: history) ↔ scope.Ready history := by
  constructor
  · intro ready stores
    obtain ⟨runId, state, member⟩ := ready stores
    rcases List.mem_cons.mp member with same | old
    · exact absurd same.symm (idle runId state)
    · exact ⟨runId, state, old⟩
  · exact Ready.grow (List.suffix_cons _ _)

theorem Listing.grow {history' : List Entry} (grown : history <:+ history')
    {nodes : List GraphNodeRecord} (listing : scope.Listing history nodes) :
    scope.Listing history' nodes :=
  ⟨fun node member => (listing.fits node member).grow grown, listing.complete⟩

theorem Kept.note {entry : Entry} (kept : scope.Kept c history)
    (notSaved : ∀ runId state, entry ≠ .saved runId state) (notWritten : ∀ node, entry ≠ .upserted node) :
    scope.Kept c (entry :: history) where
  listing ready := (kept.listing ((ready_cons_iff notSaved).mp ready)).grow (List.suffix_cons _ _)
  state ready := kept.state ((ready_cons_iff notSaved).mp ready)
  setup unsaved node member := by
    rw [ready_cons_iff notSaved] at unsaved
    rcases List.mem_cons.mp member with same | old
    · exact absurd same.symm (notWritten node)
    · obtain ⟨stored, inside, same, fits⟩ := kept.setup unsaved node old
      exact ⟨stored, inside, same, fits.grow (List.suffix_cons _ _)⟩

/-- Only the status of the run has changed. -/
theorem Kept.status {status : RunStatus} (kept : scope.Kept c history) :
    scope.Kept { c with status } history :=
  ⟨kept.listing, kept.state, kept.setup⟩

section
variable [UnicodeDatabase]

theorem initialRecord_fits (sound : scope.Sound) {planned : ExecutionNode}
    (member : planned ∈ scope.graph.nodes) (now : CivilTime.Time) :
    scope.NodeFits history (initialRecord scope.runId now planned) where
  runId := rfl
  planned other inside same := by
    have unique : other = planned := List.inj_on_of_nodup_map sound.ids_nodup inside member same
    rw [unique]
    exact ⟨rfl, rfl, rfl⟩
  budget _ _ := sound.limit
  used _ := by simp [initialRecord]
  completed _ done := by simp [initialRecord] at done

omit [UnicodeDatabase] in
/-- A write of a record that fits. -/
theorem Kept.upsert {node : GraphNodeRecord} (kept : scope.Kept c history)
    (nodup : (c.nodes.map GraphNodeRecord.id).Nodup) (fits : scope.NodeFits history node) :
    scope.Kept { c with nodes := upserted node c.nodes } (.upserted node :: history) := by
  have grown : history <:+ .upserted node :: history := List.suffix_cons _ _
  have sameReady : scope.Ready (.upserted node :: history) ↔ scope.Ready history :=
    ready_cons_iff (by simp)
  refine ⟨?_, fun ready => kept.state (sameReady.mp ready), ?_⟩
  · intro ready
    have listing := kept.listing (sameReady.mp ready)
    refine ⟨?_, ?_⟩
    · intro other member
      rcases (mem_upserted nodup).mp member with new | ⟨old, -⟩
      · rw [new]
        exact fits.grow grown
      · exact (listing.fits other old).grow grown
    · intro id planned
      obtain ⟨other, old, same⟩ := listing.complete id planned
      by_cases replaced : other.id = node.id
      · exact ⟨node, (mem_upserted nodup).mpr (Or.inl rfl), replaced.symm.trans same⟩
      · exact ⟨other, (mem_upserted nodup).mpr (Or.inr ⟨old, replaced⟩), same⟩
  · intro unsaved other member
    rw [sameReady] at unsaved
    have here : ∃ stored ∈ upserted node c.nodes, stored.id = node.id ∧
        scope.NodeFits (.upserted node :: history) stored :=
      ⟨node, (mem_upserted nodup).mpr (Or.inl rfl), rfl, fits.grow grown⟩
    rcases List.mem_cons.mp member with same | old
    · simp only [Entry.upserted.injEq] at same
      rw [same]
      exact here
    · obtain ⟨stored, inside, same, storedFits⟩ := kept.setup unsaved other old
      by_cases replaced : stored.id = node.id
      · rw [← same, replaced]
        exact here
      · exact ⟨stored, (mem_upserted nodup).mpr (Or.inr ⟨inside, replaced⟩), same,
          storedFits.grow grown⟩

theorem StateFits.redacted {state stored : LangGraphRunState} (sound : scope.Sound)
    (fits : scope.StateFits state) (h : redactState state = .ok stored) :
    scope.StateFits stored := by
  have fields := redactState_ok h
  refine ⟨?_, ?_⟩
  · rw [← fits.plan]
    refine redactPlan_ids fields.plan ?_
    intro item member
    refine sound.ids_fixed item.id ?_
    rw [← fits.plan]
    exact List.mem_map_of_mem member
  · intro nodeId decision found
    obtain ⟨before, stored', rewritten⟩ := Dict.get?_of_traverse fields.approvals found
    have known := fits.approvals nodeId before stored'
    unfold redactTextAt at rewritten
    split at rewritten
    · simp only [Except.ok.injEq] at rewritten
      exact Or.inr (Or.inr rewritten.symm)
    · have same : decision = before := by
        have plain : redactText before = .ok before := by
          rcases known with ⟨rfl, -⟩ | rfl | rfl
          · exact redactText_plain (List.all_eq_true.mp (by decide))
          · exact redactText_plain (List.all_eq_true.mp (by decide))
          · exact redactText_redacted
        rw [plain, Except.ok.injEq] at rewritten
        exact rewritten.symm
      rw [same]
      exact known

/-- A save of a state that fits; the first one finds every record of the graph. -/
theorem Kept.save {state stored : LangGraphRunState} {runId : String} (kept : scope.Kept c history)
    (sound : scope.Sound) (nodup : (c.nodes.map GraphNodeRecord.id).Nodup)
    (own : ∀ node ∈ c.nodes, node.runId = scope.runId) (fits : scope.StateFits state)
    (written : ¬ scope.Ready history → ∀ planned ∈ scope.graph.nodes, ∃ now,
      .upserted (initialRecord scope.runId now planned) ∈ history)
    (h : redactState state = .ok stored) :
    scope.Kept { c with checkpoint := some stored } (.saved runId state :: history) := by
  have grown : history <:+ .saved runId state :: history := List.suffix_cons _ _
  have listing : scope.Listing history c.nodes := by
    by_cases ready : scope.Ready history
    · exact kept.listing ready
    · have each : ∀ planned ∈ scope.graph.nodes, ∃ stored ∈ c.nodes, stored.id = planned.id ∧
          scope.NodeFits history stored := by
        intro planned member
        obtain ⟨now, entry⟩ := written ready planned member
        exact kept.setup ready _ entry
      refine ⟨?_, ?_⟩
      · intro node member
        by_cases planned : node.id ∈ scope.graph.ids
        · obtain ⟨item, inside, same⟩ := List.mem_map.mp planned
          obtain ⟨stored', inside', same', fits'⟩ := each item inside
          have unique : stored' = node :=
            List.inj_on_of_nodup_map nodup inside' member (same'.trans same)
          exact unique ▸ fits'
        · have stray : ∀ item ∈ scope.graph.nodes, item.id ≠ node.id := by
            intro item inside same
            exact planned (same ▸ List.mem_map_of_mem inside)
          exact
            { runId := own node member
              planned := fun item inside same => absurd same (stray item inside)
              budget := fun inside => absurd inside planned
              used := fun inside => absurd inside planned
              completed := fun inside => absurd inside planned }
      · intro id planned
        obtain ⟨item, inside, same⟩ := List.mem_map.mp planned
        obtain ⟨stored', inside', same', -⟩ := each item inside
        exact ⟨stored', inside', same'.trans same⟩
  refine ⟨fun _ => listing.grow grown, ?_, ?_⟩
  · intro _ state' found
    simp only [Option.some.injEq] at found
    rw [← found]
    exact fits.redacted sound h
  · intro unsaved
    exact absurd (fun _ => ⟨runId, state, List.mem_cons_self⟩) unsaved

end

/-- One operation that the protocol asks for. -/
theorem control_protocol [PyRuntime] (sound : scope.Sound) {op : Op β} {answer : Except PyError β}
    {c' : Control} (kept : scope.Kept c history) (nodup : (c.nodes.map GraphNodeRecord.id).Nodup)
    (own : ∀ node ∈ c.nodes, node.runId = scope.runId) (asked : scope.Asks op history)
    (allowed : controlAllows scope.registry scope.runId op c answer c') :
    scope.Kept c' (record (describe op answer) history) ∧ scope.Answers history op answer := by
  cases op with
  | utcNow =>
    obtain ⟨rfl, now, rfl⟩ := allowed
    exact ⟨kept, now, rfl⟩
  | uuid4 =>
    obtain ⟨rfl, id, rfl⟩ := allowed
    exact ⟨kept, trivial⟩
  | currentTraceId =>
    obtain ⟨rfl, id, rfl⟩ := allowed
    exact ⟨kept, trivial⟩
  | getRun id =>
    obtain ⟨rfl, told⟩ := allowed
    obtain ⟨run, rfl, same, -⟩ := told asked
    exact ⟨kept, run, rfl, same⟩
  | updateStatus id status errorSummary =>
    have told := allowed.2 asked.1
    refine ⟨?_, trivial⟩
    split at told
    · obtain ⟨rfl, run, rfl⟩ := told
      exact kept.status.note (by simp) (by simp)
    · obtain ⟨rfl, rfl⟩ := told
      exact kept.note (by simp) (by simp)
  | getArtifact id artifactId =>
    obtain ⟨rfl, told⟩ := allowed
    refine ⟨?_, told asked⟩
    cases answer <;> exact kept
  | upsertGraphNode node =>
    have fits : scope.NodeFits history node := by
      by_cases ready : scope.Ready history
      · exact (asked.1 ready).1
      · obtain ⟨planned, member, now, rfl⟩ := asked.2 ready
        exact initialRecord_fits sound member now
    obtain ⟨rfl, rfl⟩ := allowed.2 fits.runId
    exact ⟨kept.upsert nodup fits, rfl⟩
  | getGraphNode id nodeId =>
    obtain ⟨rfl, told⟩ := allowed
    have answered := told asked
    subst answered
    cases search : c'.nodes.find? fun node => node.id = nodeId with
    | none => exact ⟨kept, by simp [Answers]⟩
    | some node =>
      refine ⟨kept, ?_⟩
      intro other same
      simp only [found_some, Except.ok.injEq] at same
      subst same
      have hit := List.find?_some search
      simp only [decide_eq_true_eq] at hit
      exact ⟨hit, fun ready => (kept.listing ready).fits node (List.mem_of_find?_eq_some search)⟩
  | listGraphNodes id =>
    obtain ⟨rfl, told⟩ := allowed
    have answered := told asked
    subst answered
    refine ⟨kept.note (by simp) (by simp), ?_⟩
    intro nodes same ready
    simp only [Except.ok.injEq] at same
    exact same ▸ kept.listing ready
  | addEvent event =>
    have same : c' = c := allowed
    subst same
    refine ⟨?_, trivial⟩
    cases answer with
    | ok stored => exact kept
    | error e => exact kept.note (by simp) (by simp)
  | saveCheckpoint id state =>
    obtain ⟨own', fits, written⟩ := asked
    have told := allowed.2 own'
    refine ⟨?_, trivial⟩
    split at told
    · rename_i stored h
      obtain ⟨rfl, saved, rfl⟩ := told
      exact kept.save sound nodup own fits written h
    · obtain ⟨rfl, rfl⟩ := told
      exact kept.note (by simp) (by simp)
  | getCheckpoint id =>
    obtain ⟨rfl, told⟩ := allowed
    have answered := told asked
    cases stored : c'.checkpoint with
    | none =>
      simp only [stored] at answered
      subst answered
      exact ⟨kept, by simp [Answers]⟩
    | some state =>
      simp only [stored] at answered
      obtain ⟨checkpoint, rfl, same⟩ := answered
      refine ⟨kept, ?_⟩
      intro other told' ready
      simp only [Except.ok.injEq] at told'
      rw [← told', same]
      exact kept.state ready state stored
  | evaluateTool tool inputSummary approved context =>
    obtain ⟨rfl, rfl⟩ := allowed
    exact ⟨kept.note (by simp) (by simp), rfl⟩
  | agentStart agentType input =>
    obtain ⟨rfl, rfl⟩ := allowed
    exact ⟨kept.note (by simp) (by simp), trivial⟩
  | agentFinish agentType input =>
    obtain ⟨rfl, result, rfl⟩ := allowed
    exact ⟨kept.note (by simp) (by simp), trivial⟩
  | enqueueWorkflowJob _ _ _ _ => exact False.elim asked
  | listWorkflowJobs _ _ => exact False.elim asked
  | claimNextWorkflowJob _ _ _ => exact False.elim asked
  | heartbeatWorkflowJob _ _ => exact False.elim asked
  | completeWorkflowJob _ _ => exact False.elim asked
  | failWorkflowJob _ _ _ _ => exact False.elim asked
  | retryDeadLetterWorkflowJob _ _ => exact False.elim asked
  | createPlan _ _ => exact False.elim asked

/-- The store of a call that keeps the protocol stays what the call may rely on. -/
theorem handler_protocol [PyRuntime] (env : Env) (sameRegistry : scope.registry = env.registry)
    (sound : scope.Sound) :
    Simulates ((handler env).observed describe)
      (fun s => s.1.Holds scope.runId ∧ scope.Kept (s.1.control scope.runId) s.2) Prod.snd
      scope.protocol := by
  rintro β op ⟨w, history⟩ ⟨holds, kept⟩ asked
  obtain ⟨holds', allowed⟩ := exec_control env scope.runId op w holds trivial
  have allowed' : controlAllows scope.registry scope.runId op (w.control scope.runId)
      ((handler env).handle op w).1 (((handler env).handle op w).2.control scope.runId) := by
    rw [sameRegistry]
    exact allowed
  obtain ⟨kept', answered⟩ :=
    control_protocol sound kept holds.ids_nodup holds.own asked allowed'
  exact ⟨⟨holds', kept'⟩, rfl, answered⟩

end Scope
end Orchestration
