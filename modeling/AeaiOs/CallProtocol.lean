import AeaiOs.QuietSteps

/-!
What one control call owes to its run: the order of its writes, what it must have
read or been told before each of them, and what it may rely on when it reads. All
of it is about the call's own history, so it holds of a call whatever the other
calls on the run do.
-/
namespace Orchestration
open OrderedDict PyText AtomicProgram Program RunValues RunModels Redaction ToolPolicy

/-- Where a call stands between two writes of a node record. -/
inductive Phase where
  | idle
  | executing (nodeId : String)
  | answered (nodeId : String) (status : AgentStatus)
  deriving DecidableEq

def phase : List Entry → Phase
  | [] => .idle
  | .upserted node :: _ => if node.status = .running then .executing node.id else .idle
  | .agentAnswered input status :: _ => .answered input.nodeId status
  | _ :: older => phase older

/-- The entries since the last write of a node record. -/
def attempt : List Entry → List Entry
  | [] => []
  | .upserted _ :: _ => []
  | entry :: older => entry :: attempt older

/-- The status that a call has set after its last write of a node record. -/
def closing : List Entry → Option RunStatus
  | [] => none
  | .upserted _ :: _ => none
  | .statusSet _ status _ :: _ => some status
  | _ :: older => closing older

def Succeeded (history : List Entry) (nodeId : String) : Prop :=
  ∃ input, input.nodeId = nodeId ∧ .agentAnswered input .succeeded ∈ history

theorem succeeded_of_answered {history : List Entry} {nodeId : String}
    (h : phase history = .answered nodeId .succeeded) : Succeeded history nodeId := by
  induction history with
  | nil => simp [phase] at h
  | cons entry older ih =>
    have inherit : phase older = .answered nodeId .succeeded → Succeeded (entry :: older) nodeId := by
      intro before
      obtain ⟨input, same, member⟩ := ih before
      exact ⟨input, same, List.mem_cons_of_mem _ member⟩
    cases entry with
    | upserted node =>
      simp only [phase] at h
      split at h <;> simp at h
    | agentAnswered input status =>
      simp only [phase, Phase.answered.injEq] at h
      refine ⟨input, h.1, ?_⟩
      rw [← h.2]
      exact List.mem_cons_self
    | listed _ _ => exact inherit h
    | saved _ _ => exact inherit h
    | statusSet _ _ _ => exact inherit h
    | evaluated _ _ _ _ _ => exact inherit h
    | agentStarted _ _ => exact inherit h
    | saveRefused _ _ => exact inherit h
    | writeRefused _ => exact inherit h

/-- What is fixed while a call works on its run: the graph that the run executes, the
    nodes that were approved and that had succeeded before, and whether the call has to
    store the graph first. -/
structure Scope where
  runId : String
  graph : ExecutionGraph
  maxAttempts : Nat
  registry : ToolPermissionRegistry
  approved : String → Prop
  succeeded : String → Prop
  storesGraph : Bool

/-- What evaluating tools adds to a history: the call stands where it stood, every
    tool has its decision in the attempt, and the attempt has no other decision. -/
structure Adds [UnicodeDatabase] (registry : ToolPermissionRegistry) (approved : Bool)
    (tools : List String) (decisions : List ToolPolicyDecision) (history history' : List Entry) :
    Prop where
  samePhase : phase history' = phase history
  grown : history <:+ history'
  kept : attempt history ⊆ attempt history'
  each : ∀ tool ∈ tools, ∃ inputSummary context, ∃ decision ∈ decisions,
    .evaluated tool inputSummary approved context decision.decision ∈ attempt history'
  told : ∀ tool inputSummary given context status,
    .evaluated tool inputSummary given context status ∈ attempt history' →
      .evaluated tool inputSummary given context status ∈ attempt history ∨
        given = approved ∧ context.approved = approved ∧ ∃ decision ∈ decisions,
          decision = registry.decisionIn tool approved context ∧ status = decision.decision

theorem evaluated_adds [UnicodeDatabase] {registry : ToolPermissionRegistry}
    {inputSummary : String} {approved : Bool} {tools : List String}
    {decisions : List ToolPolicyDecision} {history history' : List Entry}
    (h : Evaluated registry (fun history entry => entry :: history) inputSummary approved tools
      decisions history history') :
    Adds registry approved tools decisions history history' := by
  induction h with
  | nil history =>
    exact
      { samePhase := rfl
        grown := List.suffix_refl _
        kept := List.Subset.refl _
        each := by simp
        told := fun _ _ _ _ _ member => Or.inl member }
  | @cons tool rest decisions history history' context sameApproval later ih =>
    refine
      { samePhase := ih.samePhase
        grown := (List.suffix_cons _ _).trans ih.grown
        kept := fun entry member => ih.kept (List.mem_cons_of_mem _ member)
        each := ?_
        told := ?_ }
    · intro k member
      rcases List.mem_cons.mp member with same | old
      · subst same
        exact ⟨inputSummary, context, _, List.mem_cons_self, ih.kept List.mem_cons_self⟩
      · obtain ⟨summary, other, decision, inside, entry⟩ := ih.each k old
        exact ⟨summary, other, decision, List.mem_cons_of_mem _ inside, entry⟩
    · intro k summary given other status member
      rcases ih.told k summary given other status member with before | ⟨same, own, decision, inside, rest⟩
      · rcases List.mem_cons.mp before with here | old
        · simp only [Entry.evaluated.injEq] at here
          obtain ⟨rfl, rfl, rfl, rfl, rfl⟩ := here
          exact Or.inr ⟨rfl, sameApproval, _, List.mem_cons_self, rfl, rfl⟩
        · exact Or.inl old
      · exact Or.inr ⟨same, own, decision, List.mem_cons_of_mem _ inside, rest⟩

namespace Scope

/-- The graph has been stored. -/
def Ready (scope : Scope) (history : List Entry) : Prop :=
  scope.storesGraph = true → ∃ runId state, .saved runId state ∈ history

structure NodeFits (scope : Scope) (history : List Entry) (node : GraphNodeRecord) : Prop where
  runId : node.runId = scope.runId
  planned : ∀ planned ∈ scope.graph.nodes, planned.id = node.id →
    node.agentType = planned.agent ∧ node.dependsOn = planned.dependsOn ∧
      node.requiredTools = planned.requiredTools
  budget : node.id ∈ scope.graph.ids →
    node.status = .pending ∨ node.status = .running ∨ node.status = .waitingForApproval →
      node.retryCount < scope.maxAttempts
  used : node.id ∈ scope.graph.ids → node.status ≠ .skipped
  completed : node.id ∈ scope.graph.ids → node.status = .completed →
    scope.succeeded node.id ∨ Succeeded history node.id

structure StateFits (scope : Scope) (state : LangGraphRunState) : Prop where
  plan : state.plan.map PlanItem.id = scope.graph.ids
  approvals : ∀ nodeId decision, state.approvals.get? nodeId = some decision →
    decision = "approved" ∧ scope.approved nodeId ∨ decision = "denied" ∨ decision = redacted

/-- What a reader of the node records of the run may rely on. -/
structure Listing (scope : Scope) (history : List Entry) (nodes : List GraphNodeRecord) : Prop where
  fits : ∀ node ∈ nodes, scope.NodeFits history node
  complete : ∀ id ∈ scope.graph.ids, ∃ node ∈ nodes, node.id = id

/-- Every tool of the node has been allowed since its record was last written, and
    nothing else has been decided since, nor by an approval that was not given. -/
structure Gate [UnicodeDatabase] (scope : Scope) (history : List Entry) (node : GraphNodeRecord) :
    Prop where
  each : ∀ tool ∈ node.requiredTools, ∃ inputSummary approved context,
    .evaluated tool inputSummary approved context .allow ∈ attempt history
  told : ∀ tool inputSummary approved context status,
    .evaluated tool inputSummary approved context status ∈ attempt history →
      status = .allow ∧ context.approved = approved ∧
        (scope.registry.decisionIn tool approved context).decision = .allow ∧
        (approved = true → scope.approved node.id)

/-- The write that `node` is can come next. -/
def MayWrite (history : List Entry) (node : GraphNodeRecord) : Prop :=
  match node.status with
  | .running => phase history = .idle
  | .completed => phase history = .answered node.id .succeeded
  | .waitingForApproval =>
      phase history = .executing node.id ∨ phase history = .answered node.id .waitingForApproval
  | .pending | .failed =>
      phase history = .executing node.id ∨ phase history = .answered node.id .failed ∨
        ∀ other, .upserted other ∉ history
  | .skipped => False

/-- A listing that the call has read shows every node of the graph completed. -/
def SeenCompleted (scope : Scope) (history : List Entry) : Prop :=
  ∃ nodes, .listed scope.runId nodes ∈ history ∧
    ∀ id ∈ scope.graph.ids, ∃ node ∈ nodes, node.id = id ∧ node.status = .completed

section
variable [UnicodeDatabase]

def Asks (scope : Scope) : {β : Type} → Op β → List Entry → Prop
  | _, .utcNow, _ => True
  | _, .uuid4, _ => True
  | _, .currentTraceId, _ => True
  | _, .getRun runId, _ => runId = scope.runId
  | _, .updateStatus runId status _, history =>
      runId = scope.runId ∧ scope.Ready history ∧ phase history = .idle ∧
        match status with
        | .completed => scope.SeenCompleted history
        | .pending | .queued => False
        | .running | .failed | .waitingForApproval => True
  | _, .getArtifact runId _, _ => runId = scope.runId
  | _, .upsertGraphNode node, history =>
      (scope.Ready history → scope.NodeFits history node ∧ MayWrite history node) ∧
        (¬ scope.Ready history → ∃ planned ∈ scope.graph.nodes, ∃ now,
          node = initialRecord scope.runId now planned)
  | _, .getGraphNode runId _, _ => runId = scope.runId
  | _, .listGraphNodes runId, _ => runId = scope.runId
  | _, .addEvent event, _ => event.runId = scope.runId
  | _, .saveCheckpoint runId state, history =>
      runId = scope.runId ∧ scope.StateFits state ∧
        (¬ scope.Ready history → ∀ planned ∈ scope.graph.nodes, ∃ now,
          .upserted (initialRecord scope.runId now planned) ∈ history)
  | _, .getCheckpoint runId, _ => runId = scope.runId
  | _, .evaluateTool _ _ _ _, _ => True
  | _, .agentStart agentType input, history =>
      input.runId = scope.runId ∧ input.nodeId ∈ scope.graph.ids ∧ scope.Ready history ∧
        phase history = .executing input.nodeId ∧
        ∃ node, node.id = input.nodeId ∧ node.agentType = agentType ∧
          scope.NodeFits history node ∧ scope.Gate history node
  | _, .agentFinish _ input, history => phase history = .executing input.nodeId
  | _, _, _ => False

/-- What a call may be answered. -/
def Answers (scope : Scope) (history : List Entry) : {β : Type} → Op β → Except PyError β → Prop
  | _, .utcNow, answer => ∃ now, answer = .ok now
  | _, .getRun _, answer => ∃ run, answer = .ok run ∧ run.id = scope.runId
  | _, .getArtifact _ _, answer => ∀ e, answer = .error e → ∃ missing, e = .artifactNotFound missing
  | _, .upsertGraphNode node, answer => answer = .ok node
  | _, .getGraphNode _ nodeId, answer => ∀ node, answer = .ok node →
      node.id = nodeId ∧ (scope.Ready history → scope.NodeFits history node)
  | _, .listGraphNodes _, answer =>
      ∀ nodes, answer = .ok nodes → scope.Ready history → scope.Listing history nodes
  | _, .getCheckpoint _, answer => ∀ checkpoint : RunCheckpointRecord, answer = .ok checkpoint →
      scope.Ready history → scope.StateFits checkpoint.state
  | _, .evaluateTool tool _ approved context, answer =>
      answer = .ok (scope.registry.decisionIn tool approved context)
  | _, _, _ => True

def protocol (scope : Scope) : Behaviour Op PyError (List Entry) where
  asks := scope.Asks
  allows op history answer history' :=
    history' = record (describe op answer) history ∧ scope.Answers history op answer

end

/-! A history only grows, and what it has shown stays shown. -/

theorem suffix_record (entry : Option Entry) (history : List Entry) :
    history <:+ record entry history := by
  cases entry with
  | none => exact List.suffix_refl history
  | some entry => exact List.suffix_cons entry history

theorem protocol_grows [UnicodeDatabase] {scope : Scope} {post : Outcome PyError α → List Entry → Prop}
    {p : Prog α} {history : List Entry} (h : p.wp scope.protocol post history) :
    p.wp scope.protocol (fun o history' => post o history' ∧ history <:+ history') history := by
  refine wp_tracks List.suffix_refl (fun _ _ _ => List.IsSuffix.trans) ?_ h
  intro β op history answer history' allowed
  rw [allowed.1]
  exact suffix_record _ history

section grows
variable {scope : Scope} {history history' : List Entry} (grown : history <:+ history')
include grown

theorem Ready.grow (ready : scope.Ready history) : scope.Ready history' := by
  intro stores
  obtain ⟨runId, state, member⟩ := ready stores
  exact ⟨runId, state, grown.subset member⟩

theorem NodeFits.grow {node : GraphNodeRecord} (fits : scope.NodeFits history node) :
    scope.NodeFits history' node where
  runId := fits.runId
  planned := fits.planned
  budget := fits.budget
  used := fits.used
  completed planned done := by
    rcases fits.completed planned done with before | ⟨input, same, member⟩
    · exact Or.inl before
    · exact Or.inr ⟨input, same, grown.subset member⟩

end grows

theorem protocol_calm [UnicodeDatabase] (scope : Scope) :
    Calm scope.protocol scope.runId fun _ _ => True where
  free history quiet := by
    cases quiet with
    | utcNow => trivial
    | uuid4 => trivial
    | currentTraceId => trivial
    | getRun => exact rfl
    | addEvent event own => exact own
  kept quiet allowed := by
    cases quiet <;> exact allowed.1
  raised _ _ := trivial
  artifactFree _ _ := rfl
  artifactKept := by
    intro history history' artifactId answer allowed
    refine ⟨?_, allowed.2⟩
    rw [allowed.1]
    cases answer <;> rfl

theorem protocol_evaluates [UnicodeDatabase] (scope : Scope) :
    Evaluates scope.protocol scope.registry fun history entry => entry :: history where
  free _ _ _ _ _ := trivial
  noted := by
    intro history history' tool inputSummary approved context answer allowed
    have answered : answer = .ok (scope.registry.decisionIn tool approved context) := allowed.2
    subst answered
    exact ⟨rfl, allowed.1⟩

end Scope
end Orchestration
