import AeaiOs.ControlCalls

/-!
The security gate over any calls on a run: an agent is asked only in an attempt in
which every tool of its node was allowed, and a tool that needs an approval only
after an approval of that node in the same execution.
-/
namespace Orchestration
open OrderedDict PyText AtomicProgram RunValues RunModels Redaction InMemoryRunRepository ToolPolicy

theorem describe_agentStarted {op : Op β} {answer : Except PyError β} {agentType : String}
    {input : AgentInput} (h : describe op answer = some (.agentStarted agentType input)) :
    ∃ same : β = Unit, same ▸ op = .agentStart agentType input := by
  cases op with
  | agentStart agentType' input' =>
    cases answer with
    | ok _ =>
      simp only [describe, Option.some.injEq, Entry.agentStarted.injEq] at h
      obtain ⟨rfl, rfl⟩ := h
      exact ⟨rfl, rfl⟩
    | error e => simp [describe] at h
  | _ => cases answer <;> simp [describe] at h

/-- The decision that the same use of the tool gets when nobody has approved it. -/
def NeedsApproval [UnicodeDatabase] (registry : ToolPermissionRegistry) (tool inputSummary : String)
    (context : PolicyEvaluationContext) : Prop :=
  ∃ decision, registry.evaluate tool inputSummary false (some { context with approved := false }) =
    .ok decision ∧ (decision.decision = .approvalRequired ∨ decision.decision = .escalate)

/-- What an agent's invocation rests on, in the attempt that it belongs to. -/
structure Authorized [UnicodeDatabase] (registry : ToolPermissionRegistry)
    (approved : String → Prop) (older : List Entry) (node : ExecutionNode) : Prop where
  each : ∀ tool ∈ node.requiredTools, ∃ inputSummary given context,
    .evaluated tool inputSummary given context .allow ∈ attempt older
  allowed : ∀ tool inputSummary given context status,
    .evaluated tool inputSummary given context status ∈ attempt older → status = .allow
  approval : ∀ tool inputSummary given context status,
    .evaluated tool inputSummary given context status ∈ attempt older →
      NeedsApproval registry tool inputSummary context → approved node.id

section
variable [PyRuntime] {scope : Scope} {history : List Entry}

/-- One invocation of a call that keeps its protocol. -/
theorem authorized_of_owed
    (owed : Owed describe scope.protocol history) {newer older : List Entry} {agentType : String}
    {input : AgentInput} (split : history = newer ++ .agentStarted agentType input :: older) :
    ∃ node ∈ scope.graph.nodes, node.id = input.nodeId ∧ node.agent = agentType ∧
      Authorized scope.registry scope.approved older node := by
  obtain ⟨β, op, answer, noted, asked, -⟩ := owed newer _ older split
  obtain ⟨rfl, same⟩ := describe_agentStarted noted
  subst same
  obtain ⟨-, inside, -, -, record, sameId, sameAgent, fits, gate⟩ := asked
  obtain ⟨node, member, own⟩ := List.mem_map.mp inside
  obtain ⟨agent, -, tools⟩ := fits.planned node member (own.trans sameId.symm)
  refine ⟨node, member, own, agent.symm.trans sameAgent, ?_⟩
  refine
    { each := fun tool required => gate.each tool (tools ▸ required)
      allowed := fun tool summary given context status member =>
        (gate.told tool summary given context status member).1
      approval := ?_ }
  intro tool summary given context status member ⟨decision, evaluated, needs⟩
  obtain ⟨-, sameApproval, allow, known⟩ := gate.told tool summary given context status member
  cases given with
  | true =>
    have approved := known rfl
    rw [own.trans sameId.symm]
    exact approved
  | false =>
    -- nobody had approved: the decision is the one that was taken
    have unchanged : { context with approved := false } = context := by
      rw [← sameApproval]
    simp only [ToolPermissionRegistry.evaluate, unchanged, Except.ok.injEq] at evaluated
    rw [← evaluated, allow] at needs
    simp at needs

end

section gate
variable [PyRuntime]

/-- From a run that has executed nothing yet, through any calls: the agent of a node
    is asked only if every tool that its graph requires of it was allowed in the same
    attempt, and if one of them needs an approval, the node has been approved since the
    graph was accepted. -/
theorem agents_authorized (env : Env) (service : OrchestratorService) (fuel : Nat) (runId : String)
    (requests : List Call) (w : World) (holds : w.Holds runId)
    (unstored : (w.control runId).checkpoint = none) (fixed : KeepsIds service requests)
    (saved : NoneRefused (runCalls env service fuel runId requests w).1)
    (later earlier : List Done) (done : Done)
    (made : (runCalls env service fuel runId requests w).1 = later ++ done :: earlier)
    (newer older : List Entry) (agentType : String) (input : AgentInput)
    (asked : done.history = newer ++ .agentStarted agentType input :: older) :
    ∃ graph, currentGraph service (done :: earlier) = some graph ∧
      ∃ node ∈ graph.nodes, node.id = input.nodeId ∧ node.agent = agentType ∧
        Authorized env.registry (ApprovedSince service (done :: earlier)) older node := by
  obtain ⟨-, shown⟩ := runCalls_keep fuel holds unstored fixed saved
  have kept := shown later done earlier made
  cases current : currentGraph service (done :: earlier) with
  | none =>
    have silent := kept.silent current
    simp [silent] at asked
  | some graph =>
    refine ⟨graph, rfl, ?_⟩
    obtain ⟨node, member, own, agent, authorized⟩ :=
      authorized_of_owed (kept.owed graph current) asked
    exact ⟨node, member, own, agent,
      { each := authorized.each
        allowed := authorized.allowed
        approval := fun tool summary given context status entry needs =>
          approvedSince_pending.mp
            (authorized.approval tool summary given context status entry needs) }⟩

def readingGraph : ExecutionGraph where
  runId := "run_1"
  nodes := [{ id := "n", agent := "analyst", task := "Read", requiredTools := ["csv"] }]

def readingTools : ToolPermissionRegistry where
  permissions := Dict.empty.set "csv"
    { tool := "csv", permissionLevel := .readOnly, risk := .low, description := "Reads a file." }
  rules := .empty

omit [PyRuntime] in
theorem reading_agent_authorized :
    let _ := plainRuntime
    let env := steadyEnv readingTools fun _ => .succeeded
    let made := (makeCall env analysts 2 "run_1" (.execute readingGraph) newWorld).1
    ∃ newer agentType input older,
      made.history = newer ++ .agentStarted agentType input :: older ∧
        ∃ graph, currentGraph analysts [made] = some graph ∧
          ∃ node ∈ graph.nodes, node.id = input.nodeId ∧ node.agent = agentType ∧
            Authorized env.registry (ApprovedSince analysts [made]) older node := by
  intro _ env made
  obtain ⟨asks, saved⟩ : made.history.any Entry.startsAgent = true ∧ NoneRefused [made] := by
    decide +kernel
  obtain ⟨newer, agentType, input, older, split⟩ := split_at_agent asks
  refine ⟨newer, agentType, input, older, split, ?_⟩
  have alone : (runCalls env analysts 2 "run_1" [.execute readingGraph] newWorld).1 = [made] :=
    runCalls_one env analysts 2 "run_1" (.execute readingGraph) newWorld
  rw [← alone] at saved
  refine agents_authorized env analysts 2 "run_1" [.execute readingGraph] newWorld
    ⟨by decide, by decide, by decide⟩ (by decide) ?_ saved [] []
    made alone newer older agentType input split
  intro request member graph starts
  have same := (starts_accepted starts).1
  subst same
  simp only [List.mem_singleton, Call.execute.injEq] at member
  subst member
  intro id inside
  simp only [readingGraph, ExecutionGraph.ids, List.map_cons, List.map_nil, List.mem_singleton]
    at inside
  subst inside
  exact redactText_plain (List.all_eq_true.mp (by decide))

end gate
end Orchestration
