import AeaiOs.World

/-!
The orchestrator service: the four control calls on a run and the node execution
that they share. Every method is a program over single repository operations.
-/
namespace Orchestration
open OrderedDict PyText CivilTime AtomicProgram Program RunValues RunModels ToolPolicy

structure RetryPolicy where
  maxAttempts : Nat := 2
  positive : 1 ≤ maxAttempts := by decide

structure OrchestratorService where
  /-- `registry.list_agent_types()` -/
  agentTypes : List String
  /-- The agent types that have an executable agent. -/
  agents : List String
  retryPolicy : RetryPolicy := {}

structure OrchestrationResult where
  runId : String
  status : RunStatus
  state : LangGraphRunState
  completedNodeIds : List String
  failedNodeIds : List String
  waitingForApprovalNodeId : Option String

def OrchestratorService.maxAttempts (service : OrchestratorService) : Nat :=
  service.retryPolicy.maxAttempts

def assertAgentsAvailable (service : OrchestratorService) (graph : ExecutionGraph) :
    Except PyError Unit :=
  let missing := sortedSet <|
    (graph.nodes.map ExecutionNode.agent).filter (· ∉ service.agents)
  if missing = [] then .ok ()
  else
    let names := commaJoined missing
    .error (.orchestration s!"No executable agent registered for: {names}")

/-! Views of the stored records. -/

/-- `nodes_by_id[item["id"]]` for the plan items that have a record. -/
def planNodes (state : LangGraphRunState) (nodes : List GraphNodeRecord) : List GraphNodeRecord :=
  let nodesById := Dict.ofPairs (nodes.map fun node => (node.id, node))
  state.plan.filterMap fun item => nodesById.get? item.id

def nodeStatuses (nodes : List GraphNodeRecord) : Dict String GraphNodeStatus :=
  Dict.ofPairs (nodes.map fun node => (node.id, node.status))

def orderedNodes (runId : String) (state : LangGraphRunState) : Prog (List GraphNodeRecord) := do
  let nodes ← perform (.listGraphNodes runId)
  return planNodes state nodes

def refreshStateFromNodes (runId : String) (state : LangGraphRunState) :
    Prog LangGraphRunState := do
  let nodes ← orderedNodes runId state
  return syncStateFromNodeStatuses state (nodeStatuses nodes)

def loadState (runId : String) : Prog LangGraphRunState := do
  let checkpoint ← (perform (.getCheckpoint runId)).tryCatch fun
    | .runCheckpointNotFound _ =>
        .raised (.orchestration s!"No checkpoint exists for run: {runId}")
    | e => .raised e
  return checkpoint.state

def result (runId : String) (status : RunStatus) (state : LangGraphRunState) :
    Prog OrchestrationResult := do
  let refreshed ← refreshStateFromNodes runId state
  return { runId, status, state := refreshed
           completedNodeIds := refreshed.completedNodeIds
           failedNodeIds := refreshed.failedNodeIds
           waitingForApprovalNodeId := refreshed.waitingForApprovalNodeId }

/-- `all(statuses[dependency] == COMPLETED ...)`: stops at the first dependency that
    is not completed and raises at one without a status. -/
def dependenciesCompleted (statuses : Dict String GraphNodeStatus) :
    List String → Except PyError Bool
  | [] => .ok true
  | dependency :: rest =>
      match statuses.get? dependency with
      | none => .error (.keyError dependency)
      | some status =>
          if status = .completed then dependenciesCompleted statuses rest else .ok false

def readyNodes (maxAttempts : Nat) (statuses : Dict String GraphNodeStatus) :
    List GraphNodeRecord → Except PyError (List GraphNodeRecord)
  | [] => .ok []
  | node :: rest =>
      if (node.status = .pending ∨ node.status = .failed) ∧ node.retryCount < maxAttempts then do
        let ready ← dependenciesCompleted statuses node.dependsOn
        let others ← readyNodes maxAttempts statuses rest
        return if ready then node :: others else others
      else readyNodes maxAttempts statuses rest

def planItem (state : LangGraphRunState) (nodeId : String) : Except PyError PlanItem :=
  match state.plan.find? fun item => item.id = nodeId with
  | some item => .ok item
  | none => .error (.orchestration s!"Node is missing from state plan: {nodeId}")

/-- What extending a list by the stored value adds: a text adds its characters. -/
def StoredTexts.each : StoredTexts → List String
  | .items texts => texts
  | .text value => value.toList.map fun c => String.ofList [c]

def knownArtifacts (state : LangGraphRunState) : List String :=
  state.artifacts.values.flatMap StoredTexts.each

/-! Events. -/

/-- `payload.setdefault(key, value)` -/
def setDefault (payload : PyDict) (key : String) (value : PyValue) : PyDict :=
  match lookupEntries payload key with
  | some _ => payload
  | none => storeEntries payload key value

def recordEvent (runId nodeId eventType : String) (payload : PyDict) : Prog Unit := do
  let run ← perform (.getRun runId)
  let payload := setDefault payload "trace_id" (.ofOption run.traceId)
  let active ← perform .currentTraceId
  let payload := match active with
    | some traceId => if traceId = "" then payload else setDefault payload "otel_trace_id" (.str traceId)
    | none => payload
  let id ← perform .uuid4
  let now ← perform .utcNow
  let _ ← perform (.addEvent
    { id := "event_" ++ id, runId, nodeId, eventType, payload, createdAt := now })
  return ()

section
variable [PyRuntime]

/-- The events of an output; one without a type is a log event. -/
def recordOutputEvents (node : GraphNodeRecord) : List PyDict → Prog Unit
  | [] => return ()
  | event :: rest => do
      let eventType := ((lookupEntries event "event_type").map PyValue.text).getD
        AgentEventType.log.value
      recordEvent node.runId node.id eventType (event.filter fun entry => entry.1 ≠ "event_type")
      recordOutputEvents node rest

end

/-- Milliseconds since the node was started. -/
def nodeDurationMs (node : GraphNodeRecord) : Prog PyValue :=
  match node.startedAt with
  | none => return .none
  | some started => do
      let now ← perform .utcNow
      return .float (mkRat (max (now - started) 0) 1000)

/-! The end of a node execution. -/

def completeNode (node : GraphNodeRecord) (state : LangGraphRunState) (output : AgentOutput) :
    Prog GraphNodeStatus := do
  let finished ← perform .utcNow
  let updated ← perform .utcNow
  let completed :=
    { node with status := .completed, finishedAt := some finished, updatedAt := updated }
  let state : LangGraphRunState :=
    { state with
      agentOutputs := state.agentOutputs.set node.id (outputToState output)
      artifacts := state.artifacts.set node.id (.items output.artifacts)
      errors := state.errors.erase node.id }
  let _ ← perform (.upsertGraphNode completed)
  let duration ← nodeDurationMs node
  let timestamp ← perform .utcNow
  recordEvent node.runId node.id AgentEventType.log.value
    [("agent", .str node.agentType), ("message", .str "Node execution completed."),
      ("summary", .str output.summary), ("status", .str GraphNodeStatus.completed.value),
      ("artifacts", .ofStrings output.artifacts), ("duration_ms", duration),
      ("timestamp", .str (isoformat timestamp))]
  let refreshed ← refreshStateFromNodes node.runId state
  let _ ← perform (.saveCheckpoint node.runId refreshed)
  return .completed

def pauseForApproval (node : GraphNodeRecord) (state : LangGraphRunState) (output : AgentOutput) :
    Prog GraphNodeStatus := do
  let updated ← perform .utcNow
  let waiting := { node with status := .waitingForApproval, updatedAt := updated }
  let state : LangGraphRunState :=
    { state with
      agentOutputs := state.agentOutputs.set node.id (outputToState output)
      waitingForApprovalNodeId := some node.id }
  let _ ← perform (.upsertGraphNode waiting)
  let duration ← nodeDurationMs node
  let timestamp ← perform .utcNow
  recordEvent node.runId node.id AgentEventType.approvalRequest.value
    [("agent", .str node.agentType), ("summary", .str output.summary),
      ("errors", .ofStrings output.errors),
      ("status", .str GraphNodeStatus.waitingForApproval.value), ("duration_ms", duration),
      ("timestamp", .str (isoformat timestamp))]
  let refreshed ← refreshStateFromNodes node.runId state
  let _ ← perform (.saveCheckpoint node.runId refreshed)
  return .waitingForApproval

/-- `errors.setdefault(node_id, []).extend(new)`: redaction may have left a text
    where the list was, and a text cannot be extended. -/
def extendErrors (errors : Dict String StoredTexts) (nodeId : String) (new : List String) :
    Except PyError (Dict String StoredTexts) :=
  match errors.get? nodeId with
  | none => .ok (errors.set nodeId (.items new))
  | some (.items old) => .ok (errors.set nodeId (.items (old ++ new)))
  | some (.text _) => .error .attributeError

/-- `None if retryable else utc_now()` -/
def failureTime (retryable : Bool) : Prog (Option Time) :=
  if retryable then return none
  else do
    let now ← perform .utcNow
    return some now

def failNode (service : OrchestratorService) (node : GraphNodeRecord) (state : LangGraphRunState)
    (output : AgentOutput) : Prog GraphNodeStatus := do
  let retryCount := node.retryCount + 1
  let retryable := decide (retryCount < service.maxAttempts)
  let finished ← failureTime retryable
  let updated ← perform .utcNow
  let failed :=
    { node with
      status := if retryable then .pending else .failed
      retryCount
      finishedAt := finished
      updatedAt := updated }
  let errors ← ofExcept <| extendErrors state.errors node.id
    (if output.errors = [] then [output.summary] else output.errors)
  let state : LangGraphRunState :=
    { state with agentOutputs := state.agentOutputs.set node.id (outputToState output), errors }
  let _ ← perform (.upsertGraphNode failed)
  let duration ← nodeDurationMs node
  let timestamp ← perform .utcNow
  recordEvent node.runId node.id AgentEventType.error.value
    [("agent", .str node.agentType), ("summary", .str output.summary),
      ("errors", .ofStrings output.errors), ("status", .str failed.status.value),
      ("retryable", .bool retryable), ("retry_count", .int retryCount),
      ("duration_ms", duration), ("timestamp", .str (isoformat timestamp))]
  let refreshed ← refreshStateFromNodes node.runId state
  let _ ← perform (.saveCheckpoint node.runId refreshed)
  return failed.status

/-! The security gate. -/

def summarizeToolInput (node : GraphNodeRecord) (task : String) : String :=
  let summary := s!"agent={node.agentType}; node={node.id}; task={strip task}"
  if summary.length ≤ 240 then summary else String.ofList (summary.toList.take 237) ++ "..."

section gate
variable [PyRuntime]

def metadataIsSensitive (metadata : PyDict) : Bool :=
  ["sensitive", "pii", "contains_pii", "secret"].any fun key =>
    match lookupEntries metadata key with
    | some (.bool true) => true
    | some (.str text) =>
        decide (String.ofList (UnicodeDatabase.lower (strip text).toList) ∈ ["1", "true", "yes"])
    | _ => false

/-- The artifacts that still exist, in the order of their ids. -/
def knownArtifactRecords (runId : String) : List String → Prog (List ArtifactRecord)
  | [] => return []
  | artifactId :: rest => do
      let artifact ← (do
        let artifact ← perform (.getArtifact runId artifactId)
        return some artifact : Prog (Option ArtifactRecord)).tryCatch fun
          | .artifactNotFound _ => return none
          | e => .raised e
      let others ← knownArtifactRecords runId rest
      return artifact.toList ++ others

/-- `value = value or artifact.metadata.get(key)` over the artifacts. -/
def firstTruthy (key : String) (artifacts : List ArtifactRecord) : PyValue :=
  artifacts.foldl (fun value artifact =>
    if value.truthy then value else (lookupEntries artifact.metadata key).getD .none) .none

def textIfTruthy (value : PyValue) : Option String := if value.truthy then some value.text else none

def mergedMetadata (node : GraphNodeRecord) (artifacts : List ArtifactRecord) : PyDict :=
  artifacts.foldl (fun merged artifact =>
    artifact.metadata.foldl (fun merged entry => storeEntries merged entry.1 entry.2) merged)
    [("required_tools", .ofStrings node.requiredTools)]

def policyContextForTool (node : GraphNodeRecord) (state : LangGraphRunState)
    (inputSummary : String) (approved : Bool) : Prog PolicyEvaluationContext := do
  let artifactIds := knownArtifacts state
  let run ← perform (.getRun node.runId)
  let artifactIds := match run.datasetArtifactId with
    | some dataset =>
        if dataset = "" ∨ dataset ∈ artifactIds then artifactIds else artifactIds ++ [dataset]
    | none => artifactIds
  let artifacts ← knownArtifactRecords node.runId artifactIds
  let artifactTypes := sortedSet (artifacts.map fun artifact => artifact.type.value)
  let context ← ofExcept (PolicyEvaluationContext.make inputSummary approved)
  return { context with
    agentType := some node.agentType
    nodeId := some node.id
    runId := some node.runId
    connectorId := textIfTruthy (firstTruthy "connector_id" artifacts)
    credentialProfileId := textIfTruthy (firstTruthy "credential_profile_id" artifacts)
    artifactType := if artifactTypes = [] then none else some (",".intercalate artifactTypes)
    artifactSensitive := artifacts.any fun artifact => metadataIsSensitive artifact.metadata
    metadata := mergedMetadata node artifacts }

def evaluateTools (node : GraphNodeRecord) (state : LangGraphRunState) (inputSummary : String)
    (approved : Bool) : List String → Prog (List ToolPolicyDecision)
  | [] => return []
  | tool :: rest => do
      let context ← policyContextForTool node state inputSummary approved
      let decision ← perform (.evaluateTool tool inputSummary approved context)
      let others ← evaluateTools node state inputSummary approved rest
      return decision :: others

end gate

def recordToolAuditEvent (node : GraphNodeRecord) (decision : ToolPolicyDecision) : Prog Unit := do
  let timestamp ← perform .utcNow
  recordEvent node.runId node.id AgentEventType.toolCall.value
    [("agent", .str node.agentType), ("tool", .str decision.tool),
      ("policy_rule_id", .ofOption decision.policyRuleId),
      ("permission_level", .ofOption (decision.permissionLevel.map ToolPermissionLevel.value)),
      ("risk", .str decision.risk.value), ("decision", .str decision.decision.value),
      ("input_summary", .str decision.inputSummary), ("reason", .str decision.reason),
      ("approval_required", .bool decision.approvalRequired), ("approved", .bool decision.approved),
      ("destructive", .bool decision.destructive),
      ("escalation_target", .ofOption decision.escalationTarget),
      ("retry_after_seconds", (decision.retryAfterSeconds.map PyValue.int).getD .none),
      ("policy_context", .dict decision.context), ("timestamp", .str (isoformat timestamp))]

def recordToolAuditEvents (node : GraphNodeRecord) : List ToolPolicyDecision → Prog Unit
  | [] => return ()
  | decision :: rest => do
      recordToolAuditEvent node decision
      recordToolAuditEvents node rest

def decisionMetrics (decisions : List ToolPolicyDecision) : PyDict :=
  [("tool_policy_decisions", .list (decisions.map fun decision => .dict decision.modelDump))]

def refusals (decisions : List ToolPolicyDecision) (status : ToolPolicyDecisionStatus) :
    List String :=
  (decisions.filter fun decision => decision.decision = status).map fun decision =>
    s!"{decision.tool}: {decision.reason}"

/-- What the decisions on the tools of a node make of its execution; `none` lets the
    agent run. -/
def gateOutput (decisions : List ToolPolicyDecision) : Option AgentOutput :=
  let metrics := decisionMetrics decisions
  let gated := decisions.filter fun decision =>
    decision.decision = .approvalRequired ∨ decision.decision = .escalate
  let escalated := gated.any fun decision => decision.decision = .escalate
  if refusals decisions .block ≠ [] then
    some { status := .failed, summary := "Security policy blocked one or more required tools."
           errors := refusals decisions .block, metrics }
  else if gated ≠ [] then
    some
      { status := .waitingForApproval
        summary := if escalated then "Security escalation is required for governed tool calls."
          else "Security approval is required for high-risk tool calls."
        events :=
          [[("event_type", .str AgentEventType.approvalRequest.value),
            ("message", .str (if escalated then "Tool permission policy requires escalation."
              else "Tool permission policy requires approval.")),
            ("tools", .ofStrings (gated.map ToolPolicyDecision.tool)),
            ("policy_rule_ids", .ofStrings ((gated.filterMap ToolPolicyDecision.policyRuleId).filter
              (· ≠ ""))),
            ("escalation_targets", .ofStrings
              ((gated.filterMap ToolPolicyDecision.escalationTarget).filter (· ≠ "")))]]
        metrics }
  else if refusals decisions .retry ≠ [] then
    some { status := .failed
           summary := "Security policy requested retry before executing one or more tools."
           errors := refusals decisions .retry, metrics }
  else none

section service
variable [PyRuntime]

def authorizeNodeTools (node : GraphNodeRecord) (state : LangGraphRunState) :
    Prog (Option AgentOutput) := do
  if node.requiredTools = [] then return none
  else
    let approved := decide (state.approvals.get? node.id = some "approved")
    let item ← ofExcept (planItem state node.id)
    let decisions ← evaluateTools node state (summarizeToolInput node item.task) approved
      node.requiredTools
    recordToolAuditEvents node decisions
    return gateOutput decisions

/-- An agent that raises counts as one that failed. -/
def AgentException.output (e : AgentException) : AgentOutput where
  status := .failed
  summary := s!"Agent raised {e.typeName}: {e.text}"
  errors := [e.text]

def callAgent (service : OrchestratorService) (node : GraphNodeRecord)
    (state : LangGraphRunState) : Prog AgentOutput := do
  if node.agentType ∉ service.agents then .raised (.keyError node.agentType)
  else
    let item ← ofExcept (planItem state node.id)
    let approval := state.approvals.get? node.id
    let input : AgentInput :=
      { runId := node.runId, nodeId := node.id, task := item.task, context := state
        artifacts := knownArtifacts state
        approvals := (approval.filter fun text => text ≠ "").toList }
    perform (.agentStart node.agentType input)
    let answer ← perform (.agentFinish node.agentType input)
    match answer with
    | .ok output => return output
    | .error e => return e.output

/-- The outcome of an output that the gate or the agent has given. -/
def finishNode (service : OrchestratorService) (node : GraphNodeRecord)
    (state : LangGraphRunState) (output : AgentOutput) : Prog GraphNodeStatus := do
  recordOutputEvents node output.events
  match output.status with
  | .succeeded => completeNode node state output
  | .waitingForApproval => pauseForApproval node state output
  | .failed => failNode service node state output

/-- The record of a node whose execution starts. -/
def runningRecord (node : GraphNodeRecord) (started : Time) : GraphNodeRecord :=
  { node with
    status := .running
    startedAt := some (node.startedAt.getD started)
    updatedAt := started }

def executeNode (service : OrchestratorService) (node : GraphNodeRecord)
    (state : LangGraphRunState) : Prog GraphNodeStatus := do
  let started ← perform .utcNow
  let _ ← perform (.getRun node.runId)
  let running := runningRecord node started
  let _ ← perform (.upsertGraphNode running)
  let timestamp ← perform .utcNow
  recordEvent node.runId node.id AgentEventType.log.value
    [("agent", .str node.agentType), ("message", .str "Node execution started."),
      ("attempt", .int (node.retryCount + 1)), ("status", .str GraphNodeStatus.running.value),
      ("timestamp", .str (isoformat timestamp))]
  let refreshed ← refreshStateFromNodes node.runId state
  let _ ← perform (.saveCheckpoint node.runId refreshed)
  let security ← authorizeNodeTools running state
  match security with
  | some output => finishNode service running state output
  | none => do
      let output ← callAgent service running state
      finishNode service running state output

/-! The main loop. -/

inductive Pass where
  | again (state : LangGraphRunState)
  | waiting (state : LangGraphRunState)

/-- One pass over the ready nodes; a node that has failed for good ends it. -/
def runReady (service : OrchestratorService) (runId : String) :
    List GraphNodeRecord → LangGraphRunState → Prog Pass
  | [], state => return .again state
  | node :: rest, state => do
      let outcome ← executeNode service node state
      let state ← loadState runId
      if outcome = .waitingForApproval then do
        let _ ← perform (.updateStatus runId .waitingForApproval none)
        return .waiting state
      else if outcome = .failed then return .again state
      else runReady service runId rest state

/-- The run ends here: its status is set, its checkpoint saved, the result returned. -/
def finishRun (runId : String) (status : RunStatus) (errorSummary : Option String)
    (state : LangGraphRunState) : Prog OrchestrationResult := do
  let _ ← perform (.updateStatus runId status errorSummary)
  let _ ← perform (.saveCheckpoint runId state)
  result runId status state

/-- `while True`, for at most `fuel` rounds. -/
def resumeLoop (service : OrchestratorService) (runId : String) :
    Nat → LangGraphRunState → Prog OrchestrationResult
  | 0, _ => .unfinished
  | fuel + 1, state => do
      let state ← refreshStateFromNodes runId state
      if (state.waitingForApprovalNodeId.filter fun nodeId => nodeId ≠ "").isSome then
        finishRun runId .waitingForApproval none state
      else
        let nodes ← orderedNodes runId state
        if nodes ≠ [] ∧ ∀ node ∈ nodes, node.status = .completed then
          finishRun runId .completed none state
        else
          let terminal := nodes.filter fun node =>
            node.status = .failed ∧ service.maxAttempts ≤ node.retryCount
          if terminal ≠ [] then
            let summary := "; ".intercalate (terminal.map GraphNodeRecord.id)
            finishRun runId .failed (some s!"Failed graph nodes: {summary}") state
          else
            let ready ← ofExcept (readyNodes service.maxAttempts (nodeStatuses nodes) nodes)
            if ready = [] then
              finishRun runId .failed (some "No executable graph nodes remain.") state
            else
              match ← runReady service runId ready state with
              | .waiting state => result runId .waitingForApproval state
              | .again state => resumeLoop service runId fuel state

/-! The control calls. `fuel` bounds the rounds of the main loop. -/

def resumeRun (service : OrchestratorService) (fuel : Nat) (runId : String) :
    Prog OrchestrationResult := do
  let _ ← perform (.getRun runId)
  let state ← loadState runId
  let _ ← perform (.updateStatus runId .running none)
  resumeLoop service runId fuel state

def initialRecord (runId : String) (now : Time) (node : ExecutionNode) : GraphNodeRecord where
  id := node.id
  runId := runId
  agentType := node.agent
  status := .pending
  dependsOn := node.dependsOn
  requiredTools := node.requiredTools
  expectedArtifacts := node.expectedArtifacts
  retryCount := 0
  createdAt := now
  updatedAt := now

def upsertNodes (runId : String) (now : Time) : List ExecutionNode → Prog Unit
  | [] => return ()
  | node :: rest => do
      let _ ← perform (.upsertGraphNode (initialRecord runId now node))
      upsertNodes runId now rest

def executeRun (service : OrchestratorService) (fuel : Nat) (runId : String)
    (graph : ExecutionGraph) : Prog OrchestrationResult := do
  let run ← perform (.getRun runId)
  ofExcept (graph.validate service.agentTypes)
  ofExcept (assertAgentsAvailable service graph)
  let now ← perform .utcNow
  upsertNodes run.id now graph.nodes
  let _ ← perform (.saveCheckpoint run.id (buildInitialState run graph))
  let _ ← perform (.updateStatus run.id .running none)
  resumeRun service fuel run.id

def approveNode (service : OrchestratorService) (fuel : Nat) (runId nodeId : String)
    (approved : Bool) (comment : Option String) : Prog OrchestrationResult := do
  let state ← loadState runId
  let node ← perform (.getGraphNode runId nodeId)
  if node.status ≠ .waitingForApproval then
    .raised (.orchestration s!"Graph node is not waiting for approval: {nodeId}")
  else
    let decision := if approved then "approved" else "denied"
    let state : LangGraphRunState :=
      { state with
        approvals := state.approvals.set nodeId decision
        waitingForApprovalNodeId := none }
    let timestamp ← perform .utcNow
    recordEvent runId nodeId AgentEventType.approvalDecision.value
      [("agent", .str node.agentType), ("approved", .bool approved),
        ("comment", .ofOption comment), ("decision", .str decision),
        ("timestamp", .str (isoformat timestamp))]
    if approved then
      let updated ← perform .utcNow
      let _ ← perform (.upsertGraphNode { node with status := .pending, updatedAt := updated })
      let refreshed ← refreshStateFromNodes runId state
      let _ ← perform (.saveCheckpoint runId refreshed)
      resumeRun service fuel runId
    else
      let finished ← perform .utcNow
      let updated ← perform .utcNow
      let _ ← perform (.upsertGraphNode
        { node with status := .failed, finishedAt := some finished, updatedAt := updated })
      let refreshed ← refreshStateFromNodes runId state
      let _ ← perform (.saveCheckpoint runId refreshed)
      let _ ← perform (.updateStatus runId .failed (some s!"Approval denied for node: {nodeId}"))
      result runId .failed refreshed

def retryFailedNode (service : OrchestratorService) (fuel : Nat) (runId nodeId : String) :
    Prog OrchestrationResult := do
  let state ← loadState runId
  let node ← perform (.getGraphNode runId nodeId)
  if node.status ≠ .failed then
    .raised (.orchestration s!"Graph node is not failed: {nodeId}")
  else
    let updated ← perform .utcNow
    let _ ← perform (.upsertGraphNode
      { node with status := .pending, retryCount := 0, finishedAt := none, updatedAt := updated })
    let refreshed ← refreshStateFromNodes runId state
    let _ ← perform (.saveCheckpoint runId refreshed)
    resumeRun service fuel runId

end service
end Orchestration
