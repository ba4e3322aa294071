import AeaiOs.ExecutionGraph
import AeaiOs.Redaction

/-!
The orchestration state of a run as it is kept in its checkpoint. Stored states
are redacted; `redactState` does to the record what `redact_value` does to the
dictionary that the record stands for.
-/
namespace Orchestration
open OrderedDict PyText RunValues RunModels Redaction

inductive AgentStatus where
  | succeeded | failed | waitingForApproval
  deriving DecidableEq, Repr

def AgentStatus.value : AgentStatus → String
  | .succeeded => "succeeded"
  | .failed => "failed"
  | .waitingForApproval => "waiting_for_approval"

structure AgentInput where
  runId : String
  nodeId : String
  task : String
  context : LangGraphRunState
  artifacts : List String
  approvals : List String

structure AgentOutput where
  status : AgentStatus
  summary : String
  artifacts : List String := []
  events : List PyDict := []
  metrics : PyDict := []
  errors : List String := []

def nodeToPlanItem (node : ExecutionNode) : PlanItem where
  id := node.id
  agent := node.agent
  task := node.task
  dependsOn := node.dependsOn
  requiredTools := node.requiredTools
  expectedArtifacts := node.expectedArtifacts
  risk := node.risk

def buildInitialState (run : RunRecord) (graph : ExecutionGraph) : LangGraphRunState where
  runId := run.id
  task := run.task
  plan := graph.nodes.map nodeToPlanItem
  pendingNodeIds := graph.nodes.map ExecutionNode.id
  completedNodeIds := []
  failedNodeIds := []
  waitingForApprovalNodeId := none
  agentOutputs := .empty
  artifacts := .empty
  approvals := .empty
  evaluationResults := []
  errors := .empty

def outputToState (output : AgentOutput) : PyValue :=
  .dict
    [("status", .str output.status.value),
      ("summary", .str output.summary),
      ("artifacts", .ofStrings output.artifacts),
      ("events", .list (output.events.map .dict)),
      ("metrics", .dict output.metrics),
      ("errors", .ofStrings output.errors)]

def nodeIdsWith (statuses : Dict String GraphNodeStatus) (status : GraphNodeStatus) :
    List String :=
  (statuses.entries.filter fun entry => entry.2 = status).map Prod.fst

def syncStateFromNodeStatuses (state : LangGraphRunState)
    (statuses : Dict String GraphNodeStatus) : LangGraphRunState :=
  { state with
    pendingNodeIds := nodeIdsWith statuses .pending
    completedNodeIds := nodeIdsWith statuses .completed
    failedNodeIds := nodeIdsWith statuses .failed
    waitingForApprovalNodeId := (nodeIdsWith statuses .waitingForApproval).head? }

/-! Redaction of a state, field by field. -/

section redaction
variable [UnicodeDatabase]

def redactStoredTexts (key : String) (stored : StoredTexts) : Except PyError StoredTexts :=
  if isSensitiveKey key then .ok (.text redacted)
  else match stored with
    | .items texts => (redactTexts texts).map .items
    | .text value => (redactText value).map .text

def redactPlanItem (item : PlanItem) : Except PyError PlanItem := do
  let id ← redactText item.id
  let agent ← redactText item.agent
  let task ← redactText item.task
  let dependsOn ← redactTexts item.dependsOn
  let requiredTools ← redactTexts item.requiredTools
  let expectedArtifacts ← redactTexts item.expectedArtifacts
  let risk ← redactText item.risk
  return { id, agent, task, dependsOn, requiredTools, expectedArtifacts, risk }

def redactPlan : List PlanItem → Except PyError (List PlanItem)
  | [] => .ok []
  | item :: rest => do
      let item ← redactPlanItem item
      let rest ← redactPlan rest
      return item :: rest

def redactState (state : LangGraphRunState) : Except PyError LangGraphRunState := do
  let runId ← redactText state.runId
  let task ← redactText state.task
  let plan ← redactPlan state.plan
  let pendingNodeIds ← redactTexts state.pendingNodeIds
  let completedNodeIds ← redactTexts state.completedNodeIds
  let failedNodeIds ← redactTexts state.failedNodeIds
  let waitingForApprovalNodeId ← redactOptional state.waitingForApprovalNodeId
  let agentOutputs ← state.agentOutputs.traverse fun key => redactValueAt (some key)
  let artifacts ← state.artifacts.traverse redactStoredTexts
  let approvals ← state.approvals.traverse redactTextAt
  let evaluationResults ← redactItems state.evaluationResults
  let errors ← state.errors.traverse redactStoredTexts
  return { runId, task, plan, pendingNodeIds, completedNodeIds, failedNodeIds,
           waitingForApprovalNodeId, agentOutputs, artifacts, approvals, evaluationResults,
           errors }

end redaction

/-! The dictionaries that the records stand for. -/

def storedTextsValue : StoredTexts → PyValue
  | .items texts => .ofStrings texts
  | .text value => .str value

def planItemValue (item : PlanItem) : PyValue :=
  .dict
    [("id", .str item.id), ("agent", .str item.agent), ("task", .str item.task),
      ("depends_on", .ofStrings item.dependsOn),
      ("required_tools", .ofStrings item.requiredTools),
      ("expected_artifacts", .ofStrings item.expectedArtifacts), ("risk", .str item.risk)]

def dictValue (value : α → PyValue) (d : Dict String α) : PyValue :=
  .dict (d.entries.map fun entry => (entry.1, value entry.2))

def stateValue (state : LangGraphRunState) : PyValue :=
  .dict
    [("run_id", .str state.runId), ("task", .str state.task),
      ("plan", .list (state.plan.map planItemValue)),
      ("pending_node_ids", .ofStrings state.pendingNodeIds),
      ("completed_node_ids", .ofStrings state.completedNodeIds),
      ("failed_node_ids", .ofStrings state.failedNodeIds),
      ("waiting_for_approval_node_id", .ofOption state.waitingForApprovalNodeId),
      ("agent_outputs", dictValue id state.agentOutputs),
      ("artifacts", dictValue storedTextsValue state.artifacts),
      ("approvals", dictValue .str state.approvals),
      ("evaluation_results", .list state.evaluationResults),
      ("errors", dictValue storedTextsValue state.errors)]

section encoding
variable [UnicodeDatabase]

/-- Whether an ASCII key is sensitive does not depend on the character database. -/
theorem isSensitiveKey_ascii {key : String} (ascii : ∀ c ∈ key.toList, isAscii c = true) :
    isSensitiveKey key = @isSensitiveKey asciiDatabase key := by
  simp only [isSensitiveKey, isSensitiveKeyText, UnicodeDatabase.lower_ascii key.toList ascii]
  rfl

theorem redactValueAt_plain {key : String} (h : isSensitiveKey key = false) (value : PyValue) :
    redactValueAt (some key) value = redactValueAt none value := by
  cases value <;> simp [redactValueAt, h]

theorem redactValueAt_str (text : String) :
    redactValueAt none (.str text) = (redactText text).map .str := by
  simp [redactValueAt]

theorem redactItems_map {f : α → PyValue} {g : α → Except PyError α}
    (each : ∀ a, redactValueAt none (f a) = (g a).map f)
    (all : List α → Except PyError (List α)) (nil : all [] = .ok [])
    (cons : ∀ a rest, all (a :: rest) = do
      let a ← g a
      let rest ← all rest
      return a :: rest)
    (items : List α) : redactItems (items.map f) = (all items).map (List.map f) := by
  induction items with
  | nil => simp [redactItems, nil, Except.map]
  | cons item rest ih =>
    simp only [List.map_cons, redactItems, each, ih, cons]
    cases g item with
    | error e => rfl
    | ok item' => cases all rest <;> rfl

theorem redactValueAt_strings (texts : List String) :
    redactValueAt none (.ofStrings texts) = (redactTexts texts).map .ofStrings := by
  have walk := redactItems_map redactValueAt_str redactTexts rfl (fun _ _ => rfl) texts
  simp only [PyValue.ofStrings, redactValueAt, walk]
  cases redactTexts texts <;> rfl

theorem redactValueAt_option (value : Option String) :
    redactValueAt none (.ofOption value) = (redactOptional value).map .ofOption := by
  cases value with
  | none => simp [PyValue.ofOption, redactValueAt, redactOptional, Except.map]
  | some text =>
    simp only [PyValue.ofOption, redactValueAt_str, redactOptional]
    cases redactText text <;> rfl

theorem redactEntries_traverse {f : α → PyValue} {g : String → α → Except PyError α}
    (each : ∀ key a, redactValueAt (some key) (f a) = (g key a).map f)
    (entries : List (String × α)) :
    redactEntries (entries.map fun entry => (entry.1, f entry.2)) =
      (traverseEntries g entries).map fun entries =>
        entries.map fun entry => (entry.1, f entry.2) := by
  induction entries with
  | nil => simp [redactEntries, traverseEntries, Except.map]
  | cons entry rest ih =>
    simp only [List.map_cons, redactEntries, each, ih, traverseEntries]
    cases g entry.1 entry.2 with
    | error e => rfl
    | ok value => cases traverseEntries g rest <;> rfl

theorem redactValueAt_dict {f : α → PyValue} {g : String → α → Except PyError α}
    (each : ∀ key a, redactValueAt (some key) (f a) = (g key a).map f) (d : Dict String α) :
    redactValueAt none (dictValue f d) = (d.traverse g).map (dictValue f) := by
  simp only [dictValue, redactValueAt, redactEntries_traverse each]
  cases outcome : d.traverse g with
  | ok d' => simp [Dict.traverse_entries.mp outcome, Except.map, dictValue]
  | error e =>
    have failed : traverseEntries g d.entries = .error e := by
      simp only [Dict.traverse] at outcome
      split at outcome
      · simp at outcome
      · rename_i e' h
        rw [h]
        simpa using outcome
    simp [failed, Except.map]

theorem redactStoredTexts_value (key : String) (stored : StoredTexts) :
    redactValueAt (some key) (storedTextsValue stored) =
      (redactStoredTexts key stored).map storedTextsValue := by
  by_cases sensitive : isSensitiveKey key = true
  · cases stored <;>
      simp [storedTextsValue, PyValue.ofStrings, redactValueAt, redactStoredTexts, sensitive,
        Except.map]
  · have plain : isSensitiveKey key = false := by simpa using sensitive
    rw [redactValueAt_plain plain]
    cases stored with
    | items texts =>
      simp only [storedTextsValue, redactValueAt_strings, redactStoredTexts, plain]
      cases redactTexts texts <;> rfl
    | text value =>
      simp only [storedTextsValue, redactValueAt_str, redactStoredTexts, plain]
      cases redactText value <;> rfl

theorem redactTextAt_value (key value : String) :
    redactValueAt (some key) (.str value) = (redactTextAt key value).map .str := by
  by_cases sensitive : isSensitiveKey key = true <;>
    simp [redactValueAt, redactTextAt, sensitive, Except.map]

/-- No key of a stored state or of a plan item is sensitive. -/
theorem stateKeys_plain : ∀ key ∈ ["run_id", "task", "plan", "pending_node_ids",
    "completed_node_ids", "failed_node_ids", "waiting_for_approval_node_id", "agent_outputs",
    "artifacts", "approvals", "evaluation_results", "errors", "id", "agent", "depends_on",
    "required_tools", "expected_artifacts", "risk"], isSensitiveKey key = false := by
  intro key member
  have ascii : key.toList.all isAscii = true := by
    revert key
    decide
  rw [isSensitiveKey_ascii (List.all_eq_true.mp ascii)]
  revert key
  decide

theorem redactValueAt_entries (entries : List (String × PyValue)) :
    redactValueAt none (.dict entries) = (redactEntries entries).map .dict := by
  simp [redactValueAt]

theorem redactValueAt_items (items : List PyValue) :
    redactValueAt none (.list items) = (redactItems items).map .list := by
  simp [redactValueAt]

/-- One field of a record, under a key that is not sensitive. -/
theorem redactEntries_field {key : String} (plain : isSensitiveKey key = false) {value : PyValue}
    {r : Except PyError α} {f : α → PyValue} (field : redactValueAt none value = r.map f)
    (rest : List (String × PyValue)) :
    redactEntries ((key, value) :: rest) = do
      let a ← r
      let rest ← redactEntries rest
      return (key, f a) :: rest := by
  simp only [redactEntries, redactValueAt_plain plain, field]
  cases r <;> rfl

theorem redactPlanItem_value (item : PlanItem) :
    redactValueAt none (planItemValue item) = (redactPlanItem item).map planItemValue := by
  have plain := stateKeys_plain
  simp only [List.mem_cons, forall_eq_or_imp] at plain
  obtain ⟨-, task, -, -, -, -, -, -, -, -, -, -, id, agent, depends, tools, artifacts, risk, -⟩ :=
    plain
  simp only [planItemValue, redactPlanItem, redactValueAt_entries]
  rw [redactEntries_field id (redactValueAt_str _), redactEntries_field agent (redactValueAt_str _),
    redactEntries_field task (redactValueAt_str _),
    redactEntries_field depends (redactValueAt_strings _),
    redactEntries_field tools (redactValueAt_strings _),
    redactEntries_field artifacts (redactValueAt_strings _),
    redactEntries_field risk (redactValueAt_str _)]
  cases redactText item.id with
  | error e => rfl
  | ok _ => cases redactText item.agent with
    | error e => rfl
    | ok _ => cases redactText item.task with
      | error e => rfl
      | ok _ => cases redactTexts item.dependsOn with
        | error e => rfl
        | ok _ => cases redactTexts item.requiredTools with
          | error e => rfl
          | ok _ => cases redactTexts item.expectedArtifacts with
            | error e => rfl
            | ok _ => cases redactText item.risk <;> rfl

/-- Redacting the record is redacting the dictionary it stands for. -/
theorem redactState_value (state : LangGraphRunState) :
    redactValue (stateValue state) = (redactState state).map stateValue := by
  have plain := stateKeys_plain
  simp only [List.mem_cons, forall_eq_or_imp] at plain
  obtain ⟨runId, task, plan, pending, completed, failed, waiting, outputs, artifacts, approvals,
    evaluations, errors, -⟩ := plain
  have planItems : redactValueAt none (.list (state.plan.map planItemValue)) =
      (redactPlan state.plan).map fun plan => .list (plan.map planItemValue) := by
    rw [redactValueAt_items, redactItems_map redactPlanItem_value redactPlan rfl
      (fun _ _ => rfl)]
    cases redactPlan state.plan <;> rfl
  have sameOutputs : ∀ key value, redactValueAt (some key) (id value) =
      (redactValueAt (some key) value).map id := by
    intro key value
    simp only [id_eq]
    cases redactValueAt (some key) value <;> rfl
  simp only [redactValue, stateValue, redactState, redactValueAt_entries]
  rw [redactEntries_field runId (redactValueAt_str _), redactEntries_field task (redactValueAt_str _),
    redactEntries_field plan planItems, redactEntries_field pending (redactValueAt_strings _),
    redactEntries_field completed (redactValueAt_strings _),
    redactEntries_field failed (redactValueAt_strings _),
    redactEntries_field waiting (redactValueAt_option _),
    redactEntries_field outputs (redactValueAt_dict sameOutputs _),
    redactEntries_field artifacts (redactValueAt_dict redactStoredTexts_value _),
    redactEntries_field approvals (redactValueAt_dict redactTextAt_value _),
    redactEntries_field evaluations (redactValueAt_items _),
    redactEntries_field errors (redactValueAt_dict redactStoredTexts_value _)]
  cases redactText state.runId with
  | error e => rfl
  | ok _ => cases redactText state.task with
    | error e => rfl
    | ok _ => cases redactPlan state.plan with
      | error e => rfl
      | ok _ => cases redactTexts state.pendingNodeIds with
        | error e => rfl
        | ok _ => cases redactTexts state.completedNodeIds with
          | error e => rfl
          | ok _ => cases redactTexts state.failedNodeIds with
            | error e => rfl
            | ok _ => cases redactOptional state.waitingForApprovalNodeId with
              | error e => rfl
              | ok _ => cases state.agentOutputs.traverse fun key => redactValueAt (some key) with
                | error e => rfl
                | ok _ => cases state.artifacts.traverse redactStoredTexts with
                  | error e => rfl
                  | ok _ => cases state.approvals.traverse redactTextAt with
                    | error e => rfl
                    | ok _ => cases redactItems state.evaluationResults with
                      | error e => rfl
                      | ok _ => cases state.errors.traverse redactStoredTexts <;> rfl

end encoding
end Orchestration
