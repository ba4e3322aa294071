import AeaiOs.Lib.Fnmatch
import AeaiOs.RunModels

/-!
The tool permission registry: registered tools, governance rules, and the
decision on one use of a tool.
-/
namespace ToolPolicy
open OrderedDict PyText RunValues Fnmatch

inductive ToolPermissionLevel where
  | readOnly | write | externalNetwork | codeExecution | deployment
  deriving DecidableEq, Repr

def ToolPermissionLevel.value : ToolPermissionLevel → String
  | .readOnly => "read_only"
  | .write => "write"
  | .externalNetwork => "external_network"
  | .codeExecution => "code_execution"
  | .deployment => "deployment"

inductive ToolRiskLevel where
  | low | medium | high
  deriving DecidableEq, Repr

def ToolRiskLevel.value : ToolRiskLevel → String
  | .low => "low"
  | .medium => "medium"
  | .high => "high"

inductive ToolPolicyDecisionStatus where
  | allow | approvalRequired | block | retry | escalate
  deriving DecidableEq, Repr

def ToolPolicyDecisionStatus.value : ToolPolicyDecisionStatus → String
  | .allow => "allow"
  | .approvalRequired => "approval_required"
  | .block => "block"
  | .retry => "retry"
  | .escalate => "escalate"

/-- Which decision wins among the rules that match. -/
def ToolPolicyDecisionStatus.priority : ToolPolicyDecisionStatus → Nat
  | .block => 0
  | .retry => 1
  | .escalate => 2
  | .approvalRequired => 3
  | .allow => 4

structure ToolPermission where
  tool : String
  permissionLevel : ToolPermissionLevel
  risk : ToolRiskLevel
  description : String
  approvalRequired : Bool := false
  blocked : Bool := false
  destructive : Bool := false
  deriving DecidableEq

structure PolicyRule where
  id : String
  description : String
  decision : ToolPolicyDecisionStatus
  reason : String
  toolPatterns : List String := ["*"]
  permissionLevels : List ToolPermissionLevel := []
  riskLevels : List ToolRiskLevel := []
  connectorIds : List String := []
  artifactTypes : List String := []
  destinations : List String := []
  sensitiveArtifact : Option Bool := none
  metadataKeys : List String := []
  escalationTarget : Option String := none
  retryAfterSeconds : Option Int := none
  deriving DecidableEq

/-- The validation of an input summary: 1 to 1000 characters, stripped, not blank. -/
def normalizeSummary (value : String) : Except PyError String :=
  if value.length < 1 ∨ 1000 < value.length then
    .error (.valueError "String should have between 1 and 1000 characters")
  else if strip value = "" then
    .error (.valueError "Policy input summary must not be blank.")
  else .ok (strip value)

theorem normalizeSummary_idem {value summary : String} (h : normalizeSummary value = .ok summary) :
    normalizeSummary summary = .ok summary := by
  simp only [normalizeSummary] at h
  split_ifs at h with bounds blank
  simp only [Except.ok.injEq] at h
  subst h
  have short : (strip value).length ≤ value.length := by
    simp only [strip, String.length_ofList]
    rw [← String.length_toList (s := value)]
    exact stripText_length_le value.toList
  have filled : (strip value).length ≠ 0 := by
    intro empty
    exact blank (String.length_eq_zero_iff.mp empty)
  simp only [normalizeSummary, strip_idem, blank, if_false]
  rw [if_neg (by omega)]

/-- The context of one tool use. Its summary has passed validation, so validating
    it again changes nothing. -/
structure PolicyEvaluationContext where
  inputSummary : String
  approved : Bool := false
  agentType : Option String := none
  nodeId : Option String := none
  runId : Option String := none
  connectorId : Option String := none
  credentialProfileId : Option String := none
  artifactType : Option String := none
  artifactSensitive : Bool := false
  destination : Option String := none
  metadata : PyDict := []
  summary_valid : normalizeSummary inputSummary = .ok inputSummary

/-- `PolicyEvaluationContext(...)` with a summary and an approval only. -/
def PolicyEvaluationContext.make (inputSummary : String) (approved : Bool) :
    Except PyError PolicyEvaluationContext :=
  match h : normalizeSummary inputSummary with
  | .ok summary =>
      .ok { inputSummary := summary, approved, summary_valid := normalizeSummary_idem h }
  | .error e => .error e

/-- `context.model_dump(exclude_none=True)` -/
def PolicyEvaluationContext.modelDump (context : PolicyEvaluationContext) : PyDict :=
  let optional := fun (key : String) (value : Option String) =>
    (value.map fun text => (key, PyValue.str text)).toList
  [("input_summary", .str context.inputSummary), ("approved", .bool context.approved)] ++
    optional "agent_type" context.agentType ++ optional "node_id" context.nodeId ++
    optional "run_id" context.runId ++ optional "connector_id" context.connectorId ++
    optional "credential_profile_id" context.credentialProfileId ++
    optional "artifact_type" context.artifactType ++
    [("artifact_sensitive", .bool context.artifactSensitive)] ++
    optional "destination" context.destination ++ [("metadata", .dict context.metadata)]

structure ToolPolicyDecision where
  tool : String
  policyRuleId : Option String := none
  permissionLevel : Option ToolPermissionLevel
  risk : ToolRiskLevel
  decision : ToolPolicyDecisionStatus
  reason : String
  inputSummary : String
  approvalRequired : Bool := false
  approved : Bool := false
  destructive : Bool := false
  escalationTarget : Option String := none
  retryAfterSeconds : Option Int := none
  context : PyDict := []

/-- `decision.model_dump()` -/
def ToolPolicyDecision.modelDump (decision : ToolPolicyDecision) : PyDict :=
  [("tool", .str decision.tool), ("policy_rule_id", .ofOption decision.policyRuleId),
    ("permission_level", .ofOption (decision.permissionLevel.map ToolPermissionLevel.value)),
    ("risk", .str decision.risk.value), ("decision", .str decision.decision.value),
    ("reason", .str decision.reason), ("input_summary", .str decision.inputSummary),
    ("approval_required", .bool decision.approvalRequired), ("approved", .bool decision.approved),
    ("destructive", .bool decision.destructive),
    ("escalation_target", .ofOption decision.escalationTarget),
    ("retry_after_seconds", (decision.retryAfterSeconds.map PyValue.int).getD .none),
    ("context", .dict decision.context)]

section rules
variable [UnicodeDatabase]

def lowerKey (key : String) : Text := UnicodeDatabase.lower key.toList

def metadataHasAnyKey (metadata : PyDict) (keys : List String) : Bool :=
  metadata.any fun entry => keys.any fun key => lowerKey entry.1 == lowerKey key

def matchesAny (value : String) (patterns : List String) : Bool := patterns.any (fnmatch value)

/-- `value not in allowed`, where `allowed` empty allows everything. -/
def allowedIn (allowed : List String) (value : Option String) : Bool :=
  allowed.isEmpty || value.any fun text => decide (text ∈ allowed)

/-- A rule on the sensitivity of artifacts also accepts a use whose metadata has one
    of its keys. -/
def sensitivityMatches (rule : PolicyRule) (context : PolicyEvaluationContext) : Bool :=
  match rule.sensitiveArtifact with
  | some sensitive =>
      if context.artifactSensitive ≠ sensitive then
        metadataHasAnyKey context.metadata rule.metadataKeys
      else rule.metadataKeys.isEmpty || metadataHasAnyKey context.metadata rule.metadataKeys
  | none => rule.metadataKeys.isEmpty || metadataHasAnyKey context.metadata rule.metadataKeys

def ruleMatches (rule : PolicyRule) (tool : String) (permission : ToolPermission)
    (context : PolicyEvaluationContext) : Bool :=
  (rule.toolPatterns.isEmpty || matchesAny tool rule.toolPatterns) &&
    (rule.permissionLevels.isEmpty || decide (permission.permissionLevel ∈ rule.permissionLevels)) &&
    (rule.riskLevels.isEmpty || decide (permission.risk ∈ rule.riskLevels)) &&
    allowedIn rule.connectorIds context.connectorId &&
    allowedIn rule.artifactTypes context.artifactType &&
    (rule.destinations.isEmpty || matchesAny (context.destination.getD "") rule.destinations) &&
    sensitivityMatches rule context

end rules

def rulePrecedes (a b : PolicyRule) : Bool :=
  if a.decision.priority = b.decision.priority then decide (a.id ≤ b.id)
  else decide (a.decision.priority < b.decision.priority)

def highestPriorityRule (rules : List PolicyRule) : Option PolicyRule :=
  (rules.mergeSort rulePrecedes).head?

def decisionFromRule (tool : String) (permission : ToolPermission) (rule : PolicyRule)
    (context : PolicyEvaluationContext) : ToolPolicyDecision :=
  let requiresApproval : Bool :=
    decide (rule.decision = .approvalRequired) || decide (rule.decision = .escalate)
  if requiresApproval && context.approved then
    { tool, policyRuleId := some rule.id, permissionLevel := some permission.permissionLevel
      risk := permission.risk, decision := .allow
      reason := s!"{rule.reason} Approval has been granted."
      inputSummary := context.inputSummary, approvalRequired := true, approved := true
      destructive := permission.destructive, escalationTarget := rule.escalationTarget
      context := context.modelDump }
  else
    { tool, policyRuleId := some rule.id, permissionLevel := some permission.permissionLevel
      risk := permission.risk, decision := rule.decision, reason := rule.reason
      inputSummary := context.inputSummary, approvalRequired := requiresApproval
      destructive := permission.destructive, escalationTarget := rule.escalationTarget
      retryAfterSeconds := rule.retryAfterSeconds, context := context.modelDump }

structure ToolPermissionRegistry where
  permissions : Dict String ToolPermission
  rules : Dict String PolicyRule

namespace ToolPermissionRegistry

def empty : ToolPermissionRegistry := ⟨.empty, .empty⟩

def register (registry : ToolPermissionRegistry) (permission : ToolPermission) :
    Except PyError ToolPermissionRegistry :=
  if (registry.permissions.get? permission.tool).isSome then
    .error (.valueError s!"Tool permission already registered: {permission.tool}")
  else .ok { registry with permissions := registry.permissions.set permission.tool permission }

def registerRule (registry : ToolPermissionRegistry) (rule : PolicyRule) :
    Except PyError ToolPermissionRegistry :=
  if (registry.rules.get? rule.id).isSome then
    .error (.valueError s!"Policy rule already registered: {rule.id}")
  else .ok { registry with rules := registry.rules.set rule.id rule }

variable [UnicodeDatabase]

def matchingRules (registry : ToolPermissionRegistry) (tool : String)
    (permission : ToolPermission) (context : PolicyEvaluationContext) : List PolicyRule :=
  registry.rules.values.filter fun rule => ruleMatches rule tool permission context

/-- The decision when no rule matches. -/
def defaultDecision (tool : String) (permission : ToolPermission) (approved : Bool)
    (context : PolicyEvaluationContext) : ToolPolicyDecision :=
  let requiresApproval : Bool := permission.approvalRequired || decide (permission.risk = .high)
  if permission.blocked then
    { tool, permissionLevel := some permission.permissionLevel, risk := permission.risk
      decision := .block
      reason := if permission.destructive then "Tool is blocked by policy because it is destructive."
        else "Tool is blocked by policy."
      inputSummary := context.inputSummary, destructive := permission.destructive
      context := context.modelDump }
  else if requiresApproval && !approved then
    { tool, permissionLevel := some permission.permissionLevel, risk := permission.risk
      decision := .approvalRequired, reason := "Tool requires approval before execution."
      inputSummary := context.inputSummary, approvalRequired := true
      destructive := permission.destructive, context := context.modelDump }
  else
    { tool, permissionLevel := some permission.permissionLevel, risk := permission.risk
      decision := .allow
      reason := if approved && requiresApproval then "Tool execution approved." else "Tool allowed."
      inputSummary := context.inputSummary, approvalRequired := requiresApproval
      approved := approved && requiresApproval, destructive := permission.destructive
      context := context.modelDump }

/-- The decision in a context that has been built. -/
def decisionIn (registry : ToolPermissionRegistry) (tool : String) (approved : Bool)
    (context : PolicyEvaluationContext) : ToolPolicyDecision :=
  match registry.permissions.get? tool with
  | none =>
      { tool, permissionLevel := none, risk := .high, decision := .block
        reason := "Tool is not registered in the permission registry."
        inputSummary := context.inputSummary, context := context.modelDump }
  | some permission =>
      match highestPriorityRule (registry.matchingRules tool permission context) with
      | some rule => decisionFromRule tool permission rule context
      | none => defaultDecision tool permission approved context

/-- `evaluate`; a context that is given keeps its own summary and approval. -/
def evaluate (registry : ToolPermissionRegistry) (tool inputSummary : String) (approved : Bool)
    (context : Option PolicyEvaluationContext) : Except PyError ToolPolicyDecision :=
  match context with
  | some context => .ok (registry.decisionIn tool approved context)
  | none => do
      let context ← PolicyEvaluationContext.make inputSummary approved
      return registry.decisionIn tool approved context

end ToolPermissionRegistry
end ToolPolicy
