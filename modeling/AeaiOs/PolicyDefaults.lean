import AeaiOs.ToolPolicy

/-!
The default permissions and governance rules, and registries built from further
rules.
-/
namespace ToolPolicy
open OrderedDict RunValues

def permission (tool : String) (permissionLevel : ToolPermissionLevel) (risk : ToolRiskLevel)
    (description : String) (approvalRequired blocked destructive : Bool) : ToolPermission :=
  { tool, permissionLevel, risk, description, approvalRequired, blocked, destructive }

def defaultPermissions : List ToolPermission :=
  [permission "dataset_reader" .readOnly .low "Read local dataset artifacts." false false false,
    permission "schema_profiler" .readOnly .low "Infer schema metadata from datasets."
      false false false,
    permission "quality_checker" .readOnly .low "Compute dataset quality signals."
      false false false,
    permission "dataframe_query" .readOnly .low "Read and aggregate dataset rows."
      false false false,
    permission "artifact_reader" .readOnly .low "Read previously registered artifacts."
      false false false,
    permission "deterministic_evaluator" .readOnly .low "Run deterministic evaluation checks."
      false false false,
    permission "python_analysis" .codeExecution .medium
      "Accept statically validated analysis code artifacts." false false false,
    permission "code_artifact_writer" .write .medium "Write reproducible analysis code artifacts."
      false false false,
    permission "chart_renderer" .write .medium "Write chart artifacts." false false false,
    permission "dashboard_renderer" .write .medium "Write dashboard artifacts." false false false,
    permission "markdown_report_writer" .write .medium "Write Markdown report artifacts."
      false false false,
    permission "evaluation_writer" .write .medium "Write evaluation artifacts and records."
      false false false,
    permission "external_http" .externalNetwork .high "Call external HTTP services."
      true false false,
    permission "snowflake_query" .externalNetwork .high "Query an external Snowflake warehouse."
      true false false,
    permission "deploy_artifact" .deployment .high
      "Deploy generated artifacts outside the local sandbox." true false false,
    permission "delete_artifact" .write .high "Delete artifacts from storage." false true true,
    permission "shell_exec" .codeExecution .high "Execute arbitrary shell commands."
      false true true]

def codeExecutionApproval : PolicyRule where
  id := "code-execution-approval"
  description := "Gate untrusted code execution tools before they can affect outputs."
  decision := .approvalRequired
  reason := "Untrusted code execution requires reviewer approval."
  toolPatterns := ["untrusted_*", "dynamic_python_exec"]

def deploymentPromotionApproval : PolicyRule where
  id := "deployment-promotion-approval"
  description := "Gate deployment promotion outside local artifact storage."
  decision := .approvalRequired
  reason := "Deployment promotion requires release approval."
  permissionLevels := [.deployment]

def externalConnectorEscalation : PolicyRule where
  id := "external-connector-escalation"
  description := "Escalate external connector access to platform security."
  decision := .escalate
  reason := "External connector access requires platform-security review."
  permissionLevels := [.externalNetwork]
  escalationTarget := some "platform-security"

def sensitiveArtifactApproval : PolicyRule where
  id := "sensitive-artifact-approval"
  description := "Gate access to artifacts marked sensitive or containing secret-like metadata."
  decision := .approvalRequired
  reason := "Sensitive artifact access requires approval."
  toolPatterns := ["artifact_reader", "dataset_reader"]
  sensitiveArtifact := some true
  metadataKeys := ["pii", "contains_pii", "sensitive", "secret"]

def destructiveActionDeny : PolicyRule where
  id := "destructive-action-deny"
  description := "Deny destructive tool use."
  decision := .block
  reason := "Destructive tool use is denied by governance policy."
  toolPatterns := ["delete_*", "shell_exec"]

def defaultRules : List PolicyRule :=
  [codeExecutionApproval, deploymentPromotionApproval, externalConnectorEscalation,
    sensitiveArtifactApproval, destructiveActionDeny]

namespace ToolPermissionRegistry

def registerAll : List ToolPermission → ToolPermissionRegistry →
    Except PyError ToolPermissionRegistry
  | [], registry => .ok registry
  | permission :: rest, registry => do
      let registry ← registry.register permission
      registerAll rest registry

def registerRules : List PolicyRule → ToolPermissionRegistry →
    Except PyError ToolPermissionRegistry
  | [], registry => .ok registry
  | rule :: rest, registry => do
      let registry ← registry.registerRule rule
      registerRules rest registry

/-- `ToolPermissionRegistry(permissions, rules)` -/
def make (permissions : List ToolPermission) (rules : List PolicyRule) :
    Except PyError ToolPermissionRegistry := do
  let registry ← registerAll permissions empty
  registerRules rules registry

end ToolPermissionRegistry

def defaultToolPermissionRegistry : Except PyError ToolPermissionRegistry :=
  ToolPermissionRegistry.make defaultPermissions defaultRules

/-- Further rules over the default permissions and rules, or over other permissions. -/
def buildPolicyRegistryFromRules (rules : List PolicyRule)
    (permissions : Option (List ToolPermission)) : Except PyError ToolPermissionRegistry := do
  let base ← match permissions with
    | none => defaultToolPermissionRegistry
    | some permissions => ToolPermissionRegistry.make permissions []
  ToolPermissionRegistry.registerRules rules base

end ToolPolicy
