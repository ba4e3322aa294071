import AeaiOs.Lib.ProgramPool
import AeaiOs.RunOperations
import AeaiOs.ExecutionGraph
import AeaiOs.ToolPolicy

/-!
Deployment approvals: a request leaves a job that waits for a decision, and a decision settles
it. Both are programs over single repository operations, as is what they note of themselves.
-/
namespace Deployments
open OrderedDict PyText CivilTime StoreAction AtomicProgram Program RunValues RunModels Redaction
open InMemoryRunRepository ToolPolicy
open RunArchive (RunStore ArtifactArguments required optional textItem)

def workflowName : String := "deployment"

def nodeId : String := "deployment"

inductive Op : Type → Type where
  | utcNow : Op Time
  | uuid4 : Op String
  | getRun (runId : String) : Op RunRecord
  | getArtifact (runId artifactId : String) : Op ArtifactRecord
  | getWorkflowJob (jobId : String) : Op WorkflowJobRecord
  | enqueueWorkflowJob (runId workflowName : String) (payload : PyDict) (maxAttempts : Int)
      (status : WorkflowJobStatus) : Op WorkflowJobRecord
  | updateStatus (runId : String) (status : RunStatus) (errorSummary : Option String) : Op RunRecord
  | updateWorkflowJobResult (jobId : String) (status : WorkflowJobStatus) (payload : PyDict)
      (errorSummary : Option String) : Op WorkflowJobRecord
  | addArtifact (given : ArtifactArguments) : Op ArtifactRecord
  | addEvent (event : AgentEventRecord) : Op AgentEventRecord

/-- The repository; what the environment decides depends on the operations so far. -/
structure Site where
  store : RunStore
  tick : Nat

structure Env where
  /-- The readings of the clock during one operation. -/
  clock : Nat → Nat → Time
  uuid : Nat → String

/-- A repository method as one operation. -/
def Site.perform (site : Site) (method : RepoM β) : Except PyError β × Site :=
  ((method site.store.repo).1,
    ⟨{ site.store with repo := (method site.store.repo).2 }, site.tick + 1⟩)

section exec
variable [PyRuntime]

def exec (env : Env) : {β : Type} → Op β → Site → Except PyError β × Site
  | _, .utcNow, site => (.ok (env.clock site.tick 0), ⟨site.store, site.tick + 1⟩)
  | _, .uuid4, site => (.ok (env.uuid site.tick), ⟨site.store, site.tick + 1⟩)
  | _, .getRun runId, site => site.perform (getRun runId)
  | _, .getArtifact runId artifactId, site => site.perform (getArtifact runId artifactId)
  | _, .getWorkflowJob jobId, site => site.perform (getWorkflowJob jobId)
  | _, .enqueueWorkflowJob runId workflowName payload maxAttempts status, site =>
      site.perform (enqueueWorkflowJob runId workflowName payload maxAttempts none status
        (env.uuid site.tick) (env.clock site.tick 0))
  | _, .updateStatus runId status errorSummary, site =>
      site.perform (updateStatus runId status errorSummary (env.clock site.tick 0))
  | _, .updateWorkflowJobResult jobId status payload errorSummary, site =>
      site.perform (updateWorkflowJobResult jobId status (some payload) errorSummary
        (env.clock site.tick 0))
  | _, .addArtifact given, site =>
      site.perform (RunArchive.addArtifact given (env.uuid site.tick) (env.clock site.tick 0)
        (env.clock site.tick 1))
  | _, .addEvent event, site => site.perform (addEvent event)

def handler (env : Env) : Handler Op PyError Site := ⟨exec env⟩

end exec

abbrev Prog (α : Type) := Program Op PyError α

section fields
variable [PyRuntime]

def normalizeRequired (value message : String) : Except PyError String :=
  if strip value = "" then .error (.valueError message) else .ok (strip value)

def normalizeOptional (value : Option String) : Option String :=
  match value with
  | none => none
  | some text => if strip text = "" then none else some (strip text)

def artifactIsSensitive (artifact : ArtifactRecord) : Bool :=
  ["sensitive", "pii", "contains_pii", "secret", "credential_profile_id"].any fun key =>
    match lookupEntries artifact.metadata key with
    | some (.bool true) => true
    | some (.str text) =>
        decide (String.ofList (UnicodeDatabase.lower (strip text).toList) ∈ ["1", "true", "yes"])
    | _ => false

/-- `normalized_artifact_ids` has the same members as `seen`. -/
def validateArtifactIds (runId : String) (seen : List String) : List String → Prog (List String)
  | [] =>
      if seen = [] then
        .raised (.valueError "At least one artifact is required for deployment.")
      else .returned seen
  | artifactId :: rest =>
      let normalized := strip artifactId
      if normalized = "" ∨ normalized ∈ seen then validateArtifactIds runId seen rest
      else do
        let _ ← perform (.getArtifact runId normalized)
        validateArtifactIds runId (seen ++ [normalized]) rest

def getArtifacts (runId : String) : List String → Prog (List ArtifactRecord)
  | [] => return []
  | artifactId :: rest => do
      let artifact ← perform (.getArtifact runId artifactId)
      let others ← getArtifacts runId rest
      return artifact :: others

/-- What the policy is asked about a deployment. -/
def policyContext (runId destination requester inputSummary : String)
    (artifacts : List ArtifactRecord) (artifactIds : List String) :
    Except PyError PolicyEvaluationContext := do
  let types := artifacts.map fun artifact => artifact.type.value
  let sensitive := artifacts.any artifactIsSensitive
  let context ← PolicyEvaluationContext.make inputSummary false
  return { context with
    runId := some runId
    destination := some destination
    artifactType := some (",".intercalate (Orchestration.sortedSet types))
    artifactSensitive := sensitive
    metadata := [("artifact_ids", .ofStrings artifactIds), ("artifact_types", .ofStrings types),
      ("requested_by", .str requester), ("sensitive", .bool sensitive)] }

def evaluateDeploymentPolicy (registry : ToolPermissionRegistry) (runId : String)
    (artifactIds : List String) (destination : String) (requestedBy : Option String) :
    Prog ToolPolicyDecision := do
  let artifacts ← getArtifacts runId artifactIds
  let requester := (normalizeOptional requestedBy).getD "system"
  let count := artifactIds.length
  let inputSummary := s!"deploy {count} artifact(s) to {destination}; requested_by={requester}"
  let context ← ofExcept
    (policyContext runId destination requester inputSummary artifacts artifactIds)
  ofExcept (registry.evaluate "deploy_artifact" inputSummary false (some context))

/-- The arguments of `request_deployment_approval`. -/
structure Request where
  runId : String
  artifactIds : List String
  destination : String
  requestedBy : Option String := none
  rationale : Option String := none
  metadata : PyDict := []

def Request.payload (given : Request) (artifactIds : List String) (destination : String)
    (decision : ToolPolicyDecision) (now : Time) : PyDict :=
  [("workflow", .str workflowName), ("request_type", .str "deployment_approval"),
    ("deployment_status", .str WorkflowJobStatus.waitingForApproval.value),
    ("artifact_ids", .ofStrings artifactIds), ("destination", .str destination),
    ("requested_by", .str ((normalizeOptional given.requestedBy).getD "system")),
    ("request_rationale", .ofOption (normalizeOptional given.rationale)),
    ("requested_at", .str (isoformat now)), ("metadata", .dict given.metadata),
    ("policy_decision", .dict decision.modelDump)]

def Request.event (given : Request) (artifactIds : List String) (destination : String)
    (decision : ToolPolicyDecision) (now : Time) (fresh jobId : String) : AgentEventRecord where
  id := "event_" ++ fresh
  runId := given.runId
  nodeId := nodeId
  eventType := AgentEventType.approvalRequest.value
  payload :=
    [("message", .str "Deployment approval requested."), ("workflow_job_id", .str jobId),
      ("deployment_job_id", .str jobId), ("artifact_ids", .ofStrings artifactIds),
      ("destination", .str destination),
      ("requested_by", .str ((normalizeOptional given.requestedBy).getD "system")),
      ("rationale", .ofOption (normalizeOptional given.rationale)), ("decision", .str "pending"),
      ("policy_decision", .dict decision.modelDump),
      ("policy_rule_id", .ofOption decision.policyRuleId),
      ("escalation_target", .ofOption decision.escalationTarget),
      ("timestamp", .str (isoformat now))]
  createdAt := now

def requestDeploymentApproval (registry : ToolPermissionRegistry) (given : Request) :
    Prog WorkflowJobRecord := do
  let run ← perform (.getRun given.runId)
  if run.status = .failed then
    .raised (.valueError "Cannot request deployment approval for a failed run.")
  else do
    let artifactIds ← validateArtifactIds given.runId [] given.artifactIds
    let destination ← ofExcept
      (normalizeRequired given.destination "Deployment destination is required.")
    let decision ← evaluateDeploymentPolicy registry given.runId artifactIds destination
      given.requestedBy
    if decision.decision = .block then .raised (.valueError decision.reason)
    else do
      let now ← perform .utcNow
      let job ← perform (.enqueueWorkflowJob given.runId workflowName
        (given.payload artifactIds destination decision now) 1 .waitingForApproval)
      let _ ← perform (.updateStatus given.runId .waitingForApproval none)
      let fresh ← perform .uuid4
      let _ ← perform
        (.addEvent (given.event artifactIds destination decision now fresh job.id))
      return job

/-- The arguments of `decide_deployment_approval`. -/
structure Decision where
  runId : String
  jobId : String
  approved : Bool
  approver : String
  rationale : Option String := none

def Decision.text (given : Decision) : String := if given.approved then "approved" else "denied"

def isDeploymentApproval : PyValue → Bool
  | .str text => decide (text = "deployment_approval")
  | _ => false

def assertDeploymentJob (job : WorkflowJobRecord) (runId : String) : Except PyError Unit :=
  if job.runId ≠ runId then .error (.valueError s!"Deployment job not found for run: {job.id}")
  else if job.workflowName ≠ workflowName then
    .error (.valueError s!"Workflow job is not a deployment request: {job.id}")
  else if isDeploymentApproval (optional job.payload "request_type") = false then
    .error (.valueError s!"Workflow job is missing deployment approval payload: {job.id}")
  else .ok ()

def Decision.payload (given : Decision) (job : WorkflowJobRecord) (approver : String)
    (now : Time) : PyDict :=
  storeEntries (storeEntries job.payload "deployment_status" (.str given.text)) "approval"
    (.dict [("decision", .str given.text), ("approved", .bool given.approved),
      ("approver", .str approver), ("rationale", .ofOption (normalizeOptional given.rationale)),
      ("decided_at", .str (isoformat now))])

/-- `list(payload["artifact_ids"])`; the ids are texts. -/
def artifactIdsOf (payload : PyDict) : Except PyError (List String) := do
  ((← required payload "artifact_ids").toList >>= fun items => items.mapM textItem)

/-- `deepcopy(payload.get("metadata") or {})` -/
def metadataOf (payload : PyDict) : PyValue :=
  if (optional payload "metadata").truthy then optional payload "metadata" else .dict []

/-- The arguments of the artifact that an approval publishes. -/
def Decision.artifact (given : Decision) (job : WorkflowJobRecord) (payload : PyDict)
    (approver : String) (now : Time) : Except PyError ArtifactArguments := do
  let destination ← required payload "destination"
  let artifactIds ← artifactIdsOf payload
  let target := destination.text
  let jobId := job.id
  return {
    runId := given.runId
    artifactType := .deployment
    uri := s!"deployment://{target}/{jobId}"
    metadata :=
      [("workflow_job_id", .str job.id), ("deployment_status", .str given.text),
        ("destination", destination), ("artifact_ids", .ofStrings artifactIds),
        ("requested_by", optional payload "requested_by"),
        ("request_rationale", optional payload "request_rationale"),
        ("approved_by", .str approver),
        ("approval_rationale", .ofOption (normalizeOptional given.rationale)),
        ("approved_at", .str (isoformat now)), ("metadata", metadataOf payload)]
    sourceArtifactIds := artifactIds
    producerNodeId := some nodeId }

def Decision.event (given : Decision) (job : WorkflowJobRecord) (payload : PyDict)
    (artifact : Option ArtifactRecord) (approver : String) (now : Time) (fresh : String) :
    Except PyError AgentEventRecord := do
  let artifactIds ← artifactIdsOf payload
  let destination ← required payload "destination"
  let decision := given.text
  return {
    id := "event_" ++ fresh
    runId := given.runId
    nodeId := nodeId
    eventType := AgentEventType.approvalDecision.value
    payload :=
      [("message", .str s!"Deployment {decision}."), ("workflow_job_id", .str job.id),
        ("deployment_job_id", .str job.id),
        ("deployment_artifact_id", .ofOption (artifact.map ArtifactRecord.id)),
        ("artifact_ids", .ofStrings artifactIds), ("destination", destination),
        ("decision", .str given.text), ("approved", .bool given.approved),
        ("approver", .str approver), ("rationale", .ofOption (normalizeOptional given.rationale)),
        ("timestamp", .str (isoformat now))]
    createdAt := now }

structure DecisionResult where
  job : WorkflowJobRecord
  deploymentArtifact : Option ArtifactRecord := none

/-- The last part of a decision: its result goes to the job, and an event tells of it. -/
def settle (given : Decision) (job : WorkflowJobRecord) (payload : PyDict)
    (artifact : Option ArtifactRecord) (status : WorkflowJobStatus) (errorSummary : Option String)
    (approver : String) (now : Time) : Prog DecisionResult := do
  let updated ← perform (.updateWorkflowJobResult job.id status payload errorSummary)
  let fresh ← perform .uuid4
  let event ← ofExcept (given.event job payload artifact approver now fresh)
  let _ ← perform (.addEvent event)
  return { job := updated, deploymentArtifact := artifact }

def approve (given : Decision) (job : WorkflowJobRecord) (payload : PyDict) (approver : String)
    (now : Time) : Prog DecisionResult := do
  let arguments ← ofExcept (given.artifact job payload approver now)
  let artifact ← perform (.addArtifact arguments)
  let _ ← perform (.updateStatus given.runId .completed none)
  settle given job (storeEntries payload "deployment_artifact_id" (.str artifact.id))
    (some artifact) .completed none approver now

def deny (given : Decision) (job : WorkflowJobRecord) (payload : PyDict) (approver : String)
    (now : Time) : Prog DecisionResult := do
  let _ ← perform (.updateStatus given.runId .failed (some "Deployment approval denied."))
  settle given job payload none .failed (some "Deployment approval denied.") approver now

def decideDeploymentApproval (given : Decision) : Prog DecisionResult := do
  let _ ← perform (.getRun given.runId)
  let job ← perform (.getWorkflowJob given.jobId)
  let _ ← ofExcept (assertDeploymentJob job given.runId)
  let jobId := given.jobId
  if job.status ≠ .waitingForApproval then
    .raised (.valueError s!"Deployment job is not waiting for approval: {jobId}")
  else do
    let now ← perform .utcNow
    let approver ← ofExcept
      (normalizeRequired given.approver "Deployment approver is required.")
    let payload := given.payload job approver now
    if given.approved then approve given job payload approver now
    else deny given job payload approver now

end fields
end Deployments
