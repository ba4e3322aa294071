import AeaiOs.Lib.AtomicProgram
import AeaiOs.RunRepository
import AeaiOs.ToolPolicy

/-!
The operations that the orchestrator and the workers perform, one at a time, on
the shared repository, and what the environment decides: the clock, fresh
identifiers, the agents and the planners.
-/
namespace Orchestration
open OrderedDict CivilTime AtomicProgram RunValues RunModels InMemoryRunRepository ToolPolicy

/-- What an agent raised: the name of its class and its text. -/
structure AgentException where
  typeName : String
  text : String

inductive Op : Type → Type where
  | utcNow : Op Time
  | uuid4 : Op String
  | currentTraceId : Op (Option String)
  | getRun (runId : String) : Op RunRecord
  | updateStatus (runId : String) (status : RunStatus) (errorSummary : Option String) : Op RunRecord
  | enqueueWorkflowJob (runId workflowName : String) (payload : PyDict) (maxAttempts : Int) :
      Op WorkflowJobRecord
  | listWorkflowJobs (runId : Option String) (status : Option WorkflowJobStatus) :
      Op (List WorkflowJobRecord)
  | claimNextWorkflowJob (workerId : String) (workflowName : Option String)
      (staleAfterSeconds : Option Int) : Op (Option WorkflowJobRecord)
  | heartbeatWorkflowJob (jobId workerId : String) : Op WorkflowJobRecord
  | completeWorkflowJob (jobId : String) (workerId : Option String) : Op WorkflowJobRecord
  | failWorkflowJob (jobId errorSummary : String) (retry : Bool) (workerId : Option String) :
      Op WorkflowJobRecord
  | retryDeadLetterWorkflowJob (jobId : String) (reason : Option String) : Op WorkflowJobRecord
  | getArtifact (runId artifactId : String) : Op ArtifactRecord
  | upsertGraphNode (node : GraphNodeRecord) : Op GraphNodeRecord
  | getGraphNode (runId nodeId : String) : Op GraphNodeRecord
  | listGraphNodes (runId : String) : Op (List GraphNodeRecord)
  | addEvent (event : AgentEventRecord) : Op AgentEventRecord
  | saveCheckpoint (runId : String) (state : LangGraphRunState) : Op RunCheckpointRecord
  | getCheckpoint (runId : String) : Op RunCheckpointRecord
  | evaluateTool (tool inputSummary : String) (approved : Bool)
      (context : PolicyEvaluationContext) : Op ToolPolicyDecision
  | agentStart (agentType : String) (input : AgentInput) : Op Unit
  | agentFinish (agentType : String) (input : AgentInput) : Op (Except AgentException AgentOutput)
  | createPlan (workflowName : String) (run : RunRecord) : Op ExecutionGraph

structure World where
  repo : Repo
  /-- Operations so far; what the environment decides depends on it. -/
  tick : Nat

/-- An agent's answer, with the artifacts that it has recorded on the way. -/
structure AgentAnswer where
  result : Except AgentException AgentOutput
  artifacts : List ArtifactRecord := []

structure Env where
  /-- The readings of the clock during one operation. -/
  clock : Nat → Nat → Time
  uuid : Nat → String
  traceId : Nat → Option String
  registry : ToolPermissionRegistry
  agent : Nat → String → AgentInput → AgentAnswer
  planner : Nat → String → RunRecord → Except PyError ExecutionGraph

/-- A repository method as one operation. -/
def World.perform (w : World) (action : RepoM β) : Except PyError β × World :=
  ((action w.repo).1, ⟨(action w.repo).2, w.tick + 1⟩)

section exec
variable [PyRuntime]

/-- The artifacts that an agent records; one that is refused is dropped. -/
def recordArtifacts (now : Time) : List ArtifactRecord → Repo → Repo
  | [], repo => repo
  | artifact :: rest, repo => recordArtifacts now rest (recordArtifact artifact now repo).2

def exec (env : Env) : {β : Type} → Op β → World → Except PyError β × World
  | _, .utcNow, w => (.ok (env.clock w.tick 0), ⟨w.repo, w.tick + 1⟩)
  | _, .uuid4, w => (.ok (env.uuid w.tick), ⟨w.repo, w.tick + 1⟩)
  | _, .currentTraceId, w => (.ok (env.traceId w.tick), ⟨w.repo, w.tick + 1⟩)
  | _, .getRun runId, w => w.perform (getRun runId)
  | _, .updateStatus runId status errorSummary, w =>
      w.perform (updateStatus runId status errorSummary (env.clock w.tick 0))
  | _, .enqueueWorkflowJob runId workflowName payload maxAttempts, w =>
      w.perform (enqueueWorkflowJob runId workflowName payload maxAttempts none .queued
        (env.uuid w.tick) (env.clock w.tick 0))
  | _, .listWorkflowJobs runId status, w => w.perform (listWorkflowJobs runId status)
  | _, .claimNextWorkflowJob workerId workflowName staleAfterSeconds, w =>
      w.perform (claimNextWorkflowJob workerId workflowName staleAfterSeconds
        (env.clock w.tick 0) (env.clock w.tick 1))
  | _, .heartbeatWorkflowJob jobId workerId, w =>
      w.perform (heartbeatWorkflowJob jobId workerId (env.clock w.tick 0))
  | _, .completeWorkflowJob jobId workerId, w =>
      w.perform (completeWorkflowJob jobId workerId (env.clock w.tick 0))
  | _, .failWorkflowJob jobId errorSummary retry workerId, w =>
      w.perform (failWorkflowJob jobId errorSummary retry workerId (env.clock w.tick 0))
  | _, .retryDeadLetterWorkflowJob jobId reason, w =>
      w.perform (retryDeadLetterWorkflowJob jobId reason (env.clock w.tick 0))
  | _, .getArtifact runId artifactId, w => w.perform (getArtifact runId artifactId)
  | _, .upsertGraphNode node, w => w.perform (upsertGraphNode node)
  | _, .getGraphNode runId nodeId, w => w.perform (getGraphNode runId nodeId)
  | _, .listGraphNodes runId, w => w.perform (listGraphNodes runId)
  | _, .addEvent event, w => w.perform (addEvent event)
  | _, .saveCheckpoint runId state, w =>
      w.perform (saveCheckpoint runId state (env.clock w.tick 0))
  | _, .getCheckpoint runId, w => w.perform (getCheckpoint runId)
  | _, .evaluateTool tool inputSummary approved context, w =>
      (env.registry.evaluate tool inputSummary approved (some context), ⟨w.repo, w.tick + 1⟩)
  | _, .agentStart _ _, w => (.ok (), ⟨w.repo, w.tick + 1⟩)
  | _, .agentFinish agentType input, w =>
      let answer := env.agent w.tick agentType input
      (.ok answer.result,
        ⟨recordArtifacts (env.clock w.tick 0) answer.artifacts w.repo, w.tick + 1⟩)
  | _, .createPlan workflowName run, w =>
      (env.planner w.tick workflowName run, ⟨w.repo, w.tick + 1⟩)

def handler (env : Env) : Handler Op PyError World := ⟨exec env⟩

end exec

abbrev Prog (α : Type) := Program Op PyError α

/-! What is observed of a run of programs. -/

inductive Entry where
  | listed (runId : String) (nodes : List GraphNodeRecord)
  | upserted (node : GraphNodeRecord)
  | saved (runId : String) (state : LangGraphRunState)
  | statusSet (runId : String) (status : RunStatus) (errorSummary : Option String)
  | evaluated (tool inputSummary : String) (approved : Bool) (context : PolicyEvaluationContext)
      (decision : ToolPolicyDecisionStatus)
  | agentStarted (agentType : String) (input : AgentInput)
  | agentAnswered (input : AgentInput) (status : AgentStatus)
  /-- A write that raised; where the run exists, redaction has refused the state. -/
  | saveRefused (runId : String) (state : LangGraphRunState)
  /-- The same of an event or an error summary. -/
  | writeRefused (runId : String)

def Entry.refusesSave : Entry → Bool
  | .saveRefused _ _ => true
  | _ => false

def Entry.startsAgent : Entry → Bool
  | .agentStarted _ _ => true
  | _ => false

theorem split_at_agent {history : List Entry} (h : history.any Entry.startsAgent = true) :
    ∃ newer agentType input older, history = newer ++ .agentStarted agentType input :: older := by
  obtain ⟨entry, member, starts⟩ := List.any_eq_true.mp h
  obtain ⟨newer, older, split⟩ := List.append_of_mem member
  cases entry with
  | agentStarted agentType input => exact ⟨newer, agentType, input, older, split⟩
  | _ => simp [Entry.startsAgent] at starts

def AgentAnswer.status : Except AgentException AgentOutput → AgentStatus
  | .ok output => output.status
  | .error _ => .failed

def describe : {β : Type} → Op β → Except PyError β → Option Entry
  | _, .listGraphNodes runId, .ok nodes => some (.listed runId nodes)
  | _, .upsertGraphNode node, .ok _ => some (.upserted node)
  | _, .updateStatus runId status errorSummary, .ok _ =>
      some (.statusSet runId status errorSummary)
  | _, .updateStatus runId _ _, .error _ => some (.writeRefused runId)
  | _, .addEvent event, .error _ => some (.writeRefused event.runId)
  | _, .saveCheckpoint runId state, .ok _ => some (.saved runId state)
  | _, .saveCheckpoint runId state, .error _ => some (.saveRefused runId state)
  | _, .evaluateTool tool inputSummary approved context, .ok decision =>
      some (.evaluated tool inputSummary approved context decision.decision)
  | _, .agentStart agentType input, .ok _ => some (.agentStarted agentType input)
  | _, .agentFinish _ input, .ok result =>
      some (.agentAnswered input (AgentAnswer.status result))
  | _, _, _ => none

end Orchestration
