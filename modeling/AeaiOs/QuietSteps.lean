import AeaiOs.Orchestrator

/-!
The operations of a control call that leave its run alone, and the parts of a
call that are made of them.
-/
namespace Orchestration
open OrderedDict PyText AtomicProgram Program RunValues RunModels ToolPolicy

/-- Clock, identifiers, the reads of the run record and the events of the run. -/
inductive Quiet (runId : String) : {β : Type} → Op β → Prop
  | utcNow : Quiet runId .utcNow
  | uuid4 : Quiet runId .uuid4
  | currentTraceId : Quiet runId .currentTraceId
  | getRun : Quiet runId (.getRun runId)
  | addEvent (event : AgentEventRecord) (own : event.runId = runId) :
      Quiet runId (.addEvent event)

/-- A behaviour under which the quiet operations of a run are free and change
    nothing, unless they raise. -/
structure Calm (b : Behaviour Op PyError κ) (runId : String) (raises : PyError → κ → Prop) :
    Prop where
  free : ∀ {β : Type} {op : Op β} (s : κ), Quiet runId op → b.asks op s
  kept : ∀ {β : Type} {op : Op β} {s s' : κ} {value : β}, Quiet runId op →
    b.allows op s (.ok value) s' → s' = s
  raised : ∀ {β : Type} {op : Op β} {s s' : κ} {error : PyError}, Quiet runId op →
    b.allows op s (.error error) s' → raises error s'
  artifactFree : ∀ (s : κ) (artifactId : String), b.asks (.getArtifact runId artifactId) s
  artifactKept : ∀ {s s' : κ} {artifactId : String} {answer : Except PyError ArtifactRecord},
    b.allows (.getArtifact runId artifactId) s answer s' →
      s' = s ∧ ∀ error, answer = .error error → ∃ missing, error = .artifactNotFound missing

section calm
variable {κ : Type} {b : Behaviour Op PyError κ} {runId : String} {raises : PyError → κ → Prop}
  {s : κ}

theorem Calm.perform (calm : Calm b runId raises) {op : Op α} (quiet : Quiet runId op) :
    Still b raises (perform op) s :=
  still_perform (calm.free s quiet) (fun _ _ => calm.kept quiet) (fun _ _ => calm.raised quiet)

theorem recordEvent_still (calm : Calm b runId raises) (nodeId eventType : String)
    (payload : PyDict) : Still b raises (recordEvent runId nodeId eventType payload) s := by
  unfold recordEvent
  simp only [bind_eq]
  refine still_bind (calm.perform .getRun) fun run => ?_
  refine still_bind (calm.perform .currentTraceId) fun active => ?_
  refine still_bind (calm.perform .uuid4) fun id => ?_
  refine still_bind (calm.perform .utcNow) fun now => ?_
  refine still_bind (calm.perform (.addEvent _ rfl)) fun event => ?_
  exact still_returned ()

theorem nodeDurationMs_still (calm : Calm b runId raises) (node : GraphNodeRecord) :
    Still b raises (nodeDurationMs node) s := by
  unfold nodeDurationMs
  split
  · exact still_returned _
  · exact still_bind (calm.perform .utcNow) fun now => still_returned _

theorem failureTime_still (calm : Calm b runId raises) (retryable : Bool) :
    Still b raises (failureTime retryable) s := by
  unfold failureTime
  split
  · exact still_returned none
  · exact still_bind (calm.perform .utcNow) fun now => still_returned _

theorem recordOutputEvents_still [PyRuntime] (calm : Calm b runId raises)
    {node : GraphNodeRecord} (own : node.runId = runId) (events : List PyDict) :
    Still b raises (recordOutputEvents node events) s := by
  induction events with
  | nil => exact still_returned ()
  | cons event rest ih =>
    unfold recordOutputEvents
    rw [own]
    exact still_bind (recordEvent_still calm _ _ _) fun _ => ih

theorem recordToolAuditEvents_still (calm : Calm b runId raises) {node : GraphNodeRecord}
    (own : node.runId = runId) (decisions : List ToolPolicyDecision) :
    Still b raises (recordToolAuditEvents node decisions) s := by
  induction decisions with
  | nil => exact still_returned ()
  | cons decision rest ih =>
    unfold recordToolAuditEvents recordToolAuditEvent
    rw [own]
    refine still_bind ?_ fun _ => ih
    exact still_bind (calm.perform .utcNow) fun _ => recordEvent_still calm _ _ _

/-- A missing artifact is passed over. -/
theorem knownArtifactRecords_still (calm : Calm b runId raises) (ids : List String) :
    Still b raises (knownArtifactRecords runId ids) s := by
  induction ids with
  | nil => exact still_returned []
  | cons artifactId rest ih =>
    unfold knownArtifactRecords
    simp only [bind_eq]
    refine still_bind ?_ fun artifact => still_bind ih fun others => still_returned _
    unfold Still
    rw [wp_tryCatch, wp_perform_bind]
    refine ⟨calm.artifactFree s artifactId, ?_, ?_⟩
    · intro artifact s' allowed
      exact (calm.artifactKept allowed).1
    · intro error s' allowed
      obtain ⟨same, absent⟩ := calm.artifactKept allowed
      obtain ⟨missing, rfl⟩ := absent error rfl
      exact same

end calm

/-! The summary of a tool input is never refused. -/

theorem summarizeToolInput_bounds (node : GraphNodeRecord) (task : String) :
    (∃ rest, (summarizeToolInput node task).toList = 'a' :: rest) ∧
      (summarizeToolInput node task).length ≤ 240 := by
  have front : ∃ rest,
      (s!"agent={node.agentType}; node={node.id}; task={strip task}").toList = 'a' :: rest := by
    simp only [toString, String.toList_append, List.append_assoc]
    exact ⟨_, rfl⟩
  obtain ⟨rest, text⟩ := front
  unfold summarizeToolInput
  simp only
  split
  · rename_i short
    exact ⟨⟨rest, text⟩, short⟩
  · rw [text]
    refine ⟨⟨rest.take 236 ++ "...".toList, by simp⟩, ?_⟩
    simp only [String.length_append, String.length_ofList, List.length_take]
    have dots : "...".length = 3 := rfl
    omega

theorem make_of_summary (node : GraphNodeRecord) (task : String) (approved : Bool) :
    ∃ context, PolicyEvaluationContext.make (summarizeToolInput node task) approved =
      .ok context ∧ context.approved = approved := by
  obtain ⟨⟨rest, text⟩, short⟩ := summarizeToolInput_bounds node task
  have normalized : normalizeSummary (summarizeToolInput node task) =
      .ok (strip (summarizeToolInput node task)) := by
    have size : (summarizeToolInput node task).length = rest.length + 1 := by
      rw [← String.length_toList, text, List.length_cons]
    have filled : strip (summarizeToolInput node task) ≠ "" := by
      intro blank
      unfold strip at blank
      rw [text] at blank
      have empty := congrArg String.toList blank
      rw [String.toList_ofList] at empty
      exact stripText_front (by decide) rest empty
    unfold normalizeSummary
    rw [if_neg (by omega), if_neg filled]
  unfold PolicyEvaluationContext.make
  split
  · exact ⟨_, rfl, rfl⟩
  · rename_i e refused
    rw [normalized] at refused
    cases refused

/-! The gate: a context for every tool, and its decision. -/

/-- A behaviour under which evaluating a tool only notes the decision. -/
structure Evaluates [UnicodeDatabase] (b : Behaviour Op PyError κ)
    (registry : ToolPermissionRegistry) (note : κ → Entry → κ) : Prop where
  free : ∀ (s : κ) tool inputSummary approved context,
    b.asks (.evaluateTool tool inputSummary approved context) s
  noted : ∀ {s s' : κ} {tool inputSummary approved context answer},
    b.allows (.evaluateTool tool inputSummary approved context) s answer s' →
      answer = .ok (registry.decisionIn tool approved context) ∧
        s' = note s (.evaluated tool inputSummary approved context
          (registry.decisionIn tool approved context).decision)

/-- The tools evaluated one by one, each in a context of its own. -/
inductive Evaluated [UnicodeDatabase] (registry : ToolPermissionRegistry) (note : κ → Entry → κ)
    (inputSummary : String) (approved : Bool) :
    List String → List ToolPolicyDecision → κ → κ → Prop
  | nil (s : κ) : Evaluated registry note inputSummary approved [] [] s s
  | cons {tool : String} {rest : List String} {decisions : List ToolPolicyDecision} {s s' : κ}
      (context : PolicyEvaluationContext) (sameApproval : context.approved = approved)
      (later : Evaluated registry note inputSummary approved rest decisions
        (note s (.evaluated tool inputSummary approved context
          (registry.decisionIn tool approved context).decision)) s') :
      Evaluated registry note inputSummary approved (tool :: rest)
        (registry.decisionIn tool approved context :: decisions) s s'

/-- What the gate answers none to was allowed tool by tool. -/
theorem gateOutput_none {decisions : List ToolPolicyDecision} (h : gateOutput decisions = none) :
    ∀ decision ∈ decisions, decision.decision = .allow := by
  have blocked : refusals decisions .block = [] := by
    by_contra some
    simp [gateOutput, some] at h
  have ungated : (decisions.filter fun decision =>
      decision.decision = .approvalRequired ∨ decision.decision = .escalate) = [] := by
    by_contra some
    simp only [gateOutput, blocked, ne_eq, not_true_eq_false, if_false, some, not_false_eq_true,
      if_true, reduceCtorEq] at h
  have unretried : refusals decisions .retry = [] := by
    by_contra some
    simp only [gateOutput, blocked, ungated, ne_eq, not_true_eq_false, if_false, some,
      not_false_eq_true, if_true, reduceCtorEq] at h
  simp only [refusals, List.map_eq_nil_iff, List.filter_eq_nil_iff, decide_eq_true_eq,
    not_or] at blocked ungated unretried
  intro decision member
  cases status : decision.decision with
  | allow => rfl
  | block => exact absurd status (blocked decision member)
  | approvalRequired => exact absurd status (ungated decision member).1
  | escalate => exact absurd status (ungated decision member).2
  | retry => exact absurd status (unretried decision member)

theorem gateOutput_allowed {decisions : List ToolPolicyDecision}
    (h : ∀ decision ∈ decisions, decision.decision = .allow) : gateOutput decisions = none := by
  have no : ∀ status, status ≠ .allow → refusals decisions status = [] := by
    intro status other
    simp only [refusals, List.map_eq_nil_iff, List.filter_eq_nil_iff, decide_eq_true_eq]
    intro decision member same
    exact other (same.symm.trans (h decision member))
  have ungated : (decisions.filter fun decision =>
      decision.decision = .approvalRequired ∨ decision.decision = .escalate) = [] := by
    rw [List.filter_eq_nil_iff]
    intro decision member
    simp [h decision member]
  simp only [gateOutput, no .block (by decide), no .retry (by decide), ungated, ne_eq,
    not_true_eq_false, if_false]

/-- The gate never lets a node count as done. -/
theorem gateOutput_status {decisions : List ToolPolicyDecision} {output : AgentOutput}
    (h : gateOutput decisions = some output) :
    output.status = .failed ∨ output.status = .waitingForApproval := by
  simp only [gateOutput] at h
  split_ifs at h <;> simp only [Option.some.injEq] at h <;> subst h <;> simp

section gate
variable [PyRuntime] {κ : Type} {b : Behaviour Op PyError κ} {runId : String}
  {raises : PyError → κ → Prop} {registry : ToolPermissionRegistry} {note : κ → Entry → κ}

theorem policyContextForTool_wp (calm : Calm b runId raises) {node : GraphNodeRecord}
    (own : node.runId = runId) (state : LangGraphRunState) (task : String) (approved : Bool)
    {post : Outcome PyError PolicyEvaluationContext → κ → Prop} {s : κ}
    (done : ∀ context : PolicyEvaluationContext, context.approved = approved →
      post (.returned context) s)
    (failed : ∀ e s', raises e s' → post (.raised e) s') :
    (policyContextForTool node state (summarizeToolInput node task) approved).wp b post s := by
  obtain ⟨context, made, sameApproval⟩ := make_of_summary node task approved
  unfold policyContextForTool
  simp only [bind_eq, own]
  refine (calm.perform .getRun).then (fun run => ?_) failed
  refine (knownArtifactRecords_still calm _).then (fun artifacts => ?_) failed
  rw [wp_ofExcept_bind, made]
  exact done _ sameApproval

theorem evaluateTools_wp (calm : Calm b runId raises) (gate : Evaluates b registry note)
    {node : GraphNodeRecord} (own : node.runId = runId) (state : LangGraphRunState)
    (task : String) (approved : Bool) (tools : List String)
    {post : Outcome PyError (List ToolPolicyDecision) → κ → Prop} {s : κ}
    (done : ∀ decisions s', Evaluated registry note (summarizeToolInput node task) approved tools
      decisions s s' → post (.returned decisions) s')
    (failed : ∀ e s', raises e s' → post (.raised e) s') :
    (evaluateTools node state (summarizeToolInput node task) approved tools).wp b post s := by
  induction tools generalizing post s with
  | nil => exact done [] s (.nil s)
  | cons tool rest ih =>
    unfold evaluateTools
    simp only [bind_eq]
    rw [wp_bind]
    refine policyContextForTool_wp calm own state task approved ?_ failed
    intro context sameApproval
    refine (wp_perform_bind _ _ _).mpr ⟨gate.free _ _ _ _ _, ?_, ?_⟩
    · intro decision s1 allowed
      obtain ⟨answer, noted⟩ := gate.noted allowed
      simp only [Except.ok.injEq] at answer
      subst answer noted
      rw [wp_bind]
      refine ih ?_ failed
      intro decisions s2 evaluated
      exact done _ s2 (.cons context sameApproval evaluated)
    · intro e s1 allowed
      have impossible := (gate.noted allowed).1
      simp at impossible

theorem authorizeNodeTools_wp (calm : Calm b runId raises) (gate : Evaluates b registry note)
    {node : GraphNodeRecord} (own : node.runId = runId) (state : LangGraphRunState)
    {post : Outcome PyError (Option AgentOutput) → κ → Prop} {s : κ}
    (missing : ∀ e, planItem state node.id = .error e → post (.raised e) s)
    (done : ∀ inputSummary decisions s', Evaluated registry note inputSummary
      (decide (state.approvals.get? node.id = some "approved")) node.requiredTools decisions s s' →
        post (.returned (gateOutput decisions)) s')
    (failed : ∀ e s', raises e s' → post (.raised e) s') :
    (authorizeNodeTools node state).wp b post s := by
  unfold authorizeNodeTools
  split
  · rename_i noTools
    have nothing := done "" [] s
    rw [noTools] at nothing
    exact nothing (.nil s)
  · simp only [bind_eq]
    rw [wp_ofExcept_bind]
    cases search : planItem state node.id with
    | error e => exact missing e search
    | ok item =>
      simp only
      rw [wp_bind]
      refine evaluateTools_wp calm gate own state item.task _ node.requiredTools ?_ failed
      intro decisions s' evaluated
      refine (recordToolAuditEvents_still calm own decisions).then (fun _ => ?_) failed
      exact done _ decisions s' evaluated

end gate
end Orchestration
