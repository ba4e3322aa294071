import AeaiOs.CallWalk

/-!
Control calls on one run, whatever their graphs are called: what the run looks like
between two calls, and that every call made on it works by its law.
-/
namespace Orchestration
open OrderedDict PyText CivilTime AtomicProgram RunValues RunModels Redaction InMemoryRunRepository
  ToolPolicy

/-! The ids of a plan as they are redacted again and again. -/

section redactions
variable [UnicodeDatabase]

/-- The lists of ids that redaction makes of a list, in any number of rounds. -/
inductive Redactions (ids : List String) : List String → Prop
  | start : Redactions ids ids
  | again {before after : List String} (earlier : Redactions ids before)
      (redacts : redactTexts before = .ok after) : Redactions ids after

theorem Redactions.trans {a b c : List String} (first : Redactions a b) (second : Redactions b c) :
    Redactions a c := by
  induction second with
  | start => exact first
  | again _ redacts ih => exact ih.again redacts

theorem Redactions.fixed {ids ids' : List String} (fixed : ∀ id ∈ ids, Fixed id)
    (h : Redactions ids ids') : ids' = ids := by
  induction h with
  | start => rfl
  | again _ redacts ih =>
    subst ih
    rw [redactTexts_fixed.mpr fixed, Except.ok.injEq] at redacts
    exact redacts.symm

/-- The graphs that the calls start to execute. -/
def graphsOf (service : OrchestratorService) (requests : List Call) : List ExecutionGraph :=
  requests.filterMap (Call.starts service)

def recordIds (graphs : List ExecutionGraph) : List String := graphs.flatMap ExecutionGraph.ids

/-- However often the ids of a graph are redacted, they name no node of the run twice. -/
def NamesOnce (graphs : List ExecutionGraph) : Prop :=
  ∀ graph ∈ graphs, ∀ ids, Redactions graph.ids ids →
    (ids.filter (· ∈ recordIds graphs)).Nodup

/-- Redaction never makes the ids of a graph name another node of the run. -/
def NamesNoOther (graphs : List ExecutionGraph) : Prop :=
  ∀ graph ∈ graphs, ∀ ids ids', Redactions graph.ids ids → Redactions ids ids' →
    ∀ id ∈ ids', id ∈ recordIds graphs → id ∈ ids

end redactions

section fixed
variable [PyRuntime]

theorem namesOnce_fixed {graphs : List ExecutionGraph} (nodup : ∀ graph ∈ graphs, graph.ids.Nodup)
    (fixed : ∀ graph ∈ graphs, FixedIds graph) : NamesOnce graphs := by
  intro graph member ids redactions
  rw [redactions.fixed (fixed graph member)]
  exact (nodup graph member).filter _

theorem namesNoOther_fixed {graphs : List ExecutionGraph}
    (fixed : ∀ graph ∈ graphs, FixedIds graph) : NamesNoOther graphs := by
  intro graph member ids ids' first second id inside _
  have same := first.fixed (fixed graph member)
  subst same
  rw [second.fixed (fixed graph member)] at inside
  exact inside

end fixed

/-! The attempts that a call finds. -/

/-- The records once a failed node has been reset. -/
def resetNodes (nodeId : String) (nodes : List GraphNodeRecord) : List GraphNodeRecord :=
  match recordOf nodes nodeId with
  | some node => upserted { node with status := .pending, retryCount := 0, finishedAt := none } nodes
  | none => nodes

/-- The attempts left to the nodes of a plan when a call enters the main loop. -/
def Call.attempts (limit : Nat) (c : Control) (counted : List String) : Call → Nat
  | .execute _ => counted.length * limit
  | .resume => attemptsLeft limit c.nodes counted
  | .approve _ _ _ => attemptsLeft limit c.nodes counted
  | .retry nodeId => attemptsLeft limit (resetNodes nodeId c.nodes) counted

theorem attemptsLeft_reset (limit : Nat) (nodeId : String) (nodes : List GraphNodeRecord)
    (counted : List String) :
    attemptsLeft limit nodes counted ≤ attemptsLeft limit (resetNodes nodeId nodes) counted := by
  unfold resetNodes
  split
  · rename_i node found
    apply attemptsLeft_mono
    intro id _
    rw [leftOf_upserted]
    split
    · rename_i here
      have named : recordOf nodes id = some node := by
        rw [← here]
        exact (recordOf_id found).symm ▸ found
      unfold leftOf
      rw [named]
      exact attemptsOf_le limit node
    · exact le_rfl
  · exact le_rfl

theorem attemptsLeft_retry {limit : Nat} {nodeId : String} {nodes : List GraphNodeRecord}
    {node : GraphNodeRecord} (found : recordOf nodes nodeId = some node) (updated : Time)
    (counted : List String) :
    attemptsLeft limit
        (upserted
          { node with status := .pending, retryCount := 0, finishedAt := none, updatedAt := updated }
          nodes) counted ≤
      attemptsLeft limit (resetNodes nodeId nodes) counted := by
  unfold resetNodes
  rw [found]
  apply attemptsLeft_mono
  intro id _
  rw [leftOf_upserted, leftOf_upserted]
  split
  · exact le_rfl
  · exact le_rfl

theorem call_attempts (limit : Nat) (c : Control) (counted : List String) {request : Call}
    (continues : ∀ graph, request ≠ .execute graph) :
    attemptsLeft limit c.nodes counted ≤ request.attempts limit c counted := by
  cases request with
  | execute graph => exact absurd rfl (continues graph)
  | resume => exact le_rfl
  | approve _ _ _ => exact le_rfl
  | retry nodeId => exact attemptsLeft_reset limit nodeId c.nodes counted

/-! The law of a call. -/

section law
variable [PyRuntime] (env : Env) (service : OrchestratorService) (runId : String)
  (graphs : List ExecutionGraph)

/-- A call on a run whose graphs are these. Its plan starts from the ids `basis`. -/
def callLaw (c : Control) (basis : List String) (tasks : List ExecutionNode) (stores : Bool)
    (request : Call) : Law where
  runId := runId
  maxAttempts := service.maxAttempts
  registry := env.registry
  tasks := tasks
  stores := stores
  found := c.checkpoint
  records := recordIds graphs
  fit := Redactions basis
  counts := NamesNoOther graphs
  counted := basis.filter (· ∈ recordIds graphs)
  bound := request.attempts service.maxAttempts c (basis.filter (· ∈ recordIds graphs))
  answers _ _ := True
  scarred := 1
  strict := False

variable {env service runId graphs}

theorem callLaw_sound {c : Control} {basis : List String} {tasks : List ExecutionNode}
    {stores : Bool} {request : Call} (once : NamesOnce graphs) {graph : ExecutionGraph}
    (member : graph ∈ graphs) (from' : Redactions graph.ids basis)
    (known : ∀ planned ∈ tasks, planned.id ∈ recordIds graphs)
    (unique : (tasks.map ExecutionNode.id).Nodup) :
    (callLaw env service runId graphs c basis tasks stores request).Sound where
  redacts _ _ fit redacts := fit.again redacts
  apart ids fit := once graph member ids (from'.trans fit)
  known := known
  unique := unique
  limit := service.retryPolicy.positive
  counted noOther := by
    refine ⟨once graph member basis from', ?_⟩
    intro ids fit id inside recorded
    simp only [callLaw, List.mem_filter, decide_eq_true_eq] at recorded ⊢
    exact ⟨noOther graph member basis ids from' fit id inside recorded, recorded⟩

theorem callLaw_able {c : Control} {basis : List String} {tasks : List ExecutionNode}
    {stores : Bool} {request : Call} :
    (callLaw env service runId graphs c basis tasks stores request).Able service where
  whole strict := strict.elim
  closed strict := strict.elim
  agents strict := strict.elim
  allowed strict := strict.elim

end law

/-! Between two calls. -/

section resting
variable [PyRuntime] (env : Env) (service : OrchestratorService) (runId : String)
  (graphs : List ExecutionGraph)

/-- The nodes of the graph that the calls work on. -/
def currentTasks (log : List Done) : List ExecutionNode :=
  ((currentGraph service log).map ExecutionGraph.nodes).getD []

/-- What every run of calls keeps between two of them. -/
structure Resting (log : List Done) (w : World) : Prop where
  holds : w.Holds runId
  known : ∀ id ∈ idsOf (w.control runId).nodes, id ∈ recordIds graphs
  plan : ∀ state, (w.control runId).checkpoint = some state →
    ∃ graph ∈ graphs, Redactions graph.ids (state.plan.map PlanItem.id)
  legible : ∀ state, (w.control runId).checkpoint = some state →
    ∀ id text, state.errors.get? id = some (.text text) → isSensitiveKey id = true
  tasks : ∀ planned ∈ currentTasks service log,
    ∃ node, recordOf (w.control runId).nodes planned.id = some node ∧ TaskOf node planned

/-- A run that has just been created. -/
structure Fresh (w : World) : Prop where
  holds : w.Holds runId
  unstored : (w.control runId).checkpoint = none
  unwritten : (w.control runId).nodes = []

variable {env service runId graphs}

theorem resting_fresh {w : World} (fresh : Fresh runId w) :
    Resting service runId graphs [] w where
  holds := fresh.holds
  known id member := by
    rw [fresh.unwritten] at member
    cases member
  plan state stored := by
    rw [fresh.unstored] at stored
    cases stored
  legible state stored := by
    rw [fresh.unstored] at stored
    cases stored
  tasks planned member := by cases member

omit [PyRuntime] in
theorem currentGraph_accepted {log : List Done} {graph : ExecutionGraph}
    (current : currentGraph service log = some graph) : Accepted service graph := by
  induction log with
  | nil => simp [currentGraph] at current
  | cons done earlier ih =>
    unfold currentGraph at current
    split at current
    · rename_i started starts
      simp only [Option.some.injEq] at current
      subst current
      exact (starts_accepted starts).2
    · exact ih current

omit [PyRuntime] in
theorem currentTasks_unique (log : List Done) :
    ((currentTasks service log).map ExecutionNode.id).Nodup := by
  unfold currentTasks
  cases current : currentGraph service log with
  | none => exact List.nodup_nil
  | some graph => exact (ExecutionGraph.validate_ok (currentGraph_accepted current).1).ids_nodup

end resting

/-! One call. -/

/-- How a call that returns leaves its run. -/
def Call.leaves [UnicodeDatabase] (limit : Nat)
    (kept paused : List GraphNodeRecord → LangGraphRunState → Prop) (c : Control) :
    Call → RunStatus → Control → Prop
  | .approve nodeId false _ => Denied c nodeId
  | _ => Left limit kept paused

/-- What is carried along holds where a call enters the main loop. -/
structure Reopens [UnicodeDatabase] (kept : List GraphNodeRecord → LangGraphRunState → Prop)
    (c : Control) (state : LangGraphRunState) : Prop where
  resume : kept c.nodes state
  approve : ∀ nodeId node updated before stored, recordOf c.nodes nodeId = some node →
    node.status = .waitingForApproval → before.plan = state.plan → before.errors = state.errors →
    redactState (synced before (upserted { node with status := .pending, updatedAt := updated }
      c.nodes)) = .ok stored →
    kept (upserted { node with status := .pending, updatedAt := updated } c.nodes) stored
  retry : ∀ nodeId node updated before stored, recordOf c.nodes nodeId = some node →
    node.status = .failed → before.plan = state.plan → before.errors = state.errors →
    redactState (synced before (upserted
      { node with status := .pending, retryCount := 0, finishedAt := none, updatedAt := updated }
      c.nodes)) = .ok stored →
    kept (upserted
      { node with status := .pending, retryCount := 0, finishedAt := none, updatedAt := updated }
      c.nodes) stored

section call
variable [PyRuntime] {env : Env} {service : OrchestratorService} {runId : String}
  {graphs : List ExecutionGraph} {c : Control}
  {kept free paused : List GraphNodeRecord → LangGraphRunState → Prop}

theorem continued_walk {basis : List String} {tasks : List ExecutionNode} {request : Call}
    {law : Law} (sameLaw : law = callLaw env service runId graphs c basis tasks false request)
    (sound : law.Sound) (carried : law.Carried kept free paused) (fuel : Nat)
    {state : LangGraphRunState} (stored : c.checkpoint = some state) (inv : law.Inv c [])
    (continues : ∀ graph, request ≠ .execute graph) (reopens : Reopens kept c state) :
    (request.program service fuel runId).wp law.work
      (Program.Ends (fun r s => request.leaves law.maxAttempts kept paused c r.status s.1)
        law.Excused (law.counts → fuel ≤ law.bound)) (c, []) := by
  subst sameLaw
  have able : (callLaw env service runId graphs c basis tasks false request).Able service :=
    callLaw_able
  have lenient : ¬ (callLaw env service runId graphs c basis tasks false request).strict := id
  have starts : (callLaw env service runId graphs c basis tasks false request).Starts c state :=
    ⟨stored, inv, rfl, call_attempts _ _ _ continues⟩
  cases request with
  | execute graph => exact absurd rfl (continues graph)
  | resume =>
    apply Program.ends_mono (Law.resumeRun_walk sound able rfl carried fuel starts.between stored
      reopens.resume) fun _ _ reached => reached
    exact fun cut counts => (cut counts).trans le_rfl
  | approve nodeId approved comment =>
    cases approved with
    | true =>
      exact Law.approveNode_walk sound able lenient rfl carried fuel starts nodeId comment
        (reopens.approve nodeId)
    | false => exact Law.denyNode_walk lenient fuel starts nodeId comment
  | retry nodeId =>
    apply Law.retryFailedNode_walk sound able lenient rfl carried fuel starts nodeId _
      (reopens.retry nodeId)
    intro node updated found _
    exact attemptsLeft_retry found updated _

theorem started_walk {request : Call} {graph : ExecutionGraph} {law : Law}
    (sameLaw : law = callLaw env service runId graphs c graph.ids graph.nodes true request)
    (starts : request.starts service = some graph) (sound : law.Sound)
    (carried : law.Carried kept free paused) (fuel : Nat) (inv : law.Inv c [])
    (begins : ∀ run now stored, run.id = runId →
      redactState (buildInitialState run graph) = .ok stored →
      kept (setupNodes runId now graph.nodes c.nodes) stored) :
    (request.program service fuel runId).wp law.work
      (fun o s => Program.Ends (fun r s => request.leaves law.maxAttempts kept paused c r.status s.1)
          law.Excused (law.counts → fuel ≤ law.bound) o s ∧
        (∃ now, setupEntries runId now graph.nodes <:+ s.2) ∧
        ∀ result, o = .returned result → ¬ law.Storing s.2) (c, []) := by
  subst sameLaw
  obtain ⟨rfl, accepted⟩ := starts_accepted starts
  exact Law.executeRun_walk sound callLaw_able rfl carried fuel rfl accepted rfl inv .start le_rfl
    begins

variable (env) in
/-- A call that works by its law, made on a store that keeps it. Whatever legal steps
    preserve holds at the end, and at every step on the way. -/
theorem work_call (fuel : Nat) {law : Law} (registry : law.registry = env.registry)
    (believes : law.Believes env) (sound : law.Sound)
    (own : law.runId = runId) {extra : Control × List Entry → Prop}
    (step : ∀ {β : Type} (op : Op β) s answer s', law.Inv s.1 s.2 → extra s → law.Asks op s.1 s.2 →
      law.work.allows op s answer s' → extra s')
    {w : World} (holds : w.Holds runId) (inv : law.Inv (w.control runId) [])
    (begins : extra (w.control runId, [])) {request : Call}
    {post : Outcome PyError OrchestrationResult → Control × List Entry → Prop}
    (proof : (request.program service fuel runId).wp law.work post (w.control runId, [])) :
    let made := makeCall env service fuel runId request w
    made.2.Holds runId ∧ law.Inv (made.2.control runId) made.1.history ∧
      extra (made.2.control runId, made.1.history) ∧
      AskedFor describe law.work (fun s => law.Inv s.1 s.2 ∧ extra s) made.1.history ∧
      post made.1.outcome (made.2.control runId, made.1.history) := by
  subst own
  let sound' : Control × List Entry → Prop := fun s => law.Inv s.1 s.2 ∧ extra s
  have both : ∀ {β : Type} (op : Op β) s answer s', sound' s →
      law.work.asks op s → law.work.allows op s answer s' → sound' s' :=
    fun op s answer s' fine asked allowed =>
      ⟨allowed.2.2.1, step op s answer s' fine.1 fine.2 asked allowed⟩
  have known : ∀ s : World × List Entry,
      (s.1.Holds law.runId ∧ law.Inv (s.1.control law.runId) s.2) ∧
        sound' (s.1.control law.runId, s.2) → sound' (s.1.control law.runId, s.2) :=
    fun _ good => good.2
  obtain ⟨⟨⟨⟨holds', -⟩, inv', extra'⟩, owed⟩, reached⟩ := Program.wp_run (s := (w, []))
    (Simulates.askedFor describe
      (Simulates.keeps (Law.handler_work env registry believes sound) both)
      known fun _ _ _ _ allowed => allowed.2.1)
    ⟨⟨⟨holds, inv⟩, inv, begins⟩, askedFor_nil describe _ _⟩ proof
  exact ⟨holds', inv', extra', owed, reached⟩

end call
end Orchestration
