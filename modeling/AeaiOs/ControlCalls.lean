import AeaiOs.ProtocolStore

/-!
Control calls on one run, one after the other. Between two calls the store keeps
what the next one may rely on: the graph of the last execution that was accepted,
what has been approved since, and what has succeeded since.
-/
namespace Orchestration
open OrderedDict AtomicProgram RunValues RunModels Redaction InMemoryRunRepository ToolPolicy

inductive Call where
  | execute (graph : ExecutionGraph)
  | resume
  | approve (nodeId : String) (approved : Bool) (comment : Option String)
  | retry (nodeId : String)

/-- A call that has been made, with its history, newest entry first. -/
structure Done where
  call : Call
  outcome : Outcome PyError OrchestrationResult
  history : List Entry

/-- A call that has yet to do anything. -/
def Call.pending (request : Call) : Done := ⟨request, .unfinished, []⟩

/-- A graph is executed if it passes validation and its agents are there. -/
def Accepted (service : OrchestratorService) (graph : ExecutionGraph) : Prop :=
  graph.validate service.agentTypes = .ok () ∧ assertAgentsAvailable service graph = .ok ()

instance : DecidableEq (Except PyError Unit) := fun a b =>
  match a, b with
  | .ok _, .ok _ => isTrue rfl
  | .error e, .error e' => decidable_of_iff (e = e') (by simp)
  | .ok _, .error _ => isFalse (by simp)
  | .error _, .ok _ => isFalse (by simp)

instance (service : OrchestratorService) (graph : ExecutionGraph) :
    Decidable (Accepted service graph) :=
  inferInstanceAs (Decidable (_ ∧ _))

/-- The graph whose execution a call starts. -/
def Call.starts (service : OrchestratorService) : Call → Option ExecutionGraph
  | .execute graph => if Accepted service graph then some graph else none
  | _ => none

/-- The calls since the last accepted execution, that one included; newest first. -/
def sinceExecution (service : OrchestratorService) : List Done → List Done
  | [] => []
  | done :: earlier =>
      match done.call.starts service with
      | some _ => [done]
      | none => done :: sinceExecution service earlier

/-- The graph of the last accepted execution. -/
def currentGraph (service : OrchestratorService) : List Done → Option ExecutionGraph
  | [] => none
  | done :: earlier =>
      match done.call.starts service with
      | some graph => some graph
      | none => currentGraph service earlier

def Call.approves (nodeId : String) : Call → Prop
  | .approve id approved _ => id = nodeId ∧ approved = true
  | _ => False

/-- Some call since the last accepted execution has approved the node. -/
def ApprovedSince (service : OrchestratorService) (log : List Done) (nodeId : String) : Prop :=
  ∃ done ∈ sinceExecution service log, done.call.approves nodeId

/-- The agent of the node has succeeded since the last accepted execution. -/
def SucceededSince (service : OrchestratorService) (log : List Done) (nodeId : String) : Prop :=
  ∃ done ∈ sinceExecution service log, Succeeded done.history nodeId

section since
variable {service : OrchestratorService} {done : Done} {earlier : List Done} {nodeId : String}

theorem starts_accepted {request : Call} {graph : ExecutionGraph}
    (starts : request.starts service = some graph) :
    request = .execute graph ∧ Accepted service graph := by
  unfold Call.starts at starts
  split at starts
  · split at starts
    · rename_i other accepted
      simp only [Option.some.injEq] at starts
      subst starts
      exact ⟨rfl, accepted⟩
    · simp at starts
  · simp at starts

theorem currentGraph_starts {graph : ExecutionGraph} (starts : done.call.starts service = some graph) :
    currentGraph service (done :: earlier) = some graph := by
  simp [currentGraph, starts]

theorem currentGraph_continues (starts : done.call.starts service = none) :
    currentGraph service (done :: earlier) = currentGraph service earlier := by
  simp [currentGraph, starts]

theorem approvedSince_starts {graph : ExecutionGraph}
    (starts : done.call.starts service = some graph) :
    ¬ ApprovedSince service (done :: earlier) nodeId := by
  unfold ApprovedSince sinceExecution
  rw [starts]
  rintro ⟨other, member, approves⟩
  simp only [List.mem_singleton] at member
  rw [member, (starts_accepted starts).1] at approves
  exact approves

theorem approvedSince_continues (starts : done.call.starts service = none) :
    ApprovedSince service (done :: earlier) nodeId ↔
      done.call.approves nodeId ∨ ApprovedSince service earlier nodeId := by
  simp [ApprovedSince, sinceExecution, starts]

/-- What is approved depends on the calls alone. -/
theorem approvedSince_pending :
    ApprovedSince service (done.call.pending :: earlier) nodeId ↔
      ApprovedSince service (done :: earlier) nodeId := by
  cases starts : done.call.starts service with
  | some graph =>
    have pending : done.call.pending.call.starts service = some graph := starts
    exact iff_of_false (approvedSince_starts pending) (approvedSince_starts starts)
  | none =>
    have pending : done.call.pending.call.starts service = none := starts
    rw [approvedSince_continues pending, approvedSince_continues starts]
    rfl

theorem succeededSince_starts {graph : ExecutionGraph}
    (starts : done.call.starts service = some graph) :
    SucceededSince service (done :: earlier) nodeId ↔ Succeeded done.history nodeId := by
  simp [SucceededSince, sinceExecution, starts]

theorem succeededSince_continues (starts : done.call.starts service = none) :
    SucceededSince service (done :: earlier) nodeId ↔
      Succeeded done.history nodeId ∨ SucceededSince service earlier nodeId := by
  simp [SucceededSince, sinceExecution, starts]

end since

section calls
variable [PyRuntime]

def Call.program (service : OrchestratorService) (fuel : Nat) (runId : String) :
    Call → Prog OrchestrationResult
  | .execute graph => executeRun service fuel runId graph
  | .resume => resumeRun service fuel runId
  | .approve nodeId approved comment => approveNode service fuel runId nodeId approved comment
  | .retry nodeId => retryFailedNode service fuel runId nodeId

variable (env : Env) (service : OrchestratorService) (fuel : Nat) (runId : String)

def makeCall (request : Call) (w : World) : Done × World :=
  let reached := (request.program service fuel runId).run ((handler env).observed describe) (w, [])
  (⟨request, reached.1, reached.2.2⟩, reached.2.1)

/-- The calls made one after the other; the newest is the first of the list. -/
def runCalls : List Call → World → List Done × World
  | [], w => ([], w)
  | request :: earlier, w =>
      let before := runCalls earlier w
      let made := makeCall env service fuel runId request before.2
      (made.1 :: before.1, made.2)

theorem runCalls_one (request : Call) (w : World) :
    (runCalls env service fuel runId [request] w).1 =
      [(makeCall env service fuel runId request w).1] := rfl

end calls

/-! Calls that do nothing: they raise before they write. -/

section refused
open Program
variable [PyRuntime] {registry : ToolPermissionRegistry} {runId : String} {c : Control}
  {service : OrchestratorService}

def Refused (c : Control) : Outcome PyError α → Control × List Entry → Prop
  | .raised _, s => s = (c, [])
  | _, _ => False

theorem getRun_refused {rest : RunRecord → Prog α}
    (later : ∀ run : RunRecord, (rest run).wp ((control registry runId).observed describe)
      (Refused c) (c, [])) :
    ((perform (.getRun runId)).bind rest).wp ((control registry runId).observed describe)
      (Refused c) (c, []) := by
  refine (wp_perform_bind _ _ _).mpr ⟨trivial, ?_, ?_⟩
  · rintro run ⟨c', history⟩ ⟨⟨same, -⟩, noted⟩
    simp only at same noted
    subst same noted
    exact later run
  · rintro e ⟨c', history⟩ ⟨⟨same, -⟩, noted⟩
    simp only at same noted
    subst same noted
    rfl

/-- Without a checkpoint only an execution gets further. -/
theorem loadState_refused (unstored : c.checkpoint = none) (rest : LangGraphRunState → Prog α) :
    ((loadState runId).bind rest).wp ((control registry runId).observed describe) (Refused c)
      (c, []) := by
  unfold loadState
  simp only [bind_eq]
  rw [wp_bind, wp_bind, wp_tryCatch, wp_perform]
  refine ⟨trivial, ?_, ?_⟩
  · rintro checkpoint ⟨c', history⟩ ⟨⟨same, told⟩, noted⟩
    simp only at same told noted
    subst same
    simp [unstored] at told
  · rintro e ⟨c', history⟩ ⟨⟨same, told⟩, noted⟩
    simp only at same told noted
    subst same
    simp only [unstored, Except.error.injEq, forall_const] at told
    subst told noted
    rfl

/-- A call is refused at once: the graph is not accepted, or there is none yet. -/
def Idle (service : OrchestratorService) (c : Control) : Call → Prop
  | .execute graph => ¬ Accepted service graph
  | _ => c.checkpoint = none

theorem program_refused (fuel : Nat) {request : Call} (idle : Idle service c request) :
    (request.program service fuel runId).wp ((control registry runId).observed describe)
      (Refused c) (c, []) := by
  cases request with
  | execute graph =>
    unfold Call.program executeRun
    simp only [bind_eq]
    refine getRun_refused fun run => ?_
    rw [wp_ofExcept_bind]
    split
    · rename_i valid
      rw [wp_ofExcept_bind]
      split
      · rename_i available
        exact absurd ⟨valid, available⟩ idle
      · rfl
    · rfl
  | resume =>
    unfold Call.program resumeRun
    simp only [bind_eq]
    refine getRun_refused fun run => ?_
    exact loadState_refused idle _
  | approve nodeId approved comment => exact loadState_refused idle _
  | retry nodeId => exact loadState_refused idle _

end refused

/-! What holds between two calls. -/

namespace Scope

/-- What `scope` promises after `history`, `later` promises from the start. -/
structure Continues (scope : Scope) (history : List Entry) (later : Scope) : Prop where
  runId : later.runId = scope.runId
  graph : later.graph = scope.graph
  maxAttempts : later.maxAttempts = scope.maxAttempts
  approved : ∀ nodeId, scope.approved nodeId → later.approved nodeId
  succeeded : ∀ nodeId, scope.succeeded nodeId ∨ Succeeded history nodeId → later.succeeded nodeId
  stored : later.storesGraph = false

section continues
variable {scope later : Scope} {history : List Entry}

theorem NodeFits.continues (c : scope.Continues history later) {node : GraphNodeRecord}
    (fits : scope.NodeFits history node) : later.NodeFits [] node where
  runId := fits.runId.trans c.runId.symm
  planned := c.graph ▸ fits.planned
  budget := c.maxAttempts ▸ c.graph ▸ fits.budget
  used := c.graph ▸ fits.used
  completed inside done := by
    rw [c.graph] at inside
    exact Or.inl (c.succeeded node.id (fits.completed inside done))

theorem Kept.continues (c : scope.Continues history later) (ready : scope.Ready history)
    {control : Control} (kept : scope.Kept control history) : later.Kept control [] where
  listing _ := by
    refine ⟨fun node member => ((kept.listing ready).fits node member).continues c, ?_⟩
    rw [c.graph]
    exact (kept.listing ready).complete
  state _ state stored := by
    have fits := kept.state ready state stored
    refine ⟨?_, ?_⟩
    · rw [c.graph]
      exact fits.plan
    · intro nodeId decision found
      rcases fits.approvals nodeId decision found with ⟨given, known⟩ | rest
      · exact Or.inl ⟨given, c.approved nodeId known⟩
      · exact Or.inr rest
  setup _ node member := by simp at member

/-- A call that stores its graph first relies on nothing. -/
theorem kept_unsaved (stores : scope.storesGraph = true) (control : Control) :
    scope.Kept control [] := by
  have unsaved : ¬ scope.Ready [] := by
    intro ready
    obtain ⟨_, _, member⟩ := ready stores
    simp at member
  exact ⟨fun ready => absurd ready unsaved, fun ready => absurd ready unsaved, by simp⟩

end continues
end Scope

section standing
variable [PyRuntime] (env : Env) (service : OrchestratorService) (runId : String)

/-- What a call may rely on after the calls of `log`. -/
def standingScope (log : List Done) (graph : ExecutionGraph) : Scope where
  runId := runId
  graph := graph
  maxAttempts := service.maxAttempts
  registry := env.registry
  approved := ApprovedSince service log
  succeeded := SucceededSince service log
  storesGraph := false

/-- The scope in which a call works: after `earlier` and its own request. -/
def callScope (earlier : List Done) (request : Call) (graph : ExecutionGraph) : Scope :=
  { standingScope env service runId (request.pending :: earlier) graph with
    storesGraph := (request.starts service).isSome }

structure Standing (log : List Done) (w : World) : Prop where
  holds : w.Holds runId
  unstored : currentGraph service log = none → (w.control runId).checkpoint = none
  kept : ∀ graph, currentGraph service log = some graph →
    graph.ids.Nodup ∧ (standingScope env service runId log graph).Kept (w.control runId) []

/-- The ids of the graph are such that redaction leaves them alone. -/
def FixedIds (graph : ExecutionGraph) : Prop := ∀ id ∈ graph.ids, Fixed id

variable {env service runId}

omit [PyRuntime] in
theorem standing_nil {w : World} (holds : w.Holds runId)
    (unstored : (w.control runId).checkpoint = none) : Standing env service runId [] w :=
  ⟨holds, fun _ => unstored, by simp [currentGraph]⟩

theorem callScope_sound {earlier : List Done} {request : Call} {graph : ExecutionGraph}
    (nodup : graph.ids.Nodup) (fixed : FixedIds graph) :
    (callScope env service runId earlier request graph).Sound :=
  ⟨nodup, fixed, service.retryPolicy.positive⟩

/-- A call that keeps the protocol, run on a store that it may rely on. -/
theorem run_protocol {scope : Scope} (sameRegistry : scope.registry = env.registry)
    (sound : scope.Sound) {w : World} (holds : w.Holds scope.runId)
    (kept : scope.Kept (w.control scope.runId) []) {p : Prog α}
    {post : Outcome PyError α → List Entry → Prop} (proof : p.wp scope.protocol post []) :
    let reached := p.run ((handler env).observed describe) (w, [])
    reached.2.1.Holds scope.runId ∧
      scope.Kept (reached.2.1.control scope.runId) reached.2.2 ∧
      Owed describe scope.protocol reached.2.2 ∧ post reached.1 reached.2.2 := by
  obtain ⟨⟨⟨holds', kept'⟩, owed⟩, reached⟩ := Program.wp_run (s := (w, []))
    (Simulates.owed describe (Scope.handler_protocol env sameRegistry sound)
      fun _ _ _ _ allowed => allowed.1)
    ⟨⟨holds, kept⟩, owed_nil describe _⟩ proof
  exact ⟨holds', kept', owed, reached⟩

/-- A refused call: nothing is written, and the run is as it was. -/
theorem run_refused (fuel : Nat) {request : Call} {w : World} (holds : w.Holds runId)
    (idle : Idle service (w.control runId) request) :
    let made := makeCall env service fuel runId request w
    made.1.history = [] ∧ made.2.Holds runId ∧ made.2.control runId = w.control runId ∧
      ∃ e, made.1.outcome = .raised e := by
  obtain ⟨holds', reached⟩ := Program.wp_run (s := (w, []))
    (Simulates.observed describe (exec_control env runId)) holds (program_refused fuel idle)
  cases outcome : ((request.program service fuel runId).run ((handler env).observed describe)
      (w, [])).1 with
  | raised e =>
    rw [outcome] at reached
    have same := Prod.mk.inj reached
    exact ⟨same.2, holds', same.1, e, outcome⟩
  | returned result =>
    rw [outcome] at reached
    exact reached.elim
  | unfinished =>
    rw [outcome] at reached
    exact reached.elim

omit [PyRuntime] in
/-- Up to a call that starts no execution. -/
theorem continues_call {earlier : List Done} {request : Call} {graph : ExecutionGraph}
    (starts : request.starts service = none) :
    (standingScope env service runId earlier graph).Continues []
      (callScope env service runId earlier request graph) := by
  refine
    { runId := rfl
      graph := rfl
      maxAttempts := rfl
      approved := fun nodeId given => (approvedSince_continues starts).mpr (Or.inr given)
      succeeded := ?_
      stored := by simp [callScope, starts] }
  rintro nodeId (before | ⟨input, -, member⟩)
  · exact (succeededSince_continues starts).mpr (Or.inr before)
  · simp at member

omit [PyRuntime] in
/-- From a call to the calls after it. -/
theorem continues_done {earlier : List Done} (done : Done) {graph : ExecutionGraph} :
    (callScope env service runId earlier done.call graph).Continues done.history
      (standingScope env service runId (done :: earlier) graph) := by
  cases starts : done.call.starts service with
  | some started =>
    have pending : done.call.pending.call.starts service = some started := starts
    refine
      { runId := rfl
        graph := rfl
        maxAttempts := rfl
        approved := fun nodeId given => absurd given (approvedSince_starts pending)
        succeeded := ?_
        stored := rfl }
    rintro nodeId (before | after)
    · obtain ⟨input, -, member⟩ := (succeededSince_starts pending).mp before
      simp [Call.pending] at member
    · exact (succeededSince_starts starts).mpr after
  | none =>
    have pending : done.call.pending.call.starts service = none := starts
    refine
      { runId := rfl
        graph := rfl
        maxAttempts := rfl
        approved := fun nodeId given =>
          (approvedSince_continues starts).mpr ((approvedSince_continues pending).mp given)
        succeeded := ?_
        stored := rfl }
    rintro nodeId (before | now)
    · rcases (succeededSince_continues pending).mp before with ⟨input, -, member⟩ | old
      · simp [Call.pending] at member
      · exact (succeededSince_continues starts).mpr (Or.inr old)
    · exact (succeededSince_continues starts).mpr (Or.inl now)

/-- What a call shows of itself: it kept its protocol, and where it returned it has
    set the status that it returned. -/
structure Shown (env : Env) (service : OrchestratorService) (runId : String) (earlier : List Done)
    (done : Done) : Prop where
  silent : currentGraph service (done :: earlier) = none → done.history = []
  owed : ∀ graph, currentGraph service (done :: earlier) = some graph →
    Owed describe (callScope env service runId earlier done.call graph).protocol done.history
  closed : ∀ graph, currentGraph service (done :: earlier) = some graph →
    Program.Returns (callScope env service runId earlier done.call graph).Closed done.outcome
      done.history

theorem idle_keeps (fuel : Nat) {earlier : List Done} {request : Call} {w : World}
    (standing : Standing env service runId earlier w) (starts : request.starts service = none)
    (idle : Idle service (w.control runId) request) :
    let made := makeCall env service fuel runId request w
    Standing env service runId (made.1 :: earlier) made.2 ∧
      Shown env service runId earlier made.1 := by
  obtain ⟨silent, holds, same, e, raised⟩ := run_refused fuel standing.holds idle
  intro made
  have continues : made.1.call.starts service = none := starts
  refine ⟨⟨holds, ?_, ?_⟩, fun _ => silent, ?_, ?_⟩
  · intro nothing
    rw [same]
    exact standing.unstored ((currentGraph_continues continues).symm.trans nothing)
  · intro graph current
    rw [currentGraph_continues continues] at current
    obtain ⟨nodup, kept⟩ := standing.kept graph current
    have stored : (callScope env service runId earlier request graph).Kept (w.control runId) [] :=
      kept.continues (continues_call starts) (fun stores => by simp [standingScope] at stores)
    rw [same]
    refine ⟨nodup, Scope.Kept.continues (continues_done made.1) ?_ (silent.symm ▸ stored)⟩
    intro stores
    simp [made, makeCall, callScope, starts] at stores
  · intro graph current
    rw [silent]
    exact owed_nil describe _
  · intro graph current
    rw [raised]
    trivial

theorem started_keeps (fuel : Nat) {earlier : List Done} {request : Call} {w : World}
    {graph : ExecutionGraph} (standing : Standing env service runId earlier w)
    (starts : request.starts service = some graph) (fixed : FixedIds graph)
    (saved : ∀ entry ∈ (makeCall env service fuel runId request w).1.history,
      entry.refusesSave = false) :
    let made := makeCall env service fuel runId request w
    Standing env service runId (made.1 :: earlier) made.2 ∧
      Shown env service runId earlier made.1 := by
  intro made
  obtain ⟨same, valid, available⟩ := starts_accepted starts
  subst same
  have here : made.1.call.starts service = some graph := starts
  have nodup := (ExecutionGraph.validate_ok valid).ids_nodup
  have sound : (callScope env service runId earlier (.execute graph) graph).Sound :=
    callScope_sound nodup fixed
  have stores : (callScope env service runId earlier (.execute graph) graph).storesGraph = true := by
    simp [callScope, starts]
  obtain ⟨holds, kept, owed, returned, stored⟩ := run_protocol rfl sound standing.holds
    (Scope.kept_unsaved stores _)
    (Scope.executeRun_kept rfl fuel stores valid available)
  have ready : (callScope env service runId earlier (.execute graph) graph).Ready made.1.history := by
    rcases stored with ready | ⟨id, state, refused⟩
    · exact ready
    · have impossible := saved _ refused
      simp [Entry.refusesSave] at impossible
  have current : currentGraph service (made.1 :: earlier) = some graph := currentGraph_starts here
  refine ⟨⟨holds, fun nothing => ?_, ?_⟩, fun nothing => ?_, ?_, ?_⟩
  · simp [current] at nothing
  · intro graph' same
    rw [current, Option.some.injEq] at same
    subst same
    exact ⟨nodup, Scope.Kept.continues (continues_done made.1) ready kept⟩
  · simp [current] at nothing
  · intro graph' same
    rw [current, Option.some.injEq] at same
    subst same
    exact owed
  · intro graph' same
    rw [current, Option.some.injEq] at same
    subst same
    exact returned

theorem continued_keeps (fuel : Nat) {earlier : List Done} {request : Call} {w : World}
    {graph : ExecutionGraph} (standing : Standing env service runId earlier w)
    (starts : request.starts service = none) (working : ∀ other, request ≠ .execute other)
    (current : currentGraph service earlier = some graph) (fixed : FixedIds graph) :
    let made := makeCall env service fuel runId request w
    Standing env service runId (made.1 :: earlier) made.2 ∧
      Shown env service runId earlier made.1 := by
  intro made
  have here : made.1.call.starts service = none := starts
  obtain ⟨nodup, before⟩ := standing.kept graph current
  have sound : (callScope env service runId earlier request graph).Sound :=
    callScope_sound nodup fixed
  have stored : (callScope env service runId earlier request graph).storesGraph = false := by
    simp [callScope, starts]
  have ready : ∀ history, (callScope env service runId earlier request graph).Ready history := by
    intro history stores
    rw [stored] at stores
    cases stores
  have kept : (callScope env service runId earlier request graph).Kept (w.control runId) [] :=
    before.continues (continues_call starts) (fun stores => by simp [standingScope] at stores)
  have proof : (request.program service fuel runId).wp
      (callScope env service runId earlier request graph).protocol
      (Program.Returns (callScope env service runId earlier request graph).Closed) [] := by
    cases request with
    | execute other => exact absurd rfl (working other)
    | resume => exact Scope.resumeRun_kept rfl fuel ⟨ready [], rfl⟩
    | approve nodeId approved comment =>
      refine Scope.approveNode_kept rfl fuel nodeId approved comment ?_ (ready [])
      intro given
      exact (approvedSince_continues starts).mpr (Or.inl ⟨rfl, given⟩)
    | retry nodeId => exact Scope.retryFailedNode_kept rfl fuel nodeId (ready [])
  obtain ⟨holds, after, owed, returned⟩ := run_protocol rfl sound standing.holds kept proof
  have current' : currentGraph service (made.1 :: earlier) = some graph :=
    (currentGraph_continues here).trans current
  refine ⟨⟨holds, fun nothing => ?_, ?_⟩, fun nothing => ?_, ?_, ?_⟩
  · simp [current'] at nothing
  · intro graph' same
    rw [current', Option.some.injEq] at same
    subst same
    exact ⟨nodup, Scope.Kept.continues (continues_done made.1) (ready _) after⟩
  · simp [current'] at nothing
  · intro graph' same
    rw [current', Option.some.injEq] at same
    subst same
    exact owed
  · intro graph' same
    rw [current', Option.some.injEq] at same
    subst same
    exact returned

/-- One more call, whichever it is. -/
theorem call_keeps (fuel : Nat) {earlier : List Done} {request : Call} {w : World}
    (standing : Standing env service runId earlier w)
    (fixed : ∀ graph, currentGraph service
      ((makeCall env service fuel runId request w).1 :: earlier) = some graph → FixedIds graph)
    (saved : ∀ entry ∈ (makeCall env service fuel runId request w).1.history,
      entry.refusesSave = false) :
    let made := makeCall env service fuel runId request w
    Standing env service runId (made.1 :: earlier) made.2 ∧
      Shown env service runId earlier made.1 := by
  cases starts : request.starts service with
  | some graph =>
    exact started_keeps fuel standing starts (fixed graph (currentGraph_starts starts)) saved
  | none =>
    have further : currentGraph service
        ((makeCall env service fuel runId request w).1 :: earlier) = currentGraph service earlier :=
      currentGraph_continues starts
    rw [further] at fixed
    cases current : currentGraph service earlier with
    | none =>
      have unstored := standing.unstored current
      refine idle_keeps fuel standing starts ?_
      cases request with
      | execute graph =>
        intro accepted
        simp [Call.starts, accepted] at starts
      | resume => exact unstored
      | approve nodeId approved comment => exact unstored
      | retry nodeId => exact unstored
    | some graph =>
      cases request with
      | execute other =>
        refine idle_keeps fuel standing starts ?_
        intro accepted
        simp [Call.starts, accepted] at starts
      | resume => exact continued_keeps fuel standing starts (by simp) current (fixed graph current)
      | approve nodeId approved comment =>
        exact continued_keeps fuel standing starts (by simp) current (fixed graph current)
      | retry nodeId =>
        exact continued_keeps fuel standing starts (by simp) current (fixed graph current)

end standing

/-! Any number of calls. -/

section run
variable [PyRuntime] {env : Env} {service : OrchestratorService} {runId : String}

/-- Redaction leaves the ids of every graph alone that a call starts to execute. -/
def KeepsIds (service : OrchestratorService) (requests : List Call) : Prop :=
  ∀ request ∈ requests, ∀ graph, request.starts service = some graph → FixedIds graph

/-- Redaction has refused no state that a call was to save. -/
def NoneRefused (log : List Done) : Prop :=
  ∀ done ∈ log, ∀ entry ∈ done.history, entry.refusesSave = false

instance (log : List Done) : Decidable (NoneRefused log) :=
  inferInstanceAs (Decidable (∀ done ∈ log, ∀ entry ∈ done.history, entry.refusesSave = false))

theorem currentGraph_fixed (fuel : Nat) {requests : List Call} {w : World}
    (fixed : KeepsIds service requests) {graph : ExecutionGraph}
    (current : currentGraph service (runCalls env service fuel runId requests w).1 = some graph) :
    FixedIds graph := by
  induction requests with
  | nil => simp [runCalls, currentGraph] at current
  | cons request earlier ih =>
    simp only [runCalls, currentGraph] at current
    split at current
    · rename_i started starts
      simp only [Option.some.injEq] at current
      subst current
      exact fixed request List.mem_cons_self started starts
    · exact ih (fun other member => fixed other (List.mem_cons_of_mem _ member)) current

/-- After any calls the next one may rely on the store, and every call of the log has
    shown what it owes. -/
theorem runCalls_keep (fuel : Nat) {requests : List Call} {w : World} (holds : w.Holds runId)
    (unstored : (w.control runId).checkpoint = none) (fixed : KeepsIds service requests)
    (saved : NoneRefused (runCalls env service fuel runId requests w).1) :
    Standing env service runId (runCalls env service fuel runId requests w).1
        (runCalls env service fuel runId requests w).2 ∧
      ∀ later done earlier,
        (runCalls env service fuel runId requests w).1 = later ++ done :: earlier →
          Shown env service runId earlier done := by
  induction requests with
  | nil => exact ⟨standing_nil holds unstored, by simp [runCalls]⟩
  | cons request earlier ih =>
    obtain ⟨standing, shown⟩ := ih
      (fun other member => fixed other (List.mem_cons_of_mem _ member))
      (fun done member => saved done (List.mem_cons_of_mem _ member))
    obtain ⟨standing', shown'⟩ := call_keeps fuel standing
      (fun graph current => currentGraph_fixed fuel fixed current)
      (saved _ List.mem_cons_self)
    refine ⟨standing', ?_⟩
    intro later done before split
    cases later with
    | nil =>
      simp only [runCalls, List.nil_append, List.cons.injEq] at split
      obtain ⟨rfl, rfl⟩ := split
      exact shown'
    | cons first later =>
      simp only [runCalls, List.cons_append, List.cons.injEq] at split
      exact shown later done before split.2

end run

/-! A run to make calls on. -/

section sample
variable [PyRuntime]

def newWorld : World := ⟨(createRun "Review the spend" [] none "1" "trace" 0 Repo.init).2, 0⟩

end sample

def analysts : OrchestratorService where
  agentTypes := ["analyst"]
  agents := ["analyst"]

/-- A clock that ticks, agents that answer as told, no planner. -/
def steadyEnv (registry : ToolPermissionRegistry) (agent : AgentInput → AgentStatus) : Env where
  clock tick reading := 1000 * tick + reading
  uuid tick := toString tick
  traceId _ := none
  registry := registry
  agent _ _ input := { result := .ok { status := agent input, summary := "done" } }
  planner _ _ _ := .error .typeError

end Orchestration
