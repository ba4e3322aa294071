import AeaiOs.CheckpointRoundTrip
import AeaiOs.NodeRecords

/-!
The legal writes of one control call that nobody disturbs: which record may follow
which, on what an agent is asked, and what the store keeps as long as every step is
legal.
-/
namespace Orchestration
open OrderedDict PyText CivilTime AtomicProgram ExceptLists RunValues RunModels Redaction
open InMemoryRunRepository
  ToolPolicy

/-- Every dependency of a record is completed. -/
def DepsDone (nodes : List GraphNodeRecord) (node : GraphNodeRecord) : Prop :=
  ∀ dependency ∈ node.dependsOn,
    ∃ record, recordOf nodes dependency = some record ∧ record.status = .completed

/-- The call has written no record so far. -/
def Unwritten (history : List Entry) : Prop := ∀ node, .upserted node ∉ history

/-- The call has put no node to wait. -/
def NotPaused (history : List Entry) : Prop :=
  ∀ node, .upserted node ∈ history → node.status ≠ .waitingForApproval

/-- The agent has not been asked since the last write of a record. -/
def Untried (history : List Entry) : Prop :=
  ∀ agentType input, .agentStarted agentType input ∉ attempt history

def Entry.answers (nodeId : String) (status : AgentStatus) : Entry → Bool
  | .agentAnswered input given => decide (input.nodeId = nodeId ∧ given = status)
  | _ => false

/-- How often the agent of a node has given an answer. -/
def answersOf (nodeId : String) (status : AgentStatus) (history : List Entry) : Nat :=
  history.countP (Entry.answers nodeId status)

def Entry.refuses : Entry → Bool
  | .saveRefused _ _ => true
  | .writeRefused _ => true
  | _ => false

/-- The record has the task of a planned node. -/
structure TaskOf (node : GraphNodeRecord) (planned : ExecutionNode) : Prop where
  agentType : node.agentType = planned.agent
  dependsOn : node.dependsOn = planned.dependsOn
  requiredTools : node.requiredTools = planned.requiredTools

/-- What a call may rely on and what it is held to. -/
structure Law where
  runId : String
  maxAttempts : Nat
  registry : ToolPermissionRegistry
  /-- The nodes of the graph that the run executes. -/
  tasks : List ExecutionNode
  /-- The call stores the graph before it does anything else. -/
  stores : Bool
  /-- The checkpoint that it finds. -/
  found : Option LangGraphRunState
  /-- The ids that the records of the run have. -/
  records : List String
  /-- The ids that a plan may consist of. -/
  fit : List String → Prop
  /-- The plan's nodes are the counted ones; `bound` attempts are left to them. -/
  counts : Prop
  counted : List String
  bound : Nat
  answers : AgentInput → AgentStatus → Prop
  /-- How many failures of a node may be left over from earlier calls. -/
  scarred : Nat
  /-- Nothing but a refused write makes the call raise, and no tool is refused. -/
  strict : Prop

namespace Law

def Storing (law : Law) (history : List Entry) : Prop :=
  law.stores = true ∧ ∀ runId state, .saved runId state ∉ history

/-- A state that a checkpoint of the run may hold. -/
structure Fits [UnicodeDatabase] (law : Law) (history : List Entry) (state : LangGraphRunState) :
    Prop where
  plan : law.fit (state.plan.map PlanItem.id)
  blamed : law.strict → ∀ id stored, state.errors.get? id = some stored →
    1 ≤ law.scarred + answersOf id .failed history
  legible : ∀ id text, state.errors.get? id = some (.text text) → isSensitiveKey id = true

/-- The records of the graph have been written. -/
def SetUp (law : Law) (history : List Entry) : Prop :=
  ∀ planned ∈ law.tasks, ∃ now, .upserted (initialRecord law.runId now planned) ∈ history

/-- The writes of a record, by what the call has read or been told before. -/
inductive Moves (law : Law) (c : Control) (history : List Entry) (old : GraphNodeRecord) :
    GraphNodeRecord → Prop
  | start (started : Time) (open' : old.status = .pending ∨ old.status = .failed)
      (left : old.retryCount < law.maxAttempts) (ready : DepsDone c.nodes old)
      (planned : ∃ ids, law.fit ids ∧ old.id ∈ ids) (idle : phase history = .idle)
      (notPaused : NotPaused history) : Moves law c history old (runningRecord old started)
  | complete (finished updated : Time) (running : old.status = .running)
      (answered : phase history = .answered old.id .succeeded) :
      Moves law c history old
        { old with status := .completed, finishedAt := some finished, updatedAt := updated }
  | pause (updated : Time) (running : old.status = .running)
      (asked : phase history = .executing old.id ∧ Untried history ∧ ¬ law.strict ∨
        phase history = .answered old.id .waitingForApproval) :
      Moves law c history old { old with status := .waitingForApproval, updatedAt := updated }
  | fail (finished : Option Time) (updated : Time) (running : old.status = .running)
      (asked : phase history = .executing old.id ∧ Untried history ∧ ¬ law.strict ∨
        phase history = .answered old.id .failed) :
      Moves law c history old
        { old with
          status := if old.retryCount + 1 < law.maxAttempts then .pending else .failed
          retryCount := old.retryCount + 1
          finishedAt := finished
          updatedAt := updated }
  | approve (updated : Time) (waiting : old.status = .waitingForApproval)
      (first : Unwritten history) :
      Moves law c history old { old with status := .pending, updatedAt := updated }
  | deny (finished updated : Time) (waiting : old.status = .waitingForApproval)
      (first : Unwritten history) :
      Moves law c history old
        { old with status := .failed, finishedAt := some finished, updatedAt := updated }
  | retry (updated : Time) (failed : old.status = .failed) (first : Unwritten history)
      (within : attemptsLeft law.maxAttempts
        (upserted
          { old with status := .pending, retryCount := 0, finishedAt := none, updatedAt := updated }
          c.nodes) law.counted ≤ law.bound) :
      Moves law c history old
        { old with status := .pending, retryCount := 0, finishedAt := none, updatedAt := updated }

section moves
variable {law : Law} {c : Control} {history : List Entry} {old new : GraphNodeRecord}

theorem Moves.same (moves : law.Moves c history old new) :
    new.id = old.id ∧ new.runId = old.runId ∧ new.agentType = old.agentType ∧
      new.dependsOn = old.dependsOn ∧ new.requiredTools = old.requiredTools := by
  cases moves <;> exact ⟨rfl, rfl, rfl, rfl, rfl⟩

theorem Moves.task (moves : law.Moves c history old new) {planned : ExecutionNode}
    (task : TaskOf old planned) : TaskOf new planned := by
  obtain ⟨-, -, agent, depends, tools⟩ := moves.same
  exact ⟨agent.trans task.agentType, depends.trans task.dependsOn, tools.trans task.requiredTools⟩

/-- A completed record is never written again. -/
theorem Moves.not_completed (moves : law.Moves c history old new) : old.status ≠ .completed := by
  intro done
  cases moves with
  | start _ open' => rcases open' with h | h <;> rw [done] at h <;> cases h
  | complete _ _ running => rw [done] at running; cases running
  | pause _ running => rw [done] at running; cases running
  | fail _ _ running => rw [done] at running; cases running
  | approve _ waiting => rw [done] at waiting; cases waiting
  | deny _ _ waiting => rw [done] at waiting; cases waiting
  | retry _ failed => rw [done] at failed; cases failed

end moves

/-- The steps that are legal. -/
def Asks [UnicodeDatabase] (law : Law) : {β : Type} → Op β → Control → List Entry → Prop
  | _, .utcNow, _, _ => True
  | _, .uuid4, _, _ => True
  | _, .currentTraceId, _, _ => True
  | _, .getRun id, _, _ => id = law.runId
  | _, .updateStatus id _ _, _, _ => id = law.runId
  | _, .getArtifact id _, _, _ => id = law.runId
  | _, .upsertGraphNode node, c, history =>
      node.runId = law.runId ∧
        (law.Storing history → ∃ planned ∈ law.tasks, ∃ now,
          node = initialRecord law.runId now planned) ∧
        (¬ law.Storing history → ∃ old, recordOf c.nodes node.id = some old ∧
          law.Moves c history old node)
  | _, .getGraphNode id _, _, _ => id = law.runId
  | _, .listGraphNodes id, _, _ => id = law.runId
  | _, .addEvent event, _, _ => event.runId = law.runId
  | _, .saveCheckpoint id state, c, history =>
      id = law.runId ∧ law.Fits history state ∧
        (law.Storing history → law.SetUp history ∧
          attemptsLeft law.maxAttempts c.nodes law.counted ≤ law.bound)
  | _, .getCheckpoint id, _, _ => id = law.runId
  | _, .evaluateTool _ _ _ _, _, _ => True
  | _, .agentStart agentType input, c, history =>
      ¬ law.Storing history ∧ phase history = .executing input.nodeId ∧ Untried history ∧
        ∃ node, recordOf c.nodes input.nodeId = some node ∧ node.status = .running ∧
          node.agentType = agentType ∧ DepsDone c.nodes node
  | _, .agentFinish _ input, _, history =>
      ¬ law.Storing history ∧ phase history = .executing input.nodeId
  | _, _, _, _ => False

/-- What the store keeps while the call does nothing else. -/
structure Inv [UnicodeDatabase] (law : Law) (c : Control) (history : List Entry) : Prop where
  nodup : (idsOf c.nodes).Nodup
  own : ∀ node ∈ c.nodes, node.runId = law.runId
  known : ∀ id ∈ idsOf c.nodes, id ∈ law.records
  plan : ¬ law.Storing history → ∀ state, c.checkpoint = some state → law.Fits history state
  unsaved : law.Storing history → c.checkpoint = law.found
  tasks : ∀ planned ∈ law.tasks,
    (law.stores = true → ∃ now, .upserted (initialRecord law.runId now planned) ∈ history) →
      ∃ node, recordOf c.nodes planned.id = some node ∧ TaskOf node planned

def Answered (law : Law) : Entry → Prop
  | .agentAnswered input status => law.answers input status
  | _ => True

def work [PyRuntime] (law : Law) : Behaviour Op PyError (Control × List Entry) where
  asks op s := law.Asks op s.1 s.2
  allows op s answer s' :=
    controlAllows law.registry law.runId op s.1 answer s'.1 ∧
      s'.2 = record (describe op answer) s.2 ∧ law.Inv s'.1 s'.2 ∧
      ∀ entry ∈ describe op answer, law.Answered entry

/-- What the plans and the records of a run have to be like. -/
structure Sound [UnicodeDatabase] (law : Law) : Prop where
  redacts : ∀ ids ids', law.fit ids → redactTexts ids = .ok ids' → law.fit ids'
  apart : ∀ ids, law.fit ids → (ids.filter (· ∈ law.records)).Nodup
  known : ∀ planned ∈ law.tasks, planned.id ∈ law.records
  unique : (law.tasks.map ExecutionNode.id).Nodup
  limit : 0 < law.maxAttempts
  counted : law.counts → law.counted.Nodup ∧
    ∀ ids, law.fit ids → ∀ id ∈ ids, id ∈ law.records → id ∈ law.counted

end Law

/-! Histories that grow. -/

theorem answersOf_grow {nodeId : String} {status : AgentStatus} {history history' : List Entry}
    (grown : history <:+ history') :
    answersOf nodeId status history ≤ answersOf nodeId status history' :=
  grown.sublist.countP_le

theorem redactPlan_texts [UnicodeDatabase] {plan plan' : List PlanItem}
    (h : redactPlan plan = .ok plan') :
    redactTexts (plan.map PlanItem.id) = .ok (plan'.map PlanItem.id) := by
  induction plan generalizing plan' with
  | nil =>
    simp only [redactPlan, Except.ok.injEq] at h
    rw [← h]
    rfl
  | cons item rest ih =>
    obtain ⟨item', rest', first, later, rfl⟩ := redactPlan_cons h
    simp only [List.map_cons, redactTexts, bind_eq_ok, pure_eq_ok]
    exact ⟨item'.id, (redactPlanItem_ok first).1, _, ih later, rfl⟩

namespace Law
variable [UnicodeDatabase] {law : Law} {c : Control} {history : List Entry}

theorem Fits.grow {history' : List Entry} {state : LangGraphRunState} (grown : history <:+ history')
    (fits : law.Fits history state) : law.Fits history' state where
  plan := fits.plan
  blamed strict id stored found := by
    have before := fits.blamed strict id stored found
    have more : answersOf id .failed history ≤ answersOf id .failed history' := answersOf_grow grown
    omega
  legible := fits.legible

/-- Only the plan and the errors matter. -/
theorem Fits.like {state before : LangGraphRunState} (fits : law.Fits history state)
    (plan : before.plan = state.plan) (errors : before.errors = state.errors) :
    law.Fits history before := by
  refine ⟨plan ▸ fits.plan, ?_, ?_⟩
  · rw [errors]
    exact fits.blamed
  · rw [errors]
    exact fits.legible

/-- What redaction leaves of a state fits like the state. -/
theorem Fits.redacted {state stored : LangGraphRunState} (sound : law.Sound)
    (fits : law.Fits history state) (h : redactState state = .ok stored) :
    law.Fits history stored := by
  have fields := redactState_ok h
  refine ⟨sound.redacts _ _ fits.plan (redactPlan_texts fields.plan), ?_, ?_⟩
  · intro strict id texts found
    obtain ⟨before, known, -⟩ := Dict.get?_of_traverse fields.errors found
    exact fits.blamed strict id before known
  · intro id text found
    obtain ⟨before, known, rewritten⟩ := Dict.get?_of_traverse fields.errors found
    unfold redactStoredTexts at rewritten
    split at rewritten
    · assumption
    · cases before with
      | items texts =>
        cases texts' : redactTexts texts with
        | error e => simp [texts', Except.map] at rewritten
        | ok texts' => simp [texts', Except.map] at rewritten
      | text old => exact fits.legible id old known

/-! What one legal step keeps. -/

omit [UnicodeDatabase] in
theorem storing_cons_iff {entry : Entry} (other : ∀ runId state, entry ≠ .saved runId state) :
    law.Storing (entry :: history) ↔ law.Storing history := by
  unfold Storing
  refine and_congr_right fun _ => forall_congr' fun runId => forall_congr' fun state => ?_
  simp only [List.mem_cons, not_or]
  exact ⟨And.right, fun absent => ⟨fun same => other runId state same.symm, absent⟩⟩

/-- An entry that writes no record and saves no state. -/
theorem Inv.noted {entry : Entry} (inv : law.Inv c history)
    (unwritten : ∀ node, entry ≠ .upserted node)
    (unsaved : ∀ runId state, entry ≠ .saved runId state) : law.Inv c (entry :: history) := by
  have same : law.Storing (entry :: history) ↔ law.Storing history := storing_cons_iff unsaved
  refine ⟨inv.nodup, inv.own, inv.known, ?_, fun storing => inv.unsaved (same.mp storing), ?_⟩
  · intro saved state stored
    exact (inv.plan (fun storing => saved (same.mpr storing)) state stored).grow (List.suffix_cons _ _)
  · intro planned member written
    refine inv.tasks planned member fun stores => ?_
    obtain ⟨now, inside⟩ := written stores
    rcases List.mem_cons.mp inside with here | old
    · exact absurd here.symm (unwritten _)
    · exact ⟨now, old⟩

theorem Inv.status {status : RunStatus} (inv : law.Inv c history) :
    law.Inv { c with status } history :=
  ⟨inv.nodup, inv.own, inv.known, inv.plan, inv.unsaved, inv.tasks⟩

theorem Inv.save {state stored : LangGraphRunState} {runId : String} (inv : law.Inv c history)
    (sound : law.Sound) (fits : law.Fits history state) (h : redactState state = .ok stored) :
    law.Inv { c with checkpoint := some stored } (.saved runId state :: history) := by
  refine ⟨inv.nodup, inv.own, inv.known, ?_, ?_, ?_⟩
  · intro _ state' found
    simp only [Option.some.injEq] at found
    rw [← found]
    exact (fits.redacted sound h).grow (List.suffix_cons _ _)
  · intro storing
    exact absurd List.mem_cons_self (storing.2 runId state)
  · intro planned member written
    refine inv.tasks planned member fun stores => ?_
    obtain ⟨now, entry⟩ := written stores
    exact ⟨now, by simpa using entry⟩

/-- A write of a record of the run. -/
theorem Inv.write {node : GraphNodeRecord} (inv : law.Inv c history) (own : node.runId = law.runId)
    (known : node.id ∈ law.records)
    (task : ∀ planned ∈ law.tasks, planned.id = node.id →
      (law.stores = true → ∃ now,
        .upserted (initialRecord law.runId now planned) ∈ Entry.upserted node :: history) →
      TaskOf node planned) :
    law.Inv { c with nodes := upserted node c.nodes } (.upserted node :: history) := by
  have same : law.Storing (.upserted node :: history) ↔ law.Storing history :=
    storing_cons_iff (by simp)
  refine ⟨upserted_nodup node inv.nodup, ?_, ?_, ?_, fun storing => inv.unsaved (same.mp storing), ?_⟩
  · intro other member
    rcases (mem_upserted inv.nodup).mp member with new | ⟨old, -⟩
    · rw [new]
      exact own
    · exact inv.own other old
  · intro id member
    obtain ⟨other, inside, same⟩ := List.mem_map.mp member
    rw [← same]
    rcases (mem_upserted inv.nodup).mp inside with new | ⟨old, -⟩
    · rw [new]
      exact known
    · exact inv.known other.id (List.mem_map_of_mem old)
  · intro saved state stored
    exact (inv.plan (fun storing => saved (same.mpr storing)) state stored).grow (List.suffix_cons _ _)
  · intro planned member written
    rw [recordOf_upserted]
    by_cases here : node.id = planned.id
    · exact ⟨node, if_pos here, task planned member here.symm written⟩
    · rw [if_neg here]
      refine inv.tasks planned member fun stores => ?_
      obtain ⟨now, entry⟩ := written stores
      rcases List.mem_cons.mp entry with head | old
      · simp only [Entry.upserted.injEq] at head
        exact absurd (congrArg GraphNodeRecord.id head).symm here
      · exact ⟨now, old⟩

/-- The setup of an execution writes the records of its graph as they are planned. -/
theorem Inv.setup {node : GraphNodeRecord} (inv : law.Inv c history) (sound : law.Sound)
    {planned : ExecutionNode} (member : planned ∈ law.tasks) {now : Time}
    (initial : node = initialRecord law.runId now planned) :
    law.Inv { c with nodes := upserted node c.nodes } (.upserted node :: history) := by
  subst initial
  refine inv.write rfl (sound.known planned member) ?_
  intro other inside same _
  have unique : other = planned := List.inj_on_of_nodup_map sound.unique inside member same
  rw [unique]
  exact ⟨rfl, rfl, rfl⟩

theorem Inv.move {node old : GraphNodeRecord} (inv : law.Inv c history)
    (found : recordOf c.nodes node.id = some old) (moves : law.Moves c history old node) :
    law.Inv { c with nodes := upserted node c.nodes } (.upserted node :: history) := by
  have inside := mem_of_recordOf found
  obtain ⟨sameId, sameRun, -⟩ := moves.same
  refine inv.write (sameRun.trans (inv.own old inside)) ?_ ?_
  · rw [sameId]
    exact inv.known old.id (List.mem_map_of_mem inside)
  · intro planned member same written
    by_cases initial : ∃ now, node = initialRecord law.runId now planned
    · obtain ⟨now, rfl⟩ := initial
      exact ⟨rfl, rfl, rfl⟩
    · obtain ⟨stored, search, task⟩ := inv.tasks planned member fun stores => by
        obtain ⟨now, entry⟩ := written stores
        rcases List.mem_cons.mp entry with head | before
        · simp only [Entry.upserted.injEq] at head
          exact absurd ⟨now, head.symm⟩ initial
        · exact ⟨now, before⟩
      rw [same, found, Option.some.injEq] at search
      subst search
      exact moves.task task

end Law

/-! The store of a call whose steps are legal. -/

namespace Law
variable [PyRuntime] {law : Law} {c c' : Control} {history : List Entry}

theorem Inv.step (sound : law.Sound) {op : Op β} {answer : Except PyError β}
    (inv : law.Inv c history) (asked : law.Asks op c history)
    (allowed : controlAllows law.registry law.runId op c answer c') :
    law.Inv c' (record (describe op answer) history) := by
  cases op with
  | utcNow =>
    obtain ⟨rfl, now, rfl⟩ := allowed
    exact inv
  | uuid4 =>
    obtain ⟨rfl, id, rfl⟩ := allowed
    exact inv
  | currentTraceId =>
    obtain ⟨rfl, id, rfl⟩ := allowed
    exact inv
  | getRun id =>
    obtain ⟨rfl, told⟩ := allowed
    obtain ⟨run, rfl, -⟩ := told asked
    exact inv
  | updateStatus id status errorSummary =>
    have told := allowed.2 asked
    split at told
    · obtain ⟨rfl, run, rfl⟩ := told
      exact inv.status.noted (by simp) (by simp)
    · obtain ⟨rfl, rfl⟩ := told
      exact inv.noted (by simp) (by simp)
  | getArtifact id artifactId =>
    obtain ⟨rfl, -⟩ := allowed
    cases answer <;> exact inv
  | upsertGraphNode node =>
    obtain ⟨own, setup, moves⟩ := asked
    obtain ⟨rfl, rfl⟩ := allowed.2 own
    by_cases storing : law.Storing history
    · obtain ⟨planned, member, now, initial⟩ := setup storing
      exact inv.setup sound member initial
    · obtain ⟨old, found, legal⟩ := moves storing
      exact inv.move found legal
  | getGraphNode id nodeId =>
    obtain ⟨rfl, -⟩ := allowed
    cases answer <;> exact inv
  | listGraphNodes id =>
    obtain ⟨rfl, -⟩ := allowed
    cases answer with
    | ok nodes => exact inv.noted (by simp) (by simp)
    | error e => exact inv
  | addEvent event =>
    have same : c' = c := allowed
    subst same
    cases answer with
    | ok stored => exact inv
    | error e => exact inv.noted (by simp) (by simp)
  | saveCheckpoint id state =>
    obtain ⟨own, fits, -⟩ := asked
    have told := allowed.2 own
    split at told
    · rename_i stored h
      obtain ⟨rfl, saved, rfl⟩ := told
      exact inv.save sound fits h
    · obtain ⟨rfl, rfl⟩ := told
      exact inv.noted (by simp) (by simp)
  | getCheckpoint id =>
    obtain ⟨rfl, -⟩ := allowed
    cases answer <;> exact inv
  | evaluateTool tool inputSummary approved context =>
    obtain ⟨rfl, rfl⟩ := allowed
    exact inv.noted (by simp) (by simp)
  | agentStart agentType input =>
    obtain ⟨rfl, rfl⟩ := allowed
    exact inv.noted (by simp) (by simp)
  | agentFinish agentType input =>
    obtain ⟨rfl, result, rfl⟩ := allowed
    exact inv.noted (by simp) (by simp)
  | enqueueWorkflowJob _ _ _ _ => exact False.elim asked
  | listWorkflowJobs _ _ => exact False.elim asked
  | claimNextWorkflowJob _ _ _ => exact False.elim asked
  | heartbeatWorkflowJob _ _ => exact False.elim asked
  | completeWorkflowJob _ _ => exact False.elim asked
  | failWorkflowJob _ _ _ _ => exact False.elim asked
  | retryDeadLetterWorkflowJob _ _ => exact False.elim asked
  | createPlan _ _ => exact False.elim asked

/-- The agents of the environment answer only as the law says. -/
def Believes (law : Law) (env : Env) : Prop :=
  ∀ tick agentType input, law.answers input (AgentAnswer.status (env.agent tick agentType input).result)

theorem answered_exec (env : Env) (believes : law.Believes env) (op : Op β) (w : World) :
    ∀ entry ∈ describe op (exec env op w).1, law.Answered entry := by
  intro entry noted
  cases entry with
  | agentAnswered input status =>
    cases op with
    | agentFinish agentType asked =>
      simp only [exec, describe, Option.mem_def, Option.some.injEq, Entry.agentAnswered.injEq] at noted
      obtain ⟨rfl, rfl⟩ := noted
      exact believes w.tick agentType _
    | _ =>
      revert noted
      generalize (exec env _ w).1 = answer
      intro noted
      cases answer <;> simp [describe] at noted
  | _ => trivial

/-- What the handler does when a call asks for legal steps only. -/
theorem handler_work (env : Env) (registry : law.registry = env.registry)
    (believes : law.Believes env) (sound : law.Sound) :
    Simulates ((handler env).observed describe)
      (fun s => s.1.Holds law.runId ∧ law.Inv (s.1.control law.runId) s.2)
      (fun s => (s.1.control law.runId, s.2)) law.work := by
  rintro β op ⟨w, history⟩ ⟨holds, inv⟩ asked
  obtain ⟨holds', allowed⟩ := exec_control env law.runId op w holds trivial
  have allowed' : controlAllows law.registry law.runId op (w.control law.runId)
      ((handler env).handle op w).1 (((handler env).handle op w).2.control law.runId) := by
    rw [registry]
    exact allowed
  have inv' := inv.step sound asked allowed'
  exact ⟨⟨holds', inv'⟩, allowed', rfl, inv', answered_exec env believes op w⟩

end Law
end Orchestration
