import AeaiOs.CallRuns

/-!
What has been told of a run, beside what its store has: the last record written for
a node is the stored one, a node that an agent works on is running, and a success is
never followed by another attempt.
-/
namespace Orchestration
open OrderedDict PyText CivilTime AtomicProgram RunValues RunModels Redaction InMemoryRunRepository
  ToolPolicy

/-- The phase is about this node. -/
def Phase.concerns (id : String) : Phase → Prop
  | .idle => False
  | .executing nodeId => nodeId = id
  | .answered nodeId _ => nodeId = id

/-- Everything that the calls of a log have done, newest first. -/
def trail (log : List Done) : List Entry := log.flatMap Done.history

/-- The entries that tell neither of a record nor of an answer. -/
def Entry.plain : Entry → Bool
  | .upserted _ => false
  | .agentAnswered _ _ => false
  | _ => true

section plain
variable {entry : Entry} (plain : entry.plain = true) (history : List Entry)
include plain

theorem phase_plain : phase (entry :: history) = phase history := by
  cases entry with
  | upserted node => simp [Entry.plain] at plain
  | agentAnswered input status => simp [Entry.plain] at plain
  | _ => rfl

theorem recordAt_plain (id : String) : recordAt (entry :: history) id = recordAt history id := by
  cases entry with
  | upserted node => simp [Entry.plain] at plain
  | _ => rfl

theorem answersOf_plain (id : String) (status : AgentStatus) :
    answersOf id status (entry :: history) = answersOf id status history := by
  cases entry with
  | agentAnswered input given => simp [Entry.plain] at plain
  | _ => simp [answersOf, Entry.answers]

end plain

/-- The success of a node, told once; its record is completed, or still running where the
    call that was told has gone no further. -/
def SucceededOnce (nodes : List GraphNodeRecord) (phase : Phase) (id : String) : Prop :=
  ∃ node, recordOf nodes id = some node ∧
    (node.status = .completed ∨
      node.status = .running ∧ (phase = .answered id .succeeded ∨ ¬ phase.concerns id))

/-- What a call keeps of its trace; `past` has happened before it, `since` in the same
    execution. -/
structure Traced (law : Law) (past since : List Entry) (s : Control × List Entry) : Prop where
  records : ∀ id, recordOf s.1.nodes id = recordAt (s.2 ++ past) id
  running : ∀ id, (phase s.2).concerns id →
    ∃ node, recordOf s.1.nodes id = some node ∧ node.status = .running
  unasked : law.Storing s.2 → ∀ id status, answersOf id status (s.2 ++ since) = 0
  succeeded : ∀ id, answersOf id .succeeded (s.2 ++ since) = 0 ∨
    answersOf id .succeeded (s.2 ++ since) = 1 ∧ SucceededOnce s.1.nodes (phase s.2) id

namespace Law
variable {law : Law} {c : Control} {history past since : List Entry}

theorem storing_of_cons {entry : Entry} (storing : law.Storing (entry :: history)) :
    law.Storing history :=
  ⟨storing.1, fun runId state member => storing.2 runId state (List.mem_cons_of_mem _ member)⟩

end Law

section traced
variable {law : Law} {c : Control} {history past since : List Entry}

theorem Traced.noted {entry : Entry} {c' : Control} (traced : Traced law past since (c, history))
    (plain : entry.plain = true) (same : c'.nodes = c.nodes) :
    Traced law past since (c', entry :: history) where
  records id := by
    simp only [same, List.cons_append, recordAt_plain plain]
    exact traced.records id
  running id concerns := by
    simp only [phase_plain plain, same] at concerns ⊢
    exact traced.running id concerns
  unasked storing id status := by
    simp only [List.cons_append, answersOf_plain plain]
    exact traced.unasked (Law.storing_of_cons storing) id status
  succeeded id := by
    simp only [List.cons_append, answersOf_plain plain, phase_plain plain, same]
    exact traced.succeeded id

theorem answersOf_upserted (node : GraphNodeRecord) (id : String) (status : AgentStatus)
    (history : List Entry) :
    answersOf id status (.upserted node :: history) = answersOf id status history := by
  simp [answersOf, Entry.answers]

theorem phase_upserted_concerns {node : GraphNodeRecord} {id : String}
    (concerns : (phase (.upserted node :: history)).concerns id) :
    node.id = id ∧ node.status = .running := by
  unfold phase at concerns
  split at concerns
  · rename_i running
    exact ⟨concerns, running⟩
  · exact False.elim concerns

theorem Traced.recordsUpserted (traced : Traced law past since (c, history)) (node : GraphNodeRecord)
    (id : String) :
    recordOf (upserted node c.nodes) id = recordAt (.upserted node :: history ++ past) id := by
  have before : recordOf c.nodes id = recordAt (history ++ past) id := traced.records id
  rw [recordOf_upserted, before]
  rfl

/-- A write of the setup: nothing has been answered yet. -/
theorem Traced.setup {node : GraphNodeRecord} (traced : Traced law past since (c, history))
    (storing : law.Storing history) (pending : node.status = .pending) :
    Traced law past since
      ({ c with nodes := upserted node c.nodes }, .upserted node :: history) where
  records := traced.recordsUpserted node
  running id concerns := by
    have running := (phase_upserted_concerns concerns).2
    rw [pending] at running
    cases running
  unasked _ id status := by
    simp only [List.cons_append, answersOf_upserted]
    exact traced.unasked storing id status
  succeeded id := by
    apply Or.inl
    simp only [List.cons_append, answersOf_upserted]
    exact traced.unasked storing id .succeeded

/-- A node is paused or failed only while its agent has not succeeded. -/
theorem untold {id : String} {status : AgentStatus}
    (asked : phase history = .executing id ∧ Untried history ∧ ¬ law.strict ∨
      phase history = .answered id status)
    (other : status ≠ .succeeded)
    (place : phase history = .answered id .succeeded ∨ ¬ (phase history).concerns id) : False := by
  rcases asked with ⟨executing, -⟩ | answered
  · rw [executing] at place
    rcases place with told | apart
    · cases told
    · exact apart rfl
  · rw [answered] at place
    rcases place with told | apart
    · simp only [Phase.answered.injEq, true_and] at told
      exact other told
    · exact apart rfl

/-- Where a success has been told, the only move left is to complete the node. -/
theorem SucceededOnce.moved {old node : GraphNodeRecord} {id : String}
    (once : SucceededOnce c.nodes (phase history) id) (found : recordOf c.nodes node.id = some old)
    (moves : law.Moves c history old node) :
    SucceededOnce (upserted node c.nodes) (phase (.upserted node :: history)) id := by
  obtain ⟨record, stored, stands⟩ := once
  unfold SucceededOnce
  rw [recordOf_upserted]
  by_cases here : node.id = id
  · subst here
    rw [found, Option.some.injEq] at stored
    subst stored
    refine ⟨node, if_pos rfl, ?_⟩
    have sameId : old.id = node.id := recordOf_id found
    rcases stands with done | ⟨running, place⟩
    · exact absurd done moves.not_completed
    · cases moves with
      | start started open' =>
        rcases open' with h | h <;> rw [running] at h <;> cases h
      | complete finished updated _ answered => exact Or.inl rfl
      | pause updated _ asked => exact False.elim (untold asked (by simp) place)
      | fail finished updated _ asked => exact False.elim (untold asked (by simp) place)
      | approve _ waiting => rw [running] at waiting; cases waiting
      | deny _ _ waiting => rw [running] at waiting; cases waiting
      | retry _ failed => rw [running] at failed; cases failed
  · refine ⟨record, (if_neg here).trans stored, ?_⟩
    rcases stands with done | ⟨running, -⟩
    · exact Or.inl done
    · refine Or.inr ⟨running, Or.inr ?_⟩
      intro concerns
      exact here (phase_upserted_concerns concerns).1

theorem Traced.moved {old node : GraphNodeRecord} (traced : Traced law past since (c, history))
    (found : recordOf c.nodes node.id = some old) (moves : law.Moves c history old node)
    (saved : ¬ law.Storing history) :
    Traced law past since
      ({ c with nodes := upserted node c.nodes }, .upserted node :: history) where
  records := traced.recordsUpserted node
  running id concerns := by
    obtain ⟨here, running⟩ := phase_upserted_concerns concerns
    refine ⟨node, ?_, running⟩
    rw [recordOf_upserted]
    exact if_pos here
  unasked storing := absurd (Law.storing_of_cons storing) saved
  succeeded id := by
    simp only [List.cons_append, answersOf_upserted]
    rcases traced.succeeded id with none | ⟨one, once⟩
    · exact Or.inl none
    · exact Or.inr ⟨one, once.moved found moves⟩

/-- An answer comes from the agent of the running node. -/
theorem Traced.answered {input : AgentInput} {status : AgentStatus}
    (traced : Traced law past since (c, history))
    (executing : phase history = .executing input.nodeId) (saved : ¬ law.Storing history) :
    Traced law past since (c, .agentAnswered input status :: history) := by
  obtain ⟨record, stored, running⟩ := traced.running input.nodeId (by rw [executing]; rfl)
  refine
    { records := traced.records
      running := ?_
      unasked := fun storing => absurd (Law.storing_of_cons storing) saved
      succeeded := ?_ }
  · intro id concerns
    have same : input.nodeId = id := concerns
    subst same
    exact ⟨record, stored, running⟩
  · intro id
    have count : answersOf id .succeeded (.agentAnswered input status :: history ++ since) =
        answersOf id .succeeded (history ++ since) +
          if input.nodeId = id ∧ status = .succeeded then 1 else 0 := by
      simp [answersOf, Entry.answers, List.countP_cons]
    rw [count]
    by_cases here : input.nodeId = id
    · subst here
      -- a success that was told before has ended the attempt
      have fresh : answersOf input.nodeId .succeeded (history ++ since) = 0 := by
        rcases traced.succeeded input.nodeId with none | ⟨-, other, stored', stands⟩
        · exact none
        · exfalso
          rw [stored, Option.some.injEq] at stored'
          subst stored'
          rcases stands with done | ⟨-, told | apart⟩
          · rw [running] at done
            cases done
          · rw [executing] at told
            cases told
          · apply apart
            rw [executing]
            rfl
      by_cases success : status = .succeeded
      · subst success
        refine Or.inr ⟨by simp [fresh], record, stored, Or.inr ⟨running, Or.inl rfl⟩⟩
      · exact Or.inl (by simp [fresh, success])
    · simp only [here, false_and, if_false, Nat.add_zero]
      rcases traced.succeeded id with none | ⟨one, other, stored', stands⟩
      · exact Or.inl none
      · refine Or.inr ⟨one, other, stored', ?_⟩
        rcases stands with done | ⟨still, -⟩
        · exact Or.inl done
        · exact Or.inr ⟨still, Or.inr here⟩

end traced

/-! What one legal step does to the records and to the history. -/

inductive Effect (law : Law) (c : Control) (history : List Entry) : Control × List Entry → Prop
  | silent (c' : Control) (same : c'.nodes = c.nodes) : Effect law c history (c', history)
  | noted (c' : Control) (entry : Entry) (plain : entry.plain = true)
      (unstarted : entry.startsAgent = false) (unsaved : ∀ runId state, entry ≠ .saved runId state)
      (same : c'.nodes = c.nodes) : Effect law c history (c', entry :: history)
  | saved (c' : Control) (runId : String) (state : LangGraphRunState)
      (within : law.Storing history → law.SetUp history ∧
        attemptsLeft law.maxAttempts c.nodes law.counted ≤ law.bound)
      (same : c'.nodes = c.nodes) : Effect law c history (c', .saved runId state :: history)
  | setup (node : GraphNodeRecord) (storing : law.Storing history)
      (pending : node.status = .pending ∧ node.retryCount = 0) :
      Effect law c history ({ c with nodes := upserted node c.nodes }, .upserted node :: history)
  | moved (node old : GraphNodeRecord) (saved : ¬ law.Storing history)
      (found : recordOf c.nodes node.id = some old) (moves : law.Moves c history old node) :
      Effect law c history ({ c with nodes := upserted node c.nodes }, .upserted node :: history)
  | started (agentType : String) (input : AgentInput) (saved : ¬ law.Storing history)
      (executing : phase history = .executing input.nodeId) (untried : Untried history) :
      Effect law c history (c, .agentStarted agentType input :: history)
  | answered (input : AgentInput) (status : AgentStatus) (saved : ¬ law.Storing history)
      (executing : phase history = .executing input.nodeId) (given : law.answers input status) :
      Effect law c history (c, .agentAnswered input status :: history)

section step
variable [PyRuntime] {law : Law} {past since : List Entry}

theorem effect_of_step {op : Op β} {s s' : Control × List Entry} {answer : Except PyError β}
    (asked : law.Asks op s.1 s.2) (allowed : law.work.allows op s answer s') :
    Effect law s.1 s.2 s' := by
  obtain ⟨c, history⟩ := s
  obtain ⟨c', history'⟩ := s'
  obtain ⟨did, noted, -, answered⟩ := allowed
  simp only at did noted asked
  subst noted
  cases op with
  | utcNow =>
    obtain ⟨rfl, now, rfl⟩ := did
    exact .silent _ rfl
  | uuid4 =>
    obtain ⟨rfl, id, rfl⟩ := did
    exact .silent _ rfl
  | currentTraceId =>
    obtain ⟨rfl, id, rfl⟩ := did
    exact .silent _ rfl
  | getRun id =>
    obtain ⟨rfl, told⟩ := did
    obtain ⟨run, rfl, -⟩ := told asked
    exact .silent _ rfl
  | updateStatus id status errorSummary =>
    have told := did.2 asked
    split at told
    · obtain ⟨rfl, run, rfl⟩ := told
      exact .noted _ _ rfl rfl (by simp) rfl
    · obtain ⟨rfl, rfl⟩ := told
      exact .noted _ _ rfl rfl (by simp) rfl
  | getArtifact id artifactId =>
    obtain ⟨rfl, -⟩ := did
    cases answer <;> exact .silent _ rfl
  | upsertGraphNode node =>
    obtain ⟨own, setup, moves⟩ := asked
    obtain ⟨rfl, rfl⟩ := did.2 own
    by_cases storing : law.Storing history
    · obtain ⟨planned, -, now, initial⟩ := setup storing
      apply Effect.setup node storing
      rw [initial]
      exact ⟨rfl, rfl⟩
    · obtain ⟨old, found, legal⟩ := moves storing
      exact .moved node old storing found legal
  | getGraphNode id nodeId =>
    obtain ⟨rfl, -⟩ := did
    cases answer <;> exact .silent _ rfl
  | listGraphNodes id =>
    obtain ⟨rfl, -⟩ := did
    cases answer with
    | ok nodes => exact .noted _ _ rfl rfl (by simp) rfl
    | error e => exact .silent _ rfl
  | addEvent event =>
    have same : c' = c := did
    subst same
    cases answer with
    | ok stored => exact .silent _ rfl
    | error e => exact .noted _ _ rfl rfl (by simp) rfl
  | saveCheckpoint id state =>
    have told := did.2 asked.1
    split at told
    · obtain ⟨rfl, saved, rfl⟩ := told
      exact .saved _ _ _ asked.2.2 rfl
    · obtain ⟨rfl, rfl⟩ := told
      exact .noted _ _ rfl rfl (by simp) rfl
  | getCheckpoint id =>
    obtain ⟨rfl, -⟩ := did
    cases answer <;> exact .silent _ rfl
  | evaluateTool tool inputSummary approved context =>
    obtain ⟨rfl, rfl⟩ := did
    exact .noted _ _ rfl rfl (by simp) rfl
  | agentStart agentType input =>
    obtain ⟨rfl, rfl⟩ := did
    exact .started agentType input asked.1 asked.2.1 asked.2.2.1
  | agentFinish agentType input =>
    obtain ⟨rfl, result, rfl⟩ := did
    exact .answered input _ asked.1 asked.2 (answered _ rfl)
  | enqueueWorkflowJob _ _ _ _ => exact False.elim asked
  | listWorkflowJobs _ _ => exact False.elim asked
  | claimNextWorkflowJob _ _ _ => exact False.elim asked
  | heartbeatWorkflowJob _ _ => exact False.elim asked
  | completeWorkflowJob _ _ => exact False.elim asked
  | failWorkflowJob _ _ _ _ => exact False.elim asked
  | retryDeadLetterWorkflowJob _ _ => exact False.elim asked
  | createPlan _ _ => exact False.elim asked

omit [PyRuntime] in
/-- Every legal step keeps the trace. -/
theorem Traced.step {s s' : Control × List Entry} (traced : Traced law past since s)
    (effect : Effect law s.1 s.2 s') : Traced law past since s' := by
  obtain ⟨c, history⟩ := s
  cases effect with
  | silent c' same =>
    refine ⟨?_, ?_, traced.unasked, ?_⟩
    · rw [same]
      exact traced.records
    · rw [same]
      exact traced.running
    · rw [same]
      exact traced.succeeded
  | noted c' entry plain unstarted unsaved same => exact traced.noted plain same
  | saved c' runId state within same => exact traced.noted rfl same
  | setup node storing pending => exact traced.setup storing pending.1
  | moved node old saved found moves => exact traced.moved found moves saved
  | started agentType input saved executing untried => exact traced.noted rfl rfl
  | answered input status saved executing given => exact traced.answered executing saved

end step

/-! The attempts that are used up. -/

/-- How many agents a history has started. -/
def startsOf (history : List Entry) : Nat := history.countP Entry.startsAgent

/-- A node that an agent works on: it is in the plan, and an attempt is left to it. -/
structure Busy (law : Law) (nodes : List GraphNodeRecord) (node : GraphNodeRecord) : Prop where
  stored : recordOf nodes node.id = some node
  running : node.status = .running
  left : node.retryCount < law.maxAttempts
  counted : node.id ∈ law.counted

/-- The starts so far and the attempts left make up the bound; an attempt that has been
    tried is not used up before its end. -/
structure Metered (law : Law) (s : Control × List Entry) : Prop where
  unstarted : law.Storing s.2 → startsOf s.2 = 0 ∧ NotPaused s.2
  unwritten : Unwritten s.2 → startsOf s.2 = 0
  idle : phase s.2 = .idle → Untried s.2
  busy : ∀ id, (phase s.2).concerns id →
    NotPaused s.2 ∧ ∃ node, node.id = id ∧ Busy law s.1.nodes node
  within : ¬ law.Storing s.2 → Untried s.2 → NotPaused s.2 →
    startsOf s.2 + attemptsLeft law.maxAttempts s.1.nodes law.counted ≤ law.bound
  tried : ¬ law.Storing s.2 →
    startsOf s.2 + attemptsLeft law.maxAttempts s.1.nodes law.counted ≤ law.bound + 1
  paused : ¬ NotPaused s.2 → phase s.2 = .idle ∧
    1 ≤ attemptsLeft law.maxAttempts s.1.nodes law.counted

section metered
variable {law : Law} {c : Control} {history : List Entry}

theorem leftOf_le_attemptsLeft {limit : Nat} {nodes : List GraphNodeRecord} {id : String}
    {ids : List String} (member : id ∈ ids) : leftOf limit nodes id ≤ attemptsLeft limit nodes ids := by
  induction ids with
  | nil => cases member
  | cons first rest ih =>
    unfold attemptsLeft
    rcases List.mem_cons.mp member with here | later
    · subst here
      omega
    · have below := ih later
      omega

theorem Busy.attempts {nodes : List GraphNodeRecord} {node : GraphNodeRecord}
    (busy : Busy law nodes node) :
    leftOf law.maxAttempts nodes node.id = law.maxAttempts - node.retryCount := by
  unfold leftOf
  rw [busy.stored]
  simp [attemptsOf, busy.running]

theorem Busy.attemptsLeft {nodes : List GraphNodeRecord} {node : GraphNodeRecord}
    (busy : Busy law nodes node) : 1 ≤ attemptsLeft law.maxAttempts nodes law.counted := by
  have below : leftOf law.maxAttempts nodes node.id ≤
      Orchestration.attemptsLeft law.maxAttempts nodes law.counted :=
    leftOf_le_attemptsLeft busy.counted
  have own := busy.attempts
  have room := busy.left
  omega

/-- An entry that writes no record leaves the phase of the call as it was. -/
theorem notPaused_cons {entry : Entry} (unwritten : ∀ node, entry ≠ .upserted node) :
    NotPaused (entry :: history) ↔ NotPaused history := by
  unfold NotPaused
  refine forall_congr' fun node => ?_
  have other : ¬ .upserted node = entry := fun same => unwritten node same.symm
  simp [other]

theorem unwritten_cons {entry : Entry} (unwritten : ∀ node, entry ≠ .upserted node) :
    Unwritten (entry :: history) ↔ Unwritten history := by
  unfold Unwritten
  refine forall_congr' fun node => ?_
  have other : ¬ .upserted node = entry := fun same => unwritten node same.symm
  simp [other]

theorem untried_of_cons {entry : Entry} (unwritten : ∀ node, entry ≠ .upserted node)
    (untried : Untried (entry :: history)) : Untried history := by
  intro agentType input member
  apply untried agentType input
  cases entry with
  | upserted node => exact absurd rfl (unwritten node)
  | _ => exact List.mem_cons_of_mem _ member

theorem executing_written {id : String} (executing : phase history = .executing id) :
    ∃ record, .upserted record ∈ history := by
  induction history with
  | nil => cases executing
  | cons entry older ih =>
    cases entry with
    | upserted node => exact ⟨node, List.mem_cons_self⟩
    | agentAnswered input status => cases executing
    | _ =>
      obtain ⟨record, member⟩ := ih executing
      exact ⟨record, List.mem_cons_of_mem _ member⟩

theorem attempt_subset (history : List Entry) : attempt history ⊆ history := by
  induction history with
  | nil => exact List.Subset.refl _
  | cons entry older ih =>
    cases entry with
    | upserted node => exact List.nil_subset _
    | _ => exact List.cons_subset_cons _ ih

theorem untried_of_unstarted (none : startsOf history = 0) : Untried history := by
  intro agentType input member
  have unstarted := List.countP_eq_zero.mp none _ (attempt_subset history member)
  exact unstarted rfl

/-- No agent is started beyond the bound. -/
theorem Metered.bounded (metered : Metered law (c, history)) : startsOf history ≤ law.bound := by
  by_cases storing : law.Storing history
  · have none := (metered.unstarted storing).1
    simp only at none
    omega
  · by_cases paused : NotPaused history
    · by_cases untried : Untried history
      · have within := metered.within storing untried paused
        simp only at within
        omega
      · have tried := metered.tried storing
        cases stands : phase history with
        | idle => exact absurd (metered.idle stands) untried
        | executing id =>
          obtain ⟨-, node, -, busy⟩ := metered.busy id (by simp only [stands]; rfl)
          have room := busy.attemptsLeft
          simp only at tried room
          omega
        | answered id status =>
          obtain ⟨-, node, -, busy⟩ := metered.busy id (by simp only [stands]; rfl)
          have room := busy.attemptsLeft
          simp only at tried room
          omega
    · have tried := metered.tried storing
      have room := (metered.paused paused).2
      simp only at tried room
      omega

theorem untried_noted {entry : Entry} (unwritten : ∀ node, entry ≠ .upserted node)
    (unstarted : entry.startsAgent = false) : Untried (entry :: history) ↔ Untried history := by
  refine ⟨untried_of_cons unwritten, fun untried => ?_⟩
  apply Law.untried_cons untried
  intro agentType input same
  rw [same] at unstarted
  cases unstarted

theorem startsOf_noted {entry : Entry} (unstarted : entry.startsAgent = false) :
    startsOf (entry :: history) = startsOf history := by
  simp [startsOf, unstarted]

/-- An entry that writes nothing and starts no agent. -/
theorem Metered.noted {entry : Entry} {c' : Control} (metered : Metered law (c, history))
    (unwritten : ∀ node, entry ≠ .upserted node) (unstarted : entry.startsAgent = false)
    (unsaved : ∀ runId state, entry ≠ .saved runId state)
    (idle : phase (entry :: history) = .idle ↔ phase history = .idle)
    (concerns : ∀ id, (phase (entry :: history)).concerns id ↔ (phase history).concerns id)
    (same : c'.nodes = c.nodes) : Metered law (c', entry :: history) := by
  have storing : law.Storing (entry :: history) ↔ law.Storing history := Law.storing_cons_iff unsaved
  have starts : startsOf (entry :: history) = startsOf history := startsOf_noted unstarted
  have paused : NotPaused (entry :: history) ↔ NotPaused history := notPaused_cons unwritten
  have untried : Untried (entry :: history) ↔ Untried history := untried_noted unwritten unstarted
  have written : Unwritten (entry :: history) ↔ Unwritten history := unwritten_cons unwritten
  constructor
  · simp only [storing, starts, paused]
    exact metered.unstarted
  · simp only [written, starts]
    exact metered.unwritten
  · simp only [idle, untried]
    exact metered.idle
  · simp only [concerns, paused, same]
    exact metered.busy
  · simp only [storing, starts, paused, untried, same]
    exact metered.within
  · simp only [storing, starts, same]
    exact metered.tried
  · simp only [paused, idle, same]
    exact metered.paused

theorem unwritten_of_plain {entry : Entry} (plain : entry.plain = true) :
    ∀ node, entry ≠ .upserted node := by
  intro node same
  rw [same] at plain
  cases plain

/-- The first checkpoint of an execution: from here on the attempts are counted. -/
theorem Metered.saved {c' : Control} {runId : String} {state : LangGraphRunState}
    (metered : Metered law (c, history))
    (within : law.Storing history → attemptsLeft law.maxAttempts c.nodes law.counted ≤ law.bound)
    (same : c'.nodes = c.nodes) : Metered law (c', .saved runId state :: history) := by
  have paused : NotPaused (.saved runId state :: history) ↔ NotPaused history :=
    notPaused_cons (by simp)
  have untried : Untried (.saved runId state :: history) ↔ Untried history :=
    untried_noted (by simp) rfl
  have written : Unwritten (.saved runId state :: history) ↔ Unwritten history :=
    unwritten_cons (by simp)
  have starts : startsOf (.saved runId state :: history) = startsOf history := startsOf_noted rfl
  constructor
  · exact fun storing => absurd List.mem_cons_self (storing.2 runId state)
  · simp only [written, starts]
    exact metered.unwritten
  · simp only [phase, untried]
    exact metered.idle
  · simp only [phase, paused, same]
    exact metered.busy
  · simp only [starts, paused, untried, same]
    intro _ fresh proceeding
    by_cases storing : law.Storing history
    · have none := (metered.unstarted storing).1
      have room := within storing
      simp only at none
      omega
    · exact metered.within storing fresh proceeding
  · simp only [starts, same]
    intro _
    by_cases storing : law.Storing history
    · have none := (metered.unstarted storing).1
      have room := within storing
      simp only at none
      omega
    · exact metered.tried storing
  · simp only [paused, phase, same]
    exact metered.paused

theorem startsOf_upserted (node : GraphNodeRecord) :
    startsOf (.upserted node :: history) = startsOf history := by
  simp [startsOf, Entry.startsAgent]

theorem notPaused_upserted {node : GraphNodeRecord} (proceeding : NotPaused history)
    (other : node.status ≠ .waitingForApproval) : NotPaused (.upserted node :: history) := by
  intro record member
  rcases List.mem_cons.mp member with here | old
  · simp only [Entry.upserted.injEq] at here
    rw [here]
    exact other
  · exact proceeding record old

theorem not_unwritten (node : GraphNodeRecord) : ¬ Unwritten (.upserted node :: history) :=
  fun none => none node List.mem_cons_self

theorem untried_upserted (node : GraphNodeRecord) : Untried (.upserted node :: history) := by
  simp [Untried, attempt]

theorem Metered.setup {node : GraphNodeRecord} (metered : Metered law (c, history))
    (storing : law.Storing history) (pending : node.status = .pending) :
    Metered law ({ c with nodes := upserted node c.nodes }, .upserted node :: history) := by
  obtain ⟨none, proceeding⟩ := metered.unstarted storing
  have later : NotPaused (.upserted node :: history) :=
    notPaused_upserted proceeding (by simp [pending])
  have still : law.Storing (.upserted node :: history) := (Law.storing_cons_iff (by simp)).mpr storing
  constructor
  · exact fun _ => ⟨(startsOf_upserted node).trans none, later⟩
  · exact fun written => absurd written (not_unwritten node)
  · exact fun _ => untried_upserted node
  · intro id concerns
    have running := (phase_upserted_concerns concerns).2
    rw [pending] at running
    cases running
  · exact fun saved => absurd still saved
  · exact fun saved => absurd still saved
  · exact fun paused => absurd later paused

/-- The start of an agent uses no attempt up yet. -/
theorem Metered.started {agentType : String} {input : AgentInput}
    (metered : Metered law (c, history)) (saved : ¬ law.Storing history)
    (executing : phase history = .executing input.nodeId) (untried : Untried history) :
    Metered law (c, .agentStarted agentType input :: history) := by
  obtain ⟨proceeding, node, same, busy⟩ := metered.busy input.nodeId (by
    simp only [executing]
    rfl)
  have within := metered.within saved untried proceeding
  have starts : startsOf (.agentStarted agentType input :: history) = startsOf history + 1 := by
    unfold startsOf
    exact List.countP_cons_of_pos rfl
  have paused : NotPaused (.agentStarted agentType input :: history) ↔ NotPaused history :=
    notPaused_cons (by simp)
  have here : phase (.agentStarted agentType input :: history) = .executing input.nodeId := executing
  constructor
  · exact fun storing => absurd (Law.storing_of_cons storing) saved
  · intro written
    -- the phase is that of a record that has been written
    obtain ⟨record, member⟩ := executing_written executing
    exact absurd member ((unwritten_cons (by simp)).mp written record)
  · intro idle
    rw [here] at idle
    cases idle
  · simp only [paused, here]
    intro id concerns
    exact metered.busy id (by
      simp only [executing]
      exact concerns)
  · intro _ fresh _
    exact absurd List.mem_cons_self (fresh agentType input)
  · intro _
    simp only [starts]
    simp only at within
    omega
  · intro halted
    exact absurd (paused.mpr proceeding) halted

/-- A write that ends an attempt, or that opens a node again before anything else. -/
theorem metered_closed {node : GraphNodeRecord} (saved : ¬ law.Storing history) (proceeding : NotPaused history)
    (stopped : node.status ≠ .running)
    (within : node.status ≠ .waitingForApproval → startsOf history +
      attemptsLeft law.maxAttempts (upserted node c.nodes) law.counted ≤ law.bound)
    (halted : node.status = .waitingForApproval → startsOf history +
        attemptsLeft law.maxAttempts (upserted node c.nodes) law.counted ≤ law.bound + 1 ∧
      1 ≤ attemptsLeft law.maxAttempts (upserted node c.nodes) law.counted) :
    Metered law ({ c with nodes := upserted node c.nodes }, .upserted node :: history) := by
  have idle : phase (.upserted node :: history) = .idle := if_neg stopped
  constructor
  · exact fun storing => absurd (Law.storing_of_cons storing) saved
  · exact fun written => absurd written (not_unwritten node)
  · exact fun _ => untried_upserted node
  · intro id concerns
    exact absurd (phase_upserted_concerns concerns).2 stopped
  · intro _ _ later
    have other : node.status ≠ .waitingForApproval := later node List.mem_cons_self
    rw [startsOf_upserted]
    exact within other
  · intro _
    rw [startsOf_upserted]
    by_cases waits : node.status = .waitingForApproval
    · exact (halted waits).1
    · have room := within waits
      simp only
      omega
  · intro later
    refine ⟨idle, ?_⟩
    by_cases waits : node.status = .waitingForApproval
    · exact (halted waits).2
    · exact absurd (notPaused_upserted proceeding waits) later

/-- What the end of the attempt of a busy node leaves of the attempts. -/
theorem Busy.closed {node old : GraphNodeRecord} {nodes : List GraphNodeRecord}
    (busy : Busy law nodes old) (nodup : law.counted.Nodup) (same : node.id = old.id) :
    Orchestration.attemptsLeft law.maxAttempts (upserted node nodes) law.counted +
        (law.maxAttempts - old.retryCount) =
      Orchestration.attemptsLeft law.maxAttempts nodes law.counted +
        attemptsOf law.maxAttempts node := by
  have counted : node.id ∈ law.counted := by
    rw [same]
    exact busy.counted
  have step := @attemptsLeft_upserted law.maxAttempts node nodes law.counted nodup counted
  rw [same, busy.attempts] at step
  exact step

theorem concerns_of_asked {id : String} {status : AgentStatus}
    (asked : phase history = .executing id ∧ Untried history ∧ ¬ law.strict ∨
      phase history = .answered id status) :
    (phase history).concerns id := by
  rcases asked with ⟨executing, -⟩ | answered
  · rw [executing]
    rfl
  · rw [answered]
    rfl

theorem Metered.moved {node old : GraphNodeRecord} (metered : Metered law (c, history))
    (saved : ¬ law.Storing history) (found : recordOf c.nodes node.id = some old)
    (moves : law.Moves c history old node) (nodup : law.counted.Nodup)
    (counted : (∃ ids, law.fit ids ∧ old.id ∈ ids) → old.id ∈ law.counted) :
    Metered law ({ c with nodes := upserted node c.nodes }, .upserted node :: history) := by
  have sameId : old.id = node.id := recordOf_id found
  have stored : recordOf c.nodes old.id = some old := sameId ▸ found
  -- the record of a busy node is the one that is written over
  have busyOld : (phase history).concerns old.id → NotPaused history ∧ Busy law c.nodes old := by
    intro concerns
    obtain ⟨proceeding, record, same, busy⟩ := metered.busy old.id concerns
    have here := busy.stored
    rw [same, stored, Option.some.injEq] at here
    subst here
    exact ⟨proceeding, busy⟩
  have before := metered.tried saved
  simp only at before
  have fresh : Unwritten history → startsOf history = 0 ∧ NotPaused history := fun written =>
    ⟨metered.unwritten written, fun record member => absurd member (written record)⟩
  cases moves with
  | start started open' left ready planned idle notPaused =>
    have untried := metered.idle idle
    have within := metered.within saved untried notPaused
    simp only at within
    have less : attemptsOf law.maxAttempts (runningRecord old started) ≤
        attemptsOf law.maxAttempts old := by
      have unfinished : old.status ≠ .completed := by
        intro done
        rcases open' with h | h <;> rw [done] at h <;> cases h
      simp [attemptsOf, unfinished, runningRecord]
    have room := attemptsLeft_rewritten stored less rfl law.counted
    have later : NotPaused (.upserted (runningRecord old started) :: history) :=
      notPaused_upserted notPaused (by simp [runningRecord])
    constructor
    · exact fun storing => absurd (Law.storing_of_cons storing) saved
    · exact fun written => absurd written (not_unwritten _)
    · exact fun _ => untried_upserted _
    · intro id concerns
      obtain ⟨here, running⟩ := phase_upserted_concerns concerns
      refine ⟨later, runningRecord old started, here, ?_, running, left, counted planned⟩
      rw [recordOf_upserted]
      exact if_pos rfl
    · intro _ _ _
      rw [startsOf_upserted]
      simp only
      omega
    · intro _
      rw [startsOf_upserted]
      simp only
      omega
    · exact fun paused => absurd later paused
  | complete finished updated running answered =>
    obtain ⟨proceeding, busy⟩ := busyOld (by
      rw [answered]
      rfl)
    have spent := busy.closed nodup sameId.symm
    have own : attemptsOf law.maxAttempts
        { old with status := .completed, finishedAt := some finished, updatedAt := updated } = 0 := by
      simp [attemptsOf]
    have room := busy.left
    apply metered_closed saved proceeding (by simp)
    · intro _
      omega
    · intro impossible
      cases impossible
  | pause updated running asked =>
    obtain ⟨proceeding, busy⟩ := busyOld (concerns_of_asked asked)
    have spent := busy.closed nodup sameId.symm
    have own : attemptsOf law.maxAttempts
        { old with status := .waitingForApproval, updatedAt := updated } =
          law.maxAttempts - old.retryCount := by
      simp [attemptsOf]
    have room := busy.attemptsLeft
    apply metered_closed saved proceeding (by simp)
    · intro impossible
      exact absurd rfl impossible
    · intro _
      omega
  | fail finished updated running asked =>
    obtain ⟨proceeding, busy⟩ := busyOld (concerns_of_asked asked)
    have spent := busy.closed nodup sameId.symm
    have own : attemptsOf law.maxAttempts
        { old with
          status := if old.retryCount + 1 < law.maxAttempts then .pending else .failed
          retryCount := old.retryCount + 1
          finishedAt := finished
          updatedAt := updated } = law.maxAttempts - (old.retryCount + 1) := by
      by_cases more : old.retryCount + 1 < law.maxAttempts <;> simp [attemptsOf, more]
    have room := busy.left
    apply metered_closed saved proceeding
    · split <;> simp
    · intro _
      omega
    · intro impossible
      split at impossible <;> cases impossible
  | approve updated waiting first =>
    obtain ⟨none, proceeding⟩ := fresh first
    have within := metered.within saved (untried_of_unstarted none) proceeding
    simp only at within
    have less : attemptsOf law.maxAttempts { old with status := .pending, updatedAt := updated } ≤
        attemptsOf law.maxAttempts old := by simp [attemptsOf, waiting]
    have room := attemptsLeft_rewritten stored less rfl law.counted
    apply metered_closed saved proceeding (by simp)
    · intro _
      omega
    · intro impossible
      cases impossible
  | deny finished updated waiting first =>
    obtain ⟨none, proceeding⟩ := fresh first
    have within := metered.within saved (untried_of_unstarted none) proceeding
    simp only at within
    have less : attemptsOf law.maxAttempts
        { old with status := .failed, finishedAt := some finished, updatedAt := updated } ≤
        attemptsOf law.maxAttempts old := by simp [attemptsOf, waiting]
    have room := attemptsLeft_rewritten stored less rfl law.counted
    apply metered_closed saved proceeding (by simp)
    · intro _
      omega
    · intro impossible
      cases impossible
  | retry updated failed first within =>
    obtain ⟨none, proceeding⟩ := fresh first
    apply metered_closed saved proceeding (by simp)
    · intro _
      rw [none, Nat.zero_add]
      exact within
    · intro impossible
      cases impossible

/-- Every legal step keeps the count. -/
theorem Metered.step {s s' : Control × List Entry} (metered : Metered law s)
    (effect : Effect law s.1 s.2 s') (nodup : law.counted.Nodup)
    (counted : ∀ old ∈ s.1.nodes, (∃ ids, law.fit ids ∧ old.id ∈ ids) → old.id ∈ law.counted) :
    Metered law s' := by
  obtain ⟨c, history⟩ := s
  cases effect with
  | silent c' same =>
    refine ⟨metered.unstarted, metered.unwritten, metered.idle, ?_, ?_, ?_, ?_⟩
    · rw [same]
      exact metered.busy
    · rw [same]
      exact metered.within
    · rw [same]
      exact metered.tried
    · rw [same]
      exact metered.paused
  | noted c' entry plain unstarted unsaved same =>
    have stands : phase (entry :: history) = phase history := phase_plain plain history
    apply metered.noted (unwritten_of_plain plain) unstarted unsaved _ _ same
    · rw [stands]
    · simp [stands]
  | saved c' runId state within same =>
    exact metered.saved (fun storing => (within storing).2) same
  | setup node storing pending => exact metered.setup storing pending.1
  | moved node old saved found moves =>
    exact metered.moved saved found moves nodup (counted old (mem_of_recordOf found))
  | started agentType input saved executing untried => exact metered.started saved executing untried
  | answered input status saved executing =>
    apply metered.noted (by simp) rfl (by simp) _ _ rfl
    · rw [executing]
      simp [phase]
    · rw [executing]
      simp [phase, Phase.concerns]

end metered
end Orchestration
