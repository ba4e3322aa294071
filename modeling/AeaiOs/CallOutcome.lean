import AeaiOs.CallProgress
import Mathlib.Data.List.Dedup

/-!
An execution whose tools are all allowed and whose agents never wait: it completes the
run, or some agent has failed as often as it may.
-/
namespace Orchestration
open OrderedDict PyText CivilTime AtomicProgram ExceptLists RunValues RunModels Redaction
  InMemoryRunRepository ToolPolicy

/-! What the records tell of the answers. -/

theorem answersOf_phase {id : String} {status : AgentStatus} {history : List Entry}
    (answered : phase history = .answered id status) : 1 ≤ answersOf id status history := by
  induction history with
  | nil => cases answered
  | cons entry older ih =>
    cases entry with
    | upserted node =>
      unfold phase at answered
      split at answered <;> cases answered
    | agentAnswered input given =>
      simp only [phase, Phase.answered.injEq] at answered
      simp [answersOf, Entry.answers, answered]
    | _ =>
      have before := ih answered
      simpa [answersOf, Entry.answers] using before

theorem recordAt_written {node : GraphNodeRecord} {history : List Entry} (past : List Entry)
    (member : .upserted node ∈ history) :
    ∃ last, .upserted last ∈ history ∧ recordAt (history ++ past) node.id = some last := by
  induction history with
  | nil => cases member
  | cons entry older ih =>
    by_cases here : ∃ last, entry = .upserted last ∧ last.id = node.id
    · obtain ⟨last, rfl, same⟩ := here
      exact ⟨last, List.mem_cons_self, by simp [recordAt, same]⟩
    · have before : .upserted node ∈ older := by
        rcases List.mem_cons.mp member with same | inside
        · exact absurd ⟨node, same.symm, rfl⟩ here
        · exact inside
      obtain ⟨last, inside, found⟩ := ih before
      refine ⟨last, List.mem_cons_of_mem _ inside, ?_⟩
      cases entry with
      | upserted other =>
        have apart : other.id ≠ node.id := fun same => here ⟨other, rfl, same⟩
        simp only [List.cons_append, recordAt, if_neg apart]
        exact found
      | _ => exact found

/-- The failure that has been told, but not been counted yet. -/
def owed (id : String) (history : List Entry) : Nat :=
  if phase history = .answered id .failed then 1 else 0

/-- A record counts what its agent has answered. -/
structure Tally (limit : Nat) (history : List Entry) (node : GraphNodeRecord) : Prop where
  status : node.status = .pending ∨ node.status = .running ∨ node.status = .completed ∨
    node.status = .failed
  failures : node.retryCount + owed node.id history = answersOf node.id .failed history
  spent : node.status = .failed → node.retryCount = limit
  left : node.status ≠ .failed → node.retryCount < limit
  succeeded : node.status = .completed → 1 ≤ answersOf node.id .succeeded history

/-- What an execution under the law keeps of its answers. -/
structure Tallied (law : Law) (s : Control × List Entry) : Prop where
  initial : law.Storing s.2 → ∀ node, .upserted node ∈ s.2 →
    node.status = .pending ∧ node.retryCount = 0
  answered : ∀ id status, 1 ≤ answersOf id status s.2 → ∃ input, law.answers input status
  written : ¬ law.Storing s.2 → law.SetUp s.2
  tally : ¬ law.Storing s.2 → ∀ planned ∈ law.tasks, ∃ node,
    recordOf s.1.nodes planned.id = some node ∧ Tally law.maxAttempts s.2 node

section tallied
variable {law : Law} {c : Control} {history past : List Entry}

theorem Law.SetUp.grow {entry : Entry} (setUp : law.SetUp history) :
    law.SetUp (entry :: history) := by
  intro planned member
  obtain ⟨now, written⟩ := setUp planned member
  exact ⟨now, List.mem_cons_of_mem _ written⟩

theorem owed_plain {entry : Entry} (plain : entry.plain = true) (id : String) :
    owed id (entry :: history) = owed id history := by
  unfold owed
  rw [phase_plain plain]

theorem owed_upserted (node : GraphNodeRecord) (id : String) :
    owed id (.upserted node :: history) = 0 := by
  unfold owed phase
  split <;> simp

theorem Tally.plain {limit : Nat} {entry : Entry} {node : GraphNodeRecord}
    (tally : Tally limit history node) (plain : entry.plain = true) :
    Tally limit (entry :: history) node where
  status := tally.status
  failures := by
    rw [owed_plain plain, answersOf_plain plain]
    exact tally.failures
  spent := tally.spent
  left := tally.left
  succeeded completed := by
    rw [answersOf_plain plain]
    exact tally.succeeded completed

theorem Tallied.noted {entry : Entry} {c' : Control} (tallied : Tallied law (c, history))
    (plain : entry.plain = true) (unsaved : ∀ runId state, entry ≠ .saved runId state)
    (same : c'.nodes = c.nodes) : Tallied law (c', entry :: history) where
  initial storing node member := by
    apply tallied.initial (Law.storing_of_cons storing) node
    rcases List.mem_cons.mp member with here | before
    · rw [← here] at plain
      simp [Entry.plain] at plain
    · exact before
  answered id status := by
    rw [answersOf_plain plain]
    exact tallied.answered id status
  written saved := (tallied.written fun storing =>
    saved ((Law.storing_cons_iff unsaved).mpr storing)).grow
  tally saved planned member := by
    obtain ⟨node, stored, tally⟩ := tallied.tally (fun storing =>
      saved ((Law.storing_cons_iff unsaved).mpr storing)) planned member
    exact ⟨node, by rw [same]; exact stored, tally.plain plain⟩

/-- The first checkpoint: every record of the graph is the one that it starts with. -/
theorem Tallied.saved {runId : String} {state : LangGraphRunState} {c' : Control}
    {since : List Entry} (tallied : Tallied law (c, history))
    (traced : Traced law past since (c, history)) (positive : 0 < law.maxAttempts)
    (setUp : law.Storing history → law.SetUp history) (same : c'.nodes = c.nodes) :
    Tallied law (c', .saved runId state :: history) where
  initial storing := absurd List.mem_cons_self (storing.2 runId state)
  answered id status := by
    rw [answersOf_plain rfl]
    exact tallied.answered id status
  written _ := by
    by_cases storing : law.Storing history
    · exact (setUp storing).grow
    · exact (tallied.written storing).grow
  tally _ planned member := by
    rw [same]
    by_cases storing : law.Storing history
    · obtain ⟨now, entry⟩ := setUp storing planned member
      obtain ⟨node, written, found⟩ := recordAt_written past entry
      have stored : recordOf c.nodes planned.id = some node := (traced.records planned.id).trans found
      have none : ∀ status, answersOf node.id status history = 0 := by
        intro status
        have unasked : answersOf node.id status (history ++ since) = 0 :=
          traced.unasked storing node.id status
        have within : answersOf node.id status history ≤ answersOf node.id status (history ++ since) :=
          (List.sublist_append_left history since).countP_le
        omega
      obtain ⟨pending, untried⟩ := tallied.initial storing node written
      have settled : owed node.id history = 0 := by
        unfold owed
        rw [if_neg]
        intro answered
        have one := answersOf_phase answered
        rw [none] at one
        omega
      refine ⟨node, stored, Tally.plain ?_ rfl⟩
      constructor
      · exact Or.inl pending
      · rw [untried, settled, none]
      · rw [pending]
        simp
      · rw [untried]
        exact fun _ => positive
      · rw [pending]
        simp
    · obtain ⟨node, stored, tally⟩ := tallied.tally storing planned member
      exact ⟨node, stored, tally.plain rfl⟩

theorem Tallied.setup {node : GraphNodeRecord} (tallied : Tallied law (c, history))
    (storing : law.Storing history) (pending : node.status = .pending ∧ node.retryCount = 0) :
    Tallied law ({ c with nodes := upserted node c.nodes }, .upserted node :: history) where
  initial _ other member := by
    rcases List.mem_cons.mp member with here | before
    · rw [Entry.upserted.injEq] at here
      rw [here]
      exact pending
    · exact tallied.initial storing other before
  answered id status := by
    rw [answersOf_upserted]
    exact tallied.answered id status
  written saved := absurd (Law.storing_upserted storing) saved
  tally saved := absurd (Law.storing_upserted storing) saved

/-- A write keeps the tally of its own record. -/
theorem Tally.moved {old node : GraphNodeRecord} (tally : Tally law.maxAttempts history old)
    (moves : law.Moves c history old node) (strict : law.strict)
    (begun : ¬ Unwritten history) (patient : phase history ≠ .answered old.id .waitingForApproval)
    (idle : owed old.id history ≠ 0 → old.status = .running) :
    Tally law.maxAttempts (.upserted node :: history) node := by
  have counted : node.retryCount = answersOf node.id .failed history →
      node.retryCount + owed node.id (.upserted node :: history) =
        answersOf node.id .failed (.upserted node :: history) := by
    intro same
    rw [owed_upserted, answersOf_upserted]
    omega
  have before := tally.failures
  cases moves with
  | start started open' left =>
    have settled : owed old.id history = 0 := by
      by_contra some'
      have running := idle some'
      rcases open' with h | h <;> rw [running] at h <;> cases h
    refine ⟨Or.inr (Or.inl rfl), counted ?_, ?_, fun _ => left, ?_⟩
    · rw [settled] at before
      exact before
    · intro failed
      cases failed
    · intro completed
      cases completed
  | complete finished updated running answered =>
    have settled : owed old.id history = 0 := by
      unfold owed
      rw [answered]
      simp
    refine ⟨Or.inr (Or.inr (Or.inl rfl)), counted ?_, ?_, ?_, ?_⟩
    · rw [settled] at before
      exact before
    · intro failed
      cases failed
    · intro _
      exact tally.left (by rw [running]; simp)
    · intro _
      rw [answersOf_upserted]
      exact answersOf_phase answered
  | pause updated running asked =>
    rcases asked with ⟨-, -, lenient⟩ | answered
    · exact absurd strict lenient
    · exact absurd answered patient
  | fail finished updated running asked =>
    rcases asked with ⟨-, -, lenient⟩ | answered
    · exact absurd strict lenient
    have due : owed old.id history = 1 := by
      unfold owed
      exact if_pos answered
    have room := tally.left (by rw [running]; simp)
    refine ⟨?_, counted ?_, ?_, ?_, ?_⟩
    · by_cases again : old.retryCount + 1 < law.maxAttempts
      · exact Or.inl (if_pos again)
      · exact Or.inr (Or.inr (Or.inr (if_neg again)))
    · rw [due] at before
      exact before
    · intro failed
      have spent : ¬ old.retryCount + 1 < law.maxAttempts := by
        intro again
        simp [again] at failed
      simp only
      omega
    · intro open'
      by_contra spent
      apply open'
      exact if_neg spent
    · intro completed
      simp only at completed
      split at completed <;> cases completed
  | approve updated waiting first => exact absurd first begun
  | deny finished updated waiting first => exact absurd first begun
  | retry updated failed first => exact absurd first begun

/-- A write keeps the tallies of the other records: the answer that has been told comes
    from the node which is written. -/
theorem Tally.moved_other {old node other : GraphNodeRecord}
    (tally : Tally law.maxAttempts history other) (moves : law.Moves c history old node)
    (begun : ¬ Unwritten history) (apart : other.id ≠ old.id) :
    Tally law.maxAttempts (.upserted node :: history) other := by
  have settled : owed other.id history = 0 := by
    unfold owed
    rw [if_neg]
    intro answered
    have named : ∀ id status, phase history = .answered id status → id = other.id := by
      intro id status told
      rw [answered, Phase.answered.injEq] at told
      exact told.1.symm
    cases moves with
    | start _ _ _ _ _ idle =>
      rw [answered] at idle
      cases idle
    | complete _ _ _ told => exact apart (named _ _ told).symm
    | pause _ _ asked =>
      rcases asked with ⟨executing, -⟩ | told
      · rw [answered] at executing
        cases executing
      · exact apart (named _ _ told).symm
    | fail _ _ _ asked =>
      rcases asked with ⟨executing, -⟩ | told
      · rw [answered] at executing
        cases executing
      · exact apart (named _ _ told).symm
    | approve _ _ first => exact absurd first begun
    | deny _ _ _ first => exact absurd first begun
    | retry _ _ first => exact absurd first begun
  have before := tally.failures
  refine ⟨tally.status, ?_, tally.spent, tally.left, ?_⟩
  · rw [owed_upserted, answersOf_upserted]
    omega
  · intro completed
    rw [answersOf_upserted]
    exact tally.succeeded completed

theorem Tallied.moved {old node : GraphNodeRecord} {since : List Entry}
    (tallied : Tallied law (c, history)) (traced : Traced law past since (c, history))
    (strict : law.strict) (patient : ∀ input, ¬ law.answers input .waitingForApproval)
    (saved : ¬ law.Storing history) (found : recordOf c.nodes node.id = some old)
    (moves : law.Moves c history old node) :
    Tallied law ({ c with nodes := upserted node c.nodes }, .upserted node :: history) where
  initial storing := absurd (Law.storing_of_cons storing) saved
  answered id status := by
    rw [answersOf_upserted]
    exact tallied.answered id status
  written _ := (tallied.written saved).grow
  tally _ planned member := by
    have begun : ¬ Unwritten history := by
      intro none
      obtain ⟨now, entry⟩ := tallied.written saved planned member
      exact none _ entry
    have own : old.id = node.id := recordOf_id found
    obtain ⟨record, stored, tally⟩ := tallied.tally saved planned member
    simp only [recordOf_upserted]
    by_cases here : node.id = planned.id
    · rw [← here, found, Option.some.injEq] at stored
      subst stored
      refine ⟨node, if_pos here, tally.moved moves strict begun ?_ ?_⟩
      · intro waits
        obtain ⟨input, given⟩ := tallied.answered _ _ (answersOf_phase waits)
        exact patient input given
      · intro due
        have answered : phase history = .answered old.id .failed := by
          by_contra other
          exact due (if_neg other)
        obtain ⟨running, current, still⟩ := traced.running old.id (by simp [answered, Phase.concerns])
        rw [own, found, Option.some.injEq] at current
        rw [current]
        exact still
    · refine ⟨record, (if_neg here).trans stored, tally.moved_other moves begun ?_⟩
      rw [recordOf_id stored, own]
      exact fun same => here same.symm

/-- An answer is counted for its own node. -/
theorem Tallied.answer {input : AgentInput} {status : AgentStatus}
    (tallied : Tallied law (c, history)) (saved : ¬ law.Storing history) (executing : phase history = .executing input.nodeId)
    (given : law.answers input status) :
    Tallied law (c, .agentAnswered input status :: history) where
  initial storing := absurd (Law.storing_of_cons storing) saved
  answered id told one := by
    by_cases here : input.nodeId = id ∧ status = told
    · exact ⟨input, here.2 ▸ given⟩
    · apply tallied.answered id told
      simpa [answersOf, Entry.answers, here] using one
  written _ := (tallied.written saved).grow
  tally _ planned member := by
    obtain ⟨record, stored, tally⟩ := tallied.tally saved planned member
    have before : record.retryCount + owed record.id history =
        answersOf record.id .failed history := tally.failures
    have settled : owed record.id history = 0 := by
      unfold owed
      rw [executing]
      simp
    refine ⟨record, stored, tally.status, ?_, tally.spent, tally.left, ?_⟩
    · have due : owed record.id (.agentAnswered input status :: history) =
          if input.nodeId = record.id ∧ status = .failed then 1 else 0 := by
        simp [owed, phase]
      have count : answersOf record.id .failed (.agentAnswered input status :: history) =
          answersOf record.id .failed history +
            if input.nodeId = record.id ∧ status = .failed then 1 else 0 := by
        simp [answersOf, Entry.answers, List.countP_cons]
      simp only
      omega
    · intro completed
      have one : 1 ≤ answersOf record.id .succeeded history := tally.succeeded completed
      have more : answersOf record.id .succeeded history ≤
          answersOf record.id .succeeded (.agentAnswered input status :: history) :=
        (List.sublist_cons_self _ _).countP_le
      exact one.trans more

/-- Every legal step of a strict call keeps the tallies. -/
theorem Tallied.step {s s' : Control × List Entry} {since : List Entry}
    (tallied : Tallied law s) (traced : Traced law past since s) (effect : Effect law s.1 s.2 s')
    (positive : 0 < law.maxAttempts) (strict : law.strict)
    (patient : ∀ input, ¬ law.answers input .waitingForApproval) : Tallied law s' := by
  obtain ⟨c, history⟩ := s
  cases effect with
  | silent c' same =>
    refine ⟨tallied.initial, tallied.answered, tallied.written, ?_⟩
    rw [same]
    exact tallied.tally
  | noted c' entry plain unstarted unsaved same => exact tallied.noted plain unsaved same
  | saved c' runId state within same =>
    exact tallied.saved traced positive (fun storing => (within storing).1) same
  | setup node storing pending => exact tallied.setup storing pending
  | moved node old saved found moves => exact tallied.moved traced strict patient saved found moves
  | started agentType input saved executing untried => exact tallied.noted rfl (by simp) rfl
  | answered input status saved executing given =>
    exact tallied.answer saved executing given

end tallied

/-! An execution with every tool allowed. -/

/-- Some agent of the environment may give this answer. -/
def Env.answers (env : Env) (status : AgentStatus) : Prop :=
  ∃ tick agentType input, AgentAnswer.status (env.agent tick agentType input).result = status

/-- No tool of the graph is refused, whatever has been approved. -/
def Permits [UnicodeDatabase] (registry : ToolPermissionRegistry) (graph : ExecutionGraph) : Prop :=
  ∀ planned ∈ graph.nodes, ∀ tool ∈ planned.requiredTools, ∀ approved context,
    (registry.decisionIn tool approved context).decision = .allow

section strict
variable [PyRuntime] {env : Env} {service : OrchestratorService} {runId : String}
  {graph : ExecutionGraph} {c : Control}

variable (env service runId graph c) in
def strictLaw : Law where
  runId := runId
  maxAttempts := service.maxAttempts
  registry := env.registry
  tasks := graph.nodes
  stores := true
  found := c.checkpoint
  records := idsOf c.nodes ++ graph.ids
  fit ids := ids = graph.ids
  counts := True
  counted := graph.ids
  bound := graph.ids.length * service.maxAttempts
  answers _ status := env.answers status
  scarred := 0
  strict := True

theorem strictLaw_sound (valid : graph.Valid service.agentTypes) (fixed : FixedIds graph) :
    (strictLaw env service runId graph c).Sound where
  redacts ids ids' fit redacts := by
    have same : redactTexts graph.ids = .ok graph.ids := redactTexts_fixed.mpr fixed
    have whole : ids = graph.ids := fit
    rw [whole, same, Except.ok.injEq] at redacts
    exact redacts.symm
  apart ids fit := by
    have whole : ids = graph.ids := fit
    rw [whole]
    exact valid.ids_nodup.filter _
  known planned member := by
    apply List.mem_append_right
    exact List.mem_map_of_mem member
  unique := valid.ids_nodup
  limit := service.retryPolicy.positive
  counted _ := by
    refine ⟨valid.ids_nodup, ?_⟩
    intro ids fit id member _
    have whole : ids = graph.ids := fit
    rw [whole] at member
    exact member

omit [PyRuntime] in
theorem agents_available (available : assertAgentsAvailable service graph = .ok ()) :
    ∀ planned ∈ graph.nodes, planned.agent ∈ service.agents := by
  intro planned member
  unfold assertAgentsAvailable at available
  simp only at available
  split at available
  · rename_i none
    by_contra absent
    have missing : planned.agent ∈ (graph.nodes.map ExecutionNode.agent).filter (· ∉ service.agents) := by
      simp only [List.mem_filter, decide_eq_true_eq]
      exact ⟨List.mem_map_of_mem member, absent⟩
    have listed : planned.agent ∈ sortedSet
        ((graph.nodes.map ExecutionNode.agent).filter (· ∉ service.agents)) := by
      unfold sortedSet
      simp only [List.mem_mergeSort, List.mem_dedup]
      exact missing
    rw [none] at listed
    cases listed
  · cases available

theorem strictLaw_able (accepted : Accepted service graph) (permits : Permits env.registry graph) :
    (strictLaw env service runId graph c).Able service where
  whole _ _ fit := fit
  closed _ := (ExecutionGraph.validate_ok accepted.1).depends_inside
  agents _ := agents_available accepted.2
  allowed _ := permits

/-- What an execution keeps under the law. -/
structure StrictlyKept (law : Law) (past : List Entry) (s : Control × List Entry) : Prop where
  traced : Traced law past [] s
  tallied : Tallied law s

theorem strict_kept {past : List Entry} (patient : ¬ env.answers .waitingForApproval) (op : Op β)
    (s : Control × List Entry) (answer : Except PyError β) (s' : Control × List Entry)
    (kept : StrictlyKept (strictLaw env service runId graph c) past s)
    (asked : (strictLaw env service runId graph c).Asks op s.1 s.2)
    (allowed : (strictLaw env service runId graph c).work.allows op s answer s') :
    StrictlyKept (strictLaw env service runId graph c) past s' := by
  have effect := effect_of_step asked allowed
  refine ⟨kept.traced.step effect, ?_⟩
  exact kept.tallied.step kept.traced effect service.retryPolicy.positive trivial fun _ => patient

omit [PyRuntime] in
theorem strict_begins {past : List Entry} (records : ∀ id, recordOf c.nodes id = recordAt past id) :
    StrictlyKept (strictLaw env service runId graph c) past (c, []) := by
  have storing : (strictLaw env service runId graph c).Storing [] := ⟨rfl, by simp⟩
  refine ⟨⟨records, fun id concerns => False.elim concerns, ?_, fun _ => Or.inl rfl⟩, ?_⟩
  · exact fun _ _ _ => rfl
  · refine ⟨by simp, ?_, fun saved => absurd storing saved, fun saved => absurd storing saved⟩
    intro id status one
    simp [answersOf] at one

/-- The records of the graph at the end of an execution, with their tallies. -/
theorem tasks_tallied {c' : Control} {past history : List Entry} {now : Time}
    (inv : (strictLaw env service runId graph c).Inv c' history)
    (kept : StrictlyKept (strictLaw env service runId graph c) past (c', history))
    (saved : ¬ (strictLaw env service runId graph c).Storing history)
    (setUp : setupEntries runId now graph.nodes <:+ history) :
    ∀ planned ∈ graph.nodes, ∃ node, recordOf c'.nodes planned.id = some node ∧
      TaskOf node planned ∧ Tally service.maxAttempts history node := by
  intro planned member
  obtain ⟨node, stored, task⟩ := inv.tasks planned member fun _ => by
    refine ⟨now, setUp.subset ?_⟩
    simp only [setupEntries, List.mem_reverse, List.mem_map, Entry.upserted.injEq]
    exact ⟨planned, member, rfl⟩
  obtain ⟨node', stored', tally⟩ := kept.tallied.tally saved planned member
  rw [stored, Option.some.injEq] at stored'
  subst stored'
  exact ⟨node, stored, task, tally⟩

end strict

/-- How an execution comes out that returns. -/
structure ComesOut (env : Env) (limit : Nat) (ids : List String) (history : List Entry)
    (status : RunStatus) : Prop where
  ends : status = .completed ∨ status = .failed
  completed : status = .completed ↔ ∀ id ∈ ids, answersOf id .succeeded history = 1
  failed : status = .failed ↔ ∃ id ∈ ids, answersOf id .failed history = limit
  bounded : ∀ id ∈ ids, answersOf id .failed history ≤ limit
  unfailing : ¬ env.answers .failed → status = .completed

/-- What a call has done that raises although nothing is in its way: a write was refused,
    or the errors of a node that has failed twice were redacted as a secret. -/
def Hindered [UnicodeDatabase] (history : List Entry) : Prop :=
  (∃ entry ∈ history, entry.refuses = true) ∨
    ∃ id, isSensitiveKey id = true ∧ 2 ≤ answersOf id .failed history

section outcome
variable [PyRuntime] {env : Env} {service : OrchestratorService} {runId : String}
  {graph : ExecutionGraph} {c c' : Control} {past history : List Entry}

omit [PyRuntime] in
/-- A record that no agent works on owes nothing. -/
theorem settled {law : Law} {node : GraphNodeRecord} (traced : Traced law past [] (c, history))
    (stored : recordOf c.nodes node.id = some node) (still : node.status ≠ .running) :
    owed node.id history = 0 := by
  unfold owed
  rw [if_neg]
  intro answered
  obtain ⟨record, stored', running⟩ := traced.running node.id (by simp [answered, Phase.concerns])
  simp only [stored, Option.some.injEq] at stored'
  rw [← stored'] at running
  exact still running

theorem left_status {limit : Nat} {ids : List String} {status : RunStatus}
    (left : LeftOrderly limit ids status c) :
    status = .completed ∨ status = .failed ∨ status = .waitingForApproval := by
  cases left with
  | paused nodes stored halted => exact Or.inr (Or.inr rfl)
  | finished nodes state stored status orderly exit redacts =>
    cases exit with
    | waiting => exact Or.inr (Or.inr rfl)
    | completed => exact Or.inl rfl
    | exhausted => exact Or.inr (Or.inl rfl)
    | stuck => exact Or.inr (Or.inl rfl)

theorem comes_out {now : Time} {status : RunStatus} (valid : graph.Valid service.agentTypes)
    (fixed : FixedIds graph)
    (inv : (strictLaw env service runId graph c).Inv c' history)
    (kept : StrictlyKept (strictLaw env service runId graph c) past (c', history))
    (saved : ¬ (strictLaw env service runId graph c).Storing history)
    (setUp : setupEntries runId now graph.nodes <:+ history)
    (left : LeftOrderly service.maxAttempts graph.ids status c') :
    ComesOut env service.maxAttempts graph.ids history status := by
  have recorded := tasks_tallied inv kept saved setUp
  have explained := left_explained valid (fun planned member => by
    obtain ⟨node, stored, task, -⟩ := recorded planned member
    exact ⟨node, stored, task⟩) left
  have stored_of : ∀ id ∈ graph.ids, ∃ node, recordOf c'.nodes id = some node := by
    intro id member
    obtain ⟨planned, inside, rfl⟩ := List.mem_map.mp member
    obtain ⟨node, stored, -⟩ := recorded planned inside
    exact ⟨node, stored⟩
  obtain ⟨inStep, truthful⟩ := left_in_step fixed valid.ids_nodup (valid_named valid)
    (valid_some valid) stored_of left
  have each : ∀ id ∈ graph.ids, ∃ node, recordOf c'.nodes id = some node ∧
      Tally service.maxAttempts history node ∧ node.status ≠ .running ∧
      answersOf id .failed history = node.retryCount := by
    intro id member
    obtain ⟨planned, inside, rfl⟩ := List.mem_map.mp member
    obtain ⟨node, stored, -, tally⟩ := recorded planned inside
    obtain ⟨node', stored', rests⟩ := inStep.rest planned.id member
    rw [stored, Option.some.injEq] at stored'
    subst stored'
    have named : node.id = planned.id := recordOf_id stored
    have none := settled kept.traced (named ▸ stored) rests.still.1
    have failures := tally.failures
    rw [none, named] at failures
    exact ⟨node, stored, tally, rests.still.1, by omega⟩
  have noneWaits : idsWith c'.nodes .waitingForApproval graph.ids = [] := by
    apply List.filter_eq_nil_iff.mpr
    intro id member waits
    obtain ⟨node, stored, tally, -⟩ := each id member
    simp only [stored, Option.map_some, Option.some.injEq, decide_eq_true_eq] at waits
    have possible := tally.status
    rw [waits] at possible
    simp at possible
  have failed : status = .failed ↔
      ∃ id ∈ graph.ids, answersOf id .failed history = service.maxAttempts := by
    rw [explained]
    constructor
    · rintro ⟨-, id, member, node, stored, spent, -⟩
      obtain ⟨node', stored', tally, -, count⟩ := each id member
      rw [stored, Option.some.injEq] at stored'
      subst stored'
      exact ⟨id, member, count.trans (tally.spent spent)⟩
    · rintro ⟨id, member, most⟩
      obtain ⟨node, stored, tally, -, count⟩ := each id member
      refine ⟨noneWaits, id, member, node, stored, ?_, by omega⟩
      by_contra open'
      have room := tally.left open'
      omega
  have completed : status = .completed ↔ ∀ id ∈ graph.ids, answersOf id .succeeded history = 1 := by
    rw [truthful.completed]
    constructor
    · intro all id member
      obtain ⟨node, stored, tally, -⟩ := each id member
      obtain ⟨node', stored', done⟩ := all id member
      rw [stored, Option.some.injEq] at stored'
      subst stored'
      have least := tally.succeeded done
      rw [recordOf_id stored] at least
      rcases kept.traced.succeeded id with none | ⟨one, -⟩
      · rw [List.append_nil] at none
        simp only at none
        omega
      · rw [List.append_nil] at one
        exact one
    · intro all id member
      rcases kept.traced.succeeded id with none | ⟨-, node, stored, done | ⟨running, -⟩⟩
      · rw [List.append_nil] at none
        rw [all id member] at none
        cases none
      · exact ⟨node, stored, done⟩
      · obtain ⟨node', stored', -, still, -⟩ := each id member
        simp only [stored', Option.some.injEq] at stored
        rw [← stored] at running
        exact absurd running still
  have ends : status = .completed ∨ status = .failed := by
    rcases left_status left with done | failure | waits
    · exact Or.inl done
    · exact Or.inr failure
    · have one := truthful.waiting.mp waits
      rw [noneWaits] at one
      cases one
  refine ⟨ends, completed, failed, ?_, ?_⟩
  · intro id member
    obtain ⟨node, stored, tally, -, count⟩ := each id member
    by_cases spent : node.status = .failed
    · have most := tally.spent spent
      omega
    · have room := tally.left spent
      omega
  · intro unfailing
    apply ends.resolve_right
    rw [failed]
    rintro ⟨id, -, most⟩
    have positive : 0 < service.maxAttempts := service.retryPolicy.positive
    obtain ⟨input, given⟩ := kept.tallied.answered id .failed (by
      simp only
      omega)
    exact unfailing given

end outcome

theorem excused_of_raised {good : α → κ → Prop} {bad : ε → κ → Prop} {cut : Prop}
    {outcome : Outcome ε α} {s : κ} (reached : Program.Ends good bad cut outcome s) {e : ε}
    (raised : outcome = .raised e) : bad e s := by
  subst raised
  exact reached

section execution
variable [PyRuntime] (env : Env) (service : OrchestratorService) (fuel : Nat) (runId : String)

/-- An execution of an accepted graph whose tools are all allowed and whose agents never
    wait comes to an end, whatever the earlier calls have left behind. The run is
    completed where every agent has succeeded exactly once, and failed where one of them
    has failed as often as it may; without failures it is completed. -/
theorem execution_comes_out (requests : List Call) (graph : ExecutionGraph) (w : World)
    (fixed : KeepsIds service (.execute graph :: requests)) (fresh : Fresh runId w)
    (accepted : Accepted service graph) (permits : Permits env.registry graph)
    (patient : ¬ env.answers .waitingForApproval)
    (enough : graph.ids.length * service.maxAttempts < fuel) :
    let before := (runCalls env service fuel runId requests w).2
    let made := (makeCall env service fuel runId (.execute graph) before).1
    (∃ result, made.outcome = .returned result ∧
      ComesOut env service.maxAttempts graph.ids made.history result.status) ∨
    ∃ e, made.outcome = .raised e ∧ Hindered made.history := by
  intro before made
  have starts : (Call.execute graph).starts service = some graph := if_pos accepted
  have valid := ExecutionGraph.validate_ok accepted.1
  have fixedIds : FixedIds graph := fixed _ List.mem_cons_self graph starts
  have earlier : KeepsIds service requests :=
    fun request member => fixed request (List.mem_cons_of_mem _ member)
  obtain ⟨resting, recounted, -⟩ := runCalls_rest env fuel (namesOnce_calls earlier)
    (graphsOf_within requests) fresh
  let c := before.control runId
  let law := strictLaw env service runId graph c
  have sound : law.Sound := strictLaw_sound valid fixedIds
  have inv : law.Inv c [] := by
    refine ⟨resting.holds.ids_nodup, resting.holds.own, ?_, ?_, fun _ => rfl, ?_⟩
    · exact fun id member => List.mem_append_left _ member
    · exact fun saved => absurd ⟨rfl, by simp⟩ saved
    · intro planned _ written
      obtain ⟨now, impossible⟩ := written rfl
      cases impossible
  have carried : law.Carried (Orderly law.maxAttempts graph.ids) (Moving law.maxAttempts graph.ids)
      (Halted law.maxAttempts graph.ids) :=
    agreement_carried (fun _ fit => fit) fixedIds valid.ids_nodup (valid_named valid)
  have believes : law.Believes env := fun tick agentType input => ⟨tick, agentType, input, rfl⟩
  have walk : ((Call.execute graph).program service fuel runId).wp law.work
      (fun o s => Program.Ends (fun r s => LeftOrderly service.maxAttempts graph.ids r.status s.1)
          law.Excused (law.counts → fuel ≤ law.bound) o s ∧
        (∃ now, setupEntries runId now graph.nodes <:+ s.2) ∧
        ∀ result, o = .returned result → ¬ law.Storing s.2) (c, []) := by
    apply Law.executeRun_walk sound (strictLaw_able accepted permits) rfl carried fuel rfl accepted rfl
      inv rfl le_rfl
    intro run now stored _ redacts
    exact setup_orderly service.retryPolicy.positive valid.ids_nodup fixedIds resting.holds.ids_nodup
      redacts
  obtain ⟨holds, inv', kept, -, reached, ⟨now, setUp⟩, saved⟩ := work_call env fuel rfl believes sound rfl
    (fun op s answer s' _ kept asked allowed => strict_kept patient op s answer s' kept asked allowed)
    resting.holds inv (strict_begins recounted.records) walk
  cases outcome : made.outcome with
  | returned result =>
    have left := returned_good reached outcome
    exact Or.inl ⟨result, rfl, comes_out valid fixedIds inv' kept (saved result outcome) setUp left⟩
  | raised e =>
    refine Or.inr ⟨e, rfl, ?_⟩
    rcases excused_of_raised reached outcome with refused | ⟨id, secret, twice⟩ | lenient
    · exact Or.inl refused
    · have told : 2 ≤ 0 + answersOf id .failed made.history := twice
      exact Or.inr ⟨id, secret, by omega⟩
    · exact absurd trivial lenient
  | unfinished =>
    have cut := cut_of_unfinished reached outcome trivial
    exact absurd enough (Nat.not_lt.mpr cut)

omit [PyRuntime] in
/-- A node that is executed again, by an agent that always fails. -/
theorem solo_comes_out :
    let _ := plainRuntime
    let env := steadyEnv ⟨.empty, .empty⟩ fun _ => .failed
    let before := (runCalls env analysts 4 "run_1" [.execute soloGraph] newWorld).2
    let made := (makeCall env analysts 4 "run_1" (.execute soloGraph) before).1
    (∃ result, made.outcome = .returned result ∧
      ComesOut env analysts.maxAttempts soloGraph.ids made.history result.status) ∨
    ∃ e, made.outcome = .raised e ∧ Hindered made.history := by
  intro _ env before made
  apply execution_comes_out env analysts 4 "run_1" [.execute soloGraph] soloGraph newWorld
    (plain_fixed (by decide +kernel)) newWorld_fresh (by decide +kernel)
  · intro planned member tool required
    simp only [soloGraph, List.mem_singleton] at member
    simp [member] at required
  · rintro ⟨tick, agentType, input, answer⟩
    cases answer
  · decide

end execution
end Orchestration
