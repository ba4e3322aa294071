import AeaiOs.CallTrace
import AeaiOs.ToolGate

/-!
Any number of control calls on one run: agents wait for their dependencies, completed
work stays completed, and every call ends within the attempts that it finds.
-/
namespace Orchestration
open OrderedDict PyText CivilTime AtomicProgram RunValues RunModels Redaction InMemoryRunRepository
  ToolPolicy

/-- The calls of the execution that a call belongs to, before it. -/
def sinceBefore (service : OrchestratorService) (earlier : List Done) (request : Call) : List Done :=
  match request.starts service with
  | some _ => []
  | none => sinceExecution service earlier

theorem sinceExecution_cons {service : OrchestratorService} (done : Done) (earlier : List Done) :
    sinceExecution service (done :: earlier) = done :: sinceBefore service earlier done.call := by
  unfold sinceBefore
  rw [sinceExecution]
  cases done.call.starts service <;> rfl

/-- The ids of the plan that a call works on. -/
def Call.plan (service : OrchestratorService) (c : Control) (request : Call) : List String :=
  match request.starts service with
  | some graph => graph.ids
  | none => ((c.checkpoint.map LangGraphRunState.plan).getD []).map PlanItem.id

/-- What the log tells of the records is what the store has of them. -/
structure Recounted (service : OrchestratorService) (log : List Done) (c : Control) : Prop where
  records : ∀ id, recordOf c.nodes id = recordAt (trail log) id
  succeeded : ∀ id, answersOf id .succeeded (trail (sinceExecution service log)) = 0 ∨
    answersOf id .succeeded (trail (sinceExecution service log)) = 1 ∧
      SucceededOnce c.nodes .idle id

theorem cut_of_unfinished {good : α → κ → Prop} {bad : ε → κ → Prop} {cut : Prop}
    {outcome : Outcome ε α} {s : κ} (reached : Program.Ends good bad cut outcome s)
    (unfinished : outcome = .unfinished) : cut := by
  subst unfinished
  exact reached

theorem returned_good {good : α → κ → Prop} {bad : ε → κ → Prop} {cut : Prop}
    {outcome : Outcome ε α} {s : κ} (reached : Program.Ends good bad cut outcome s) {value : α}
    (returned : outcome = .returned value) : good value s := by
  subst returned
  exact reached

section call
variable [PyRuntime] (env : Env) (service : OrchestratorService) (fuel : Nat) (runId : String)
  (graphs : List ExecutionGraph)

/-- The law of a call that comes after these. -/
def lawOf (earlier : List Done) (c : Control) (request : Call) : Law :=
  callLaw env service runId graphs c (request.plan service c)
    (currentTasks service (request.pending :: earlier)) (request.starts service).isSome request

/-- What a call keeps from its first step to its last. -/
structure Kept (earlier : List Done) (c : Control) (request : Call) (s : Control × List Entry) :
    Prop where
  traced : Traced (lawOf env service runId graphs earlier c request) (trail earlier)
    (trail (sinceBefore service earlier request)) s
  metered : NamesNoOther graphs → Metered (lawOf env service runId graphs earlier c request) s

/-- A call that has worked by its law: what it asked for on the way, and how it ended. -/
structure Worked (earlier : List Done) (c : Control) (done : Done) (c' : Control) : Prop where
  asked : AskedFor describe (lawOf env service runId graphs earlier c done.call).work
    (fun s => (lawOf env service runId graphs earlier c done.call).Inv s.1 s.2 ∧
      Kept env service runId graphs earlier c done.call s) done.history
  inv : (lawOf env service runId graphs earlier c done.call).Inv c' done.history
  kept : Kept env service runId graphs earlier c done.call (c', done.history)
  setup : ∀ graph, done.call.starts service = some graph →
    ∃ now, setupEntries runId now graph.nodes <:+ done.history
  cut : done.outcome = .unfinished → NamesNoOther graphs →
    fuel ≤ done.call.attempts service.maxAttempts c
      ((done.call.plan service c).filter (· ∈ recordIds graphs))

variable {env service fuel runId graphs}

theorem kept_begins {earlier : List Done} {c : Control} {request : Call}
    (recounted : Recounted service earlier c)
    (working : request.starts service = none → ∀ graph, request ≠ .execute graph) :
    Kept env service runId graphs earlier c request (c, []) := by
  have stored : ¬ (lawOf env service runId graphs earlier c request).Storing [] →
      request.starts service = none := by
    intro saved
    cases starts : request.starts service with
    | none => rfl
    | some graph =>
      refine absurd ⟨?_, by simp⟩ saved
      simp [lawOf, callLaw, starts]
  refine ⟨?_, fun _ => ?_⟩
  · constructor
    · exact recounted.records
    · intro id concerns
      exact False.elim concerns
    · intro storing id status
      have stores : (request.starts service).isSome = true := storing.1
      obtain ⟨graph, starts⟩ := Option.isSome_iff_exists.mp stores
      simp [sinceBefore, starts, trail, answersOf]
    · intro id
      unfold sinceBefore
      cases starts : request.starts service with
      | some graph => exact Or.inl rfl
      | none => exact recounted.succeeded id
  · have room : ¬ (lawOf env service runId graphs earlier c request).Storing [] →
        attemptsLeft (lawOf env service runId graphs earlier c request).maxAttempts c.nodes
          (lawOf env service runId graphs earlier c request).counted ≤
            (lawOf env service runId graphs earlier c request).bound := by
      intro saved
      exact call_attempts service.maxAttempts c _ (working (stored saved))
    constructor
    · exact fun _ => ⟨rfl, by simp [NotPaused]⟩
    · exact fun _ => rfl
    · exact fun _ => by simp [Untried, attempt]
    · exact fun id concerns => False.elim concerns
    · intro saved _ _
      have within := room saved
      simpa [startsOf] using within
    · intro saved
      have within := room saved
      simp only [startsOf, List.countP_nil]
      omega
    · exact fun paused => absurd (by simp [NotPaused]) paused

/-- A legal step of the call keeps all of it. -/
theorem kept_step {earlier : List Done} {c : Control} {request : Call}
    (sound : (lawOf env service runId graphs earlier c request).Sound) (op : Op β)
    (s : Control × List Entry) (answer : Except PyError β) (s' : Control × List Entry)
    (inv : (lawOf env service runId graphs earlier c request).Inv s.1 s.2)
    (kept : Kept env service runId graphs earlier c request s)
    (asked : (lawOf env service runId graphs earlier c request).Asks op s.1 s.2)
    (allowed : (lawOf env service runId graphs earlier c request).work.allows op s answer s') :
    Kept env service runId graphs earlier c request s' := by
  have effect := effect_of_step asked allowed
  refine ⟨kept.traced.step effect, fun noOther => ?_⟩
  obtain ⟨nodup, covers⟩ := sound.counted noOther
  apply (kept.metered noOther).step effect nodup
  rintro old member ⟨ids, fit, inside⟩
  exact covers ids fit old.id inside (inv.known old.id (List.mem_map_of_mem member))

theorem carried_nothing {law : Law} :
    law.Carried (fun _ _ => True) (fun _ _ => True) (fun _ _ => True) where
  enter _ _ _ _ := trivial
  ran := by
    intro node final state before stored c history outcome s _ _ _ _
    split <;> trivial
  leave _ _ _ := trivial

omit [PyRuntime] in
theorem currentTasks_starts {earlier : List Done} {request : Call} {graph : ExecutionGraph}
    (starts : request.starts service = some graph) :
    currentTasks service (request.pending :: earlier) = graph.nodes := by
  have here : request.pending.call.starts service = some graph := starts
  simp [currentTasks, currentGraph_starts here]

omit [PyRuntime] in
theorem currentTasks_continues {earlier : List Done} {request : Call}
    (starts : request.starts service = none) :
    currentTasks service (request.pending :: earlier) = currentTasks service earlier := by
  have here : request.pending.call.starts service = none := starts
  simp [currentTasks, currentGraph_continues here]

variable {carries free paused : List GraphNodeRecord → LangGraphRunState → Prop}

variable (env fuel) in
theorem started_works (once : NamesOnce graphs) {earlier : List Done} {request : Call} {w : World}
    {graph : ExecutionGraph} (starts : request.starts service = some graph) (member : graph ∈ graphs)
    (resting : Resting service runId graphs earlier w)
    (recounted : Recounted service earlier (w.control runId))
    (carried : (lawOf env service runId graphs earlier (w.control runId) request).Carried carries free
      paused)
    (begins : ∀ run now stored, run.id = runId →
      redactState (buildInitialState run graph) = .ok stored →
      carries (setupNodes runId now graph.nodes (w.control runId).nodes) stored) :
    let made := makeCall env service fuel runId request w
    made.2.Holds runId ∧
      Worked env service fuel runId graphs earlier (w.control runId) made.1 (made.2.control runId) ∧
      ∀ result, made.1.outcome = .returned result →
        request.leaves service.maxAttempts carries paused (w.control runId) result.status
          (made.2.control runId) := by
  intro made
  have law : lawOf env service runId graphs earlier (w.control runId) request =
      callLaw env service runId graphs (w.control runId) graph.ids graph.nodes true request := by
    simp [lawOf, Call.plan, starts, currentTasks_starts starts]
  have accepted := (starts_accepted starts).2
  have known : ∀ planned ∈ graph.nodes, planned.id ∈ recordIds graphs := by
    intro planned inside
    exact List.mem_flatMap.mpr ⟨graph, member, List.mem_map_of_mem inside⟩
  have sound : (lawOf env service runId graphs earlier (w.control runId) request).Sound := by
    rw [law]
    exact callLaw_sound once member .start known (ExecutionGraph.validate_ok accepted.1).ids_nodup
  have inv : (lawOf env service runId graphs earlier (w.control runId) request).Inv
      (w.control runId) [] := by
    rw [law]
    refine ⟨resting.holds.ids_nodup, resting.holds.own, resting.known, ?_, fun _ => rfl, ?_⟩
    · exact fun saved => absurd ⟨rfl, by simp⟩ saved
    · intro planned _ written
      obtain ⟨now, impossible⟩ := written rfl
      cases impossible
  have first : Kept env service runId graphs earlier (w.control runId) request
      (w.control runId, []) :=
    kept_begins recounted fun none => by
      rw [none] at starts
      cases starts
  obtain ⟨holds, inv', kept, asked, reached, written, -⟩ := work_call env fuel rfl
    (fun _ _ _ => trivial) sound rfl (kept_step sound) resting.holds inv first
    (started_walk law starts sound carried fuel inv begins)
  refine ⟨holds, ⟨asked, inv', kept, ?_, ?_⟩, fun result => returned_good reached⟩
  · intro graph' same
    have here : request.starts service = some graph' := same
    rw [starts, Option.some.injEq] at here
    rw [← here]
    exact written
  · intro unfinished noOther
    exact cut_of_unfinished reached unfinished noOther

variable (env fuel) in
theorem continued_works (once : NamesOnce graphs) {earlier : List Done} {request : Call} {w : World}
    (starts : request.starts service = none) (working : ∀ graph, request ≠ .execute graph)
    (member : ∀ graph, currentGraph service earlier = some graph → graph ∈ graphs)
    {state : LangGraphRunState} (stored : (w.control runId).checkpoint = some state)
    (resting : Resting service runId graphs earlier w)
    (recounted : Recounted service earlier (w.control runId))
    (carried : (lawOf env service runId graphs earlier (w.control runId) request).Carried carries free
      paused)
    (reopens : Reopens carries (w.control runId) state) :
    let made := makeCall env service fuel runId request w
    made.2.Holds runId ∧
      Worked env service fuel runId graphs earlier (w.control runId) made.1 (made.2.control runId) ∧
      ∀ result, made.1.outcome = .returned result →
        request.leaves service.maxAttempts carries paused (w.control runId) result.status
          (made.2.control runId) := by
  intro made
  have law : lawOf env service runId graphs earlier (w.control runId) request =
      callLaw env service runId graphs (w.control runId) (state.plan.map PlanItem.id)
        (currentTasks service earlier) false request := by
    simp [lawOf, Call.plan, starts, currentTasks_continues starts, stored]
  obtain ⟨graph, inside, from'⟩ := resting.plan state stored
  have known : ∀ planned ∈ currentTasks service earlier, planned.id ∈ recordIds graphs := by
    intro planned here
    unfold currentTasks at here
    cases current : currentGraph service earlier with
    | none => simp [current] at here
    | some task =>
      simp only [current, Option.map_some, Option.getD_some] at here
      exact List.mem_flatMap.mpr ⟨task, member task current, List.mem_map_of_mem here⟩
  have sound : (lawOf env service runId graphs earlier (w.control runId) request).Sound := by
    rw [law]
    exact callLaw_sound once inside from' known (currentTasks_unique earlier)
  have inv : (lawOf env service runId graphs earlier (w.control runId) request).Inv
      (w.control runId) [] := by
    rw [law]
    refine ⟨resting.holds.ids_nodup, resting.holds.own, resting.known, ?_, fun _ => rfl, ?_⟩
    · intro _ state' found
      rw [stored, Option.some.injEq] at found
      subst found
      exact ⟨.start, fun strict => strict.elim, resting.legible state stored⟩
    · exact fun planned here _ => resting.tasks planned here
  have begins : Kept env service runId graphs earlier (w.control runId) request
      (w.control runId, []) := kept_begins recounted fun _ => working
  obtain ⟨holds, inv', kept, asked, reached⟩ := work_call env fuel rfl
    (fun _ _ _ => trivial) sound rfl (kept_step sound) resting.holds inv begins
    (continued_walk law sound carried fuel stored inv working reopens)
  refine ⟨holds, ⟨asked, inv', kept, ?_, ?_⟩, fun result => returned_good reached⟩
  · intro graph' same
    have here : request.starts service = some graph' := same
    rw [starts] at here
    cases here
  · intro unfinished noOther
    exact cut_of_unfinished reached unfinished noOther

omit [PyRuntime] in
/-- What is to be done depends on the calls alone. -/
theorem currentTasks_pending {done : Done} {earlier : List Done} :
    currentTasks service (done :: earlier) = currentTasks service (done.call.pending :: earlier) := by
  cases starts : done.call.starts service with
  | some graph =>
    have here : done.call.pending.call.starts service = some graph := starts
    simp [currentTasks, currentGraph_starts starts, currentGraph_starts here]
  | none =>
    have here : done.call.pending.call.starts service = none := starts
    simp [currentTasks, currentGraph_continues starts, currentGraph_continues here]

omit [PyRuntime] in
/-- An agent is started after the records of the graph have been written. -/
theorem setup_before {now : Time} {nodes : List ExecutionNode} {newer older : List Entry}
    {agentType : String} {input : AgentInput}
    (written : setupEntries runId now nodes <:+ newer ++ .agentStarted agentType input :: older) :
    setupEntries runId now nodes <:+ older := by
  have absent : .agentStarted agentType input ∉ setupEntries runId now nodes := by
    simp [setupEntries]
  rcases List.suffix_or_suffix_of_suffix written (List.suffix_append newer _) with before | after
  · rcases List.suffix_cons_iff.mp before with same | earlier
    · exact absurd (same ▸ List.mem_cons_self) absent
    · exact earlier
  · exact absurd (after.subset List.mem_cons_self) absent

omit [PyRuntime] in
theorem mem_setupEntries {now : Time} {nodes : List ExecutionNode} {planned : ExecutionNode}
    (member : planned ∈ nodes) :
    .upserted (initialRecord runId now planned) ∈ setupEntries runId now nodes := by
  unfold setupEntries
  rw [List.mem_reverse]
  exact List.mem_map_of_mem member

/-- The run rests again after a call that has worked. -/
theorem worked_rests {earlier : List Done} {done : Done} {w w' : World} (holds : w'.Holds runId)
    (worked : Worked env service fuel runId graphs earlier (w.control runId) done (w'.control runId))
    (basis : ∃ graph ∈ graphs, Redactions graph.ids (done.call.plan service (w.control runId)))
    (resting : Resting service runId graphs earlier w) :
    Resting service runId graphs (done :: earlier) w' := by
  have fits : ∀ state, (w'.control runId).checkpoint = some state →
      (lawOf env service runId graphs earlier (w.control runId) done.call).Fits done.history state ∨
        (w.control runId).checkpoint = some state := by
    intro state stored
    by_cases storing : (lawOf env service runId graphs earlier (w.control runId) done.call).Storing
        done.history
    · exact Or.inr ((worked.inv.unsaved storing).symm.trans stored)
    · exact Or.inl (worked.inv.plan storing state stored)
  refine ⟨holds, worked.inv.known, ?_, ?_, ?_⟩
  · intro state stored
    rcases fits state stored with new | old
    · obtain ⟨graph, member, from'⟩ := basis
      exact ⟨graph, member, from'.trans new.plan⟩
    · exact resting.plan state old
  · intro state stored
    rcases fits state stored with new | old
    · exact new.legible
    · exact resting.legible state old
  · intro planned member
    rw [currentTasks_pending] at member
    refine worked.inv.tasks planned member fun stores => ?_
    obtain ⟨graph, starts⟩ := Option.isSome_iff_exists.mp stores
    obtain ⟨now, written⟩ := worked.setup graph starts
    rw [currentTasks_starts starts] at member
    exact ⟨now, written.subset (mem_setupEntries member)⟩

theorem worked_recounts {earlier : List Done} {done : Done} {c c' : Control}
    (worked : Worked env service fuel runId graphs earlier c done c') :
    Recounted service (done :: earlier) c' where
  records := worked.kept.traced.records
  succeeded id := by
    have told := worked.kept.traced.succeeded id
    rw [sinceExecution_cons]
    rcases told with none | ⟨one, node, stored, stands⟩
    · exact Or.inl none
    · refine Or.inr ⟨one, node, stored, ?_⟩
      rcases stands with completed | ⟨running, -⟩
      · exact Or.inl completed
      · exact Or.inr ⟨running, Or.inr fun concerns => concerns⟩

/-- A call that is refused at once leaves all of it as it was. -/
theorem refused_rests {earlier : List Done} {done : Done} {w w' : World}
    (starts : done.call.starts service = none) (silent : done.history = [])
    (holds : w'.Holds runId) (same : w'.control runId = w.control runId)
    (resting : Resting service runId graphs earlier w)
    (recounted : Recounted service earlier (w.control runId)) :
    Resting service runId graphs (done :: earlier) w' ∧
      Recounted service (done :: earlier) (w'.control runId) := by
  have tasks : currentTasks service (done :: earlier) = currentTasks service earlier := by
    simp [currentTasks, currentGraph_continues starts]
  have told : trail (done :: earlier) = trail earlier := by simp [trail, silent]
  have since : trail (sinceExecution service (done :: earlier)) =
      trail (sinceExecution service earlier) := by
    rw [sinceExecution_cons]
    simp [sinceBefore, starts, trail, silent]
  refine ⟨⟨holds, ?_, ?_, ?_, ?_⟩, ⟨?_, ?_⟩⟩
  · rw [same]
    exact resting.known
  · rw [same]
    exact resting.plan
  · rw [same]
    exact resting.legible
  · rw [same, tasks]
    exact resting.tasks
  · rw [same, told]
    exact recounted.records
  · rw [same, since]
    exact recounted.succeeded

/-- What one call shows: it was refused before it did anything, or it has worked. -/
def Shows (env : Env) (service : OrchestratorService) (fuel : Nat) (runId : String)
    (graphs : List ExecutionGraph) (earlier : List Done) (c : Control) (done : Done) (c' : Control) :
    Prop :=
  done.call.starts service = none ∧ done.history = [] ∧ (∃ e, done.outcome = .raised e) ∨
    Worked env service fuel runId graphs earlier c done c'

variable (env fuel) in
/-- One more call, whichever it is. -/
theorem call_rests (once : NamesOnce graphs) {earlier : List Done} {request : Call} {w : World}
    (starts : ∀ graph, request.starts service = some graph → graph ∈ graphs)
    (current : ∀ graph, currentGraph service earlier = some graph → graph ∈ graphs)
    (resting : Resting service runId graphs earlier w)
    (recounted : Recounted service earlier (w.control runId)) :
    let made := makeCall env service fuel runId request w
    Resting service runId graphs (made.1 :: earlier) made.2 ∧
      Recounted service (made.1 :: earlier) (made.2.control runId) ∧
      Shows env service fuel runId graphs earlier (w.control runId) made.1 (made.2.control runId) := by
  intro made
  cases started : request.starts service with
  | some graph =>
    have member := starts graph started
    obtain ⟨holds, worked, -⟩ := started_works env fuel once started member resting recounted
      carried_nothing fun _ _ _ _ _ => trivial
    refine ⟨worked_rests holds worked ⟨graph, member, ?_⟩ resting, worked_recounts worked,
      Or.inr worked⟩
    have plan : made.1.call.plan service (w.control runId) = graph.ids := by
      have here : made.1.call.starts service = some graph := started
      simp [Call.plan, here]
    rw [plan]
    exact .start
  | none =>
    have here : made.1.call.starts service = none := started
    by_cases idle : Idle service (w.control runId) request
    · obtain ⟨silent, holds, same, raised⟩ := @run_refused _ env service runId fuel request w
        resting.holds idle
      obtain ⟨rests, recounts⟩ := refused_rests here silent holds same resting recounted
      exact ⟨rests, recounts, Or.inl ⟨here, silent, raised⟩⟩
    · have working : ∀ graph, request ≠ .execute graph := by
        intro graph same
        subst same
        apply idle
        intro accepted
        simp [Call.starts, accepted] at started
      have stored : ∃ state, (w.control runId).checkpoint = some state := by
        cases checkpoint : (w.control runId).checkpoint with
        | some state => exact ⟨state, rfl⟩
        | none =>
          exfalso
          apply idle
          cases request with
          | execute graph => exact absurd rfl (working graph)
          | resume => exact checkpoint
          | approve nodeId approved comment => exact checkpoint
          | retry nodeId => exact checkpoint
      obtain ⟨state, stored⟩ := stored
      obtain ⟨holds, worked, -⟩ := continued_works env fuel once started working current
        stored resting recounted carried_nothing
        ⟨trivial, fun _ _ _ _ _ _ _ _ _ _ => trivial, fun _ _ _ _ _ _ _ _ _ _ => trivial⟩
      refine ⟨worked_rests holds worked ?_ resting, worked_recounts worked, Or.inr worked⟩
      have plan : made.1.call.plan service (w.control runId) = state.plan.map PlanItem.id := by
        simp [Call.plan, here, stored]
      rw [plan]
      exact resting.plan state stored

omit [PyRuntime] in
theorem currentGraph_mem {log : List Done}
    (within : ∀ done ∈ log, ∀ graph, done.call.starts service = some graph → graph ∈ graphs)
    {graph : ExecutionGraph} (current : currentGraph service log = some graph) : graph ∈ graphs := by
  induction log with
  | nil => cases current
  | cons done earlier ih =>
    unfold currentGraph at current
    split at current
    · rename_i started starts
      simp only [Option.some.injEq] at current
      subst current
      exact within done List.mem_cons_self started starts
    · exact ih (fun other member => within other (List.mem_cons_of_mem _ member)) current

theorem runCalls_calls (requests : List Call) (w : World) :
    (runCalls env service fuel runId requests w).1.map Done.call = requests := by
  induction requests with
  | nil => rfl
  | cons request earlier ih => simp [runCalls, ih, makeCall]

theorem runCalls_current {requests : List Call} {w : World}
    (within : ∀ request ∈ requests, ∀ graph, request.starts service = some graph → graph ∈ graphs)
    {graph : ExecutionGraph}
    (current : currentGraph service (runCalls env service fuel runId requests w).1 = some graph) :
    graph ∈ graphs := by
  apply currentGraph_mem _ current
  intro done member
  apply within
  have called := List.mem_map_of_mem (f := Done.call) member
  rw [runCalls_calls] at called
  exact called

variable (env fuel) in
/-- After any calls the run rests, and every call of the log has shown what it did. -/
theorem runCalls_rest (once : NamesOnce graphs) {requests : List Call} {w : World}
    (within : ∀ request ∈ requests, ∀ graph, request.starts service = some graph → graph ∈ graphs)
    (fresh : Fresh runId w) :
    Resting service runId graphs (runCalls env service fuel runId requests w).1
        (runCalls env service fuel runId requests w).2 ∧
      Recounted service (runCalls env service fuel runId requests w).1
        ((runCalls env service fuel runId requests w).2.control runId) ∧
      ∀ later done earlier,
        (runCalls env service fuel runId requests w).1 = later ++ done :: earlier →
          ∃ c c', Shows env service fuel runId graphs earlier c done c' := by
  induction requests with
  | nil =>
    refine ⟨resting_fresh fresh, ⟨?_, fun _ => Or.inl rfl⟩, by simp [runCalls]⟩
    intro id
    have none : ((runCalls env service fuel runId [] w).2.control runId).nodes = [] := fresh.unwritten
    rw [none]
    rfl
  | cons request earlier ih =>
    obtain ⟨resting, recounted, shown⟩ := ih fun other member =>
      within other (List.mem_cons_of_mem _ member)
    have current : ∀ graph,
        currentGraph service (runCalls env service fuel runId earlier w).1 = some graph →
          graph ∈ graphs :=
      fun graph => runCalls_current fun other member => within other (List.mem_cons_of_mem _ member)
    obtain ⟨resting', recounted', shows'⟩ := call_rests env fuel once
      (within request List.mem_cons_self) current resting recounted
    refine ⟨resting', recounted', ?_⟩
    intro later done before split
    cases later with
    | nil =>
      simp only [runCalls, List.nil_append, List.cons.injEq] at split
      obtain ⟨rfl, rfl⟩ := split
      exact ⟨_, _, shows'⟩
    | cons first later =>
      simp only [runCalls, List.cons_append, List.cons.injEq] at split
      exact shown later done before split.2

/-! The graphs that the calls start. -/

/-- A plan whose ids are left alone consists of nodes of the graphs. -/
theorem plan_recorded {log : List Done} {w : World} {request : Call}
    (fixed : ∀ graph ∈ graphs, FixedIds graph)
    (starts : ∀ graph, request.starts service = some graph → graph ∈ graphs)
    (resting : Resting service runId graphs log w) :
    (request.plan service (w.control runId)).filter (· ∈ recordIds graphs) =
      request.plan service (w.control runId) := by
  rw [List.filter_eq_self]
  intro id inside
  rw [decide_eq_true_eq]
  unfold Call.plan at inside
  cases started : request.starts service with
  | some graph =>
    rw [started] at inside
    exact List.mem_flatMap.mpr ⟨graph, starts graph started, inside⟩
  | none =>
    rw [started] at inside
    cases stored : (w.control runId).checkpoint with
    | none => simp [stored] at inside
    | some state =>
      simp only [stored, Option.map_some, Option.getD_some] at inside
      obtain ⟨graph, member, redactions⟩ := resting.plan state stored
      rw [redactions.fixed (fixed graph member)] at inside
      exact List.mem_flatMap.mpr ⟨graph, member, inside⟩

theorem graphsOf_fixed {requests : List Call} (fixed : KeepsIds service requests) :
    ∀ graph ∈ graphsOf service requests, FixedIds graph := by
  intro graph member
  obtain ⟨request, inside, starts⟩ := List.mem_filterMap.mp member
  exact fixed request inside graph starts

theorem namesOnce_calls {requests : List Call} (fixed : KeepsIds service requests) :
    NamesOnce (graphsOf service requests) := by
  apply namesOnce_fixed
  · intro graph member
    obtain ⟨request, -, starts⟩ := List.mem_filterMap.mp member
    exact (ExecutionGraph.validate_ok (starts_accepted starts).2.1).ids_nodup
  · exact graphsOf_fixed fixed

theorem namesNoOther_calls {requests : List Call} (fixed : KeepsIds service requests) :
    NamesNoOther (graphsOf service requests) := namesNoOther_fixed (graphsOf_fixed fixed)

omit [PyRuntime] in
theorem graphsOf_within (requests : List Call) : ∀ request ∈ requests, ∀ graph,
    request.starts service = some graph → graph ∈ graphsOf service requests := by
  intro request member graph starts
  exact List.mem_filterMap.mpr ⟨request, member, starts⟩

omit [PyRuntime] in
theorem describe_upserted {op : Op β} {answer : Except PyError β} {node : GraphNodeRecord}
    (h : describe op answer = some (.upserted node)) :
    ∃ same : β = GraphNodeRecord, same ▸ op = .upsertGraphNode node := by
  cases op with
  | upsertGraphNode written =>
    cases answer with
    | ok _ =>
      simp only [describe, Option.some.injEq, Entry.upserted.injEq] at h
      subst h
      exact ⟨rfl, rfl⟩
    | error e => simp [describe] at h
  | _ => cases answer <;> simp [describe] at h

/-! What a call that has worked asked for. -/

section asked
variable {earlier : List Done} {done : Done} {c c' : Control}
  (worked : Worked env service fuel runId graphs earlier c done c')
include worked

theorem Worked.started {newer older : List Entry} {agentType : String} {input : AgentInput}
    (split : done.history = newer ++ .agentStarted agentType input :: older) :
    ∃ node, recordAt (older ++ trail earlier) input.nodeId = some node ∧ node.status = .running ∧
      node.agentType = agentType ∧
      (∀ planned ∈ currentTasks service (done :: earlier), planned.id = input.nodeId →
        TaskOf node planned) ∧
      ∀ dependency ∈ node.dependsOn, ∃ record,
        recordAt (older ++ trail earlier) dependency = some record ∧ record.status = .completed := by
  obtain ⟨β, op, answer, k, noted, ⟨inv, kept⟩, asked⟩ := worked.asked newer _ older split
  obtain ⟨rfl, same⟩ := describe_agentStarted noted
  subst same
  obtain ⟨-, -, -, node, stored, running, agent, ready⟩ := asked
  have records := kept.traced.records
  simp only at records
  refine ⟨node, ?_, running, agent, ?_, ?_⟩
  · rw [← records]
    exact stored
  · intro planned member same
    have known : planned ∈ (lawOf env service runId graphs earlier c done.call).tasks := by
      rw [currentTasks_pending] at member
      exact member
    obtain ⟨record, found, task⟩ := inv.tasks planned known fun stores => by
      obtain ⟨graph, starts⟩ := Option.isSome_iff_exists.mp stores
      obtain ⟨now, written⟩ := worked.setup graph starts
      rw [currentTasks_pending, currentTasks_starts starts] at member
      exact ⟨now, (setup_before (split ▸ written)).subset (mem_setupEntries member)⟩
    rw [same, stored, Option.some.injEq] at found
    rw [found]
    exact task
  · intro dependency needed
    obtain ⟨record, found, completed⟩ := ready dependency needed
    rw [records] at found
    exact ⟨record, found, completed⟩

theorem Worked.written {newer older : List Entry} {node old : GraphNodeRecord}
    (split : done.history = newer ++ .upserted node :: older)
    (stored : recordAt (older ++ trail earlier) node.id = some old)
    (completed : old.status = .completed) :
    ∃ graph, done.call.starts service = some graph ∧
      ∃ planned ∈ graph.nodes, ∃ now, node = initialRecord runId now planned := by
  obtain ⟨β, op, answer, k, noted, ⟨inv, kept⟩, asked⟩ := worked.asked newer _ older split
  obtain ⟨rfl, same⟩ := describe_upserted noted
  subst same
  obtain ⟨-, setup, moves⟩ := asked
  by_cases storing : (lawOf env service runId graphs earlier c done.call).Storing older
  · obtain ⟨graph, starts⟩ := Option.isSome_iff_exists.mp storing.1
    obtain ⟨planned, member, now, initial⟩ := setup storing
    have tasks : (lawOf env service runId graphs earlier c done.call).tasks = graph.nodes :=
      currentTasks_starts starts
    rw [tasks] at member
    exact ⟨graph, starts, planned, member, now, initial⟩
  · obtain ⟨record, found, legal⟩ := moves storing
    have records := kept.traced.records node.id
    simp only at records found
    rw [records, stored, Option.some.injEq] at found
    rw [← found] at legal
    exact absurd completed legal.not_completed

theorem Worked.bounded (noOther : NamesNoOther graphs) :
    startsOf done.history ≤ done.call.attempts service.maxAttempts c
      ((done.call.plan service c).filter (· ∈ recordIds graphs)) :=
  (worked.kept.metered noOther).bounded

end asked
end call

/-! A node alone, and two nodes one after the other. -/

def soloGraph : ExecutionGraph where
  runId := "run_1"
  nodes := [{ id := "a", agent := "analyst", task := "Read" }]

def pairGraph : ExecutionGraph where
  runId := "run_1"
  nodes :=
    [{ id := "a", agent := "analyst", task := "Read" },
      { id := "b", agent := "analyst", task := "Sum up", dependsOn := ["a"] }]

section sample
variable [PyRuntime]

def Call.plain : Call → Bool
  | .execute graph => graph.ids.all fun id => id.toList.all plainChar
  | _ => true

theorem plain_fixed {service : OrchestratorService} {requests : List Call}
    (plain : requests.all Call.plain = true) : KeepsIds service requests := by
  intro request member graph starts id inside
  have here : request.plain = true := List.all_eq_true.mp plain request member
  rw [(starts_accepted starts).1] at here
  apply redactText_plain
  exact List.all_eq_true.mp (List.all_eq_true.mp here id inside)

end sample

theorem newWorld_fresh : @Fresh "run_1" (@newWorld plainRuntime) :=
  ⟨⟨by decide, by decide, by decide⟩, by decide, by decide⟩

def Entry.startsFor (nodeId : String) : Entry → Bool
  | .agentStarted _ input => decide (input.nodeId = nodeId)
  | _ => false

theorem split_at_start {nodeId : String} {history : List Entry}
    (h : history.any (Entry.startsFor nodeId) = true) :
    ∃ newer agentType input older, input.nodeId = nodeId ∧
      history = newer ++ .agentStarted agentType input :: older := by
  obtain ⟨entry, member, starts⟩ := List.any_eq_true.mp h
  obtain ⟨newer, older, split⟩ := List.append_of_mem member
  cases entry with
  | agentStarted agentType input =>
    exact ⟨newer, agentType, input, older, of_decide_eq_true starts, split⟩
  | _ => simp [Entry.startsFor] at starts

section laws
variable [PyRuntime] (env : Env) (service : OrchestratorService) (fuel : Nat) (runId : String)

/-- In every run of control calls an agent is started on the running record of its node,
    which has the task that the executed graph gives it, and every node that it depends
    on has a completed record by then. -/
theorem agents_wait (requests : List Call) (w : World) (fixed : KeepsIds service requests)
    (fresh : Fresh runId w) (later earlier : List Done) (done : Done)
    (log : (runCalls env service fuel runId requests w).1 = later ++ done :: earlier)
    (newer older : List Entry) (agentType : String) (input : AgentInput)
    (split : done.history = newer ++ .agentStarted agentType input :: older) :
    ∃ node, recordAt (older ++ trail earlier) input.nodeId = some node ∧ node.status = .running ∧
      node.agentType = agentType ∧
      (∀ planned ∈ currentTasks service (done :: earlier), planned.id = input.nodeId →
        TaskOf node planned) ∧
      ∀ dependency ∈ node.dependsOn, ∃ record,
        recordAt (older ++ trail earlier) dependency = some record ∧ record.status = .completed := by
  obtain ⟨-, -, shown⟩ := runCalls_rest env fuel (namesOnce_calls fixed)
    (graphsOf_within requests) fresh
  obtain ⟨c, c', ⟨-, silent, -⟩ | worked⟩ := shown later done earlier log
  · simp [silent] at split
  · exact worked.started split

omit [PyRuntime] in
theorem pair_waits :
    let _ := plainRuntime
    let made := (makeCall (steadyEnv ⟨.empty, .empty⟩ fun _ => .succeeded) analysts 2 "run_1"
      (.execute pairGraph) newWorld).1
    ∃ newer agentType input older, input.nodeId = "b" ∧
      made.history = newer ++ .agentStarted agentType input :: older ∧
        ∃ node, recordAt (older ++ trail []) input.nodeId = some node ∧ node.status = .running ∧
          node.agentType = agentType ∧
          (∀ planned ∈ currentTasks analysts [made], planned.id = input.nodeId →
            TaskOf node planned) ∧
          ∀ dependency ∈ node.dependsOn, ∃ record,
            recordAt (older ++ trail []) dependency = some record ∧ record.status = .completed := by
  intro _ made
  have asks : made.history.any (Entry.startsFor "b") = true := by decide +kernel
  obtain ⟨newer, agentType, input, older, named, split⟩ := split_at_start asks
  exact ⟨newer, agentType, input, older, named, split,
    agents_wait (steadyEnv ⟨.empty, .empty⟩ fun _ => .succeeded) analysts 2 "run_1"
      [.execute pairGraph] newWorld (plain_fixed (by decide +kernel)) newWorld_fresh [] [] made
      (runCalls_one _ _ _ _ _ _) newer older agentType input split⟩

/-- In every run of control calls a completed record is written again only where an
    execution starts anew, with the record that its graph begins with. -/
theorem completed_stays (requests : List Call) (w : World) (fixed : KeepsIds service requests)
    (fresh : Fresh runId w) (later earlier : List Done) (done : Done)
    (log : (runCalls env service fuel runId requests w).1 = later ++ done :: earlier)
    (newer older : List Entry) (node old : GraphNodeRecord)
    (split : done.history = newer ++ .upserted node :: older)
    (stored : recordAt (older ++ trail earlier) node.id = some old)
    (completed : old.status = .completed) :
    ∃ graph, done.call.starts service = some graph ∧
      ∃ planned ∈ graph.nodes, ∃ now, node = initialRecord runId now planned := by
  obtain ⟨-, -, shown⟩ := runCalls_rest env fuel (namesOnce_calls fixed)
    (graphsOf_within requests) fresh
  obtain ⟨c, c', ⟨-, silent, -⟩ | worked⟩ := shown later done earlier log
  · simp [silent] at split
  · exact worked.written split stored completed

def Entry.writes (nodeId : String) : Entry → Bool
  | .upserted node => decide (node.id = nodeId)
  | _ => false

omit [PyRuntime] in
theorem first_write {nodeId : String} {history : List Entry}
    (h : history.getLast?.any (Entry.writes nodeId) = true) :
    ∃ newer node, node.id = nodeId ∧ history = newer ++ [.upserted node] := by
  cases last : history.getLast? with
  | none => simp [last] at h
  | some entry =>
    obtain ⟨newer, split⟩ := List.getLast?_eq_some_iff.mp last
    rw [last] at h
    cases entry with
    | upserted node => exact ⟨newer, node, of_decide_eq_true h, split⟩
    | _ => simp [Entry.writes] at h

omit [PyRuntime] in
/-- The second execution of a node starts with the record of the first, completed. -/
theorem solo_restarted :
    let _ := plainRuntime
    let log := (runCalls (steadyEnv ⟨.empty, .empty⟩ fun _ => .succeeded) analysts 1 "run_1"
      [.execute soloGraph, .execute soloGraph] newWorld).1
    ∃ done earlier newer node old, log = [done, earlier] ∧
      done.history = newer ++ [.upserted node] ∧
        recordAt (trail [earlier]) node.id = some old ∧ old.status = .completed ∧
        ∃ graph, done.call.starts analysts = some graph ∧
          ∃ planned ∈ graph.nodes, ∃ now, node = initialRecord "run_1" now planned := by
  intro _ log
  obtain ⟨done, earlier, made⟩ : ∃ done earlier, log = [done, earlier] := ⟨_, _, rfl⟩
  have told : (log.head?.any fun done => done.history.getLast?.any (Entry.writes "a")) = true ∧
      (recordAt (trail log.tail) "a").any (fun old => decide (old.status = .completed)) = true := by
    decide +kernel
  simp only [made, List.head?_cons, Option.any_some, List.tail_cons] at told
  obtain ⟨newer, node, named, split⟩ := first_write told.1
  cases stored : recordAt (trail [earlier]) "a" with
  | none => simp [stored] at told
  | some old =>
    simp only [stored, Option.any_some, decide_eq_true_eq] at told
    rw [← named] at stored
    refine ⟨done, earlier, newer, node, old, made, split, stored, told.2, ?_⟩
    exact completed_stays (steadyEnv ⟨.empty, .empty⟩ fun _ => .succeeded) analysts 1 "run_1"
      [.execute soloGraph, .execute soloGraph] newWorld (plain_fixed (by decide +kernel)) newWorld_fresh []
      [earlier] done made newer [] node old split stored told.2

/-- Between two accepted executions the agent of a node succeeds at most once. -/
theorem succeeds_once (requests : List Call) (w : World) (fixed : KeepsIds service requests)
    (fresh : Fresh runId w) (id : String) :
    answersOf id .succeeded
      (trail (sinceExecution service (runCalls env service fuel runId requests w).1)) ≤ 1 := by
  obtain ⟨-, recounted, -⟩ := runCalls_rest env fuel (namesOnce_calls fixed)
    (graphsOf_within requests) fresh
  rcases recounted.succeeded id with none | ⟨one, -⟩ <;> omega

omit [PyRuntime] in
theorem pair_succeeds_once :
    let _ := plainRuntime
    answersOf "a" .succeeded (trail (sinceExecution analysts
      (runCalls (steadyEnv ⟨.empty, .empty⟩ fun _ => .succeeded) analysts 3 "run_1"
        [.resume, .execute pairGraph] newWorld).1)) ≤ 1 := by
  intro _
  exact succeeds_once _ analysts 3 "run_1" [.resume, .execute pairGraph] newWorld
    (plain_fixed (by decide +kernel)) newWorld_fresh "a"

/-- After any calls one more call starts no more agents than attempts are left to the
    nodes of its plan, and with more fuel than that it comes to an end. -/
theorem call_within_attempts (requests : List Call) (request : Call) (w : World)
    (fixed : KeepsIds service (request :: requests)) (fresh : Fresh runId w) :
    let before := (runCalls env service fuel runId requests w).2
    let made := (makeCall env service fuel runId request before).1
    let attempts := request.attempts service.maxAttempts (before.control runId)
      (request.plan service (before.control runId))
    startsOf made.history ≤ attempts ∧ (attempts < fuel → made.outcome ≠ .unfinished) := by
  intro before made attempts
  have once := namesOnce_calls fixed
  have noOther := namesNoOther_calls fixed
  have within := @graphsOf_within service (request :: requests)
  obtain ⟨resting, recounted, -⟩ := runCalls_rest env fuel once
    (fun other member => within other (List.mem_cons_of_mem _ member)) fresh
  obtain ⟨-, -, ⟨-, silent, e, raised⟩ | worked⟩ := call_rests env fuel once
    (within request List.mem_cons_self)
    (fun graph => runCalls_current fun other member => within other (List.mem_cons_of_mem _ member))
    resting recounted
  · refine ⟨?_, fun _ => ?_⟩
    · have none : made.history = [] := silent
      simp [none, startsOf]
    · have refused : made.outcome = .raised e := raised
      simp [refused]
  · have whole := plan_recorded (graphsOf_fixed fixed) (within request List.mem_cons_self) resting
    have bounded := worked.bounded noOther
    have cut := worked.cut
    simp only [makeCall, whole] at bounded cut
    refine ⟨bounded, fun enough unfinished => ?_⟩
    have short := cut unfinished noOther
    exact absurd enough (Nat.not_lt.mpr short)

omit [PyRuntime] in
/-- Executing two nodes starts at most four agents. -/
theorem pair_within_attempts :
    let _ := plainRuntime
    let made := (makeCall (steadyEnv ⟨.empty, .empty⟩ fun _ => .failed) analysts 5 "run_1"
      (.execute pairGraph) newWorld).1
    startsOf made.history ≤ 4 ∧ made.outcome ≠ .unfinished := by
  intro _ made
  have fixed : KeepsIds analysts [.execute pairGraph] := plain_fixed (by decide +kernel)
  obtain ⟨few, ends⟩ := call_within_attempts (steadyEnv ⟨.empty, .empty⟩ fun _ => .failed) analysts
    5 "run_1" [] (.execute pairGraph) newWorld fixed newWorld_fresh
  have room : (Call.execute pairGraph).attempts analysts.maxAttempts (newWorld.control "run_1")
      ((Call.execute pairGraph).plan analysts (newWorld.control "run_1")) = 4 := by
    decide +kernel
  exact ⟨few.trans room.le, ends (Nat.lt_of_le_of_lt room.le (by decide))⟩

end laws
end Orchestration
