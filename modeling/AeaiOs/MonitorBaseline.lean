import AeaiOs.MonitorSchedule

/-!
The baseline of a monitor: the fingerprint that `finish` writes, and the run that
`last_completed` selects. Each statement of `finish` commits by itself, so the statements of
several workers mix.
-/
namespace MonitorStore
open OrderedDict CivilTime StoreAction Action RunValues

def completedOf (monitorId : String) (store : Store) : List MonitorRun :=
  store.monitorRuns.filter (isCompletedOf monitorId)

/-- Of the completed dispatches the one that started last: runs are recorded in the order of
    their claims. -/
def lastStarted (monitorId : String) (store : Store) : Option MonitorRun :=
  (completedOf monitorId store).getLast?

/-- The monitor's row and `last_completed` both name the dispatch that started last. -/
structure Baseline (monitorId : String) (store : Store) : Prop where
  fingerprint : ∀ monitor ∈ store.monitors, monitor.id = monitorId →
    monitor.lastFingerprint = (lastStarted monitorId store).bind MonitorRun.fingerprint
  selected : lastCompleted monitorId store = lastStarted monitorId store

def Op.finishes : Op → Bool
  | .finishRun _ => true
  | .finishMonitor _ => true
  | _ => false

/-- The stores that statements reach, with the calls of `finish` that have run their first
    statement and not their second. A worker finishes a dispatch that it has claimed; `allows`
    says when a first statement may run. -/
inductive Reached (allows : Store → List Finish → Finish → Prop) : Store → List Finish → Prop where
  | init : Reached allows {} []
  | step {store : Store} {halfway : List Finish} (op : Op) (other : op.finishes = false)
      (reached : Reached allows store halfway) : Reached allows (op.apply store) halfway
  | begins {store : Store} {halfway : List Finish} (finish : Finish)
      (status : finish.status ≠ .running)
      (claimed : ∃ run ∈ store.monitorRuns,
        run.id = finish.dispatchId ∧ run.monitorId = finish.monitorId)
      (allowed : allows store halfway finish) (reached : Reached allows store halfway) :
      Reached allows (finishRun finish store) (finish :: halfway)
  | ends {store : Store} {newer older : List Finish} (finish : Finish)
      (reached : Reached allows store (newer ++ finish :: older)) :
      Reached allows (finishMonitor finish store) (newer ++ older)

/-- No completing call of `finish` of the monitor is between its statements. -/
def Settled (monitorId : String) (halfway : List Finish) : Prop :=
  ∀ finish ∈ halfway, finish.monitorId = monitorId → finish.status ≠ .completed

/-- A dispatch completes while it runs, after every completed dispatch of its monitor that
    started before it and before all that started after it, at a later instant, and not in the
    middle of another completing call. -/
structure InOrder (store : Store) (halfway : List Finish) (finish : Finish) : Prop where
  alone : Settled finish.monitorId halfway
  newest : ∃ older run newer, store.monitorRuns = older ++ run :: newer ∧
    run.id = finish.dispatchId ∧ run.status = .running ∧
    ∀ other ∈ newer, isCompletedOf finish.monitorId other = false
  later : ∀ other ∈ completedOf finish.monitorId store,
    ∃ text, other.finishedAt = some text ∧ text < isoformat finish.now

def CompletesInOrder (store : Store) (halfway : List Finish) (finish : Finish) : Prop :=
  finish.status = .completed → InOrder store halfway finish

/-! The last of a rising list. -/

theorem text_le_trans {a b c : String} (first : ¬ a < b) (second : ¬ b < c) : ¬ a < c := by
  rw [String.lt_iff] at *
  exact List.le_trans second first

theorem notBefore_total (a b : MonitorRun) :
    ((!finishedBefore a b) || !finishedBefore b a) = true := by
  unfold finishedBefore
  cases a.finishedAt with
  | none => cases b.finishedAt <;> rfl
  | some x =>
    cases b.finishedAt with
    | none => rfl
    | some y =>
      simp only [Bool.or_eq_true, Bool.not_eq_true', decide_eq_false_iff_not, String.lt_iff]
      exact List.le_total _ _

theorem notBefore_trans (a b c : MonitorRun) (first : (!finishedBefore a b) = true)
    (second : (!finishedBefore b c) = true) : (!finishedBefore a c) = true := by
  unfold finishedBefore at *
  cases ha : a.finishedAt <;> cases hb : b.finishedAt <;> cases hc : c.finishedAt <;>
    simp only [ha, hb, hc, Bool.not_true, Bool.not_false, Bool.false_eq_true, Bool.not_eq_true',
      decide_eq_false_iff_not] at *
  exact text_le_trans first second

/-- `last_completed` selects a run that finished after all others. -/
theorem lastCompleted_of_latest {monitorId : String} {store : Store} {latest : MonitorRun}
    (member : latest ∈ completedOf monitorId store)
    (above : ∀ other ∈ completedOf monitorId store,
      other ≠ latest → finishedBefore other latest = true) :
    lastCompleted monitorId store = some latest := by
  unfold lastCompleted
  change ((completedOf monitorId store).mergeSort fun a b => !finishedBefore a b).head? = _
  have sorted := List.pairwise_mergeSort notBefore_trans notBefore_total (completedOf monitorId store)
  have same := List.mergeSort_perm (completedOf monitorId store) fun a b => !finishedBefore a b
  cases listed : (completedOf monitorId store).mergeSort fun a b => !finishedBefore a b with
  | nil =>
    rw [listed] at same
    cases same.mem_iff.mpr member
  | cons head rest =>
    rw [listed] at same sorted
    have among := same.mem_iff.mp (List.mem_cons_self (a := head) (l := rest))
    rcases List.mem_cons.mp (same.mem_iff.mpr member) with eq | tail
    · rw [List.head?_cons, eq]
    · have falls := List.rel_of_pairwise_cons sorted tail
      by_cases eq : head = latest
      · rw [List.head?_cons, eq]
      · rw [above head among eq] at falls
        cases falls

theorem lastCompleted_eq {monitorId : String} {store : Store}
    (rising : (completedOf monitorId store).Pairwise fun a b => finishedBefore a b = true) :
    lastCompleted monitorId store = lastStarted monitorId store := by
  unfold lastStarted
  rcases List.eq_nil_or_concat (completedOf monitorId store) with none | ⟨before, last, split⟩
  · unfold lastCompleted
    change ((completedOf monitorId store).mergeSort fun a b => !finishedBefore a b).head? = _
    simp [none]
  · rw [List.concat_eq_append] at split
    rw [split] at rising
    have among : last ∈ completedOf monitorId store := by simp [split]
    rw [lastCompleted_of_latest among]
    · simp [split]
    · intro other member differs
      rw [split] at member
      rcases List.mem_append.mp member with early | late
      · exact (List.pairwise_append.mp rising).2.2 other early last (by simp)
      · exact absurd (List.mem_singleton.mp late) differs

/-! Steps that leave the baseline alone. -/

/-- The keys that the statements of `finish` go by. -/
structure Keys (store : Store) : Prop where
  unique : (store.monitorRuns.map MonitorRun.id).Nodup
  owned : ∀ run ∈ store.monitorRuns, ∃ monitor ∈ store.monitors, monitor.id = run.monitorId

/-- No completed run is added or removed, and a monitor keeps its fingerprint or is new. -/
structure Quiet (before after : Store) : Prop where
  completed : ∀ monitorId, completedOf monitorId after = completedOf monitorId before
  monitors : ∀ monitor ∈ after.monitors,
    (∃ old ∈ before.monitors, old.id = monitor.id ∧ old.lastFingerprint = monitor.lastFingerprint) ∨
      (∀ old ∈ before.monitors, old.id ≠ monitor.id) ∧ monitor.lastFingerprint = none
  kept : ∀ old ∈ before.monitors, ∃ monitor ∈ after.monitors, monitor.id = old.id

theorem Quiet.refl (store : Store) : Quiet store store where
  completed _ := rfl
  monitors monitor member := .inl ⟨monitor, member, rfl, rfl⟩
  kept old member := ⟨old, member, rfl⟩

theorem quiet_updated (store : Store) {selects : Monitor → Bool} {change : Monitor → Monitor}
    (same : ∀ row, (change row).id = row.id ∧ (change row).lastFingerprint = row.lastFingerprint) :
    Quiet store { store with monitors := updateRows selects change store.monitors } where
  completed _ := rfl
  monitors monitor member := by
    obtain ⟨old, stored, rfl⟩ := mem_updateRows.mp member
    refine .inl ⟨old, stored, ?_⟩
    split
    · exact ⟨(same old).1.symm, (same old).2.symm⟩
    · exact ⟨rfl, rfl⟩
  kept old member := by
    refine ⟨_, mem_updateRows.mpr ⟨old, member, rfl⟩, ?_⟩
    split
    · exact (same old).1
    · rfl

theorem Quiet.trans {a b c : Store} (first : Quiet a b) (second : Quiet b c) : Quiet a c where
  completed monitorId := (second.completed monitorId).trans (first.completed monitorId)
  monitors monitor member := by
    rcases second.monitors monitor member with ⟨old, stored, own, same⟩ | ⟨fresh, none⟩
    · rcases first.monitors old stored with ⟨older, stored', own', same'⟩ | ⟨fresh, none⟩
      · exact .inl ⟨older, stored', own'.trans own, same'.trans same⟩
      · exact .inr ⟨fun older member => own ▸ fresh older member, same ▸ none⟩
    · refine .inr ⟨fun older member same => ?_, none⟩
      obtain ⟨middle, stored, own⟩ := first.kept older member
      exact fresh middle stored (own.trans same)
  kept old member := by
    obtain ⟨middle, stored, own⟩ := first.kept old member
    obtain ⟨monitor, stored', own'⟩ := second.kept middle stored
    exact ⟨monitor, stored', own'.trans own⟩

theorem Keys.updated {store after : Store} (keys : Keys store) (quiet : Quiet store after)
    (same : after.monitorRuns = store.monitorRuns) : Keys after := by
  constructor
  · rw [same]
    exact keys.unique
  · intro run member
    rw [same] at member
    obtain ⟨monitor, stored, own⟩ := keys.owned run member
    obtain ⟨monitor', stored', own'⟩ := quiet.kept monitor stored
    exact ⟨monitor', stored', own'.trans own⟩

theorem claimRow_quiet {now uuid : String} {monitor : Monitor} {store after : Store}
    {record : Claimed} (ok : claimRow now uuid monitor store = (.ok record, after)) :
    Quiet store after := by
  obtain ⟨due, -, -, -, monitors, runs⟩ := claimRow_ok ok
  have updated : Quiet store { store with
      monitors := updateRows (fun row => row.id = monitor.id) (Monitor.advance due now)
        store.monitors } := quiet_updated store fun _ => ⟨rfl, rfl⟩
  constructor
  · intro monitorId
    simp [completedOf, runs, isCompletedOf]
  · rw [monitors]
    exact updated.monitors
  · rw [monitors]
    exact updated.kept

theorem claimRow_keys {now uuid : String} {monitor : Monitor} {store after : Store}
    {record : Claimed} (keys : Keys store) (known : ∃ row ∈ store.monitors, row.id = monitor.id)
    (ok : claimRow now uuid monitor store = (.ok record, after)) : Keys after := by
  have quiet := claimRow_quiet ok
  have unique := claimRow_fresh ok keys.unique
  obtain ⟨due, -, -, -, -, runs⟩ := claimRow_ok ok
  refine ⟨unique, ?_⟩
  intro run member
  rw [runs] at member
  rcases List.mem_append.mp member with stored | new
  · obtain ⟨row, stored, own⟩ := keys.owned run stored
    obtain ⟨row', stored', own'⟩ := quiet.kept row stored
    exact ⟨row', stored', own'.trans own⟩
  · obtain rfl := List.mem_singleton.mp new
    obtain ⟨row, stored, own⟩ := known
    obtain ⟨row', stored', own'⟩ := quiet.kept row stored
    exact ⟨row', stored', own'.trans own⟩

theorem quiet_step {op : Op} (other : op.finishes = false) {store : Store} (keys : Keys store) :
    Quiet store (op.apply store) ∧ Keys (op.apply store) := by
  have both : ∀ after : Store, Quiet store after → after.monitorRuns = store.monitorRuns →
      Quiet store after ∧ Keys after := fun _ quiet same => ⟨quiet, keys.updated quiet same⟩
  cases op with
  | create now uuid request =>
    simp only [Op.apply]
    rcases create_cases now uuid request store with same | ⟨row, fresh, -, none, added⟩
    · rw [same]
      exact ⟨.refl store, keys⟩
    · rw [added]
      refine both _ ⟨fun _ => rfl, ?_, ?_⟩ rfl
      · intro monitor member
        rcases List.mem_append.mp member with stored | new
        · exact .inl ⟨monitor, stored, rfl, rfl⟩
        · obtain rfl := List.mem_singleton.mp new
          exact .inr ⟨fresh, none⟩
      · exact fun old member => ⟨old, List.mem_append_left _ member, rfl⟩
  | setEnabled now monitorId org workspace enabled =>
    rw [Op.apply, setEnabled_run]
    refine both _ ?_ rfl
    exact quiet_updated store fun _ => ⟨rfl, rfl⟩
  | trigger now later monitorId org workspace =>
    rw [Op.apply, trigger_run]
    refine both _ ?_ rfl
    exact quiet_updated store fun _ => ⟨rfl, rfl⟩
  | claim limit now uuids =>
    rcases claim_cases limit now uuids store with ⟨same, -⟩ | ⟨rows, selected, ok⟩
    · rw [same]
      exact ⟨.refl store, keys⟩
    · have start : Quiet store store ∧ Keys store := ⟨.refl store, keys⟩
      apply claimRows_keeps (P := fun after => Quiet store after ∧ Keys after) _ start ok
      intro row member before record next holds first
      have among : row.1 ∈ dueMonitors (isoformat now) limit store.monitors := by
        rw [← selected]
        exact List.mem_map_of_mem member
      have known := holds.1.kept row.1 (mem_dueMonitors among).1
      exact ⟨holds.1.trans (claimRow_quiet first), claimRow_keys holds.2 known first⟩
  | finishRun => cases other
  | finishMonitor => cases other

/-! What the completed runs keep. -/

/-- The completed runs of each monitor rise in their instants, and the monitor's row names the
    last of them unless a completing call is still to write it. -/
structure Ledger (store : Store) (halfway : List Finish) : Prop where
  keys : Keys store
  rising : ∀ monitorId,
    (completedOf monitorId store).Pairwise fun a b => finishedBefore a b = true
  marked : ∀ monitorId, Settled monitorId halfway → ∀ monitor ∈ store.monitors,
    monitor.id = monitorId →
    monitor.lastFingerprint = (lastStarted monitorId store).bind MonitorRun.fingerprint
  closing : ∀ finish ∈ halfway, finish.status = .completed →
    (lastStarted finish.monitorId store).bind MonitorRun.fingerprint = finish.fingerprint
  single : halfway.Pairwise fun first second => first.status = .completed →
    second.status = .completed → first.monitorId ≠ second.monitorId

theorem Ledger.quiet {store after : Store} {halfway : List Finish} (ledger : Ledger store halfway)
    (quiet : Quiet store after) (keys : Keys after) : Ledger after halfway where
  keys := keys
  rising monitorId := by
    rw [quiet.completed]
    exact ledger.rising monitorId
  marked := by
    intro monitorId settled monitor member own
    unfold lastStarted
    rw [quiet.completed]
    rcases quiet.monitors monitor member with ⟨old, stored, sameId, same⟩ | ⟨fresh, none⟩
    · rw [← same]
      exact ledger.marked monitorId settled old stored (sameId.trans own)
    · -- a new monitor has no runs
      have empty : completedOf monitorId store = [] := by
        rw [completedOf, List.filter_eq_nil_iff]
        intro run stored completed
        obtain ⟨old, known, owner⟩ := ledger.keys.owned run stored
        simp only [isCompletedOf, Bool.and_eq_true, decide_eq_true_eq] at completed
        exact fresh old known (by rw [owner, completed.1, own])
      rw [empty, none]
      rfl
  closing := by
    intro finish member completed
    unfold lastStarted
    rw [quiet.completed]
    exact ledger.closing finish member completed
  single := ledger.single

theorem filter_updateRows {α : Type} {selects : α → Bool} {change : α → α} {p : α → Bool}
    {rows : List α} (out : ∀ row ∈ rows, selects row = true → p row = false ∧ p (change row) = false) :
    (updateRows selects change rows).filter p = rows.filter p := by
  induction rows with
  | nil => rfl
  | cons row rest ih =>
    have tail := ih fun row member => out row (List.mem_cons_of_mem _ member)
    have head := out row List.mem_cons_self
    simp only [updateRows, List.map_cons, List.filter_cons] at tail ⊢
    rw [tail]
    by_cases selected : selects row = true
    · rw [if_pos selected, (head selected).1, (head selected).2]
      rfl
    · rw [if_neg selected]

/-- A dispatch that is skipped or that fails completes nothing. -/
theorem quiet_abandoned {finish : Finish} (abandoned : finish.status ≠ .completed) (store : Store) :
    Quiet store (finishRun finish store) where
  completed monitorId := by
    apply filter_updateRows
    intro run _ selected
    simp only [selectsDispatch, Bool.and_eq_true, decide_eq_true_eq] at selected
    simp [isCompletedOf, Finish.close, selected.2, abandoned]
  monitors monitor member := .inl ⟨monitor, member, rfl, rfl⟩
  kept old member := ⟨old, member, rfl⟩

theorem Keys.finishRun {store : Store} (keys : Keys store) (finish : Finish) :
    Keys (finishRun finish store) := by
  have ids := congrArg (List.map Prod.fst) (finishRun_ids finish store)
  rw [List.map_map, List.map_map] at ids
  refine ⟨ids.symm ▸ keys.unique, ?_⟩
  intro run member
  obtain ⟨old, stored, rfl⟩ := mem_updateRows.mp member
  have owner := keys.owned old stored
  split
  · exact owner
  · exact owner

/-- The rows with the dispatch's id are one row. -/
theorem updateRows_split {finish : Finish} {older newer : List MonitorRun} {run : MonitorRun}
    (unique : ((older ++ run :: newer).map MonitorRun.id).Nodup) (own : run.id = finish.dispatchId)
    (running : run.status = .running) :
    updateRows (selectsDispatch finish) finish.close (older ++ run :: newer) =
      older ++ finish.close run :: newer := by
  have elsewhere : ∀ other ∈ older ++ newer, selectsDispatch finish other = false := by
    intro other member
    rw [List.map_append, List.map_cons, List.nodup_middle, ← List.map_append, List.nodup_cons] at unique
    simp only [selectsDispatch, Bool.and_eq_false_iff, decide_eq_false_iff_not]
    left
    intro same
    exact unique.1 (List.mem_map.mpr ⟨other, member, same.trans own.symm⟩)
  have same : ∀ part : List MonitorRun, (∀ other ∈ part, selectsDispatch finish other = false) →
      updateRows (selectsDispatch finish) finish.close part = part := by
    intro part none
    unfold updateRows
    conv_rhs => rw [← List.map_id part]
    apply List.map_congr_left
    intro other member
    rw [none other member]
    rfl
  have here : selectsDispatch finish run = true := by simp [selectsDispatch, own, running]
  have olderSame := same older fun other member => elsewhere other (List.mem_append_left _ member)
  have newerSame := same newer fun other member => elsewhere other (List.mem_append_right _ member)
  unfold updateRows at *
  rw [List.map_append, List.map_cons, olderSame, newerSame, if_pos here]

theorem Ledger.begins {store : Store} {halfway : List Finish} {finish : Finish}
    (ledger : Ledger store halfway)
    (claimed : ∃ run ∈ store.monitorRuns,
      run.id = finish.dispatchId ∧ run.monitorId = finish.monitorId)
    (allowed : CompletesInOrder store halfway finish) :
    Ledger (MonitorStore.finishRun finish store) (finish :: halfway) := by
  by_cases completes : finish.status = .completed
  · obtain ⟨alone, ⟨older, run, newer, split, own, running, none⟩, later⟩ := allowed completes
    have runs : (MonitorStore.finishRun finish store).monitorRuns =
        older ++ finish.close run :: newer := by
      have unique := ledger.keys.unique
      rw [split] at unique
      have changed := updateRows_split unique own running
      rw [← split] at changed
      exact changed
    have owner : run.monitorId = finish.monitorId := by
      obtain ⟨other, stored, same, owner⟩ := claimed
      have unique := ledger.keys.unique
      have eq : other = run := List.inj_on_of_nodup_map unique stored (by simp [split])
        (same.trans own.symm)
      rw [← eq, owner]
    have rest : newer.filter (isCompletedOf finish.monitorId) = [] := by
      rw [List.filter_eq_nil_iff]
      intro other member
      simp [none other member]
    have before : completedOf finish.monitorId store =
        older.filter (isCompletedOf finish.monitorId) := by
      simp [completedOf, split, isCompletedOf, running, rest]
    have here : completedOf finish.monitorId (MonitorStore.finishRun finish store) =
        completedOf finish.monitorId store ++ [finish.close run] := by
      rw [before, completedOf, runs, List.filter_append, List.filter_cons, if_pos, rest]
      simp [isCompletedOf, Finish.close, owner, completes]
    have elsewhere : ∀ monitorId, finish.monitorId ≠ monitorId →
        completedOf monitorId (MonitorStore.finishRun finish store) =
          completedOf monitorId store := by
      intro monitorId other
      rw [completedOf, completedOf, runs, split]
      simp [isCompletedOf, Finish.close, owner, other]
    constructor
    · exact ledger.keys.finishRun finish
    · intro monitorId
      by_cases mine : finish.monitorId = monitorId
      · subst mine
        rw [here, List.pairwise_append]
        refine ⟨ledger.rising _, by simp, ?_⟩
        intro other member last same
        obtain rfl := List.mem_singleton.mp same
        obtain ⟨text, finished, less⟩ := later other member
        simp [finishedBefore, finished, Finish.close, less]
      · rw [elsewhere monitorId mine]
        exact ledger.rising monitorId
    · intro monitorId settled monitor member own
      have mine : finish.monitorId ≠ monitorId := fun same =>
        settled finish List.mem_cons_self same completes
      unfold lastStarted
      rw [elsewhere monitorId mine]
      exact ledger.marked monitorId
        (fun other member => settled other (List.mem_cons_of_mem _ member)) monitor member own
    · intro other member completed
      rcases List.mem_cons.mp member with rfl | tail
      · simp [lastStarted, here, Finish.close]
      · unfold lastStarted
        rw [elsewhere _ fun same => alone other tail same.symm completed]
        exact ledger.closing other tail completed
    · refine List.pairwise_cons.mpr ⟨?_, ledger.single⟩
      intro other member _ completed same
      exact alone other member same.symm completed
  · have rest := ledger.quiet (quiet_abandoned completes store) (ledger.keys.finishRun finish)
    constructor
    · exact rest.keys
    · exact rest.rising
    · intro monitorId settled
      exact rest.marked monitorId fun other member => settled other (List.mem_cons_of_mem _ member)
    · intro other member completed
      rcases List.mem_cons.mp member with rfl | tail
      · exact absurd completed completes
      · exact rest.closing other tail completed
    · refine List.pairwise_cons.mpr ⟨?_, rest.single⟩
      intro other _ completed
      exact absurd completed completes

theorem Ledger.ends {store : Store} {newer older : List Finish} {finish : Finish}
    (ledger : Ledger store (newer ++ finish :: older)) :
    Ledger (finishMonitor finish store) (newer ++ older) := by
  have among : ∀ other ∈ newer ++ older, other ∈ newer ++ finish :: older := by
    intro other member
    rcases List.mem_append.mp member with first | last
    · exact List.mem_append_left _ first
    · exact List.mem_append_right _ (List.mem_cons_of_mem _ last)
  constructor
  · refine ⟨ledger.keys.unique, ?_⟩
    intro run member
    obtain ⟨monitor, stored, own⟩ := ledger.keys.owned run member
    refine ⟨_, mem_updateRows.mpr ⟨monitor, stored, rfl⟩, ?_⟩
    split <;> exact own
  · exact ledger.rising
  · intro monitorId settled monitor member own
    obtain ⟨old, stored, rfl⟩ := mem_updateRows.mp member
    change _ = (lastStarted monitorId store).bind MonitorRun.fingerprint
    have ownOld : old.id = monitorId := by
      rw [← own]
      split <;> rfl
    by_cases writes : old.id = finish.monitorId ∧ finish.status = .completed
    · -- the second statement writes the fingerprint of the last run
      rw [if_pos (decide_eq_true writes.1), ← ownOld, writes.1]
      have last := ledger.closing finish (by simp) writes.2
      simp only [Finish.note, writes.2, if_true, last]
    · have settled' : Settled monitorId (newer ++ finish :: older) := by
        intro other member same completed
        rcases List.mem_append.mp member with first | rest
        · exact settled other (List.mem_append_left _ first) same completed
        · rcases List.mem_cons.mp rest with rfl | last
          · exact writes ⟨ownOld.trans same.symm, completed⟩
          · exact settled other (List.mem_append_right _ last) same completed
      rw [← ledger.marked monitorId settled' old stored ownOld]
      split
      · rename_i mine
        have skips : finish.status ≠ .completed := fun completed =>
          writes ⟨of_decide_eq_true mine, completed⟩
        simp only [Finish.note, if_neg skips]
      · rfl
  · exact fun other member => ledger.closing other (among other member)
  · have part := (List.Sublist.refl newer).append (List.sublist_cons_self finish older)
    exact List.Pairwise.sublist part ledger.single

theorem ledger_reached {store : Store} {halfway : List Finish}
    (reached : Reached CompletesInOrder store halfway) : Ledger store halfway := by
  induction reached with
  | init =>
    exact { keys := ⟨List.nodup_nil, by simp⟩, rising := by simp [completedOf]
            marked := by simp, closing := by simp, single := List.Pairwise.nil }
  | step op other _ ledger =>
    obtain ⟨quiet, keys⟩ := quiet_step other ledger.keys
    exact ledger.quiet quiet keys
  | begins finish _ claimed allowed _ ledger => exact ledger.begins claimed allowed
  | ends finish _ ledger => exact ledger.ends

/-- A completing call at a later instant than those before it, run without interruption, keeps
    the baseline only when it is in order. -/
theorem order_of_baseline {store : Store} {halfway : List Finish} (keys : Keys store)
    {finish : Finish} (completes : finish.status = .completed)
    (alone : Settled finish.monitorId halfway) {run : MonitorRun} (stored : run ∈ store.monitorRuns)
    (own : run.id = finish.dispatchId) (owner : run.monitorId = finish.monitorId)
    (running : run.status = .running)
    (later : ∀ other ∈ completedOf finish.monitorId store,
      ∃ text, other.finishedAt = some text ∧ text < isoformat finish.now)
    (baseline : Baseline finish.monitorId (finishMonitor finish (finishRun finish store))) :
    InOrder store halfway finish := by
  obtain ⟨older, newer, split⟩ := List.append_of_mem stored
  have unique := keys.unique
  rw [split] at unique
  have changed := updateRows_split unique own running
  have selected : completedOf finish.monitorId (finishMonitor finish (finishRun finish store)) =
      older.filter (isCompletedOf finish.monitorId) ++
        (finish.close run :: newer.filter (isCompletedOf finish.monitorId)) := by
    change (updateRows (selectsDispatch finish) finish.close store.monitorRuns).filter _ = _
    rw [split, changed, List.filter_append, List.filter_cons, if_pos]
    simp [isCompletedOf, Finish.close, owner, completes]
  have before : ∀ other ∈ older.filter (isCompletedOf finish.monitorId) ++
      newer.filter (isCompletedOf finish.monitorId), other ∈ completedOf finish.monitorId store := by
    intro other member
    rw [completedOf, split, List.filter_append, List.mem_append]
    rcases List.mem_append.mp member with first | last
    · exact .inl first
    · exact .inr (List.mem_filter.mpr ⟨List.mem_cons_of_mem _ (List.mem_filter.mp last).1,
        (List.mem_filter.mp last).2⟩)
  have latest : lastCompleted finish.monitorId (finishMonitor finish (finishRun finish store)) =
      some (finish.close run) := by
    apply lastCompleted_of_latest
    · rw [selected]
      simp
    · intro other member differs
      rw [selected] at member
      have known : other ∈ completedOf finish.monitorId store := by
        apply before
        rcases List.mem_append.mp member with first | rest
        · exact List.mem_append_left _ first
        · rcases List.mem_cons.mp rest with same | last
          · exact absurd same differs
          · exact List.mem_append_right _ last
      obtain ⟨text, finished, less⟩ := later other known
      simp [finishedBefore, finished, Finish.close, less]
  refine ⟨alone, ⟨older, run, newer, split, own, running, ?_⟩, later⟩
  -- a completed run that started later would be the last one, and is not the one selected
  by_contra some_newer
  push Not at some_newer
  obtain ⟨other, member, completed⟩ := some_newer
  have listed : newer.filter (isCompletedOf finish.monitorId) ≠ [] := by
    intro none
    rw [List.filter_eq_nil_iff] at none
    exact completed (by simpa using none other member)
  have last := baseline.selected.symm.trans latest
  rw [lastStarted, selected, List.getLast?_append_of_ne_nil _ (by simp), List.getLast?_cons,
    List.getLast?_eq_some_getLast listed, Option.getD_some, Option.some.injEq] at last
  have twice : finish.close run ∈ newer := by
    rw [← last]
    exact (List.mem_filter.mp (List.getLast_mem listed)).1
  rw [List.map_append, List.map_cons, List.nodup_middle, List.nodup_cons] at unique
  exact unique.1 (List.mem_append_right _ (List.mem_map.mpr ⟨_, twice, rfl⟩))

/-- Where completing calls of `finish` come in the order of the starts, one at a time, the
    baseline of a monitor is the completed dispatch that started last. A call that comes out of
    this order, on a clock that goes on, leaves another baseline. -/
theorem baseline_of_order (store : Store) (halfway : List Finish)
    (reached : Reached CompletesInOrder store halfway) :
    (∀ monitorId, Settled monitorId halfway → Baseline monitorId store) ∧
      ∀ (finish : Finish) (run : MonitorRun), finish.status = .completed →
        Settled finish.monitorId halfway → run ∈ store.monitorRuns →
        run.id = finish.dispatchId → run.monitorId = finish.monitorId → run.status = .running →
        (∀ other ∈ completedOf finish.monitorId store,
          ∃ text, other.finishedAt = some text ∧ text < isoformat finish.now) →
        (Baseline finish.monitorId (finishMonitor finish (finishRun finish store)) ↔
          InOrder store halfway finish) := by
  have kept : ∀ store halfway, Reached CompletesInOrder store halfway →
      ∀ monitorId, Settled monitorId halfway → Baseline monitorId store := by
    intro store halfway reached monitorId settled
    have ledger := ledger_reached reached
    exact ⟨ledger.marked monitorId settled, lastCompleted_eq (ledger.rising monitorId)⟩
  refine ⟨kept store halfway reached, ?_⟩
  intro finish run completes settled stored own owner running later
  constructor
  · exact order_of_baseline (ledger_reached reached).keys completes settled stored own owner running
      later
  · intro ordered
    have first := Reached.begins finish (by simp [completes]) ⟨run, stored, own, owner⟩
      (fun _ => ordered) reached
    have done : Reached CompletesInOrder (finishMonitor finish (finishRun finish store))
        ([] ++ halfway) := Reached.ends finish first
    exact kept _ halfway done _ settled

/-- Two dispatches of one monitor, the second of them triggered while the first runs. -/
def overlapping : List Op :=
  let start : Time := 1783468800000000
  [.create start "m" {
      organizationId := "one", workspaceId := "main", name := "Hourly risk", task := "Detect"
      sourceId := "data-1", interval := "hourly" },
    .setEnabled start "mon_m" "one" "main" true,
    .claim 2 start fun _ => "a",
    .trigger (start + 1) (start + 1) "mon_m" "one" "main",
    .claim 2 (start + 2) fun _ => "b"]

def completing (now : Time) (dispatchId fingerprint : String) : Finish where
  now := now
  monitorId := "mon_m"
  dispatchId := dispatchId
  status := .completed
  fingerprint := some fingerprint

def newerDispatch : Finish := completing 1783468800000003 "dispatch_b" "new"
def olderDispatch : Finish := completing 1783468800000004 "dispatch_a" "old"

theorem reached_along {allows : Store → List Finish → Finish → Prop} {ops : List Op} {store : Store}
    {halfway : List Finish} (reached : Reached allows store halfway)
    (others : ∀ op ∈ ops, op.finishes = false) :
    Reached allows (ops.foldl (fun store op => op.apply store) store) halfway := by
  induction ops generalizing store with
  | nil => exact reached
  | cons op rest ih =>
    exact ih (reached.step op (others op List.mem_cons_self))
      fun later member => others later (List.mem_cons_of_mem _ member)

/-- The newer dispatch completes first and is the baseline. -/
theorem newer_dispatch_is_baseline :
    Baseline "mon_m" (finishMonitor newerDispatch (finishRun newerDispatch (after overlapping))) := by
  have claims : Reached CompletesInOrder (after overlapping) [] := reached_along .init (by decide)
  have known : ∃ run ∈ (after overlapping).monitorRuns,
      run.id = "dispatch_b" ∧ run.monitorId = "mon_m" ∧ run.status = .running := by
    decide +kernel
  have none : ∀ other ∈ (after overlapping).monitorRuns, isCompletedOf "mon_m" other = false := by
    decide +kernel
  have nothing : ∀ other ∈ completedOf "mon_m" (after overlapping),
      ∃ text, other.finishedAt = some text ∧ text < isoformat newerDispatch.now := by
    intro other member
    obtain ⟨stored, completed⟩ := List.mem_filter.mp member
    rw [none other stored] at completed
    cases completed
  obtain ⟨run, stored, own, owner, running⟩ := known
  have settled : Settled newerDispatch.monitorId [] := by simp [Settled]
  apply ((baseline_of_order _ [] claims).2 newerDispatch run rfl settled stored own owner running
    nothing).mpr
  obtain ⟨older, newer, split⟩ := List.append_of_mem stored
  refine ⟨settled, ⟨older, run, newer, split, own, running, ?_⟩, nothing⟩
  intro other member
  exact none other (by simp [split, member])

/-- The older dispatch completes after the newer one and replaces its fingerprint. -/
theorem older_dispatch_takes_baseline :
    ¬ ∀ store halfway, Reached (fun _ _ _ => True) store halfway →
      ∀ monitorId, Settled monitorId halfway → Baseline monitorId store := by
  intro always
  have claims : Reached (fun _ _ _ => True) (after overlapping) [] :=
    reached_along .init (by decide)
  have newer := Reached.begins newerDispatch (by decide) (by decide +kernel) True.intro claims
  have newerDone : Reached (fun _ _ _ => True) _ ([] ++ []) := Reached.ends newerDispatch newer
  have older := Reached.begins olderDispatch (by decide) (by decide +kernel) True.intro newerDone
  have olderDone : Reached (fun _ _ _ => True) _ ([] ++ []) := Reached.ends olderDispatch older
  have baseline := always _ [] olderDone "mon_m" (by simp [Settled])
  have replaced : ∃ monitor ∈ (finishMonitor olderDispatch (finishRun olderDispatch
      (finishMonitor newerDispatch (finishRun newerDispatch (after overlapping))))).monitors,
      monitor.id = "mon_m" ∧ monitor.lastFingerprint ≠ (lastStarted "mon_m"
        (finishMonitor olderDispatch (finishRun olderDispatch (finishMonitor newerDispatch
          (finishRun newerDispatch (after overlapping)))))).bind MonitorRun.fingerprint := by
    decide +kernel
  obtain ⟨monitor, member, own, differs⟩ := replaced
  exact differs (baseline.fingerprint monitor member own)

end MonitorStore
