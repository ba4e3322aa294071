import AeaiOs.MonitorStore
import Mathlib.Data.List.Nodup

/-!
When monitors are claimed. Every due time is the text of an instant, which a claim moves
forward by the interval before the dispatch runs.
-/
namespace MonitorStore
open OrderedDict CivilTime StoreAction Action RunValues

/-! Operations of any number of processes, as the database orders them. -/

inductive Op where
  | create (now : Time) (uuid : String) (request : NewMonitor)
  | setEnabled (now : Time) (monitorId org workspace : String) (enabled : Bool)
  | trigger (now later : Time) (monitorId org workspace : String)
  | claim (limit : Int) (now : Time) (uuids : Nat → String)
  | finishRun (finish : Finish)
  | finishMonitor (finish : Finish)

namespace Op

def apply : Op → Store → Store
  | .create now uuid request, store => (MonitorStore.create now uuid request store).2
  | .setEnabled now monitorId org workspace enabled, store =>
      (MonitorStore.setEnabled now monitorId org workspace enabled store).2
  | .trigger now later monitorId org workspace, store =>
      (MonitorStore.trigger now later monitorId org workspace store).2
  | .claim limit now uuids, store => (MonitorStore.claim limit (isoformat now) uuids store).2
  | .finishRun finish, store => MonitorStore.finishRun finish store
  | .finishMonitor finish, store => MonitorStore.finishMonitor finish store

/-- The records that a claim answers. -/
def claimed : Op → Store → List Claimed
  | .claim limit now uuids, store =>
      match (MonitorStore.claim limit (isoformat now) uuids store).1 with
      | .ok records => records
      | .error _ => []
  | _, _ => []

/-- The operation is a trigger of the monitor that answers true. -/
def triggers (monitorId : String) : Op → Store → Prop
  | .trigger now later id org workspace, store =>
      id = monitorId ∧ (MonitorStore.trigger now later id org workspace store).1 = .ok true
  | _, _ => False

/-- The readings of `utcnow`. -/
def instants : Op → List Time
  | .create now _ _ => [now]
  | .setEnabled now _ _ _ _ => [now]
  | .trigger now later _ _ _ => [now, later]
  | .claim _ now _ => [now]
  | .finishRun finish => [finish.now]
  | .finishMonitor finish => [finish.now]

end Op

def after (ops : List Op) : Store := ops.foldl (fun store op => op.apply store) {}

/-- The records of all claims. -/
def claimedAlong : Store → List Op → List Claimed
  | _, [] => []
  | store, op :: rest => op.claimed store ++ claimedAlong (op.apply store) rest

/-- The clock reads what `datetime` represents. -/
def Timed (ops : List Op) : Prop := ∀ t ∈ ops.flatMap Op.instants, Representable t

instance (ops : List Op) : Decidable (Timed ops) := inferInstanceAs (Decidable (∀ _ ∈ _, _))

/-! What a claim does. -/

theorem intervals_positive {interval : String} {seconds : Int}
    (found : lookupEntries intervals interval = some seconds) : 0 < seconds := by
  simp only [intervals, lookupEntries] at found
  split at found
  · cases found
    decide
  split at found
  · cases found
    decide
  split at found
  · cases found
    decide
  cases found

theorem nextDue_ok {now : Int} {interval due : String} (fits : Representable now)
    (ok : nextDue (isoformat now) interval = .ok due) :
    ∃ seconds, lookupEntries intervals interval = some seconds ∧
      Representable (now + seconds * microsecondsPerSecond) ∧
      due = isoformat (now + seconds * microsecondsPerSecond) := by
  unfold nextDue at ok
  rw [fromisoformat_isoformat fits] at ok
  cases found : lookupEntries intervals interval with
  | none => simp [found] at ok
  | some seconds =>
    simp only [found] at ok
    by_cases stops : now + seconds * microsecondsPerSecond ≤ latest
    · rw [if_pos stops] at ok
      have positive : 0 < seconds * microsecondsPerSecond :=
        Int.mul_pos (intervals_positive found) (by decide)
      have start := le_trans fits.1 (Int.le_add_of_nonneg_right positive.le)
      exact ⟨seconds, rfl, ⟨start, stops⟩, (Except.ok.inj ok).symm⟩
    · rw [if_neg stops] at ok
      cases ok

/-- A row that is claimed: its due time moves, and its dispatch is recorded. -/
theorem claimRow_ok {now uuid : String} {monitor : Monitor} {store after : Store}
    {record : Claimed} (ok : claimRow now uuid monitor store = (.ok record, after)) :
    ∃ due, nextDue now monitor.interval = .ok due ∧
      record = { monitor, dispatchId := "dispatch_" ++ uuid } ∧
      (∀ run ∈ store.monitorRuns, run.id ≠ record.dispatchId) ∧
      after.monitors = updateRows (fun row => row.id = monitor.id) (Monitor.advance due now)
        store.monitors ∧
      after.monitorRuns = store.monitorRuns ++ [{
        id := record.dispatchId, monitorId := monitor.id
        organizationId := monitor.organizationId, workspaceId := monitor.workspaceId
        startedAt := now }] := by
  unfold claimRow at ok
  rw [bind_run, ofExcept_run] at ok
  cases next : nextDue now monitor.interval with
  | error => simp [next] at ok
  | ok due =>
    simp only [next, bind_run, change_run, read_run] at ok
    split at ok
    · simp at ok
    · rename_i fresh
      simp only [bind_run, change_run, pure_run, Prod.mk.injEq, Except.ok.injEq] at ok
      obtain ⟨rfl, rfl⟩ := ok
      refine ⟨due, rfl, rfl, ?_, rfl, rfl⟩
      intro run member same
      exact fresh (List.any_eq_true.mpr ⟨run, member, by simp [same]⟩)

/-- What every claimed row keeps, the claim keeps. -/
theorem claimRows_keeps {now : String} {P : Store → Prop} {rows : List (Monitor × String)}
    (step : ∀ row ∈ rows, ∀ store record after, P store →
      claimRow now row.2 row.1 store = (.ok record, after) → P after)
    {store after : Store} {records : List Claimed} (holds : P store)
    (ok : claimRows now rows store = (.ok records, after)) : P after := by
  induction rows generalizing store records with
  | nil =>
    cases ok
    exact holds
  | cons row rest ih =>
    obtain ⟨monitor, uuid⟩ := row
    simp only [claimRows, bind_run] at ok
    rcases first : claimRow now uuid monitor store with ⟨_ | record, next⟩
    · simp [first] at ok
    · simp only [first] at ok
      rcases later : claimRows now rest next with ⟨_ | others, final⟩
      · simp [later] at ok
      · simp only [later, pure_run, Prod.mk.injEq, Except.ok.injEq] at ok
        obtain ⟨-, rfl⟩ := ok
        have here := step (monitor, uuid) List.mem_cons_self store record next holds first
        exact ih (fun row member => step row (List.mem_cons_of_mem _ member)) here later

/-- The records are the rows, and each has a run of its own. -/
theorem claimRows_records {now : String} {rows : List (Monitor × String)} {store after : Store}
    {records : List Claimed} (ok : claimRows now rows store = (.ok records, after)) :
    records.map Claimed.monitor = rows.map Prod.fst ∧
      after.monitorRuns.map (fun run => (run.id, run.monitorId)) =
        store.monitorRuns.map (fun run => (run.id, run.monitorId)) ++
          records.map fun record => (record.dispatchId, record.monitor.id) := by
  induction rows generalizing store records with
  | nil =>
    cases ok
    simp
  | cons row rest ih =>
    obtain ⟨monitor, uuid⟩ := row
    simp only [claimRows, bind_run] at ok
    rcases first : claimRow now uuid monitor store with ⟨_ | record, next⟩
    · simp [first] at ok
    · simp only [first] at ok
      rcases later : claimRows now rest next with ⟨_ | others, final⟩
      · simp [later] at ok
      · simp only [later, pure_run, Prod.mk.injEq, Except.ok.injEq] at ok
        obtain ⟨rfl, rfl⟩ := ok
        obtain ⟨sameRows, sameRuns⟩ := ih later
        obtain ⟨_, -, rfl, -, -, runs⟩ := claimRow_ok first
        simp [sameRows, sameRuns, runs]

theorem claimRow_fresh {now uuid : String} {monitor : Monitor} {store after : Store}
    {record : Claimed} (ok : claimRow now uuid monitor store = (.ok record, after))
    (unique : (store.monitorRuns.map MonitorRun.id).Nodup) :
    (after.monitorRuns.map MonitorRun.id).Nodup := by
  obtain ⟨_, -, -, fresh, -, runs⟩ := claimRow_ok ok
  rw [runs, List.map_append, List.nodup_append]
  refine ⟨unique, by simp, ?_⟩
  intro a member b same
  obtain ⟨run, stored, rfl⟩ := List.mem_map.mp member
  obtain rfl : b = record.dispatchId := by simpa using same
  exact fresh run stored

/-! Claims as operations. -/

/-- A claim that raises leaves the store and answers nothing. -/
theorem claim_cases (limit : Int) (now : Time) (uuids : Nat → String) (store : Store) :
    let op := Op.claim limit now uuids
    (op.apply store = store ∧ op.claimed store = []) ∨
      ∃ rows : List (Monitor × String),
        rows.map Prod.fst = dueMonitors (isoformat now) limit store.monitors ∧
        claimRows (isoformat now) rows store = (.ok (op.claimed store), op.apply store) := by
  intro op
  obtain ⟨rows, zipped⟩ : ∃ rows, (dueMonitors (isoformat now) limit store.monitors).zip
      ((List.range (dueMonitors (isoformat now) limit store.monitors).length).map uuids) = rows :=
    ⟨_, rfl⟩
  rcases run : claimRows (isoformat now) rows store with ⟨_ | records, after⟩
  · have failed : MonitorStore.claim limit (isoformat now) uuids store = (.error ‹_›, store) := by
      unfold MonitorStore.claim
      simp only [zipped, run]
    exact .inl (by simp only [op, Op.apply, Op.claimed, failed, and_self])
  · have worked : MonitorStore.claim limit (isoformat now) uuids store = (.ok records, after) := by
      unfold MonitorStore.claim
      simp only [zipped, run]
    refine .inr ⟨rows, ?_, ?_⟩
    · rw [← zipped, List.map_fst_zip]
      simp
    · simp only [op, Op.claimed, Op.apply, worked, run]

theorem mem_dueMonitors {now : String} {limit : Int} {monitors : List Monitor} {monitor : Monitor}
    (member : monitor ∈ dueMonitors now limit monitors) :
    monitor ∈ monitors ∧ eligible now monitor = true := by
  have sorted := List.mem_of_mem_take member
  rw [List.mem_mergeSort, List.mem_filter] at sorted
  exact sorted

theorem dueMonitors_nodup {now : String} {limit : Int} {monitors : List Monitor}
    (unique : (monitors.map Monitor.id).Nodup) :
    ((dueMonitors now limit monitors).map Monitor.id).Nodup := by
  unfold dueMonitors
  have selected := unique.sublist ((List.filter_sublist (p := eligible now)).map Monitor.id)
  have sorted := ((List.mergeSort_perm (monitors.filter (eligible now))
    fun a b => !decide (b.nextDueAt < a.nextDueAt)).map Monitor.id).nodup_iff.mpr selected
  exact sorted.sublist ((List.take_sublist _ _).map Monitor.id)

/-! What every operation keeps. -/

theorem mem_updateRows {α : Type} {selects : α → Bool} {change : α → α} {rows : List α} {row : α} :
    row ∈ updateRows selects change rows ↔
      ∃ old ∈ rows, row = if selects old then change old else old := by
  simp only [updateRows, List.mem_map, eq_comm]

theorem map_updateRows {α β : Type} {view : α → β} {selects : α → Bool} {change : α → α}
    (same : ∀ row, view (change row) = view row) (rows : List α) :
    (updateRows selects change rows).map view = rows.map view := by
  unfold updateRows
  rw [List.map_map]
  apply List.map_congr_left
  intro row _
  simp only [Function.comp_apply]
  split
  · exact same row
  · rfl

theorem finishRun_ids (finish : Finish) (store : Store) :
    (finishRun finish store).monitorRuns.map (fun run => (run.id, run.monitorId)) =
      store.monitorRuns.map fun run => (run.id, run.monitorId) := by
  have same : ∀ run : MonitorRun, ((finish.close run).id, (finish.close run).monitorId) =
      (run.id, run.monitorId) := fun _ => rfl
  exact map_updateRows same _

/-- The keys of the tables, and due times that are texts of instants. -/
structure Sound (store : Store) : Prop where
  monitors : (store.monitors.map Monitor.id).Nodup
  monitorRuns : (store.monitorRuns.map MonitorRun.id).Nodup
  dues : ∀ monitor ∈ store.monitors,
    ∃ due : Int, Representable due ∧ monitor.nextDueAt = isoformat due

theorem create_cases (now : Time) (uuid : String) (request : NewMonitor) (store : Store) :
    (MonitorStore.create now uuid request store).2 = store ∨
      ∃ row : Monitor, (∀ monitor ∈ store.monitors, monitor.id ≠ row.id) ∧
        row.nextDueAt = isoformat now ∧ row.lastFingerprint = none ∧
        (MonitorStore.create now uuid request store).2 =
          { store with monitors := store.monitors ++ [row] } := by
  unfold MonitorStore.create
  split
  · exact .inl rfl
  · simp only [bind_run, read_run]
    split
    · exact .inl rfl
    split
    · exact .inl rfl
    · rename_i fresh
      simp only [bind_run, change_run, pure_run]
      refine .inr ⟨_, ?_, ?_, ?_, rfl⟩
      · intro monitor member same
        exact fresh (List.any_eq_true.mpr ⟨monitor, member, by simp [same]⟩)
      · rfl
      · rfl

theorem setEnabled_run (now : Time) (monitorId org workspace : String) (enabled : Bool)
    (store : Store) :
    (MonitorStore.setEnabled now monitorId org workspace enabled store).2 = { store with
      monitors := updateRows (selectsTenant monitorId org workspace)
        (fun monitor => { monitor with enabled, updatedAt := isoformat now }) store.monitors } := rfl

theorem trigger_run (now later : Time) (monitorId org workspace : String) (store : Store) :
    MonitorStore.trigger now later monitorId org workspace store =
      (.ok (store.monitors.any (selectsTrigger monitorId org workspace)), { store with
        monitors := updateRows (selectsTrigger monitorId org workspace)
          (fun monitor => { monitor with
            nextDueAt := isoformat now, forceOnce := true, updatedAt := isoformat later })
          store.monitors }) := rfl

theorem sound_updated {store : Store} (sound : Sound store) {selects : Monitor → Bool}
    {change : Monitor → Monitor} (same : ∀ row, (change row).id = row.id)
    (due : ∀ row ∈ store.monitors, selects row = true → ∃ due : Int, Representable due ∧
      (change row).nextDueAt = isoformat due) :
    Sound { store with monitors := updateRows selects change store.monitors } where
  monitors := by
    rw [map_updateRows same]
    exact sound.monitors
  monitorRuns := sound.monitorRuns
  dues := by
    intro monitor member
    obtain ⟨old, stored, rfl⟩ := mem_updateRows.mp member
    split
    · rename_i selected
      exact due old stored selected
    · exact sound.dues old stored

theorem sound_claimRow {now : Int} (fits : Representable now) {uuid : String} {monitor : Monitor}
    {store after : Store} {record : Claimed} (sound : Sound store)
    (ok : claimRow (isoformat now) uuid monitor store = (.ok record, after)) : Sound after := by
  have fresh := claimRow_fresh ok sound.monitorRuns
  obtain ⟨due, next, -, -, monitors, -⟩ := claimRow_ok ok
  obtain ⟨seconds, -, fits', rfl⟩ := nextDue_ok fits next
  obtain ⟨due, same⟩ : ∃ due, due = isoformat (now + seconds * microsecondsPerSecond) := ⟨_, rfl⟩
  rw [← same] at monitors
  have updated : Sound { store with
      monitors := updateRows (fun row => row.id = monitor.id) (Monitor.advance due (isoformat now))
        store.monitors } :=
    sound_updated sound (fun _ => rfl) fun _ _ _ => ⟨_, fits', same⟩
  constructor
  · rw [monitors]
    exact updated.monitors
  · exact fresh
  · rw [monitors]
    exact updated.dues

theorem sound_step {op : Op} {store : Store} (fits : ∀ t ∈ op.instants, Representable t)
    (sound : Sound store) : Sound (op.apply store) := by
  cases op with
  | create now uuid request =>
    simp only [Op.apply]
    rcases create_cases now uuid request store with same | ⟨row, fresh, due, -, added⟩
    · rw [same]
      exact sound
    · rw [added]
      constructor
      · rw [List.map_append, List.nodup_append]
        refine ⟨sound.monitors, by simp, ?_⟩
        intro a member b same
        obtain ⟨monitor, stored, rfl⟩ := List.mem_map.mp member
        obtain rfl : b = row.id := by simpa using same
        exact fresh monitor stored
      · exact sound.monitorRuns
      · intro monitor member
        rcases List.mem_append.mp member with stored | new
        · exact sound.dues monitor stored
        · obtain rfl := List.mem_singleton.mp new
          exact ⟨now, fits now (by simp [Op.instants]), due⟩
  | setEnabled now monitorId org workspace enabled =>
    rw [Op.apply, setEnabled_run]
    exact sound_updated sound (fun _ => rfl) fun row stored _ => sound.dues row stored
  | trigger now later monitorId org workspace =>
    rw [Op.apply, trigger_run]
    exact sound_updated sound (fun _ => rfl) fun _ _ _ =>
      ⟨now, fits now (by simp [Op.instants]), rfl⟩
  | claim limit now uuids =>
    rcases claim_cases limit now uuids store with ⟨same, -⟩ | ⟨rows, -, ok⟩
    · rw [same]
      exact sound
    · exact claimRows_keeps (fun _ _ _ _ _ holds first =>
        sound_claimRow (fits now (by simp [Op.instants])) holds first) sound ok
  | finishRun finish =>
    constructor
    · exact sound.monitors
    · have ids := congrArg (List.map Prod.fst) (finishRun_ids finish store)
      rw [List.map_map, List.map_map] at ids
      exact ids.symm ▸ sound.monitorRuns
    · exact sound.dues
  | finishMonitor finish =>
    exact sound_updated sound (fun _ => rfl) fun row stored _ => sound.dues row stored

/-- One run is recorded for each record that is claimed. -/
theorem runs_step (op : Op) (store : Store) :
    (op.apply store).monitorRuns.map (fun run => (run.id, run.monitorId)) =
      store.monitorRuns.map (fun run => (run.id, run.monitorId)) ++
        (op.claimed store).map fun record => (record.dispatchId, record.monitor.id) := by
  cases op with
  | create now uuid request =>
    simp only [Op.apply, Op.claimed, List.map_nil, List.append_nil]
    rcases create_cases now uuid request store with same | ⟨row, -, -, -, added⟩
    · rw [same]
    · rw [added]
  | setEnabled => simp only [Op.apply, Op.claimed, setEnabled_run, List.map_nil, List.append_nil]
  | trigger => simp only [Op.apply, Op.claimed, trigger_run, List.map_nil, List.append_nil]
  | claim limit now uuids =>
    rcases claim_cases limit now uuids store with ⟨same, none⟩ | ⟨rows, -, ok⟩
    · rw [same, none, List.map_nil, List.append_nil]
    · exact (claimRows_records ok).2
  | finishRun finish =>
    simp only [Op.apply, Op.claimed, finishRun_ids, List.map_nil, List.append_nil]
  | finishMonitor finish => simp only [Op.apply, Op.claimed, finishMonitor, List.map_nil, List.append_nil]

theorem runs_along (ops : List Op) (store : Store) :
    (ops.foldl (fun store op => op.apply store) store).monitorRuns.map
        (fun run => (run.id, run.monitorId)) =
      store.monitorRuns.map (fun run => (run.id, run.monitorId)) ++
        (claimedAlong store ops).map fun record => (record.dispatchId, record.monitor.id) := by
  induction ops generalizing store with
  | nil => simp [claimedAlong]
  | cons op rest ih =>
    rw [List.foldl_cons, ih, runs_step, claimedAlong, List.map_append, List.append_assoc]

theorem sound_along {ops : List Op} {store : Store} (sound : Sound store) (fits : Timed ops) :
    Sound (ops.foldl (fun store op => op.apply store) store) := by
  induction ops generalizing store with
  | nil => exact sound
  | cons op rest ih =>
    rw [Timed, List.flatMap_cons, List.forall_mem_append] at fits
    exact ih (sound_step fits.1 sound) fits.2

theorem sound_after {ops : List Op} (fits : Timed ops) : Sound (after ops) := by
  apply sound_along _ fits
  exact { monitors := List.nodup_nil, monitorRuns := List.nodup_nil, dues := by simp }

/-! The distance of two claims. -/

/-- The monitor is there, and not due before an instant. -/
structure HeldUntil (monitorId : String) (start : Int) (store : Store) : Prop where
  known : ∃ monitor ∈ store.monitors, monitor.id = monitorId
  due : ∀ monitor ∈ store.monitors, monitor.id = monitorId →
    ∃ due : Int, Representable due ∧ start ≤ due ∧ monitor.nextDueAt = isoformat due

theorem eligible_iff {monitor : Monitor} {due now : Int} (fits : Representable due)
    (text : monitor.nextDueAt = isoformat due) (fits' : Representable now) :
    eligible (isoformat now) monitor = true ↔ monitor.enabled = true ∧ due ≤ now := by
  unfold eligible
  rw [text, Bool.and_eq_true, Bool.not_eq_true', decide_eq_false_iff_not,
    isoformat_lt_iff fits' fits, not_lt]

/-- A row that is selected is due. -/
theorem HeldUntil.reached {monitorId : String} {start now : Int} {store : Store}
    (held : HeldUntil monitorId start store) (fits : Representable now) {limit : Int}
    {monitor : Monitor} (among : monitor ∈ dueMonitors (isoformat now) limit store.monitors)
    (own : monitor.id = monitorId) : start ≤ now := by
  obtain ⟨stored, chosen⟩ := mem_dueMonitors among
  obtain ⟨due, fits', reached, text⟩ := held.due monitor stored own
  exact le_trans reached ((eligible_iff fits' text fits).mp chosen).2

theorem heldUntil_updated {monitorId : String} {start : Int} {store : Store}
    (held : HeldUntil monitorId start store) {selects : Monitor → Bool} {change : Monitor → Monitor}
    (same : ∀ row, (change row).id = row.id)
    (later : ∀ row ∈ store.monitors, row.id = monitorId → selects row = true →
      ∃ due : Int, Representable due ∧ start ≤ due ∧ (change row).nextDueAt = isoformat due) :
    HeldUntil monitorId start { store with monitors := updateRows selects change store.monitors } := by
  constructor
  · obtain ⟨monitor, member, own⟩ := held.known
    refine ⟨_, mem_updateRows.mpr ⟨monitor, member, rfl⟩, ?_⟩
    split
    · rw [same, own]
    · exact own
  · intro monitor member own
    obtain ⟨old, stored, rfl⟩ := mem_updateRows.mp member
    split
    · rename_i selected
      rw [if_pos selected, same] at own
      exact later old stored own selected
    · rename_i selected
      rw [if_neg selected] at own
      exact held.due old stored own

theorem heldUntil_claimRow {monitorId : String} {start now : Int} (fits : Representable now)
    {uuid : String} {monitor : Monitor} {store after : Store} {record : Claimed}
    (held : HeldUntil monitorId start store) (late : monitor.id = monitorId → start ≤ now)
    (ok : claimRow (isoformat now) uuid monitor store = (.ok record, after)) :
    HeldUntil monitorId start after := by
  obtain ⟨due, next, -, -, monitors, -⟩ := claimRow_ok ok
  obtain ⟨seconds, known, fits', same⟩ := nextDue_ok fits next
  have positive : 0 < seconds * microsecondsPerSecond :=
    Int.mul_pos (intervals_positive known) (by decide)
  have updated : HeldUntil monitorId start { store with
      monitors := updateRows (fun row => row.id = monitor.id) (Monitor.advance due (isoformat now))
        store.monitors } := by
    refine heldUntil_updated held ?_ ?_
    · intro _
      rfl
    intro row stored own selected
    have reached := late ((of_decide_eq_true selected).symm.trans own)
    exact ⟨_, fits', by omega, same⟩
  constructor
  · rw [monitors]
    exact updated.known
  · rw [monitors]
    exact updated.due

/-- Only a trigger makes a monitor due earlier than it is. -/
theorem heldUntil_step {monitorId : String} {start : Int} {op : Op} {store : Store}
    (fits : ∀ t ∈ op.instants, Representable t) (held : HeldUntil monitorId start store)
    (quiet : ¬ op.triggers monitorId store) : HeldUntil monitorId start (op.apply store) := by
  cases op with
  | create now uuid request =>
    simp only [Op.apply]
    rcases create_cases now uuid request store with same | ⟨row, fresh, -, -, added⟩
    · rw [same]
      exact held
    · rw [added]
      obtain ⟨monitor, member, own⟩ := held.known
      constructor
      · exact ⟨monitor, List.mem_append_left _ member, own⟩
      · intro other member' own'
        rcases List.mem_append.mp member' with stored | new
        · exact held.due other stored own'
        · obtain rfl := List.mem_singleton.mp new
          exact absurd (own.trans own'.symm) (fresh monitor member)
  | setEnabled now id org workspace enabled =>
    rw [Op.apply, setEnabled_run]
    exact heldUntil_updated held (fun _ => rfl) fun row stored own _ => held.due row stored own
  | trigger now later id org workspace =>
    rw [Op.apply, trigger_run]
    refine heldUntil_updated held ?_ ?_
    · intro _
      rfl
    intro row stored own selected
    have answered : store.monitors.any (selectsTrigger id org workspace) = true :=
      List.any_eq_true.mpr ⟨row, stored, selected⟩
    simp only [selectsTrigger, selectsTenant, Bool.and_eq_true, decide_eq_true_eq] at selected
    have asked : id = monitorId := by rw [← own, selected.1.1.1]
    refine absurd ?_ quiet
    rw [Op.triggers, trigger_run, answered]
    exact ⟨asked, rfl⟩
  | claim limit now uuids =>
    have fitsNow := fits now (by simp [Op.instants])
    rcases claim_cases limit now uuids store with ⟨same, -⟩ | ⟨rows, selected, ok⟩
    · rw [same]
      exact held
    · apply claimRows_keeps _ held ok
      intro row member before record next holds first
      apply heldUntil_claimRow fitsNow holds _ first
      exact held.reached fitsNow (selected ▸ List.mem_map_of_mem member)
  | finishRun finish => exact ⟨held.known, held.due⟩
  | finishMonitor finish =>
    exact heldUntil_updated held (fun _ => rfl) fun row stored own _ => held.due row stored own

theorem heldUntil_along {monitorId : String} {start : Int} {ops : List Op} {store : Store}
    (fits : Timed ops) (held : HeldUntil monitorId start store)
    (quiet : ∀ older op newer, ops = older ++ op :: newer →
      ¬ op.triggers monitorId (older.foldl (fun store op => op.apply store) store)) :
    HeldUntil monitorId start (ops.foldl (fun store op => op.apply store) store) := by
  induction ops generalizing store with
  | nil => exact held
  | cons op rest ih =>
    rw [Timed, List.flatMap_cons, List.forall_mem_append] at fits
    apply ih fits.2 (heldUntil_step fits.1 held (quiet [] op rest rfl))
    intro older later newer split
    exact quiet (op :: older) later newer (congrArg (List.cons op) split)

/-- A claim holds its monitors for the interval. -/
theorem claimRows_held {now : Int} (fits : Representable now) {rows : List (Monitor × String)}
    {store after : Store} {records : List Claimed} {record : Claimed}
    (unique : (rows.map fun row => row.1.id).Nodup)
    (known : ∃ monitor ∈ store.monitors, monitor.id = record.monitor.id)
    (ok : claimRows (isoformat now) rows store = (.ok records, after)) (member : record ∈ records) :
    ∃ seconds, lookupEntries intervals record.monitor.interval = some seconds ∧
      HeldUntil record.monitor.id (now + seconds * microsecondsPerSecond) after := by
  induction rows generalizing store records with
  | nil =>
    cases ok
    cases member
  | cons row rest ih =>
    obtain ⟨monitor, uuid⟩ := row
    rw [List.map_cons, List.nodup_cons] at unique
    simp only [claimRows, bind_run] at ok
    rcases first : claimRow (isoformat now) uuid monitor store with ⟨_ | head, next⟩
    · simp [first] at ok
    · simp only [first] at ok
      rcases later : claimRows (isoformat now) rest next with ⟨_ | others, final⟩
      · simp [later] at ok
      · simp only [later, pure_run, Prod.mk.injEq, Except.ok.injEq] at ok
        obtain ⟨rfl, rfl⟩ := ok
        obtain ⟨due, found, rfl, -, monitors, -⟩ := claimRow_ok first
        obtain ⟨seconds, interval, fits', same⟩ := nextDue_ok fits found
        have known' : ∃ monitor ∈ next.monitors, monitor.id = record.monitor.id := by
          obtain ⟨old, stored, own⟩ := known
          rw [monitors]
          refine ⟨_, mem_updateRows.mpr ⟨old, stored, rfl⟩, ?_⟩
          split <;> exact own
        rcases List.mem_cons.mp member with rfl | tail
        · refine ⟨seconds, interval, ?_⟩
          have held : HeldUntil monitor.id (now + seconds * microsecondsPerSecond) next := by
            refine ⟨known', ?_⟩
            intro row stored own
            rw [monitors] at stored
            obtain ⟨old, -, rfl⟩ := mem_updateRows.mp stored
            by_cases mine : old.id = monitor.id
            · rw [if_pos (decide_eq_true mine)]
              exact ⟨_, fits', le_rfl, same⟩
            · rw [if_neg (by simpa using mine)] at own
              exact absurd own mine
          apply claimRows_keeps _ held later
          intro row among before claimed next' holds ok'
          apply heldUntil_claimRow fits holds _ ok'
          intro twice
          exact absurd (List.mem_map.mpr ⟨row, among, twice⟩) unique.1
        · exact ih unique.2 known' later tail

theorem after_append (before rest : List Op) :
    after (before ++ rest) = rest.foldl (fun store op => op.apply store) (after before) :=
  List.foldl_append

theorem claimed_nodup {store : Store} (sound : Sound store) (op : Op) :
    ((op.claimed store).map fun record => record.monitor.id).Nodup := by
  cases op with
  | claim limit now uuids =>
    rcases claim_cases limit now uuids store with ⟨-, none⟩ | ⟨rows, selected, ok⟩
    · rw [none]
      exact List.nodup_nil
    · have same := congrArg (List.map Monitor.id) ((claimRows_records ok).1.trans selected)
      rw [List.map_map] at same
      exact same ▸ dueMonitors_nodup sound.monitors
  | _ => exact List.nodup_nil

/-- What a claim in a run leaves behind. -/
theorem claim_held {limit : Int} {now : Int} {uuids : Nat → String} {store : Store}
    (fits : Representable now) (sound : Sound store) {record : Claimed}
    (member : record ∈ Op.claimed (.claim limit now uuids) store) :
    ∃ seconds, lookupEntries intervals record.monitor.interval = some seconds ∧
      HeldUntil record.monitor.id (now + seconds * microsecondsPerSecond)
        (Op.apply (.claim limit now uuids) store) := by
  rcases claim_cases limit now uuids store with ⟨-, none⟩ | ⟨rows, selected, ok⟩
  · rw [none] at member
    cases member
  · have unique : ((dueMonitors (isoformat now) limit store.monitors).map Monitor.id).Nodup :=
      dueMonitors_nodup sound.monitors
    rw [← selected, List.map_map] at unique
    have among : record.monitor ∈ dueMonitors (isoformat now) limit store.monitors := by
      rw [← selected, ← (claimRows_records ok).1]
      exact List.mem_map_of_mem member
    exact claimRows_held fits unique ⟨_, (mem_dueMonitors among).1, rfl⟩ ok member

theorem claim_reached {limit : Int} {start now : Int} {uuids : Nat → String} {store : Store}
    {monitorId : String} (fits : Representable now) (held : HeldUntil monitorId start store)
    {record : Claimed} (member : record ∈ Op.claimed (.claim limit now uuids) store)
    (own : record.monitor.id = monitorId) : start ≤ now := by
  rcases claim_cases limit now uuids store with ⟨-, none⟩ | ⟨rows, selected, ok⟩
  · rw [none] at member
    cases member
  · have among : record.monitor ∈ dueMonitors (isoformat now) limit store.monitors := by
      rw [← selected, ← (claimRows_records ok).1]
      exact List.mem_map_of_mem member
    exact held.reached fits among own

/-- A monitor is claimed again only after its interval, unless it is triggered; every record
    that is claimed has its own row in `monitor_runs`; and a monitor is selected exactly when
    it is enabled and its due instant is reached. -/
theorem claimed_once_per_interval (ops : List Op) (timed : Timed ops) :
    (∀ before limit limit' uuids uuids' between rest, ∀ now later : Time, ∀ first second,
        ops = before ++ .claim limit now uuids :: (between ++ .claim limit' later uuids' :: rest) →
        first ∈ Op.claimed (.claim limit now uuids) (after before) →
        second ∈ Op.claimed (.claim limit' later uuids')
          (after (before ++ .claim limit now uuids :: between)) →
        second.monitor.id = first.monitor.id →
        (∀ older op newer, between = older ++ op :: newer → ¬ op.triggers first.monitor.id
          (after (before ++ .claim limit now uuids :: older))) →
        ∃ seconds, lookupEntries intervals first.monitor.interval = some seconds ∧
          now + seconds * microsecondsPerSecond ≤ later) ∧
      (∀ before op rest, ops = before ++ op :: rest →
        ((Op.claimed op (after before)).map fun record => record.monitor.id).Nodup) ∧
      ((after ops).monitorRuns.map (fun run => (run.id, run.monitorId)) =
          (claimedAlong {} ops).map (fun record => (record.dispatchId, record.monitor.id)) ∧
        ((claimedAlong {} ops).map Claimed.dispatchId).Nodup) ∧
      ∀ monitor ∈ (after ops).monitors, ∃ due : Int, Representable due ∧
        monitor.nextDueAt = isoformat due ∧ ∀ now : Int, Representable now →
          (eligible (isoformat now) monitor = true ↔ monitor.enabled = true ∧ due ≤ now) := by
  have early : ∀ before rest, ops = before ++ rest → Timed before := by
    rintro before rest rfl t member
    apply timed t
    rw [List.flatMap_append]
    exact List.mem_append_left _ member
  refine ⟨?_, ?_, ⟨?_, ?_⟩, ?_⟩
  · intro before limit limit' uuids uuids' between rest now later first second split claims again
      own quiet
    subst split
    simp only [Timed, List.flatMap_append, List.flatMap_cons, List.forall_mem_append] at timed
    obtain ⟨fitsBefore, fitsNow, fitsBetween, fitsLater, -⟩ := timed
    obtain ⟨seconds, interval, held⟩ :=
      claim_held (fitsNow now (by simp [Op.instants])) (sound_after fitsBefore) claims
    refine ⟨seconds, interval, ?_⟩
    rw [after_append, List.foldl_cons] at again
    refine claim_reached (fitsLater later (by simp [Op.instants])) ?_ again own
    apply heldUntil_along fitsBetween held
    intro older op newer parts
    have fires := quiet older op newer parts
    rwa [after_append, List.foldl_cons] at fires
  · intro before op rest split
    exact claimed_nodup (sound_after (early before _ split)) op
  · exact runs_along ops {}
  · have unique := (sound_after timed).monitorRuns
    have same := congrArg (List.map Prod.fst) (runs_along ops {})
    simp only [List.map_map, List.map_nil, List.nil_append] at same
    exact same ▸ unique
  · intro monitor member
    obtain ⟨due, fits', text⟩ := (sound_after timed).dues monitor member
    exact ⟨due, fits', text, fun now fitsNow => eligible_iff fits' text fitsNow⟩

/-- A monitor that is created, enabled, and claimed twice, one hour apart. -/
def hourlyRun : List Op :=
  let start : Time := 1783468800000000
  [.create start "m" {
      organizationId := "one", workspaceId := "main", name := "Hourly risk", task := "Detect"
      sourceId := "data-1", interval := "hourly" },
    .setEnabled start "mon_m" "one" "main" true,
    .claim 2 start fun _ => "a",
    .claim 2 (start + 3599999999) fun _ => "b",
    .claim 2 (start + 3600000000) fun _ => "c"]

/-- The claim in between, a microsecond too early, finds nothing. -/
theorem hourly_claims :
    (claimedAlong {} hourlyRun).map (fun record => (record.dispatchId, record.monitor.id)) =
        [("dispatch_a", "mon_m"), ("dispatch_c", "mon_m")] ∧
      (after hourlyRun).monitorRuns.map (fun run => (run.id, run.monitorId)) =
        [("dispatch_a", "mon_m"), ("dispatch_c", "mon_m")] := by
  have claims : (claimedAlong {} hourlyRun).map
      (fun record => (record.dispatchId, record.monitor.id)) =
        [("dispatch_a", "mon_m"), ("dispatch_c", "mon_m")] := by
    decide +kernel
  have timed : Timed hourlyRun := by decide
  obtain ⟨-, -, ⟨rows, -⟩, -⟩ := claimed_once_per_interval hourlyRun timed
  exact ⟨claims, rows.trans claims⟩

end MonitorStore
