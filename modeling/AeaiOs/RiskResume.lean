import AeaiOs.RiskLedger

/-!
Runs of the scans of a file that does not change, and the uninterrupted scan that their results
are compared with.
-/
namespace RiskScan
open PyText OrderedDict RunValues

/-- What an event finds around it. -/
def Event.env : Event → Option Env
  | .start env _ _ _ _ _ => some env
  | .act env _ _ _ _ _ => some env
  | .claim env _ => some env
  | .work env _ => some env
  | .raises _ _ => none
  | .dies _ => none

/-- The file at a path is the same for every event of a run. -/
def Steady (path : String) (file : File) (events : List Event) : Prop :=
  ∀ e ∈ events, ∀ env, e.env = some env → env.disk path = some file

section runs
variable [ScanRuntime] {path : String} {file : File} {s : System}

theorem work_sound (sound : Sound path file s) {env : Env} (worker : String)
    (steady : env.disk path = some file) : Sound path file (step s (.work env worker)) := by
  have ok := sound.phases worker
  have known : ∀ id scan, s.db.scans.get? id = some scan → scan.sourcePath = path →
      Described file.csv id scan.tally := fun id scan stored source =>
    (sound.ledger id scan stored source).described
  change Sound path file (workEvent env worker s)
  cases phase : s.phase worker with
  | idle =>
    rw [workEvent_eq env phase]
    exact sound.goTo phaseOk_idle
  | opening job =>
    rw [phase] at ok
    rw [workEvent_eq env phase]
    exact sound.goTo (openSource_ok steady ok)
  | reading job sheet locals rest =>
    rw [phase] at ok
    rw [workEvent_eq env phase]
    exact sound.goTo (read_ok ok)
  | committing job sheet locals rest next =>
    rw [phase] at ok
    rw [workEvent_eq env phase]
    unfold work
    dsimp only
    cases committed : commitBatch env worker job sheet locals s.db with
    | ok db => exact commit_sound sound ok committed
    | error message => exact sound.goTo (phaseOk_failing (ok.linked job rfl) message)
  | leaving job status =>
    rw [workEvent_eq env phase]
    exact leave_sound sound env.now
  | checking job =>
    rw [phase] at ok
    rw [workEvent_eq env phase]
    exact sound.goTo (checkSource_ok known ok)
  | reconciling job current =>
    rw [phase] at ok
    rw [workEvent_eq env phase]
    exact sound.goTo (reconcile_ok ok)
  | querying job current views pending =>
    rw [phase] at ok
    rw [workEvent_eq env phase]
    cases pending with
    | nil => exact sound.goTo (conclude_ok ok)
    | cons query pending => exact sound.goTo (query_ok sound.ledger ok)
  | publishing job result =>
    rw [phase] at ok
    rw [workEvent_eq env phase]
    exact publish_sound sound ok env.now
  | failing job message =>
    rw [workEvent_eq env phase]
    exact fail_sound sound env.now

theorem step_sound (sound : Sound path file s) (e : Event)
    (steady : ∀ env, e.env = some env → env.disk path = some file) :
    Sound path file (step s e) := by
  cases e with
  | start env key runId source org workspace =>
    exact start_sound sound env key runId source org workspace (steady env rfl)
  | act env action runId scanId org workspace =>
    exact act_sound sound env action runId scanId org workspace
  | claim env worker =>
    unfold step
    dsimp only
    split
    · exact claim_sound sound env worker
    · exact sound
  | work env worker => exact work_sound sound worker (steady env rfl)
  | raises worker message =>
    have ok := sound.phases worker
    unfold step
    dsimp only
    split
    · exact sound
    · exact sound
    split
    · rename_i job is
      exact sound.goTo (phaseOk_failing (ok.linked job is) message)
    · exact sound
  | dies worker => exact sound.goTo phaseOk_idle

theorem run_sound (events : List Event) (sound : Sound path file s)
    (steady : Steady path file events) : Sound path file (run s events) := by
  induction events generalizing s with
  | nil => exact sound
  | cons e rest ih =>
    apply ih
    · exact step_sound sound e (steady e List.mem_cons_self)
    · exact fun later member => steady later (List.mem_cons_of_mem e member)

theorem init_sound : Sound path file {} where
  signature _ _ stored := nomatch stored
  ledger _ _ stored := nomatch stored
  result _ _ _ stored := nomatch stored
  filed _ member := nomatch member
  phases _ := phaseOk_idle

/-! The uninterrupted scan. -/

/-- A store with one scan. -/
def onlyScan (id : String) (scan : Scan) : System := { db := { scans := Dict.empty.set id scan } }

/-- One worker claims the only scan and takes `n` steps. -/
def uninterrupted (env : Env) (worker id : String) (scan : Scan) (n : Nat) : System :=
  run (onlyScan id scan) (.claim env worker :: List.replicate n (.work env worker))

/-- Nothing stops the worker, and the limits are not reached. -/
structure Undisturbed (path : String) (file : File) (env : Env) : Prop where
  disk : env.disk path = some file
  stop : env.stop = false
  late : env.late = false
  full : env.full = false
  rows : file.csv.records.length ≤ env.maxRows

/-- The phases of a scan that is not disturbed. -/
def Going (file : CsvFile) : Phase → Prop
  | .opening _ => True
  | .reading _ sheet _ _ => file.records.length ≤ sheet.maxRows
  | .committing _ sheet _ _ next =>
      file.records.length ≤ sheet.maxRows ∧ (next = .checkpoint ∨ next = .finish)
  | .checking _ => True
  | .reconciling _ _ => True
  | .querying _ _ _ _ => True
  | .publishing _ _ => True
  | .idle => False
  | .leaving _ _ => False
  | .failing _ _ => False

/-- The steps that a phase has left, at most. -/
def rank (file : CsvFile) : Phase → Nat
  | .opening _ => 2 * file.records.length + 21
  | .reading _ _ _ rest => 2 * rest.length + 20
  | .committing _ _ _ rest .checkpoint => 2 * rest.length + 21
  | .committing _ _ _ _ _ => 19
  | .checking _ => 18
  | .reconciling _ _ => 17
  | .querying _ _ _ pending => 8 + pending.length
  | .publishing _ _ => 7
  | .idle => 0
  | .leaving _ _ => 0
  | .failing _ _ => 0

/-- The worker is on its way through the scan, which it holds. -/
structure OnWay (path : String) (file : File) (worker id : String) (s : System) : Prop where
  sound : Sound path file s
  going : Going file.csv (s.phase worker)
  job : ∃ job, (s.phase worker).job = some job ∧ job.id = id ∧ job.scan.sourcePath = path
  held : ∃ scan, s.db.scans.get? id = some scan ∧ scan.status = .running ∧
    scan.workerId = some worker

/-- The worker has published. -/
structure Published (path : String) (file : File) (worker id : String) (result : PyDict)
    (s : System) : Prop where
  sound : Sound path file s
  idle : s.phase worker = .idle
  result : ∃ scan, s.db.scans.get? id = some scan ∧ scan.status = .completed ∧
    scan.result = some result

omit [ScanRuntime] in
theorem goTo_phase (worker : String) (phase : Phase) : (s.goTo worker phase).phase worker = phase := by
  simp [System.goTo]

theorem readable_of_result {id : String} {csv : CsvFile} {result : PyDict}
    (published : resultFor csv id = some result) :
    ∃ headers columns signals, csv.headers = .ok headers ∧ columnsOf headers = .ok columns ∧
      csv.failure = none ∧
      screen (tallyOf (entriesOf csv id)).valid columns.invoiceId.isSome
        (fun _ => validRows (entriesOf csv id)) = .ok signals ∧
      result = resultOf (tallyOf (entriesOf csv id)) columns.invoiceId.isSome signals := by
  unfold resultFor at published
  split at published
  swap
  · cases published
  rename_i headers columns layout readable
  dsimp only at published
  split at published
  swap
  · cases published
  rename_i signals screened
  unfold layoutOf at layout
  split at layout
  · cases layout
  rename_i found header
  split at layout
  · cases layout
  rename_i roles resolved
  simp only [Option.some.injEq, Prod.mk.injEq] at layout
  obtain ⟨rfl, rfl⟩ := layout
  exact ⟨found, roles, signals, header, resolved, readable, screened,
    (Option.some.inj published).symm⟩

/-! Ordinals. -/

theorem riskRow_ordinal {id : String} {headers record : List String} {columns : Columns} {n : Nat}
    {row : RiskRow} (made : riskRow id headers columns n record = some row) : row.ordinal = n := by
  unfold riskRow at made
  obtain ⟨amount, -, rfl⟩ := Option.map_eq_some_iff.mp made
  rfl

theorem entriesOf_ordinal {csv : CsvFile} {id : String} {n : Nat} {row : RiskRow}
    (here : (entriesOf csv id)[n]? = some (some row)) : row.ordinal = n + 1 := by
  unfold entriesOf at here
  split at here
  · cases here
  · rw [entriesFrom_get?, Option.map_eq_some_iff] at here
    obtain ⟨record, -, made⟩ := here
    have ordinal := riskRow_ordinal made
    omega

theorem ordinal_le {csv : CsvFile} {id : String} {n : Nat} {row : RiskRow}
    (member : row ∈ validRows ((entriesOf csv id).take n)) : row.ordinal ≤ n := by
  obtain ⟨entry, inside, same⟩ := List.mem_filterMap.mp member
  have is : entry = some row := same
  rw [is, List.mem_iff_getElem?] at inside
  obtain ⟨i, here⟩ := inside
  rw [List.getElem?_take] at here
  split at here
  · have ordinal := entriesOf_ordinal here
    omega
  · cases here

theorem lt_ordinal {csv : CsvFile} {id : String} {n stored : Nat} {row : RiskRow}
    (member : row ∈ validRows (((entriesOf csv id).take n).drop stored)) : stored < row.ordinal := by
  obtain ⟨entry, inside, same⟩ := List.mem_filterMap.mp member
  have is : entry = some row := same
  rw [is, List.mem_iff_getElem?] at inside
  obtain ⟨i, here⟩ := inside
  rw [List.getElem?_drop, List.getElem?_take] at here
  split at here
  · have ordinal := entriesOf_ordinal here
    omega
  · cases here

/-! One step of the uninterrupted scan. -/

section quiet
variable {env : Env} {worker id : String} {result : PyDict} {job : Job}
  (quiet : Undisturbed path file env) (published : resultFor file.csv id = some result)

include quiet published in
theorem openSource_quiet (source : job.scan.sourcePath = path)
    (signature : job.scan.sourceSignature = file.signature)
    (described : Described file.csv job.id job.scan.tally) :
    ∃ sheet locals rest, openSource env job = .reading job sheet locals rest ∧
      file.csv.records.length ≤ sheet.maxRows ∧ rest.length ≤ file.csv.records.length := by
  obtain ⟨headers, columns, signals, header, resolved, -, -, -⟩ := readable_of_result published
  have within := described.within
  have length : (entriesOf file.csv job.id).length = file.csv.records.length :=
    entriesOf_length (layoutOf_eq header resolved)
  have room : ¬ file.csv.records.length < job.scan.tally.scanned := by omega
  have disk : env.disk job.scan.sourcePath = some file := source ▸ quiet.disk
  unfold openSource
  rw [disk]
  simp only [signature, ne_eq, not_true_eq_false, if_false, header, resolved, room]
  refine ⟨_, _, _, rfl, quiet.rows, ?_⟩
  rw [List.length_drop]
  omega

theorem readRecord_quiet {sheet : Sheet} {locals : Locals} {record : List String}
    {rest : List (List String)} (fits : Fits file.csv id sheet locals (record :: rest))
    (rows : file.csv.records.length ≤ sheet.maxRows) :
    Going file.csv (readRecord env job sheet locals record rest) ∧
      (readRecord env job sheet locals record rest).job = some job ∧
      rank file.csv (readRecord env job sheet locals record rest) ≤ 2 * rest.length + 21 := by
  have read := congrArg List.length fits.rest
  rw [List.length_cons, List.length_drop] at read
  have room : ¬ sheet.maxRows < locals.tally.scanned + 1 := by omega
  unfold readRecord
  dsimp only
  rw [if_neg room]
  split
  · exact ⟨⟨rows, .inl rfl⟩, rfl, le_rfl⟩
  · exact ⟨rows, rfl, Nat.le_succ _⟩

include quiet published in
theorem read_quiet {sheet : Sheet} {locals : Locals} {rest : List (List String)} {db : Db}
    {scan : Scan} (source : job.scan.sourcePath = path)
    (stored : db.scans.get? job.id = some scan) (running : scan.status = .running)
    (fits : Fits file.csv id sheet locals rest)
    (rows : file.csv.records.length ≤ sheet.maxRows) :
    Going file.csv (read env job sheet locals rest db) ∧
      (read env job sheet locals rest db).job = some job ∧
      rank file.csv (read env job sheet locals rest db) < 2 * rest.length + 20 := by
  obtain ⟨-, -, -, -, -, readable, -, -⟩ := readable_of_result published
  have disk : env.disk job.scan.sourcePath = some file := source ▸ quiet.disk
  unfold read
  cases rest with
  | nil =>
    simp only [fits.failure, readable, disk]
    refine ⟨⟨rows, .inr rfl⟩, rfl, ?_⟩
    simp [rank]
  | cons record after =>
    have turn : _ ∧ (readRecord env job sheet locals record after).job = some job ∧ _ :=
      readRecord_quiet fits rows
    rw [List.length_cons]
    simp only [quiet.stop, Bool.false_eq_true, if_false, stored, running, reduceCtorEq, quiet.late]
    rw [ite_self]
    refine ⟨turn.1, turn.2.1, ?_⟩
    have bound := turn.2.2
    omega

/-- A commit of the worker that holds the scan succeeds. -/
theorem commitBatch_quiet {sheet : Sheet} {locals : Locals} {rest : List (List String)}
    {next : Next} {scan : Scan} (sound : Sound path file s) (disk : env.disk path = some file)
    (is : s.phase worker = .committing job sheet locals rest next)
    (source : job.scan.sourcePath = path) (stored : s.db.scans.get? job.id = some scan)
    (held : scan.heldBy worker = true) :
    commitBatch env worker job sheet locals s.db =
      .ok (commitRows env.now job.id sheet locals file.sizeBytes s.db) := by
  have ok := sound.phases worker
  rw [is] at ok
  obtain ⟨fits, synced, -⟩ := ok.fits job rfl source
  obtain ⟨behind, batch⟩ := synced scan stored held
  have linked : scan.sourcePath = path := by
    obtain ⟨before, found, same, -⟩ := ok.linked job rfl
    have here : before = scan := Option.some.inj (found.symm.trans stored)
    rw [← here, same, source]
  have old := (sound.ledger job.id scan stored linked).rows
  -- the ordinals of the batch are new
  have fresh : locals.batch.any (fun row => s.db.riskRows.any fun old =>
      old.scanId = row.scanId && old.ordinal = row.ordinal) = false := by
    rw [List.any_eq_false]
    intro row member
    rw [Bool.not_eq_true, List.any_eq_false]
    intro other there
    simp only [Bool.and_eq_true, decide_eq_true_eq, not_and]
    intro same
    have own : row.scanId = job.id := ok.own job rfl row member
    have mine : other ∈ s.db.rowsOf job.id :=
      List.mem_filter.mpr ⟨there, decide_eq_true (same.trans own)⟩
    rw [old] at mine
    have low := ordinal_le mine
    rw [batch] at member
    have high := lt_ordinal member
    omega
  unfold commitBatch
  have mine : (s.db.scans.get? job.id).filter (Scan.heldBy worker) = some scan := by
    rw [stored, Option.filter_some, if_pos held]
  rw [mine]
  simp only [fresh, Bool.false_eq_true, if_false, source, disk]
  rfl

/-- A phase that the worker goes on to without a write. -/
theorem OnWay.goTo {phase : Phase} (onWay : OnWay path file worker id s)
    (sound : Sound path file (s.goTo worker phase)) (going : Going file.csv phase)
    (job : ∃ job, phase.job = some job ∧ job.id = id ∧ job.scan.sourcePath = path) :
    OnWay path file worker id (s.goTo worker phase) where
  sound := sound
  going := by
    rw [goTo_phase]
    exact going
  job := by
    rw [goTo_phase]
    exact job
  held := onWay.held

include quiet published in
/-- Every step of an undisturbed worker takes it further, and the last one publishes. -/
theorem onWay_step (onWay : OnWay path file worker id s) :
    (OnWay path file worker id (step s (.work env worker)) ∧
        rank file.csv ((step s (.work env worker)).phase worker) < rank file.csv (s.phase worker)) ∨
      Published path file worker id result (step s (.work env worker)) := by
  have sound' := work_sound onWay.sound worker quiet.disk
  have ok := onWay.sound.phases worker
  have going := onWay.going
  obtain ⟨job, here, rfl, source⟩ := onWay.job
  obtain ⟨scan, stored, running, mine⟩ := onWay.held
  have linked : scan.sourcePath = path ∧ scan.sourceSignature = job.scan.sourceSignature := by
    obtain ⟨before, found, same, signature⟩ := ok.linked job here
    have is : before = scan := Option.some.inj (found.symm.trans stored)
    exact ⟨is ▸ same.trans source, is ▸ signature⟩
  have signature : job.scan.sourceSignature = file.signature :=
    linked.2.symm.trans (onWay.sound.signature _ scan stored linked.1)
  have disk : env.disk job.scan.sourcePath = some file := source ▸ quiet.disk
  have held : scan.heldBy worker = true := heldBy_iff.mpr ⟨mine, .inl running⟩
  obtain ⟨headers, columns, signals, header, resolved, readable, screened, rfl⟩ :=
    readable_of_result published
  change (OnWay path file worker job.id (workEvent env worker s) ∧
      rank file.csv ((workEvent env worker s).phase worker) < _) ∨
    Published path file worker job.id _ (workEvent env worker s)
  change Sound path file (workEvent env worker s) at sound'
  cases is : s.phase worker with
  | idle =>
    rw [is] at going
    cases going
  | leaving =>
    rw [is] at going
    cases going
  | failing =>
    rw [is] at going
    cases going
  | opening own =>
    rw [is] at ok here
    cases here
    rw [workEvent_eq env is] at sound' ⊢
    obtain ⟨described, -⟩ := ok.fits job rfl source
    obtain ⟨sheet, locals, rest, opened, rows, length⟩ :=
      openSource_quiet quiet published source signature described
    unfold work at sound' ⊢
    dsimp only at sound' ⊢
    rw [opened] at sound' ⊢
    refine .inl ⟨onWay.goTo sound' rows ⟨job, rfl, rfl, source⟩, ?_⟩
    rw [goTo_phase]
    simp only [rank]
    omega
  | reading own sheet locals rest =>
    rw [is] at ok here going
    cases here
    rw [workEvent_eq env is] at sound' ⊢
    obtain ⟨fits, -⟩ := ok.fits job rfl source
    obtain ⟨further, same, less⟩ :=
      read_quiet quiet published source stored running fits going
    refine .inl ⟨onWay.goTo sound' further ⟨job, same, rfl, source⟩, ?_⟩
    rw [goTo_phase]
    exact less
  | committing own sheet locals rest next =>
    rw [is] at ok here going
    cases here
    rw [workEvent_eq env is] at sound' ⊢
    have committed := commitBatch_quiet onWay.sound quiet.disk is source stored held
    unfold work at sound' ⊢
    dsimp only at sound' ⊢
    rw [committed] at sound' ⊢
    dsimp only at sound' ⊢
    have now : (commitRows env.now job.id sheet locals file.sizeBytes s.db).scans.get? job.id =
        some (checkpoint env.now sheet locals file.sizeBytes scan) := by
      rw [commitRows_get? stored, if_pos rfl]
    have after : Going file.csv (afterCommit env job sheet locals rest next) ∧
        (afterCommit env job sheet locals rest next).job = some job ∧
        rank file.csv (afterCommit env job sheet locals rest next) <
          rank file.csv (.committing job sheet locals rest next) := by
      rcases going.2 with rfl | rfl
      · simp only [afterCommit, quiet.full, Bool.false_eq_true, if_false]
        exact ⟨going.1, rfl, Nat.lt_succ_self _⟩
      · exact ⟨trivial, rfl, by simp [afterCommit, rank]⟩
    refine .inl ⟨⟨sound', ?_, ?_, ⟨_, now, running, mine⟩⟩, ?_⟩
    · rw [goTo_phase]
      exact after.1
    · rw [goTo_phase]
      exact ⟨job, after.2.1, rfl, source⟩
    · rw [goTo_phase]
      exact after.2.2
  | checking own =>
    rw [is] at here
    cases here
    rw [workEvent_eq env is] at sound' ⊢
    have checked : checkSource env job s.db = .reconciling job scan := by
      unfold checkSource
      rw [disk]
      simp only [signature, ne_eq, not_true_eq_false, if_false, stored]
    unfold work at sound' ⊢
    dsimp only at sound' ⊢
    rw [checked] at sound' ⊢
    refine .inl ⟨onWay.goTo sound' trivial ⟨job, rfl, rfl, source⟩, ?_⟩
    rw [goTo_phase]
    exact Nat.lt_succ_self _
  | reconciling own current =>
    rw [is] at ok here
    cases here
    rw [workEvent_eq env is] at sound' ⊢
    obtain ⟨⟨before, found, done⟩, now, described⟩ := ok.fits job rfl source
    have agrees : reconciles current.tally (s.db.rowsOf job.id) = true := by
      have whole : before = scan := Option.some.inj (found.symm.trans stored)
      subst whole
      rw [rows_of_done (onWay.sound.ledger _ before stored linked.1) done,
        tally_of_done described now]
      simp [reconciles, tallyOf]
    have reconciled : reconcile job current s.db = .querying job current [] Query.all := by
      unfold reconcile
      rw [if_pos agrees]
    unfold work at sound' ⊢
    dsimp only at sound' ⊢
    rw [reconciled] at sound' ⊢
    refine .inl ⟨onWay.goTo sound' trivial ⟨job, rfl, rfl, source⟩, ?_⟩
    rw [goTo_phase]
    exact Nat.lt_succ_self _
  | querying own current views pending =>
    rw [is] at ok here
    cases here
    rw [workEvent_eq env is] at sound' ⊢
    obtain ⟨-, ⟨now, described⟩, asked, seen⟩ := ok.fits job rfl source
    cases pending with
    | nil =>
      rw [List.append_nil] at asked
      obtain ⟨other, roles, layout, invoice⟩ := now.layout
      have concluded : conclude job current views = .publishing job
          (resultOf (tallyOf (entriesOf file.csv job.id)) columns.invoiceId.isSome signals) := by
        have known : layoutOf file.csv = some (headers, columns) := layoutOf_eq header resolved
        rw [layout, Option.some.injEq, Prod.mk.injEq] at known
        obtain ⟨rfl, rfl⟩ := known
        unfold conclude
        rw [viewOf_eq asked seen, tally_of_done described now, invoice]
        simp only [screened]
      unfold work at sound' ⊢
      dsimp only at sound' ⊢
      rw [concluded] at sound' ⊢
      refine .inl ⟨onWay.goTo sound' trivial ⟨job, rfl, rfl, source⟩, ?_⟩
      rw [goTo_phase]
      exact Nat.lt_succ_self _
    | cons query pending =>
      refine .inl ⟨onWay.goTo sound' trivial ⟨job, rfl, rfl, source⟩, ?_⟩
      rw [goTo_phase]
      exact Nat.lt_succ_self _
  | publishing own result =>
    rw [is] at ok here
    cases here
    have same := Option.some.inj ((ok.fits job rfl source).symm.trans published)
    rw [workEvent_eq env is] at sound' ⊢
    refine .inr ⟨sound', goTo_phase _ _, _, get?_update_self _ stored, ?_⟩
    unfold publish
    simp only [running, reduceCtorEq, if_false, mine, decide_true, Bool.and_self, if_true]
    exact ⟨trivial, congrArg some same⟩

omit quiet published in
/-- After its publication the worker does nothing. -/
theorem published_stays (done : Published path file worker id result s) :
    step s (.work env worker) = s := by
  change workEvent env worker s = s
  rw [workEvent_eq env done.idle]
  unfold work System.goTo
  have same : (fun other => if other = worker then Phase.idle else s.phase other) = s.phase := by
    funext other
    split
    · rename_i is
      rw [is, done.idle]
    · rfl
  simp only [same]

omit quiet published in
theorem published_replicate (done : Published path file worker id result s) (n : Nat) :
    run s (List.replicate n (.work env worker)) = s := by
  induction n with
  | zero => rfl
  | succ n ih =>
    rw [List.replicate_succ]
    change run (step s (.work env worker)) _ = s
    rw [published_stays done]
    exact ih

include quiet published in
/-- An undisturbed worker publishes, and nothing changes afterwards. -/
theorem onWay_publishes (onWay : OnWay path file worker id s) :
    ∃ n, ∀ m, n ≤ m →
      Published path file worker id result (run s (List.replicate m (.work env worker))) := by
  induction bound : rank file.csv (s.phase worker) using Nat.strong_induction_on generalizing s with
  | _ k ih =>
    have onward : ∃ n, ∀ m, n ≤ m → Published path file worker id result
        (run (step s (.work env worker)) (List.replicate m (.work env worker))) := by
      rcases onWay_step quiet published onWay with ⟨next, less⟩ | done
      · exact ih _ (bound ▸ less) next rfl
      · refine ⟨0, ?_⟩
        intro m _
        rw [published_replicate done]
        exact done
    obtain ⟨n, later⟩ := onward
    refine ⟨n + 1, ?_⟩
    intro m enough
    obtain ⟨k, rfl⟩ : ∃ k, m = k + 1 := ⟨m - 1, by omega⟩
    rw [List.replicate_succ]
    exact later k (by omega)

end quiet

/-! The start. -/

section start
variable {id runId org workspace worker : String} {ts : Rat} {env : Env}

omit [ScanRuntime] in
theorem onlyScan_get? (scan : Scan) (key : String) :
    (onlyScan id scan).db.scans.get? key = if id = key then some scan else none := by
  unfold onlyScan
  rw [Dict.get?_set]
  rfl

theorem onlyScan_sound :
    Sound path file (onlyScan id (newScan runId org workspace path file ts)) where
  signature key scan stored _ := by
    rw [onlyScan_get?] at stored
    split at stored
    · cases stored
      rfl
    · cases stored
  ledger key scan stored _ := by
    rw [onlyScan_get?] at stored
    split at stored
    · cases stored
      exact ⟨Nat.zero_le _, rfl, rfl⟩
    · cases stored
  result key scan result stored _ found := by
    rw [onlyScan_get?] at stored
    split at stored
    · cases stored
      cases found
    · cases stored
  filed _ member := nomatch member
  phases _ := phaseOk_idle

omit [ScanRuntime] in
theorem oldestQueued_only (scan : Scan) (queued : scan.status = .queued) :
    oldestQueued (onlyScan id scan).db.scans = some id := by
  have entries : (onlyScan id scan).db.scans.entries = [(id, scan)] := rfl
  unfold oldestQueued
  rw [entries]
  simp [queued]

/-- The claim of the only scan. -/
theorem claim_onlyScan :
    OnWay path file worker id
      (step (onlyScan id (newScan runId org workspace path file ts)) (.claim env worker)) := by
  have sound : Sound path file
      (claimEvent env worker (onlyScan id (newScan runId org workspace path file ts))) :=
    claim_sound onlyScan_sound env worker
  have same : swept env.now (onlyScan id (newScan runId org workspace path file ts)).db =
      (onlyScan id (newScan runId org workspace path file ts)).db := rfl
  change OnWay path file worker id
    (claimEvent env worker (onlyScan id (newScan runId org workspace path file ts)))
  have stored : (onlyScan id (newScan runId org workspace path file ts)).db.scans.get? id =
      some (newScan runId org workspace path file ts) := by
    rw [onlyScan_get?, if_pos rfl]
  have claimed : claim env.now env.later worker
      (onlyScan id (newScan runId org workspace path file ts)).db =
      (some ⟨id, takeLease worker env.later (newScan runId org workspace path file ts)⟩,
        (onlyScan id (newScan runId org workspace path file ts)).db.update id
          (takeLease worker env.later)) := by
    have oldest : oldestQueued (onlyScan id (newScan runId org workspace path file ts)).db.scans =
        some id := oldestQueued_only _ rfl
    unfold claim
    rw [same]
    dsimp only
    rw [oldest]
    dsimp only
    rw [get?_update_self _ stored]
    rfl
  unfold claimEvent at sound ⊢
  rw [claimed] at sound ⊢
  dsimp only at sound ⊢
  refine ⟨sound, ?_, ?_, ?_⟩
  · rw [goTo_phase]
    trivial
  · rw [goTo_phase]
    exact ⟨_, rfl, rfl, rfl⟩
  · exact ⟨_, get?_update_self _ stored, rfl, rfl⟩

end start

/-- The scans of a file that does not change. At every moment of every run, whatever stops the
workers and whoever goes on, the ledger of a scan is that of the records scanned so far; and what
a scan has published is what one worker publishes that scans the file from its first record to its
last. -/
theorem resumed_scan_is_uninterrupted (path : String) (file : File) (events : List Event)
    (steady : Steady path file events) (id : String) (scan : Scan)
    (stored : (run {} events).db.scans.get? id = some scan) (source : scan.sourcePath = path) :
    Ledger file.csv id scan (run {} events).db ∧
      ∀ result, scan.result = some result →
        ∀ (env : Env) (worker runId org workspace : String) (ts : Rat),
          Undisturbed path file env →
          ∃ n, ∀ m, n ≤ m → ∃ alone,
            (uninterrupted env worker id (newScan runId org workspace path file ts)
              m).db.scans.get? id = some alone ∧
            alone.status = .completed ∧ alone.result = some result := by
  have sound := run_sound events init_sound steady
  refine ⟨sound.ledger id scan stored source, ?_⟩
  intro result published env worker runId org workspace ts quiet
  have known := sound.result id scan result stored source published
  have onWay : OnWay path file worker id (step (onlyScan id
      (newScan runId org workspace path file ts)) (.claim env worker)) := claim_onlyScan
  obtain ⟨n, later⟩ := onWay_publishes quiet known onWay
  refine ⟨n, ?_⟩
  intro m enough
  exact (later m enough).result

end runs

/-! A scan that is stopped after its first record and taken up by another worker. -/

/-- No letter outside ASCII, and texts as their own hashes. -/
abbrev plainScans : ScanRuntime where
  toUnicodeDatabase := asciiDatabase
  hash value salt := salt ++ value
  sourceUnits := .int

def invoices : File where
  signature := "s1"
  sizeBytes := 50
  csv := {
    headers := .ok ["supplier", "category", "amount"]
    records := [["Acme", "Office", "5"], ["Acme", "Office", "n/a"]]
    failure := none }

def calm (now : Rat) : Env where
  now := now
  later := now
  disk := fun _ => some invoices
  stop := false
  late := false
  full := false
  position := 0
  maxBytes := 1000
  maxRows := 10

def stopping (now : Rat) : Env := { calm now with stop := true }

def relay : List Event :=
  [.start (calm 0) "risk_1" "run_1" "/data.csv" "acme" "main",
    .claim (calm 1) "a", .work (calm 1) "a", .work (calm 1) "a", .work (stopping 2) "a",
    .work (calm 2) "a", .work (calm 2) "a",
    .act (calm 3) .resume "run_1" "risk_1" "acme" "main",
    .claim (calm 4) "b"] ++ List.replicate 16 (.work (calm 5) "b")

theorem relay_is_uninterrupted :
    let _ := plainScans
    ∃ scan, (run {} relay).db.scans.get? "risk_1" = some scan ∧ scan.status = .completed ∧
      Ledger invoices.csv "risk_1" scan (run {} relay).db ∧
        ∀ result, scan.result = some result →
          ∀ (env : Env) (worker runId org workspace : String) (ts : Rat),
            Undisturbed "/data.csv" invoices env →
            ∃ n, ∀ m, n ≤ m → ∃ alone,
              (uninterrupted env worker "risk_1"
                (newScan runId org workspace "/data.csv" invoices ts) m).db.scans.get? "risk_1" =
                  some alone ∧
              alone.status = .completed ∧ alone.result = some result := by
  intro _
  have steady : Steady "/data.csv" invoices relay := by
    intro e member env is
    simp only [relay, List.mem_append, List.mem_cons, List.not_mem_nil, or_false,
      List.mem_replicate] at member
    rcases member with (rfl | rfl | rfl | rfl | rfl | rfl | rfl | rfl | rfl) | ⟨-, rfl⟩ <;>
      (cases is; rfl)
  have ended : ((run {} relay).db.scans.get? "risk_1").map
      (fun scan => (scan.status, scan.sourcePath)) = some (.completed, "/data.csv") := by
    decide +kernel
  obtain ⟨scan, stored, same⟩ := Option.map_eq_some_iff.mp ended
  rw [Prod.mk.injEq] at same
  exact ⟨scan, stored, same.1, resumed_scan_is_uninterrupted "/data.csv" invoices relay steady
    "risk_1" scan stored same.2⟩

end RiskScan
