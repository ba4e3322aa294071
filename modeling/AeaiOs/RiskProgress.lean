import AeaiOs.RiskCrashes

/-!
The counters of a scan under all interleavings of its workers: which statement a value of `scanned`
or of `bytes_read` comes from, and when neither goes back.
-/
namespace RiskScan
open PyText OrderedDict RunValues

section counters
variable [ScanRuntime]

/-- What no statement changes in a row. -/
structure SameSource (scan scan' : Scan) : Prop where
  path : scan'.sourcePath = scan.sourcePath
  size : scan'.sizeBytes = scan.sizeBytes

/-- The counters of a row after a step: one case for each statement that writes them. -/
inductive Progress (s : System) (e : Event) (id : String) (scan' : Scan) : Prop where
  | inserted (env : Env) (file : File) (at_event : e.env = some env)
      (disk : env.disk scan'.sourcePath = some file) (size : scan'.sizeBytes = file.sizeBytes)
      (fresh : s.db.scans.get? id = none) (tally : scan'.tally = {}) (bytes : scan'.bytesRead = 0)
  | kept (scan : Scan) (stored : s.db.scans.get? id = some scan) (same : SameSource scan scan')
      (tally : scan'.tally = scan.tally) (bytes : scan'.bytesRead = scan.bytesRead)
  | committed (env : Env) (worker : String) (job : Job) (sheet : Sheet) (locals : Locals)
      (rest : List (List String)) (next : Next) (scan : Scan) (file : File)
      (is : e = .work env worker)
      (phase : s.phase worker = .committing job sheet locals rest next) (own : job.id = id)
      (stored : s.db.scans.get? id = some scan) (held : scan.heldBy worker = true)
      (disk : env.disk job.scan.sourcePath = some file) (same : SameSource scan scan')
      (tally : scan'.tally = locals.tally)
      (bytes : scan'.bytesRead = min file.sizeBytes locals.bytePos)
  | published (env : Env) (worker : String) (job : Job) (result : PyDict) (scan : Scan)
      (is : e = .work env worker) (phase : s.phase worker = .publishing job result)
      (own : job.id = id) (stored : s.db.scans.get? id = some scan)
      (same : SameSource scan scan') (tally : scan'.tally = scan.tally)
      (bytes : scan'.bytesRead = scan.sizeBytes) (released : scan'.workerId = none)

omit [ScanRuntime] in
theorem sameSource_refl (scan : Scan) : SameSource scan scan := ⟨rfl, rfl⟩

omit [ScanRuntime] in
theorem SameSource.trans {a b c : Scan} (first : SameSource a b) (second : SameSource b c) :
    SameSource a c :=
  ⟨second.path.trans first.path, second.size.trans first.size⟩

omit [ScanRuntime] in
theorem Progress.unchanged {s : System} {e : Event} {id : String} {scan : Scan}
    (stored : s.db.scans.get? id = some scan) : Progress s e id scan :=
  .kept scan stored (sameSource_refl scan) rfl rfl

omit [ScanRuntime] in
/-- A commit is of a scan that the worker holds, and adds rows whose ordinals are new. -/
theorem commitBatch_spec {env : Env} {worker : String} {job : Job} {sheet : Sheet}
    {locals : Locals} {db db' : Db}
    (committed : commitBatch env worker job sheet locals db = .ok db') :
    ∃ scan file, db.scans.get? job.id = some scan ∧ scan.heldBy worker = true ∧
      env.disk job.scan.sourcePath = some file ∧
      (∀ row ∈ locals.batch, ∀ old ∈ db.riskRows,
        ¬ (old.scanId = row.scanId ∧ old.ordinal = row.ordinal)) ∧
      db' = commitRows env.now job.id sheet locals file.sizeBytes db := by
  unfold commitBatch at committed
  split at committed
  · cases committed
  rename_i scan found
  obtain ⟨stored, held⟩ := Option.filter_eq_some_iff.mp found
  split at committed
  · cases committed
  rename_i unique
  split at committed
  · cases committed
  rename_i file disk
  simp only [Except.ok.injEq] at committed
  refine ⟨scan, file, stored, held, disk, ?_, committed.symm⟩
  intro row member old there clash
  apply unique
  rw [List.any_eq_true]
  refine ⟨row, member, ?_⟩
  rw [List.any_eq_true]
  exact ⟨old, there, by simpa using clash⟩

theorem work_progress {s : System} {env : Env} {worker id : String} {scan' : Scan}
    (stored : (workEvent env worker s).db.scans.get? id = some scan') :
    Progress s (.work env worker) id scan' := by
  cases is : s.phase worker with
  | idle =>
    rw [workEvent_eq env is] at stored
    exact .unchanged stored
  | opening =>
    rw [workEvent_eq env is] at stored
    exact .unchanged stored
  | reading =>
    rw [workEvent_eq env is] at stored
    exact .unchanged stored
  | committing job sheet locals rest next =>
    rw [workEvent_eq env is] at stored
    unfold work at stored
    dsimp only at stored
    split at stored
    · rename_i db committed
      obtain ⟨scan, file, known, held, disk, -, rfl⟩ := commitBatch_spec committed
      rcases update_cases stored with ⟨rfl, before, found, rfl⟩ | found
      · have same : before = scan := Option.some.inj (found.symm.trans known)
        subst same
        exact .committed env worker job sheet locals rest next before file rfl is rfl found held
          disk ⟨rfl, rfl⟩ rfl rfl
      · exact .unchanged found
    · exact .unchanged stored
  | leaving job exit =>
    rw [workEvent_eq env is] at stored
    rcases update_cases stored with ⟨rfl, scan, found, rfl⟩ | found
    · exact .kept scan found ⟨rfl, rfl⟩ rfl rfl
    · exact .unchanged found
  | checking =>
    rw [workEvent_eq env is] at stored
    exact .unchanged stored
  | reconciling =>
    rw [workEvent_eq env is] at stored
    exact .unchanged stored
  | querying job current views pending =>
    rw [workEvent_eq env is] at stored
    cases pending with
    | nil => exact .unchanged stored
    | cons query pending => exact .unchanged stored
  | publishing job result =>
    rw [workEvent_eq env is] at stored
    rcases update_cases stored with ⟨rfl, scan, found, rfl⟩ | found
    · unfold publish
      split
      · exact .kept scan found ⟨rfl, rfl⟩ rfl rfl
      split
      · exact .published env worker job result scan rfl is rfl found ⟨rfl, rfl⟩ rfl rfl rfl
      · exact .unchanged found
    · exact .unchanged found
  | failing job message =>
    rw [workEvent_eq env is] at stored
    rcases update_cases stored with ⟨rfl, scan, found, rfl⟩ | found
    · unfold fail
      split
      · exact .kept scan found ⟨rfl, rfl⟩ rfl rfl
      · exact .unchanged found
    · exact .unchanged found

omit [ScanRuntime] in
theorem sweep_counters (now : Rat) (scan : Scan) :
    SameSource scan (sweep now scan) ∧ (sweep now scan).tally = scan.tally ∧
      (sweep now scan).bytesRead = scan.bytesRead := by
  unfold sweep
  split
  · exact ⟨⟨rfl, rfl⟩, rfl, rfl⟩
  split
  · exact ⟨⟨rfl, rfl⟩, rfl, rfl⟩
  · exact ⟨⟨rfl, rfl⟩, rfl, rfl⟩

omit [ScanRuntime] in
theorem takeLease_counters (worker : String) (later : Rat) (scan : Scan) :
    SameSource scan (takeLease worker later scan) ∧
      (takeLease worker later scan).tally = scan.tally ∧
      (takeLease worker later scan).bytesRead = scan.bytesRead := by
  unfold takeLease
  split
  · exact ⟨⟨rfl, rfl⟩, rfl, rfl⟩
  · exact ⟨⟨rfl, rfl⟩, rfl, rfl⟩

omit [ScanRuntime] in
/-- The statements outside of a worker's own steps leave the counters as they are. -/
theorem RowStep.progress {s : System} {e : Event} {id : String} {scan' : Scan}
    (row : RowStep s e id scan') (calm : ∀ env worker, e ≠ .work env worker)
    (old : ∀ env key runId path org workspace, e ≠ .start env key runId path org workspace) :
    Progress s e id scan' := by
  cases row with
  | same _ stored => exact .unchanged stored
  | inserted env runId path org workspace file is => exact absurd is (old _ _ _ _ _ _)
  | acted env action runId org workspace scan status is stored owned next =>
    exact .kept scan stored ⟨rfl, rfl⟩ rfl rfl
  | swept env worker scan is stored =>
    obtain ⟨same, tally, bytes⟩ := sweep_counters env.now scan
    exact .kept scan stored same tally bytes
  | taken env worker scan is claimed stored queued =>
    obtain ⟨same, tally, bytes⟩ := sweep_counters env.now scan
    obtain ⟨same', tally', bytes'⟩ := takeLease_counters worker env.later (sweep env.now scan)
    exact .kept scan stored (same.trans same') (tally'.trans tally) (bytes'.trans bytes)
  | committed env worker job sheet locals size scan is => exact absurd is (calm env worker)
  | left env worker job exit scan is => exact absurd is (calm env worker)
  | published env worker job result scan is => exact absurd is (calm env worker)
  | failed env worker job message scan is => exact absurd is (calm env worker)

/-- Where the counters of a row come from. -/
theorem step_progress {s : System} {e : Event} {id : String} {scan' : Scan}
    (stored : (step s e).db.scans.get? id = some scan') : Progress s e id scan' := by
  cases e with
  | work env worker => exact work_progress stored
  | start env key runId path org workspace =>
    change (startEvent env key runId path org workspace s.db).scans.get? id = some scan' at stored
    rcases startEvent_cases env key runId path org workspace s.db with
      same | ⟨file, disk, fresh, -, started⟩
    · rw [same] at stored
      exact .unchanged stored
    · rw [started] at stored
      by_cases here : key = id
      · subst here
        rw [Dict.get?_set_self, Option.some.injEq] at stored
        subst stored
        exact .inserted env file rfl disk rfl fresh rfl rfl
      · rw [Dict.get?_set_other _ _ here] at stored
        exact .unchanged stored
  | act => exact (step_row stored).progress nofun nofun
  | claim => exact (step_row stored).progress nofun nofun
  | raises => exact (step_row stored).progress nofun nofun
  | dies => exact (step_row stored).progress nofun nofun

/-! A row stays, and so does what the worker that holds it knows of it. -/

omit [ScanRuntime] in
theorem update_stored {db : Db} {id key : String} {scan : Scan} (change : Scan → Scan)
    (stored : db.scans.get? key = some scan) :
    ∃ scan', (db.update id change).scans.get? key = some scan' := by
  rw [get?_update, stored]
  exact ⟨_, rfl⟩

theorem work_stored {env : Env} {worker id : String} {phase : Phase} {db : Db} {scan : Scan}
    (stored : db.scans.get? id = some scan) :
    ∃ scan', (work env worker phase db).2.scans.get? id = some scan' := by
  cases phase with
  | committing job sheet locals rest next =>
    unfold work
    dsimp only
    split
    · rename_i db' committed
      obtain ⟨_, file, _, _, _, _, rfl⟩ := commitBatch_spec committed
      unfold commitRows
      exact update_stored _ stored
    · exact ⟨scan, stored⟩
  | leaving job exit => exact update_stored _ stored
  | publishing job result => exact update_stored _ stored
  | failing job message => exact update_stored _ stored
  | querying job current views pending =>
    cases pending with
    | nil => exact ⟨scan, stored⟩
    | cons query pending => exact ⟨scan, stored⟩
  | idle => exact ⟨scan, stored⟩
  | opening => exact ⟨scan, stored⟩
  | reading => exact ⟨scan, stored⟩
  | checking => exact ⟨scan, stored⟩
  | reconciling => exact ⟨scan, stored⟩

theorem step_stored {s : System} (e : Event) {id : String} {scan : Scan}
    (stored : s.db.scans.get? id = some scan) :
    ∃ scan', (step s e).db.scans.get? id = some scan' := by
  cases e with
  | start env key runId path org workspace =>
    change ∃ scan', (startEvent env key runId path org workspace s.db).scans.get? id = some scan'
    rcases startEvent_cases env key runId path org workspace s.db with
      same | ⟨file, disk, fresh, -, started⟩
    · rw [same]
      exact ⟨scan, stored⟩
    · have other : key ≠ id := by
        intro same
        rw [same, stored] at fresh
        cases fresh
      rw [started]
      exact ⟨scan, (Dict.get?_set_other _ _ other).trans stored⟩
  | act env action runId scanId org workspace =>
    change ∃ scan', (actEvent env action runId scanId org workspace s.db).scans.get? id = some scan'
    rcases actEvent_cases env action runId scanId org workspace s.db with
      same | ⟨_, status, _, _, _, written⟩
    · rw [same]
      exact ⟨scan, stored⟩
    · rw [written]
      exact update_stored _ stored
  | claim env worker =>
    have kept : (swept env.now s.db).scans.get? id = some (sweep env.now scan) := by
      unfold swept
      rw [Dict.get?_mapValues, stored]
      rfl
    unfold step
    dsimp only
    split
    · unfold claimEvent
      rcases claim_cases env.now env.later worker s.db with none | ⟨_, _, _, _, taken⟩
      · rw [none]
        exact ⟨_, kept⟩
      · rw [taken]
        exact update_stored _ kept
    · exact ⟨scan, stored⟩
  | work env worker => exact work_stored stored
  | raises worker message =>
    unfold step
    dsimp only
    split
    · exact ⟨scan, stored⟩
    · exact ⟨scan, stored⟩
    split
    · exact ⟨scan, stored⟩
    · exact ⟨scan, stored⟩
  | dies worker => exact ⟨scan, stored⟩

omit [ScanRuntime] in
/-- A scan that a worker holds was held by it before, or the worker has just claimed it. -/
theorem held_origin {s : System} {e : Event} {id worker : String} {scan' : Scan}
    (row : RowStep s e id scan') (held : scan'.heldBy worker = true) :
    claimedBy s e = some (worker, id) ∨
      ∃ scan, s.db.scans.get? id = some scan ∧ scan.heldBy worker = true := by
  obtain ⟨own, status⟩ := heldBy_iff.mp held
  rcases worker_origin row own with claimed | ⟨scan, stored, mine, moved⟩
  · exact .inl claimed
  refine .inr ⟨scan, stored, heldBy_iff.mpr ⟨mine, ?_⟩⟩
  rcases moved with same | ⟨disk, action, next⟩
  · rw [← same]
    exact status
  · rcases nextStatus_cases next with ⟨-, running, -⟩ | ⟨-, -, cancelled⟩ | ⟨-, -, queued⟩
    · exact .inl running
    · rw [cancelled] at status
      simp at status
    · rw [queued] at status
      simp at status

omit [ScanRuntime] in
theorem claimedBy_worker {s : System} {e : Event} {id worker : String}
    (claimed : claimedBy s e = some (worker, id)) : e.worker = some worker := by
  unfold claimedBy at claimed
  split at claimed
  · split at claimed
    · obtain ⟨job, _, same⟩ := Option.map_eq_some_iff.mp claimed
      simp only [Prod.mk.injEq] at same
      exact congrArg some same.1
    · cases claimed
  · cases claimed

/-- While a worker holds a scan, nobody else moves its counters. -/
theorem held_counters {s : System} {e : Event} {id worker : String} {scan' : Scan}
    (stored : (step s e).db.scans.get? id = some scan') (held : scan'.heldBy worker = true)
    (other : e.worker ≠ some worker) :
    ∃ scan, s.db.scans.get? id = some scan ∧ scan.heldBy worker = true ∧
      scan'.tally = scan.tally ∧ scan'.bytesRead = scan.bytesRead := by
  rcases held_origin (step_row stored) held with claimed | ⟨scan, known, mine⟩
  · exact absurd (claimedBy_worker claimed) other
  refine ⟨scan, known, mine, ?_⟩
  have unique : ∀ before, s.db.scans.get? id = some before → before = scan :=
    fun before found => Option.some.inj (found.symm.trans known)
  cases step_progress stored with
  | inserted env file _ _ _ fresh =>
    rw [fresh] at known
    cases known
  | kept before found same tally bytes =>
    rw [← unique before found]
    exact ⟨tally, bytes⟩
  | committed env actor job sheet locals rest next before file is phase own found theirs =>
    rw [unique before found] at theirs
    have same : actor = worker :=
      Option.some.inj ((heldBy_iff.mp theirs).1.symm.trans (heldBy_iff.mp mine).1)
    rw [is, same] at other
    exact absurd rfl other
  | published env actor job result before is phase own found same tally bytes released =>
    have owner := (heldBy_iff.mp held).1
    rw [released] at owner
    cases owner

/-! A file that does not change, and its reader. -/

/-- What holds of each step of a run. -/
def EachStep (P : System → Event → Prop) (events : List Event) : Prop :=
  ∀ before e after, events = before ++ e :: after → P (run {} before) e

/-- After a record of the file the reader stands where it always does after that record. -/
def Positioned (path : String) (tell : Nat → Nat) (s : System) : Event → Prop
  | .work env worker => ∀ job sheet locals record rest,
      s.phase worker = .reading job sheet locals (record :: rest) → job.scan.sourcePath = path →
        env.position = tell (locals.tally.scanned + 1)
  | _ => True

/-- The counters of a row of the file. -/
structure PlacedRow (file : File) (tell : Nat → Nat) (id : String) (scan : Scan) : Prop where
  size : scan.sizeBytes = file.sizeBytes
  within : scan.bytesRead ≤ file.sizeBytes
  read : scan.tally.scanned < (entriesOf file.csv id).length →
    scan.bytesRead ≤ tell scan.tally.scanned

/-- The bytes of the worker's last checkpoint are those of its row; before its first one they are
    none. -/
structure PlacedLocals (file : File) (tell : Nat → Nat) (db : Db) (worker : String) (job : Job)
    (locals : Locals) : Prop where
  read : locals.bytePos ≤ tell locals.tally.scanned
  stored : ∀ scan, db.scans.get? job.id = some scan → scan.heldBy worker = true →
    locals.bytePos = 0 ∨ scan.bytesRead ≤ min file.sizeBytes locals.bytePos

def PlacedPhase (file : File) (tell : Nat → Nat) (db : Db) (worker : String) : Phase → Prop
  | .reading job _ locals _ => PlacedLocals file tell db worker job locals
  | .committing job _ locals _ (.leave _) => PlacedLocals file tell db worker job locals
  | .committing job _ locals _ .checkpoint =>
      locals.bytePos ≤ tell locals.tally.scanned ∧
        ∀ scan, db.scans.get? job.id = some scan → scan.heldBy worker = true →
          scan.bytesRead ≤ min file.sizeBytes locals.bytePos
  | .committing _ _ locals _ .finish => locals.bytePos = file.sizeBytes
  | .publishing job _ => ∃ scan, db.scans.get? job.id = some scan ∧
      scan.tally.scanned = (entriesOf file.csv job.id).length
  | _ => True

structure Placed (path : String) (file : File) (tell : Nat → Nat) (s : System) : Prop where
  rows : ∀ id scan, s.db.scans.get? id = some scan → scan.sourcePath = path →
    PlacedRow file tell id scan
  phases : ∀ worker job, (s.phase worker).job = some job → job.scan.sourcePath = path →
    PlacedPhase file tell s.db worker (s.phase worker)

/-- A worker that gives a scan up before the first checkpoint of its claim finds no bytes read. -/
def Untouched (path : String) (s : System) : Event → Prop
  | .work _ worker => ∀ job sheet locals rest exit scan,
      s.phase worker = .committing job sheet locals rest (.leave exit) →
      job.scan.sourcePath = path → locals.bytePos = 0 →
      s.db.scans.get? job.id = some scan → scan.heldBy worker = true → scan.bytesRead = 0
  | _ => True

section steady
variable {path : String} {file : File} {tell : Nat → Nat} {s : System} {e : Event}
  {worker id : String}

/-- The source of a row that a worker is at. -/
theorem Sound.job_source (sound : Sound path file s) {job : Job} {scan : Scan}
    (is : (s.phase worker).job = some job) (stored : s.db.scans.get? job.id = some scan) :
    scan.sourcePath = job.scan.sourcePath := by
  obtain ⟨before, found, same, -⟩ := (sound.phases worker).linked job is
  rw [← Option.some.inj (found.symm.trans stored)]
  exact same

/-- A commit of the worker that holds the row has read on. -/
theorem Sound.commit_behind (sound : Sound path file s) {job : Job} {sheet : Sheet}
    {locals : Locals} {rest : List (List String)} {next : Next} {scan : Scan}
    (phase : s.phase worker = .committing job sheet locals rest next)
    (source : job.scan.sourcePath = path) (stored : s.db.scans.get? job.id = some scan)
    (held : scan.heldBy worker = true) : scan.tally.scanned ≤ locals.tally.scanned := by
  have ok := sound.phases worker
  rw [phase] at ok
  exact ((ok.fits job rfl source).2.1 scan stored held).behind

/-- At the end of the file all of it has been scanned. -/
theorem Sound.finish_scanned (sound : Sound path file s) {job : Job} {sheet : Sheet}
    {locals : Locals} {rest : List (List String)}
    (phase : s.phase worker = .committing job sheet locals rest .finish)
    (source : job.scan.sourcePath = path) :
    locals.tally.scanned = (entriesOf file.csv job.id).length := by
  have ok := sound.phases worker
  rw [phase] at ok
  obtain ⟨fits, -, ended⟩ := ok.fits job rfl source
  have nothing := fits.rest
  rw [(ended rfl).1, eq_comm, List.drop_eq_nil_iff] at nothing
  have length : (entriesOf file.csv job.id).length = file.csv.records.length :=
    entriesOf_length fits.layout
  have within := fits.described.within
  omega

/-- `scanned` never goes back. -/
theorem scanned_grows (sound : Sound path file s) {scan scan' : Scan}
    (stored : s.db.scans.get? id = some scan) (source : scan.sourcePath = path)
    (after : (step s e).db.scans.get? id = some scan') :
    scan.tally.scanned ≤ scan'.tally.scanned := by
  have unique : ∀ before, s.db.scans.get? id = some before → before = scan :=
    fun before found => Option.some.inj (found.symm.trans stored)
  cases step_progress after with
  | inserted env file _ _ _ fresh =>
    rw [fresh] at stored
    cases stored
  | kept before found same tally =>
    rw [tally, unique before found]
  | committed env actor job sheet locals rest next before file is phase own found held disk same
      tally =>
    subst own
    rw [unique before found] at held
    have linked := sound.job_source (by rw [phase]; rfl) stored
    rw [tally]
    exact sound.commit_behind phase (linked.symm.trans source) stored held
  | published env actor job result before is phase own found same tally =>
    rw [tally, unique before found]

/-- What a step makes of the counters of a row of the file. -/
theorem placedRow_step (sound : Sound path file s) (placed : Placed path file tell s)
    (steady : ∀ env, e.env = some env → env.disk path = some file) {scan' : Scan}
    (after : (step s e).db.scans.get? id = some scan') (source : scan'.sourcePath = path) :
    PlacedRow file tell id scan' := by
  cases step_progress after with
  | inserted env found at_event disk size _ tally bytes =>
    rw [source, steady env at_event, Option.some.injEq] at disk
    constructor
    · rw [size, disk]
    · omega
    · omega
  | kept scan stored same tally bytes =>
    have row := placed.rows id scan stored (same.path.symm.trans source)
    constructor
    · rw [same.size, row.size]
    · rw [bytes]
      exact row.within
    · rw [tally, bytes]
      exact row.read
  | committed env actor job sheet locals rest next scan found is phase own stored held disk same
      tally bytes =>
    subst own
    have is_job : (s.phase actor).job = some job := by
      rw [phase]
      rfl
    have here : job.scan.sourcePath = path := by
      rw [← sound.job_source is_job stored, ← same.path]
      exact source
    have row := placed.rows job.id scan stored (same.path.symm.trans source)
    have reader := placed.phases actor job is_job here
    rw [here, steady env (by rw [is]; rfl), Option.some.injEq] at disk
    rw [phase] at reader
    subst disk
    constructor
    · rw [same.size, row.size]
    · rw [bytes]
      exact Nat.min_le_left _ _
    · rw [tally, bytes]
      intro partway
      cases next with
      | leave exit => exact (Nat.min_le_right _ _).trans reader.read
      | checkpoint => exact (Nat.min_le_right _ _).trans reader.1
      | finish =>
        have all := sound.finish_scanned phase here
        omega
  | published env actor job result scan is phase own stored same tally bytes =>
    subst own
    have is_job : (s.phase actor).job = some job := by
      rw [phase]
      rfl
    have here : job.scan.sourcePath = path := by
      rw [← sound.job_source is_job stored, ← same.path]
      exact source
    have row := placed.rows job.id scan stored (same.path.symm.trans source)
    have ended := placed.phases actor job is_job here
    rw [phase] at ended
    obtain ⟨before, found, all⟩ := ended
    rw [Option.some.inj (found.symm.trans stored)] at all
    have whole := row.size
    constructor
    · rw [same.size, whole]
    · omega
    · rw [tally]
      omega

/-- The steps of others leave a worker where it is. -/
theorem placedPhase_others (sound : Sound path file s) (sound' : Sound path file (step s e))
    (placed : Placed path file tell s) (other : e.worker ≠ some worker) {job : Job}
    (is : (s.phase worker).job = some job) (source : job.scan.sourcePath = path) :
    PlacedPhase file tell (step s e).db worker (s.phase worker) := by
  have reader := placed.phases worker job is source
  have stands : ∀ locals : Locals, PlacedLocals file tell s.db worker job locals →
      PlacedLocals file tell (step s e).db worker job locals := by
    intro locals here
    refine ⟨here.read, ?_⟩
    intro scan' after held
    obtain ⟨scan, stored, mine, -, bytes⟩ := held_counters after held other
    rw [bytes]
    exact here.stored scan stored mine
  cases phase : s.phase worker with
  | reading same sheet locals rest =>
    rw [phase] at reader is
    cases is
    exact stands locals reader
  | committing same sheet locals rest next =>
    rw [phase] at reader is
    cases is
    cases next with
    | leave exit => exact stands locals reader
    | checkpoint =>
      refine ⟨reader.1, ?_⟩
      intro scan' after held
      obtain ⟨scan, stored, mine, -, bytes⟩ := held_counters after held other
      rw [bytes]
      exact reader.2 scan stored mine
    | finish => exact reader
  | publishing same result =>
    have linked : ∀ scan, s.db.scans.get? job.id = some scan → scan.sourcePath = path :=
      fun scan stored => (sound.job_source is stored).trans source
    rw [phase] at reader is
    cases is
    obtain ⟨scan, stored, all⟩ := reader
    obtain ⟨scan', after⟩ := step_stored e stored
    have grows := scanned_grows sound stored (linked scan stored) after
    have still : (step s e).phase worker = .publishing job result := by
      rw [phase_others other, phase]
    have here : scan'.sourcePath = path :=
      (sound'.job_source (by rw [still]; rfl) after).trans source
    have within := (sound'.ledger job.id scan' after here).within
    exact ⟨scan', after, by omega⟩
  | _ => trivial

theorem openSource_placed (env : Env) (job : Job) (db : Db) :
    PlacedPhase file tell db worker (openSource env job) := by
  unfold openSource
  split
  · trivial
  split
  · trivial
  split
  · trivial
  split
  · trivial
  split
  · trivial
  · exact ⟨Nat.zero_le _, fun _ _ _ => .inl rfl⟩

omit [ScanRuntime] in
theorem record_scanned (locals : Locals) (row : Option RiskRow) :
    (locals.record row).tally.scanned = locals.tally.scanned + 1 := by
  unfold Locals.record
  cases row <;> rfl

/-- The next record: at a checkpoint the reader is past all bytes of the row. -/
theorem readRecord_placed (mono : Monotone tell) (sound : Sound path file s)
    (placed : Placed path file tell s) {env : Env} {job : Job} {sheet : Sheet} {locals : Locals}
    {record : List String} {rest : List (List String)}
    (phase : s.phase worker = .reading job sheet locals (record :: rest))
    (source : job.scan.sourcePath = path)
    (position : env.position = tell (locals.tally.scanned + 1)) :
    PlacedPhase file tell s.db worker (readRecord env job sheet locals record rest) := by
  have is_job : (s.phase worker).job = some job := by
    rw [phase]
    rfl
  have reader := placed.phases worker job is_job source
  have ok := sound.phases worker
  rw [phase] at reader ok
  obtain ⟨fits, synced⟩ := ok.fits job rfl source
  have partway : locals.tally.scanned < (entriesOf file.csv job.id).length := by
    have longer := congrArg List.length fits.rest
    rw [List.length_drop, List.length_cons] at longer
    rw [entriesOf_length fits.layout]
    omega
  unfold readRecord
  dsimp only
  split
  · trivial
  split
  · constructor
    · change env.position ≤ tell (locals.record _).tally.scanned
      rw [record_scanned, position]
    · intro scan stored held
      have row := placed.rows job.id scan stored ((sound.job_source is_job stored).trans source)
      have behind := (synced scan stored held).behind
      have bytes := row.read (by omega)
      have further := mono (by omega : scan.tally.scanned ≤ locals.tally.scanned + 1)
      apply Nat.le_min.mpr
      constructor
      · exact row.within
      · change scan.bytesRead ≤ env.position
        omega
  · constructor
    · rw [record_scanned]
      exact reader.read.trans (mono (by omega))
    · exact reader.stored

theorem read_placed (mono : Monotone tell) (sound : Sound path file s)
    (placed : Placed path file tell s) {env : Env} (disk : env.disk path = some file) {job : Job}
    {sheet : Sheet} {locals : Locals} {rest : List (List String)}
    (phase : s.phase worker = .reading job sheet locals rest)
    (source : job.scan.sourcePath = path)
    (position : ∀ record after, rest = record :: after →
      env.position = tell (locals.tally.scanned + 1)) :
    PlacedPhase file tell s.db worker (read env job sheet locals rest s.db) := by
  have reader := placed.phases worker job (by rw [phase]; rfl) source
  rw [phase] at reader
  cases rest with
  | nil =>
    unfold read
    dsimp only
    split
    · trivial
    · rw [source, disk]
      rfl
  | cons record after =>
    have next := readRecord_placed mono sound placed phase source (position record after rfl)
    unfold read
    dsimp only
    split
    · exact reader
    split
    · split
      · trivial
      split
      · exact reader
      split
      · exact reader
      · exact next
    · exact next

/-- After its commit a worker's last checkpoint is that of the row. -/
theorem commit_placed (placed : Placed path file tell s) {env : Env}
    (disk : env.disk path = some file) {job : Job} {sheet : Sheet} {locals : Locals}
    {rest : List (List String)} {next : Next} {db : Db}
    (phase : s.phase worker = .committing job sheet locals rest next)
    (source : job.scan.sourcePath = path)
    (committed : commitBatch env worker job sheet locals s.db = .ok db) :
    PlacedPhase file tell db worker (afterCommit env job sheet locals rest next) := by
  have reader := placed.phases worker job (by rw [phase]; rfl) source
  rw [phase] at reader
  obtain ⟨scan, found, stored, held, same, -, rfl⟩ := commitBatch_spec committed
  rw [source, disk, Option.some.injEq] at same
  subst same
  cases next with
  | leave exit => trivial
  | finish => trivial
  | checkpoint =>
    unfold afterCommit
    dsimp only
    split
    · trivial
    constructor
    · exact reader.1
    · intro scan' after held'
      rw [commitRows_get? stored, if_pos rfl, Option.some.injEq] at after
      subst after
      exact .inr le_rfl

/-- The worker's own step. -/
theorem work_placed (mono : Monotone tell) (sound : Sound path file s)
    (placed : Placed path file tell s) {env : Env} (disk : env.disk path = some file)
    (positioned : Positioned path tell s (.work env worker)) {job : Job}
    (is : (s.phase worker).job = some job) (source : job.scan.sourcePath = path) :
    PlacedPhase file tell (work env worker (s.phase worker) s.db).2 worker
      (work env worker (s.phase worker) s.db).1 := by
  have ok := sound.phases worker
  cases phase : s.phase worker with
  | idle => trivial
  | opening other => exact openSource_placed env other s.db
  | reading other sheet locals rest =>
    rw [phase] at is
    cases is
    refine read_placed mono sound placed disk phase source ?_
    intro record after same
    subst same
    exact positioned job sheet locals record after phase source
  | committing other sheet locals rest next =>
    have known := phase
    rw [phase] at is
    cases is
    unfold work
    dsimp only
    split
    · rename_i db committed
      exact commit_placed placed disk known source committed
    · trivial
  | leaving => trivial
  | checking other =>
    unfold work checkSource
    dsimp only
    split
    · trivial
    split
    · trivial
    split <;> trivial
  | reconciling other current =>
    unfold work reconcile
    dsimp only
    split <;> trivial
  | querying other current views pending =>
    rw [phase] at is ok
    cases is
    cases pending with
    | cons query pending => trivial
    | nil =>
      obtain ⟨⟨scan, stored, done⟩, -⟩ := ok.fits job rfl source
      unfold work conclude
      dsimp only
      split
      · exact ⟨scan, stored, done.scanned⟩
      · trivial
      · trivial
  | publishing => trivial
  | failing => trivial

omit [ScanRuntime] in
theorem reading_job [ScanRuntime] {env : Env} {job other : Job} {sheet : Sheet} {locals : Locals}
    {rest : List (List String)} {db : Db}
    (is : (read env job sheet locals rest db).job = some other) : job = other := by
  unfold read readRecord at is
  dsimp only at is
  repeat' split at is
  all_goals first
    | exact Option.some.inj is
    | cases is

/-- A worker stays with its scan until it is idle. -/
theorem work_job {env : Env} {phase : Phase} {db : Db} {job : Job}
    (is : (work env worker phase db).1.job = some job) : phase.job = some job := by
  cases phase with
  | idle => cases is
  | opening other =>
    unfold work openSource at is
    dsimp only at is
    repeat' split at is
    all_goals exact is
  | reading other sheet locals rest => exact congrArg some (reading_job is)
  | committing other sheet locals rest next =>
    unfold work at is
    dsimp only at is
    split at is
    · unfold afterCommit at is
      dsimp only at is
      split at is
      · exact is
      · split at is <;> exact is
      · exact is
    · exact is
  | leaving => cases is
  | checking other =>
    unfold work checkSource at is
    dsimp only at is
    repeat' split at is
    all_goals first
      | exact is
      | cases is
  | reconciling other current =>
    unfold work reconcile at is
    dsimp only at is
    split at is <;> exact is
  | querying other current views pending =>
    cases pending with
    | cons query pending => exact is
    | nil =>
      unfold work conclude at is
      dsimp only at is
      split at is
      · exact is
      · exact is
      · cases is
  | publishing => cases is
  | failing => cases is

theorem raises_cases (s : System) (worker message : String) :
    step s (.raises worker message) = s ∨
      ∃ job, step s (.raises worker message) = s.goTo worker (.failing job message) := by
  unfold step
  dsimp only
  split
  · exact .inl rfl
  · exact .inl rfl
  split
  · exact .inr ⟨_, rfl⟩
  · exact .inl rfl

theorem placed_step (mono : Monotone tell) (sound : Sound path file s)
    (placed : Placed path file tell s)
    (steady : ∀ env, e.env = some env → env.disk path = some file)
    (positioned : Positioned path tell s e) : Placed path file tell (step s e) := by
  have sound' := step_sound sound e steady
  constructor
  · intro id scan' after source
    exact placedRow_step sound placed steady after source
  · intro worker job is source
    by_cases other : e.worker ≠ some worker
    · have still := phase_others (s := s) other
      rw [still] at is ⊢
      exact placedPhase_others sound sound' placed other is source
    rw [ne_eq, Decidable.not_not] at other
    -- what the acting worker goes on to
    cases e with
    | start => cases other
    | act => cases other
    | claim env actor =>
      cases other
      unfold step at is ⊢
      dsimp only at is ⊢
      split
      · unfold claimEvent
        dsimp only
        rw [goTo_phase]
        split <;> trivial
      · rename_i busy
        split at is
        · rename_i idle
          exact absurd idle busy
        · exact placed.phases worker job is source
    | work env actor =>
      cases other
      simp only [step, workEvent, goTo_phase] at is ⊢
      exact work_placed mono sound placed (steady env rfl) positioned (work_job is) source
    | raises actor message =>
      cases other
      rcases raises_cases s worker message with same | ⟨at_job, raised⟩
      · rw [same] at is ⊢
        exact placed.phases worker job is source
      · rw [raised, goTo_phase]
        trivial
    | dies actor =>
      cases other
      rw [step, goTo_phase]
      trivial

/-! Runs. -/

theorem EachStep.front {P : System → Event → Prop} {before : List Event} {e : Event}
    (each : EachStep P (before ++ [e])) : EachStep P before := by
  intro first x after split
  apply each first x (after ++ [e])
  rw [split, List.append_assoc]
  rfl

theorem placed_run (mono : Monotone tell) (events : List Event)
    (steady : Steady path file events) (positioned : EachStep (Positioned path tell) events) :
    Placed path file tell (run {} events) := by
  induction events using List.reverseRecOn with
  | nil =>
    constructor
    · exact fun _ _ stored => nomatch stored
    · exact fun _ _ is => nomatch is
  | append_singleton before e ih =>
    have front : Steady path file before :=
      fun x member => steady x (List.mem_append_left _ member)
    have sound : Sound path file (run {} before) := run_sound before init_sound front
    have last := positioned before e [] rfl
    rw [run_append]
    exact placed_step mono sound (ih front positioned.front) (steady e (by simp)) last

/-- In one step neither counter of a scan of the file goes back. -/
def NoStepBack (path : String) (s : System) (e : Event) : Prop :=
  ∀ id scan scan', s.db.scans.get? id = some scan → scan.sourcePath = path →
    (step s e).db.scans.get? id = some scan' →
    scan.tally.scanned ≤ scan'.tally.scanned ∧ scan.bytesRead ≤ scan'.bytesRead

theorem noStepBack_iff (sound : Sound path file s) (placed : Placed path file tell s)
    (steady : ∀ env, e.env = some env → env.disk path = some file) :
    NoStepBack path s e ↔ Untouched path s e := by
  constructor
  · intro grows
    cases e with
    | work env worker =>
      intro job sheet locals rest exit scan phase source first stored held
      have disk := steady env rfl
      have committed := commitBatch_quiet sound disk phase source stored held
      have linked := sound.job_source (by rw [phase]; rfl) stored
      have after : (step s (.work env worker)).db.scans.get? job.id =
          some (checkpoint env.now sheet locals file.sizeBytes scan) := by
        change (workEvent env worker s).db.scans.get? job.id = _
        rw [workEvent_eq env phase]
        unfold work
        dsimp only [System.goTo]
        rw [committed]
        dsimp only
        rw [commitRows_get? stored, if_pos rfl]
      have bytes := (grows job.id scan _ stored (linked.trans source) after).2
      change scan.bytesRead ≤ min file.sizeBytes locals.bytePos at bytes
      omega
    | _ => trivial
  · intro untouched id scan scan' stored source after
    refine ⟨scanned_grows sound stored source after, ?_⟩
    have row := placed.rows id scan stored source
    have unique : ∀ before, s.db.scans.get? id = some before → before = scan :=
      fun before found => Option.some.inj (found.symm.trans stored)
    cases step_progress after with
    | inserted env found _ _ _ fresh =>
      rw [fresh] at stored
      cases stored
    | kept before found same tally bytes =>
      rw [bytes, unique before found]
    | committed env actor job sheet locals rest next before found is phase own known held disk same
        tally bytes =>
      subst own is
      rw [unique before known] at held
      have is_job : (s.phase actor).job = some job := by
        rw [phase]
        rfl
      have here : job.scan.sourcePath = path := (sound.job_source is_job stored).symm.trans source
      have reader := placed.phases actor job is_job here
      rw [here, steady env rfl, Option.some.injEq] at disk
      rw [phase] at reader
      subst disk
      rw [bytes]
      cases next with
      | leave exit =>
        rcases reader.stored scan stored held with first | past
        · have none := untouched job sheet locals rest exit scan phase here first stored held
          omega
        · exact past
      | checkpoint => exact reader.2 scan stored held
      | finish =>
        have within := row.within
        have whole : locals.bytePos = file.sizeBytes := reader
        omega
    | published env actor job result before is phase own known same tally bytes =>
      rw [bytes, unique before known, row.size]
      exact row.within

end steady

/-- Between any two moments of a run neither counter of a scan of the file goes back. -/
def NeverBack (path : String) (events : List Event) : Prop :=
  ∀ before middle after, events = before ++ middle ++ after →
    ∀ id scan, (run {} before).db.scans.get? id = some scan → scan.sourcePath = path →
      ∃ scan', (run {} (before ++ middle)).db.scans.get? id = some scan' ∧
        scan'.sourcePath = path ∧ scan.tally.scanned ≤ scan'.tally.scanned ∧
        scan.bytesRead ≤ scan'.bytesRead

theorem source_kept {s : System} {e : Event} {id : String} {scan scan' : Scan}
    (stored : s.db.scans.get? id = some scan)
    (after : (step s e).db.scans.get? id = some scan') : scan'.sourcePath = scan.sourcePath := by
  have unique : ∀ before, s.db.scans.get? id = some before → before = scan :=
    fun before found => Option.some.inj (found.symm.trans stored)
  cases step_progress after with
  | inserted env found _ _ _ fresh =>
    rw [fresh] at stored
    cases stored
  | kept before found same => rw [same.path, unique before found]
  | committed env actor job sheet locals rest next before found is phase own known held disk same =>
    rw [same.path, unique before known]
  | published env actor job result before is phase own known same =>
    rw [same.path, unique before known]

theorem neverBack_of_steps {path : String} {events : List Event}
    (each : EachStep (NoStepBack path) events) : NeverBack path events := by
  intro before middle after split id scan stored source
  induction middle using List.reverseRecOn generalizing after with
  | nil =>
    rw [List.append_nil]
    exact ⟨scan, stored, source, le_rfl, le_rfl⟩
  | append_singleton middle e ih =>
    have front : events = before ++ middle ++ (e :: after) := by
      rw [split]
      simp
    obtain ⟨last, known, here, scanned, bytes⟩ := ih (e :: after) front
    obtain ⟨next, found⟩ := step_stored e known
    have grows := each (before ++ middle) e after front id last next known here found
    rw [← List.append_assoc, run_append]
    exact ⟨next, found, (source_kept known found).trans here, scanned.trans grows.1,
      bytes.trans grows.2⟩

theorem steps_of_neverBack {path : String} {events : List Event} (never : NeverBack path events) :
    EachStep (NoStepBack path) events := by
  intro before e after split id scan scan' stored source found
  have front : events = before ++ [e] ++ after := by
    rw [split]
    simp
  obtain ⟨next, known, _, scanned, bytes⟩ := never before [e] after front id scan stored source
  rw [run_append] at known
  rw [Option.some.inj (known.symm.trans found)] at scanned bytes
  exact ⟨scanned, bytes⟩

/-- In a run over a file that does not change, the counters of its scans never go back, exactly if
    no worker gives up a scan of which bytes were read before its own first checkpoint. -/
theorem progress_never_back (path : String) (file : File) (tell : Nat → Nat) (mono : Monotone tell)
    (events : List Event) (steady : Steady path file events)
    (positioned : EachStep (Positioned path tell) events) :
    NeverBack path events ↔ EachStep (Untouched path) events := by
  have step_iff : ∀ before e after, events = before ++ e :: after →
      (NoStepBack path (run {} before) e ↔ Untouched path (run {} before) e) := by
    intro before e after split
    have front : Steady path file before := by
      intro x member
      exact steady x (by rw [split]; exact List.mem_append_left _ member)
    have placed_front : EachStep (Positioned path tell) before := by
      intro first x later split'
      apply positioned first x (later ++ e :: after)
      rw [split, split', List.append_assoc]
      rfl
    exact noStepBack_iff (run_sound before init_sound front)
      (placed_run mono before front placed_front) (steady e (by rw [split]; simp))
  constructor
  · intro never before e after split
    exact (step_iff before e after split).mp (steps_of_neverBack never before e after split)
  · intro untouched
    apply neverBack_of_steps
    intro before e after split
    exact (step_iff before e after split).mpr (untouched before e after split)

end counters

/-! A scan that is stopped after its first checkpoint, resumed, and stopped again. -/

def longInvoices : File where
  signature := "s1"
  sizeBytes := 9000
  csv := {
    headers := .ok ["supplier", "category", "amount"]
    records := List.replicate 501 ["Acme", "Office", "n/a"]
    failure := none }

def reading (stop : Bool) : Env where
  now := 0
  later := 0
  disk := fun _ => some longInvoices
  stop := stop
  late := false
  full := false
  position := 8192
  maxBytes := 10000
  maxRows := 1000

def stoppedTwice : List Event :=
  [.start (reading false) "risk_1" "run_1" "/data.csv" "acme" "main",
    .claim (reading false) "a"] ++ List.replicate 502 (.work (reading false) "a") ++
    List.replicate 3 (.work (reading true) "a") ++
    [.act (reading false) .resume "run_1" "risk_1" "acme" "main", .claim (reading false) "b"] ++
    List.replicate 3 (.work (reading true) "b")

theorem stoppedTwice_event {e : Event} {env : Env} (member : e ∈ stoppedTwice)
    (is : e.env = some env) : env = reading false ∨ env = reading true := by
  simp only [stoppedTwice, List.mem_append, List.mem_cons, List.not_mem_nil, or_false,
    List.mem_replicate] at member
  rcases member with ((((rfl | rfl) | ⟨-, rfl⟩) | ⟨-, rfl⟩) | (rfl | rfl)) | ⟨-, rfl⟩ <;>
    (cases is; simp)

theorem stoppedTwice_steady : Steady "/data.csv" longInvoices stoppedTwice := by
  intro e member env is
  rcases stoppedTwice_event member is with rfl | rfl
  · rfl
  · rfl

theorem stoppedTwice_positioned :
    let _ := plainScans
    EachStep (Positioned "/data.csv" fun _ => 8192) stoppedTwice := by
  intro _ before e after split
  cases e with
  | work env worker =>
    intro job sheet locals record rest phase source
    have member : Event.work env worker ∈ stoppedTwice := by
      rw [split]
      simp
    rcases stoppedTwice_event member rfl with rfl | rfl
    · rfl
    · rfl
  | _ => trivial

def bytesOf (s : System) : Option (String × Nat) :=
  (s.db.scans.get? "risk_1").map fun scan => (scan.sourcePath, scan.bytesRead)

theorem bytes_go_back :
    let _ := plainScans
    ¬ NeverBack "/data.csv" stoppedTwice := by
  intro _ never
  have first : bytesOf (run {} (stoppedTwice.take 507)) = some ("/data.csv", 8192) := by
    decide +kernel
  have last : bytesOf (run {} (stoppedTwice.take 507 ++ stoppedTwice.drop 507)) =
      some ("/data.csv", 0) := by
    decide +kernel
  obtain ⟨scan, stored, same⟩ := Option.map_eq_some_iff.mp first
  simp only [Prod.mk.injEq] at same
  obtain ⟨scan', after, -, -, bytes⟩ := never (stoppedTwice.take 507) (stoppedTwice.drop 507) []
    (by simp) "risk_1" scan stored same.1
  obtain ⟨found, known, same'⟩ := Option.map_eq_some_iff.mp last
  simp only [Prod.mk.injEq] at same'
  rw [after, Option.some.injEq] at known
  subst known
  omega

/-- The second stop finds 8192 bytes read and writes that there are none. -/
theorem stopped_twice_goes_back :
    let _ := plainScans
    Steady "/data.csv" longInvoices stoppedTwice ∧
      EachStep (Positioned "/data.csv" fun _ => 8192) stoppedTwice ∧
      ¬ NeverBack "/data.csv" stoppedTwice :=
  ⟨stoppedTwice_steady, stoppedTwice_positioned, bytes_go_back⟩

theorem stopped_twice_is_touched :
    let _ := plainScans
    ¬ EachStep (Untouched "/data.csv") stoppedTwice := by
  intro _ untouched
  exact bytes_go_back ((progress_never_back "/data.csv" longInvoices (fun _ => 8192)
    monotone_const stoppedTwice stoppedTwice_steady stoppedTwice_positioned).mpr untouched)

end RiskScan
