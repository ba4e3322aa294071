import AeaiOs.RiskRules

/-!
The SQLite store of the risk scans and the workers that run them. A transaction is one step, and
so is every statement outside of one; between two steps any other caller may run.
-/
namespace RiskScan
open PyText OrderedDict RunValues

inductive ScanStatus where
  | queued
  | running
  | cancelRequested
  | cancelled
  | interrupted
  | failed
  | completed
  deriving DecidableEq, Repr

/-- A row of `scans`, apart from its primary key. -/
structure Scan where
  runId : String
  org : String
  workspace : String
  sourcePath : String
  sourceSignature : String
  status : ScanStatus := .queued
  tally : Tally := {}
  sizeBytes : Nat
  bytesRead : Nat := 0
  invoiceColumn : Bool := false
  workerId : Option String := none
  updatedAt : Rat
  createdAt : Rat
  result : Option PyDict := none
  error : Option String := none

/-- What `csv.DictReader` makes of a file: its header, its records, and the exception that it
    raises after them. -/
structure CsvFile where
  headers : Except String (List String)
  records : List (List String)
  failure : Option String

structure File where
  signature : String
  sizeBytes : Nat
  csv : CsvFile

/-- The files, by their resolved paths. -/
abbrev Disk := String → Option File

structure Db where
  scans : Dict String Scan := .empty
  riskRows : List RiskRow := []

inductive RiskError where
  | scaling (message : String)
  | keyError (message : String)
  | integrity
  | os
  deriving DecidableEq, Repr

namespace Db

/-- `UPDATE scans SET ... WHERE id=?` -/
def update (id : String) (change : Scan → Scan) (db : Db) : Db :=
  { db with scans := db.scans.mapValues fun key scan => if key = id then change scan else scan }

/-- `SELECT ... FROM risk_rows WHERE scan_id=?` -/
def rowsOf (id : String) (db : Db) : List RiskRow := db.riskRows.filter fun row => row.scanId = id

end Db

/-! The calls of the API. Each is a transaction that an exception rolls back. -/

def Scan.active (scan : Scan) : Bool :=
  scan.status = .queued || scan.status = .running || scan.status = .cancelRequested

def Scan.ownedBy (runId org workspace : String) (scan : Scan) : Bool :=
  scan.runId = runId && scan.org = org && scan.workspace = workspace

/-- `Path(path).suffix` -/
def suffixOf (path : Text) : Text :=
  let name := (path.reverse.takeWhile (· ≠ '/')).reverse
  let extension := (name.reverse.takeWhile (· ≠ '.')).reverse
  if extension.length + 1 < name.length && !extension.isEmpty then '.' :: extension else []

/-- The row that `start_scan` inserts. -/
def newScan (runId org workspace path : String) (file : File) (ts : Rat) : Scan where
  runId := runId
  org := org
  workspace := workspace
  sourcePath := path
  sourceSignature := file.signature
  sizeBytes := file.sizeBytes
  updatedAt := ts
  createdAt := ts

/-- `ORDER BY created_at DESC LIMIT 1` -/
def latestOf (entries : List (String × Scan)) : Option String :=
  (entries.mergeSort fun a b => decide (b.2.createdAt ≤ a.2.createdAt)).head?.map Prod.fst

/-- `start_scan`, which answers with the id of its scan. -/
def startScan [UnicodeDatabase] (maxBytes : Nat) (ts : Rat) (key : String) (disk : Disk)
    (runId path org workspace : String) (db : Db) : Except RiskError (String × Db) :=
  match disk path with
  | none => .error (.scaling "Select a local CSV investigation to run screening.")
  | some file =>
      if UnicodeDatabase.lower (suffixOf path.toList) ≠ ".csv".toList then
        .error (.scaling "Select a local CSV investigation to run screening.")
      else if maxBytes < file.sizeBytes then
        .error (.scaling
          "CSV exceeds AEAI_RISK_MAX_MIB; use a smaller snapshot or explicitly raise the limit.")
      else
        match latestOf (db.scans.entries.filter fun entry =>
            entry.2.ownedBy runId org workspace && entry.2.active) with
        | some existing => .ok (existing, db)
        | none =>
            if (db.scans.get? key).isSome then .error .integrity
            else
              .ok (key, { db with
                scans := db.scans.set key (newScan runId org workspace path file ts) })

inductive ScanAction where
  | cancel
  | resume
  deriving DecidableEq, Repr

/-- The status that an action leads to. -/
def nextStatus (disk : Disk) (scan : Scan) : ScanAction → Except RiskError ScanStatus
  | .cancel =>
      if !scan.active then .error (.scaling "Only waiting or running scans can be cancelled.")
      else .ok (if scan.status = .running then .cancelRequested else .cancelled)
  | .resume =>
      if scan.status = .cancelled || scan.status = .failed || scan.status = .interrupted then
        match disk scan.sourcePath with
        | none => .error .os
        | some file =>
            if file.signature ≠ scan.sourceSignature then
              .error (.scaling
                "The source CSV has changed; start a new scan rather than resuming.")
            else .ok .queued
      else .error (.scaling "Only cancelled or interrupted scans can be resumed.")

/-- `set_scan_action` -/
def setScanAction (now : Rat) (disk : Disk) (runId scanId org workspace : String)
    (action : ScanAction) (db : Db) : Except RiskError Db :=
  match (db.scans.get? scanId).filter (Scan.ownedBy runId org workspace) with
  | none => .error (.keyError "Risk scan not found")
  | some scan => do
      let status ← nextStatus disk scan action
      return db.update scanId fun scan => { scan with status, error := none, updatedAt := now }

/-! The claim of a worker. -/

def Scan.stale (now : Rat) (scan : Scan) : Bool := decide (scan.updatedAt < now - 120)

/-- The two updates of the scans whose worker has not been heard of. -/
def sweep (now : Rat) (scan : Scan) : Scan :=
  if scan.status = .running && scan.stale now then
    { scan with status := .queued, workerId := none }
  else if scan.status = .cancelRequested && scan.stale now then
    { scan with status := .cancelled, workerId := none }
  else scan

/-- `WHERE status='queued' ORDER BY created_at LIMIT 1` -/
def oldestQueued (scans : Dict String Scan) : Option String :=
  ((scans.entries.filter fun entry => entry.2.status = .queued).mergeSort fun a b =>
    decide (a.2.createdAt ≤ b.2.createdAt)).head?.map Prod.fst

def swept (now : Rat) (db : Db) : Db :=
  { db with scans := db.scans.mapValues fun _ => sweep now }

def takeLease (worker : String) (later : Rat) (scan : Scan) : Scan :=
  if scan.status = .queued then
    { scan with status := .running, workerId := some worker, updatedAt := later }
  else scan

/-- A claimed row with its key. -/
structure Job where
  id : String
  scan : Scan

/-- `_claim` -/
def claim (now later : Rat) (worker : String) (db : Db) : Option Job × Db :=
  let db := swept now db
  match oldestQueued db.scans with
  | none => (none, db)
  | some id =>
      let db := db.update id (takeLease worker later)
      ((db.scans.get? id).map fun scan => ⟨id, scan⟩, db)

/-! The worker. -/

/-- What a step of a worker finds around it: the clock, the files, and the answers of `stop`, of
    the time limit and of the size limit. -/
structure Env where
  now : Rat
  later : Rat
  disk : Disk
  stop : Bool
  late : Bool
  full : Bool
  /-- `stream.buffer.tell()` -/
  position : Nat
  maxBytes : Nat
  maxRows : Nat

/-- The local variables of `_run_job` that its loop changes. -/
structure Locals where
  tally : Tally
  batch : List RiskRow
  bytePos : Nat

/-- Those that it does not change. -/
structure Sheet where
  headers : List String
  columns : Columns
  failure : Option String
  maxRows : Nat

/-- How a worker gives a scan up. -/
inductive Exit where
  | interrupted
  | cancelled
  deriving DecidableEq, Repr

def Exit.status : Exit → ScanStatus
  | .interrupted => .interrupted
  | .cancelled => .cancelled

/-- What follows a commit of a batch. -/
inductive Next where
  | leave (exit : Exit)
  | checkpoint
  | finish
  deriving DecidableEq, Repr

/-- Where a worker is in `process_next`. -/
inductive Phase where
  | idle
  | opening (job : Job)
  | reading (job : Job) (sheet : Sheet) (locals : Locals) (rest : List (List String))
  | committing (job : Job) (sheet : Sheet) (locals : Locals) (rest : List (List String))
      (next : Next)
  | leaving (job : Job) (exit : Exit)
  | checking (job : Job)
  | reconciling (job : Job) (current : Scan)
  | querying (job : Job) (current : Scan) (views : List (Query × List RiskRow))
      (pending : List Query)
  | publishing (job : Job) (result : PyDict)
  | failing (job : Job) (message : String)

def checkpointRows : Nat := 500

section worker
variable [ScanRuntime]

/-- The checks of the source, the header, and the rows that an earlier worker has scanned. -/
def openSource (env : Env) (job : Job) : Phase :=
  match env.disk job.scan.sourcePath with
  | none => .failing job "Source data changed or disappeared; create a new scan."
  | some file =>
      if file.signature ≠ job.scan.sourceSignature then
        .failing job "Source data changed or disappeared; create a new scan."
      else
        match file.csv.headers with
        | .error message => .failing job message
        | .ok headers =>
            match columnsOf headers with
            | .error message => .failing job message
            | .ok columns =>
                if file.csv.records.length < job.scan.tally.scanned then
                  .failing job (file.csv.failure.getD
                    "Saved checkpoint extends beyond the CSV; cannot resume.")
                else
                  let sheet : Sheet := ⟨headers, columns, file.csv.failure, env.maxRows⟩
                  .reading job sheet ⟨job.scan.tally, [], 0⟩
                    (file.csv.records.drop job.scan.tally.scanned)

/-- The counters and the batch after a record. -/
def Locals.record (locals : Locals) (row : Option RiskRow) : Locals :=
  { locals with tally := locals.tally.count row, batch := locals.batch ++ row.toList }

/-- The body of the loop after its checks. -/
def readRecord (env : Env) (job : Job) (sheet : Sheet) (locals : Locals) (record : List String)
    (rest : List (List String)) : Phase :=
  let ordinal := locals.tally.scanned + 1
  if sheet.maxRows < ordinal then
    .failing job
      "Maximum risk scan rows reached; partial progress retained, no result published."
  else
    let locals := locals.record (riskRow job.id sheet.headers sheet.columns ordinal record)
    if ordinal % checkpointRows = 0 then
      .committing job sheet { locals with bytePos := env.position } rest .checkpoint
    else .reading job sheet locals rest

/-- One turn of the loop, or its end. -/
def read (env : Env) (job : Job) (sheet : Sheet) (locals : Locals) (rest : List (List String))
    (db : Db) : Phase :=
  match rest with
  | [] =>
      match sheet.failure with
      | some message => .failing job message
      | none =>
          match env.disk job.scan.sourcePath with
          | none => .failing job "No such file or directory"
          | some file => .committing job sheet { locals with bytePos := file.sizeBytes } [] .finish
  | record :: after =>
      if env.stop then .committing job sheet locals rest (.leave .interrupted)
      else if locals.tally.scanned % checkpointRows = 0 then
        match db.scans.get? job.id with
        | none => .idle
        | some scan =>
            if scan.status = .cancelRequested then .committing job sheet locals rest (.leave .cancelled)
            else if env.late then .committing job sheet locals rest (.leave .interrupted)
            else readRecord env job sheet locals record after
      else readRecord env job sheet locals record after

/-- `active["worker_id"] == worker_id and active["status"] in ("running", "cancel_requested")` -/
def Scan.heldBy (worker : String) (scan : Scan) : Bool :=
  scan.workerId = some worker && (scan.status = .running || scan.status = .cancelRequested)

/-- `commit_batch`, or the text of the exception that it raises. -/
def commitBatch (env : Env) (worker : String) (job : Job) (sheet : Sheet) (locals : Locals)
    (db : Db) : Except String Db :=
  match (db.scans.get? job.id).filter (Scan.heldBy worker) with
  | none => .error "Worker lease was lost; partial progress is preserved."
  | some _ =>
      if locals.batch.any fun row => db.riskRows.any fun old =>
          old.scanId = row.scanId && old.ordinal = row.ordinal then
        .error "UNIQUE constraint failed: risk_rows.scan_id, risk_rows.ordinal"
      else
        match env.disk job.scan.sourcePath with
        | none => .error "No such file or directory"
        | some file =>
            let db := { db with riskRows := db.riskRows ++ locals.batch }
            .ok (db.update job.id fun scan => { scan with
              tally := locals.tally
              bytesRead := min file.sizeBytes locals.bytePos
              invoiceColumn := sheet.columns.invoiceId.isSome
              updatedAt := env.now })

/-- Where the worker goes after a commit. -/
def afterCommit (env : Env) (job : Job) (sheet : Sheet) (locals : Locals)
    (rest : List (List String)) : Next → Phase
  | .leave exit => .leaving job exit
  | .checkpoint =>
      if env.full then
        .failing job
          "Risk screening spool reached its storage limit; data saved for inspection."
      else .reading job sheet { locals with batch := [] } rest
  | .finish => .checking job

/-- The fingerprint of the file and `SELECT * FROM scans WHERE id=?`. -/
def checkSource (env : Env) (job : Job) (db : Db) : Phase :=
  match env.disk job.scan.sourcePath with
  | none => .failing job "No such file or directory"
  | some file =>
      if file.signature ≠ job.scan.sourceSignature then
        .failing job "Source changed during screening; result not published."
      else
        match db.scans.get? job.id with
        | none => .idle
        | some current => .reconciling job current

def reconcile (job : Job) (current : Scan) (db : Db) : Phase :=
  if reconciles current.tally (db.rowsOf job.id) then .querying job current [] Query.all
  else
    .failing job "Disk-backed transaction ledger did not reconcile; results discarded."

/-- What the statements of `_finalize` have found. -/
def viewOf (views : List (Query × List RiskRow)) (query : Query) : List RiskRow :=
  (lookupEntries views query).getD []

/-- The result; a `TypeError` leaves `process_next`. -/
def conclude (job : Job) (current : Scan) (views : List (Query × List RiskRow)) : Phase :=
  match screen current.tally.valid current.invoiceColumn (viewOf views) with
  | .ok signals => .publishing job (resultOf current.tally current.invoiceColumn signals)
  | .error (.scaling message) => .failing job message
  | .error .typeError => .idle

/-- What the publication writes. -/
def publish (now : Rat) (worker : String) (result : PyDict) (scan : Scan) : Scan :=
  if scan.status = .cancelRequested then
    { scan with status := .cancelled, workerId := none, updatedAt := now }
  else if scan.status = .running && scan.workerId = some worker then
    { scan with
      status := .completed, workerId := none, result := some result, error := none
      bytesRead := scan.sizeBytes, updatedAt := now }
  else scan

/-- `UPDATE scans SET status=?,worker_id=NULL,updated_at=? WHERE id=?` -/
def leave (now : Rat) (exit : Exit) (scan : Scan) : Scan :=
  { scan with status := exit.status, workerId := none, updatedAt := now }

/-- The update of `process_next` after an exception: `WHERE id=? AND worker_id=?`. -/
def fail (now : Rat) (worker message : String) (scan : Scan) : Scan :=
  if scan.workerId = some worker then
    { scan with
      status := .failed, workerId := none, error := some (String.ofList (message.toList.take 300))
      updatedAt := now }
  else scan

/-- The next step of a worker that has claimed a scan. -/
def work (env : Env) (worker : String) (phase : Phase) (db : Db) : Phase × Db :=
  match phase with
  | .idle => (.idle, db)
  | .opening job => (openSource env job, db)
  | .reading job sheet locals rest => (read env job sheet locals rest db, db)
  | .committing job sheet locals rest next =>
      match commitBatch env worker job sheet locals db with
      | .ok db => (afterCommit env job sheet locals rest next, db)
      | .error message => (.failing job message, db)
  | .leaving job exit => (.idle, db.update job.id (leave env.now exit))
  | .checking job => (checkSource env job db, db)
  | .reconciling job current => (reconcile job current db, db)
  | .querying job current views (query :: pending) =>
      (.querying job current (views ++ [(query, db.rowsOf job.id)]) pending, db)
  | .querying job current views [] => (conclude job current views, db)
  | .publishing job result => (.idle, db.update job.id (publish env.now worker result))
  | .failing job message => (.idle, db.update job.id (fail env.now worker message))

/-- The scan that a phase is about. -/
def Phase.job : Phase → Option Job
  | .idle => none
  | .opening job => some job
  | .reading job _ _ _ => some job
  | .committing job _ _ _ _ => some job
  | .leaving job _ => some job
  | .checking job => some job
  | .reconciling job _ => some job
  | .querying job _ _ _ => some job
  | .publishing job _ => some job
  | .failing job _ => some job

/-! The system. -/

/-- The store, and where each worker is; a worker is known by its `worker_id`. -/
structure System where
  db : Db := {}
  phase : String → Phase := fun _ => .idle

inductive Event where
  | start (env : Env) (key runId path org workspace : String)
  | act (env : Env) (action : ScanAction) (runId scanId org workspace : String)
  | claim (env : Env) (worker : String)
  | work (env : Env) (worker : String)
  /-- a statement or the file raises a `sqlite3.Error`, an `OSError` or a `ValueError` -/
  | raises (worker message : String)
  /-- the process stops, or an exception leaves `process_next` -/
  | dies (worker : String)

def System.goTo (s : System) (worker : String) (phase : Phase) : System :=
  { s with phase := fun other => if other = worker then phase else s.phase other }

def startEvent (env : Env) (key runId path org workspace : String) (db : Db) : Db :=
  match startScan env.maxBytes env.now key env.disk runId path org workspace db with
  | .ok (_, db) => db
  | .error _ => db

def actEvent (env : Env) (action : ScanAction) (runId scanId org workspace : String) (db : Db) :
    Db :=
  match setScanAction env.now env.disk runId scanId org workspace action db with
  | .ok db => db
  | .error _ => db

def claimEvent (env : Env) (worker : String) (s : System) : System :=
  let (job, db) := claim env.now env.later worker s.db
  { s with db }.goTo worker (match job with | some job => .opening job | none => .idle)

def workEvent (env : Env) (worker : String) (s : System) : System :=
  let (phase, db) := work env worker (s.phase worker) s.db
  { s with db }.goTo worker phase

def step (s : System) : Event → System
  | .start env key runId path org workspace =>
      { s with db := startEvent env key runId path org workspace s.db }
  | .act env action runId scanId org workspace =>
      { s with db := actEvent env action runId scanId org workspace s.db }
  | .claim env worker =>
      match s.phase worker with
      | .idle => claimEvent env worker s
      | _ => s
  | .work env worker => workEvent env worker s
  | .raises worker message =>
      match s.phase worker with
      | .idle => s
      | .failing _ _ => s
      | phase =>
          match phase.job with
          | some job => s.goTo worker (.failing job message)
          | none => s
  | .dies worker => s.goTo worker .idle

def run (s : System) (events : List Event) : System := events.foldl step s

end worker
/-! What a step can do. -/

theorem nextStatus_cases {disk : Disk} {scan : Scan} {action : ScanAction} {status : ScanStatus}
    (next : nextStatus disk scan action = .ok status) :
    (action = .cancel ∧ scan.status = .running ∧ status = .cancelRequested) ∨
      (action = .cancel ∧ (scan.status = .queued ∨ scan.status = .cancelRequested) ∧
        status = .cancelled) ∨
      (action = .resume ∧
        (scan.status = .cancelled ∨ scan.status = .failed ∨ scan.status = .interrupted) ∧
        status = .queued) := by
  cases action with
  | cancel =>
    simp only [nextStatus] at next
    split at next
    · cases next
    · rename_i active
      simp only [Except.ok.injEq] at next
      simp only [Scan.active, Bool.not_eq_true', Bool.not_eq_false, Bool.or_eq_true,
        decide_eq_true_eq] at active
      subst next
      rcases active with (queued | running) | asked
      · simp [queued]
      · simp [running]
      · simp [asked]
  | resume =>
    simp only [nextStatus] at next
    split at next
    · rename_i stopped
      simp only [Bool.or_eq_true, decide_eq_true_eq] at stopped
      split at next
      · cases next
      · split at next
        · cases next
        · simp only [Except.ok.injEq] at next
          subst next
          simp only [reduceCtorEq, false_and, true_and, and_true, false_or]
          rcases stopped with (cancelled | failed) | interrupted
          · exact .inl cancelled
          · exact .inr (.inl failed)
          · exact .inr (.inr interrupted)
    · cases next

/-- What an action writes. -/
def relabel (now : Rat) (status : ScanStatus) (scan : Scan) : Scan :=
  { scan with status, error := none, updatedAt := now }

theorem actEvent_cases (env : Env) (action : ScanAction) (runId scanId org workspace : String)
    (db : Db) :
    actEvent env action runId scanId org workspace db = db ∨
      ∃ scan status, db.scans.get? scanId = some scan ∧ scan.ownedBy runId org workspace = true ∧
        nextStatus env.disk scan action = .ok status ∧
        actEvent env action runId scanId org workspace db =
          db.update scanId (relabel env.now status) := by
  unfold actEvent setScanAction
  cases found : (db.scans.get? scanId).filter (Scan.ownedBy runId org workspace) with
  | none => exact .inl rfl
  | some scan =>
    obtain ⟨stored, owned⟩ := Option.filter_eq_some_iff.mp found
    simp only
    cases next : nextStatus env.disk scan action with
    | error e => exact .inl rfl
    | ok status => exact .inr ⟨scan, status, stored, owned, next, rfl⟩

theorem latestOf_none {entries : List (String × Scan)} (none : latestOf entries = none) :
    entries = [] := by
  unfold latestOf at none
  rw [Option.map_eq_none_iff, List.head?_eq_none_iff] at none
  have length : (entries.mergeSort fun a b => decide (b.2.createdAt ≤ a.2.createdAt)).length =
      entries.length := List.length_mergeSort entries
  rw [none] at length
  exact List.length_eq_zero_iff.mp length.symm

/-- A scan is inserted only where the run has no active one. -/
theorem startEvent_cases [ScanRuntime] (env : Env) (key runId path org workspace : String)
    (db : Db) :
    startEvent env key runId path org workspace db = db ∨
      ∃ file, env.disk path = some file ∧ db.scans.get? key = none ∧
        (∀ id scan, db.scans.get? id = some scan →
          ¬ (scan.ownedBy runId org workspace = true ∧ scan.active = true)) ∧
        startEvent env key runId path org workspace db =
          { db with
            scans := db.scans.set key (newScan runId org workspace path file env.now) } := by
  unfold startEvent startScan
  split
  swap
  · exact .inl rfl
  rename_i answer started
  split at started
  · cases started
  rename_i file disk
  split at started
  · cases started
  split at started
  · cases started
  split at started
  · simp only [Except.ok.injEq, Prod.mk.injEq] at started
    exact .inl started.2.symm
  rename_i alone
  split at started
  · cases started
  rename_i fresh
  simp only [Except.ok.injEq, Prod.mk.injEq] at started
  refine .inr ⟨file, disk, by simpa using fresh, ?_, started.2.symm⟩
  rintro id scan stored ⟨owned, active⟩
  have member : (id, scan) ∈ db.scans.entries.filter fun entry =>
      entry.2.ownedBy runId org workspace && entry.2.active :=
    List.mem_filter.mpr ⟨Dict.mem_entries_of_get? stored, by simp [owned, active]⟩
  rw [latestOf_none alone] at member
  cases member

theorem oldestQueued_spec {scans : Dict String Scan} {id : String}
    (oldest : oldestQueued scans = some id) :
    ∃ scan, scans.get? id = some scan ∧ scan.status = .queued := by
  unfold oldestQueued at oldest
  obtain ⟨entry, head, rfl⟩ := Option.map_eq_some_iff.mp oldest
  have member := List.mem_of_mem_head? (Option.mem_def.mpr head)
  rw [List.mem_mergeSort, List.mem_filter, decide_eq_true_eq] at member
  exact ⟨entry.2, Dict.get?_of_mem_entries member.1, member.2⟩

/-- A claim sweeps the stale scans and takes the oldest of the queued ones. -/
theorem claim_cases (now later : Rat) (worker : String) (db : Db) :
    claim now later worker db = (none, swept now db) ∨
      ∃ id scan, (swept now db).scans.get? id = some scan ∧ scan.status = .queued ∧
        claim now later worker db = (some ⟨id, takeLease worker later scan⟩,
          (swept now db).update id (takeLease worker later)) := by
  unfold claim
  dsimp only
  split
  · exact .inl rfl
  · rename_i id oldest
    obtain ⟨scan, stored, queued⟩ := oldestQueued_spec oldest
    refine .inr ⟨id, scan, stored, queued, ?_⟩
    have taken : ((swept now db).update id (takeLease worker later)).scans.get? id =
        some (takeLease worker later scan) := by
      unfold Db.update
      rw [Dict.get?_mapValues, stored]
      simp
    rw [taken]
    rfl

theorem get?_update (db : Db) (id key : String) (change : Scan → Scan) :
    (db.update id change).scans.get? key =
      (db.scans.get? key).map fun scan => if key = id then change scan else scan := by
  unfold Db.update
  rw [Dict.get?_mapValues]

theorem get?_update_self {db : Db} {id : String} {scan : Scan} (change : Scan → Scan)
    (stored : db.scans.get? id = some scan) :
    (db.update id change).scans.get? id = some (change scan) := by
  rw [get?_update, stored]
  simp

theorem get?_update_other (db : Db) {id key : String} (change : Scan → Scan) (other : key ≠ id) :
    (db.update id change).scans.get? key = db.scans.get? key := by
  rw [get?_update]
  simp [other]

theorem heldBy_iff {worker : String} {scan : Scan} :
    scan.heldBy worker = true ↔
      scan.workerId = some worker ∧ (scan.status = .running ∨ scan.status = .cancelRequested) := by
  unfold Scan.heldBy
  simp only [Bool.and_eq_true, Bool.or_eq_true, decide_eq_true_eq]

/-- The step of a worker whose phase is known. -/
theorem workEvent_eq [ScanRuntime] {s : System} {worker : String} {phase : Phase} (env : Env)
    (is : s.phase worker = phase) :
    workEvent env worker s =
      ({ s with db := (work env worker phase s.db).2 } : System).goTo worker
        (work env worker phase s.db).1 := by
  unfold workEvent
  rw [is]

/-- What a commit writes. -/
def checkpoint (now : Rat) (sheet : Sheet) (locals : Locals) (size : Nat) (scan : Scan) : Scan :=
  { scan with
    tally := locals.tally
    bytesRead := min size locals.bytePos
    invoiceColumn := sheet.columns.invoiceId.isSome
    updatedAt := now }

def commitRows (now : Rat) (id : String) (sheet : Sheet) (locals : Locals) (size : Nat) (db : Db) :
    Db :=
  { db with riskRows := db.riskRows ++ locals.batch }.update id (checkpoint now sheet locals size)

/-- A commit is of a scan that the worker holds. -/
theorem commitBatch_ok {env : Env} {worker : String} {job : Job} {sheet : Sheet} {locals : Locals}
    {db db' : Db} (committed : commitBatch env worker job sheet locals db = .ok db') :
    ∃ scan size, db.scans.get? job.id = some scan ∧ scan.heldBy worker = true ∧
      db' = commitRows env.now job.id sheet locals size db := by
  unfold commitBatch at committed
  split at committed
  · cases committed
  rename_i scan found
  obtain ⟨stored, held⟩ := Option.filter_eq_some_iff.mp found
  split at committed
  · cases committed
  split at committed
  · cases committed
  rename_i file disk
  simp only [Except.ok.injEq] at committed
  exact ⟨scan, file.sizeBytes, stored, held, committed.symm⟩

end RiskScan
