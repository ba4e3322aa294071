import AeaiOs.RiskScans

/-!
The ledger of a risk scan of a file that does not change. However a scan is interrupted and
resumed, and by whichever workers, its rows and counters are those of the records scanned so far,
and what it publishes is what one uninterrupted scan publishes.
-/
namespace RiskScan
open PyText OrderedDict RunValues

section entries
variable [ScanRuntime]

/-- The entries of the ledger for the records of a file, from an ordinal on; an invalid amount has
    none. -/
def entriesFrom (id : String) (headers : List String) (columns : Columns) :
    Nat → List (List String) → List (Option RiskRow)
  | _, [] => []
  | scanned, record :: rest =>
      riskRow id headers columns (scanned + 1) record :: entriesFrom id headers columns (scanned + 1) rest

/-- The header and the columns of a file that the scan accepts. -/
def layoutOf (file : CsvFile) : Option (List String × Columns) :=
  match file.headers with
  | .error _ => none
  | .ok headers =>
      match columnsOf headers with
      | .error _ => none
      | .ok columns => some (headers, columns)

def entriesOf (file : CsvFile) (id : String) : List (Option RiskRow) :=
  match layoutOf file with
  | none => []
  | some (headers, columns) => entriesFrom id headers columns 0 file.records

def validRows (entries : List (Option RiskRow)) : List RiskRow := entries.filterMap id

/-- The counters that describe a list of entries. -/
def tallyOf (entries : List (Option RiskRow)) : Tally where
  scanned := entries.length
  valid := (validRows entries).length
  invalid := entries.length - (validRows entries).length
  sumUnits := sumUnits (validRows entries)

/-- The rows of the ledger are the valid rows among the records scanned so far, and the counters
    describe them. -/
structure Ledger (file : CsvFile) (id : String) (scan : Scan) (db : Db) : Prop where
  within : scan.tally.scanned ≤ (entriesOf file id).length
  rows : db.rowsOf id = validRows ((entriesOf file id).take scan.tally.scanned)
  tally : scan.tally = tallyOf ((entriesOf file id).take scan.tally.scanned)

omit [ScanRuntime] in
theorem validRows_append (first second : List (Option RiskRow)) :
    validRows (first ++ second) = validRows first ++ validRows second :=
  List.filterMap_append

omit [ScanRuntime] in
theorem validRows_length_le (entries : List (Option RiskRow)) :
    (validRows entries).length ≤ entries.length :=
  List.length_filterMap_le _ _

omit [ScanRuntime] in
theorem sumUnits_append (rows : List RiskRow) (row : RiskRow) :
    sumUnits (rows ++ [row]) = sumUnits rows + row.amountUnits := by
  unfold sumUnits
  rw [List.map_append, List.foldl_append]
  rfl

omit [ScanRuntime] in
theorem tallyOf_append (entries : List (Option RiskRow)) (entry : Option RiskRow) :
    tallyOf (entries ++ [entry]) = (tallyOf entries).count entry := by
  have bound := validRows_length_le entries
  cases entry with
  | none =>
    have same : validRows (entries ++ [none]) = validRows entries := by
      rw [validRows_append]
      exact List.append_nil _
    unfold tallyOf Tally.count
    rw [same, List.length_append, List.length_singleton]
    simp only [Tally.mk.injEq, true_and, and_true]
    omega
  | some row =>
    have more : validRows (entries ++ [some row]) = validRows entries ++ [row] :=
      validRows_append _ _
    unfold tallyOf Tally.count
    rw [more, List.length_append, List.length_append, List.length_singleton, List.length_singleton,
      sumUnits_append]
    simp only [Tally.mk.injEq, true_and, and_true]
    omega

theorem entriesFrom_length (id : String) (headers : List String) (columns : Columns) (scanned : Nat)
    (records : List (List String)) :
    (entriesFrom id headers columns scanned records).length = records.length := by
  induction records generalizing scanned with
  | nil => rfl
  | cons record rest ih =>
    unfold entriesFrom
    rw [List.length_cons, List.length_cons, ih]

theorem entriesFrom_get? (id : String) (headers : List String) (columns : Columns) (scanned n : Nat)
    (records : List (List String)) :
    (entriesFrom id headers columns scanned records)[n]? =
      records[n]?.map (riskRow id headers columns (scanned + n + 1)) := by
  induction records generalizing scanned n with
  | nil => rfl
  | cons record rest ih =>
    unfold entriesFrom
    cases n with
    | zero => rfl
    | succ n =>
      rw [List.getElem?_cons_succ, List.getElem?_cons_succ, ih]
      congr 2
      omega

theorem entriesFrom_own (id : String) (headers : List String) (columns : Columns) (scanned : Nat)
    (records : List (List String)) :
    ∀ row ∈ validRows (entriesFrom id headers columns scanned records), row.scanId = id := by
  intro row member
  obtain ⟨entry, inside, rfl⟩ := List.mem_filterMap.mp member
  induction records generalizing scanned with
  | nil => cases inside
  | cons record rest ih =>
    unfold entriesFrom at inside
    rcases List.mem_cons.mp inside with here | later
    · rw [riskRow, eq_comm, Option.map_eq_some_iff] at here
      obtain ⟨amount, -, rfl⟩ := here
      rfl
    · apply ih _ _ later
      exact List.mem_filterMap.mpr ⟨_, later, rfl⟩

variable {file : CsvFile} {id : String}

theorem entriesOf_layout {headers : List String} {columns : Columns}
    (layout : layoutOf file = some (headers, columns)) :
    entriesOf file id = entriesFrom id headers columns 0 file.records := by
  unfold entriesOf
  rw [layout]

theorem entriesOf_own : ∀ row ∈ validRows (entriesOf file id), row.scanId = id := by
  unfold entriesOf
  split
  · intro row member
    cases member
  · exact entriesFrom_own _ _ _ _ _

theorem entriesOf_length {headers : List String} {columns : Columns}
    (layout : layoutOf file = some (headers, columns)) :
    (entriesOf file id).length = file.records.length := by
  rw [entriesOf_layout layout, entriesFrom_length]

/-- One more record of the file. -/
theorem take_entriesOf {headers : List String} {columns : Columns} {n : Nat} {record : List String}
    {rest : List (List String)} (layout : layoutOf file = some (headers, columns))
    (here : file.records.drop n = record :: rest) :
    (entriesOf file id).take (n + 1) =
      (entriesOf file id).take n ++ [riskRow id headers columns (n + 1) record] := by
  have found : file.records[n]? = some record := by
    rw [← List.head?_drop, here]
    rfl
  rw [List.take_add_one, entriesOf_layout layout, entriesFrom_get?, found, Nat.zero_add]
  rfl

/-! Reading on. -/

/-- Counters of the first records of the file. -/
structure Described (file : CsvFile) (id : String) (tally : Tally) : Prop where
  within : tally.scanned ≤ (entriesOf file id).length
  tally : tally = tallyOf ((entriesOf file id).take tally.scanned)

/-- The local variables of a worker that has read the first records of the file. -/
structure Fits (file : CsvFile) (id : String) (sheet : Sheet) (locals : Locals)
    (rest : List (List String)) : Prop where
  layout : layoutOf file = some (sheet.headers, sheet.columns)
  failure : sheet.failure = file.failure
  rest : rest = file.records.drop locals.tally.scanned
  described : Described file id locals.tally

/-- The batch is what a store that has the first `stored` records has not yet got. -/
structure Synced (file : CsvFile) (id : String) (locals : Locals) (stored : Nat) : Prop where
  behind : stored ≤ locals.tally.scanned
  batch : locals.batch = validRows (((entriesOf file id).take locals.tally.scanned).drop stored)

theorem described_count {tally : Tally} {headers : List String} {columns : Columns}
    {record : List String} {rest : List (List String)} (described : Described file id tally)
    (layout : layoutOf file = some (headers, columns))
    (here : file.records.drop tally.scanned = record :: rest) :
    Described file id
      (tally.count (riskRow id headers columns (tally.scanned + 1) record)) := by
  have next : (tally.count (riskRow id headers columns (tally.scanned + 1) record)).scanned =
      tally.scanned + 1 := by
    cases riskRow id headers columns (tally.scanned + 1) record <;> rfl
  have room : tally.scanned < file.records.length := by
    have longer := congrArg List.length here
    rw [List.length_drop, List.length_cons] at longer
    omega
  constructor
  · rw [next, entriesOf_length layout]
    omega
  · rw [next, take_entriesOf layout here, tallyOf_append, ← described.tally]

theorem fits_record {sheet : Sheet} {locals : Locals} {record : List String}
    {rest : List (List String)} (fits : Fits file id sheet locals (record :: rest)) :
    Fits file id sheet
      (locals.record (riskRow id sheet.headers sheet.columns (locals.tally.scanned + 1) record))
      rest where
  layout := fits.layout
  failure := fits.failure
  rest := by
    have next : (locals.record (riskRow id sheet.headers sheet.columns (locals.tally.scanned + 1)
        record)).tally.scanned = locals.tally.scanned + 1 := by
      unfold Locals.record
      cases riskRow id sheet.headers sheet.columns (locals.tally.scanned + 1) record <;> rfl
    rw [next, ← List.drop_drop, ← fits.rest]
    rfl
  described := described_count fits.described fits.layout fits.rest.symm

theorem synced_record {sheet : Sheet} {locals : Locals} {record : List String} {stored : Nat}
    {rest : List (List String)} (fits : Fits file id sheet locals (record :: rest))
    (synced : Synced file id locals stored) :
    Synced file id
      (locals.record (riskRow id sheet.headers sheet.columns (locals.tally.scanned + 1) record))
      stored := by
  have next : (locals.record (riskRow id sheet.headers sheet.columns (locals.tally.scanned + 1)
      record)).tally.scanned = locals.tally.scanned + 1 := by
    unfold Locals.record
    cases riskRow id sheet.headers sheet.columns (locals.tally.scanned + 1) record <;> rfl
  have behind := synced.behind
  constructor
  · omega
  · have within : stored ≤ ((entriesOf file id).take locals.tally.scanned).length := by
      rw [List.length_take, Nat.min_eq_left fits.described.within]
      exact behind
    rw [next, take_entriesOf fits.layout fits.rest.symm, List.drop_append_of_le_length within,
      validRows_append, ← synced.batch]
    unfold Locals.record
    cases riskRow id sheet.headers sheet.columns (locals.tally.scanned + 1) record <;> rfl

/-! The end of the file. -/

/-- The whole of a readable file has been scanned. -/
structure Done (file : CsvFile) (id : String) (scan : Scan) : Prop where
  readable : file.failure = none
  layout : ∃ headers columns, layoutOf file = some (headers, columns) ∧
    scan.invoiceColumn = columns.invoiceId.isSome
  scanned : scan.tally.scanned = (entriesOf file id).length

/-- What a scan of the file publishes, if it publishes anything. -/
def resultFor (file : CsvFile) (id : String) : Option PyDict :=
  match layoutOf file, file.failure with
  | some (_, columns), none =>
      let tally := tallyOf (entriesOf file id)
      let invoiceColumn := columns.invoiceId.isSome
      match screen tally.valid invoiceColumn fun _ => validRows (entriesOf file id) with
      | .ok signals => some (resultOf tally invoiceColumn signals)
      | .error _ => none
  | _, _ => none

theorem rows_of_done {scan : Scan} {db : Db} (ledger : Ledger file id scan db)
    (done : Done file id scan) : db.rowsOf id = validRows (entriesOf file id) := by
  rw [ledger.rows, done.scanned, List.take_length]

theorem tally_of_done {scan : Scan} (described : Described file id scan.tally)
    (done : Done file id scan) : scan.tally = tallyOf (entriesOf file id) := by
  rw [described.tally, done.scanned, List.take_length]

omit [ScanRuntime] in
/-- Views that all find the same rows. -/
theorem viewOf_eq {views : List (Query × List RiskRow)} {rows : List RiskRow}
    (all : views.map Prod.fst = Query.all) (same : ∀ entry ∈ views, entry.2 = rows) :
    viewOf views = fun _ => rows := by
  funext query
  have asked : query ∈ views.map Prod.fst := by
    rw [all]
    cases query <;> decide
  unfold viewOf
  cases found : lookupEntries views query with
  | none => exact absurd asked (lookupEntries_none.mp found)
  | some seen => exact same (query, seen) (mem_of_lookupEntries found)

/-! The invariant. -/

/-- What a worker in a phase relies on, for a scan of the file. -/
def PhaseFits (file : CsvFile) (db : Db) (worker : String) : Phase → Prop
  | .idle => True
  | .leaving _ _ => True
  | .failing _ _ => True
  | .opening job =>
      Described file job.id job.scan.tally ∧
        ∀ scan, db.scans.get? job.id = some scan → scan.heldBy worker = true →
          scan.tally = job.scan.tally
  | .reading job sheet locals rest =>
      Fits file job.id sheet locals rest ∧
        ∀ scan, db.scans.get? job.id = some scan → scan.heldBy worker = true →
          Synced file job.id locals scan.tally.scanned
  | .committing job sheet locals rest next =>
      Fits file job.id sheet locals rest ∧
        (∀ scan, db.scans.get? job.id = some scan → scan.heldBy worker = true →
          Synced file job.id locals scan.tally.scanned) ∧
        (next = .finish → rest = [] ∧ file.failure = none)
  | .checking job => ∃ scan, db.scans.get? job.id = some scan ∧ Done file job.id scan
  | .reconciling job current =>
      (∃ scan, db.scans.get? job.id = some scan ∧ Done file job.id scan) ∧
        Done file job.id current ∧ Described file job.id current.tally
  | .querying job current views pending =>
      (∃ scan, db.scans.get? job.id = some scan ∧ Done file job.id scan) ∧
        (Done file job.id current ∧ Described file job.id current.tally) ∧
        views.map Prod.fst ++ pending = Query.all ∧
        ∀ entry ∈ views, entry.2 = validRows (entriesOf file job.id)
  | .publishing job result => resultFor file job.id = some result

def Phase.batch : Phase → List RiskRow
  | .reading _ _ locals _ => locals.batch
  | .committing _ _ locals _ _ => locals.batch
  | _ => []

/-- The row of a job is still there, with its source. -/
def Linked (db : Db) (job : Job) : Prop :=
  ∃ scan, db.scans.get? job.id = some scan ∧ scan.sourcePath = job.scan.sourcePath ∧
    scan.sourceSignature = job.scan.sourceSignature

/-- A worker in a phase, whatever its file; and what it relies on if its file is the one at
`path`. -/
structure PhaseOk (path : String) (file : File) (db : Db) (worker : String) (phase : Phase) :
    Prop where
  linked : ∀ job, phase.job = some job → Linked db job
  own : ∀ job, phase.job = some job → ∀ row ∈ phase.batch, row.scanId = job.id
  fits : ∀ job, phase.job = some job → job.scan.sourcePath = path →
    PhaseFits file.csv db worker phase

structure Sound (path : String) (file : File) (s : System) : Prop where
  signature : ∀ id scan, s.db.scans.get? id = some scan → scan.sourcePath = path →
    scan.sourceSignature = file.signature
  ledger : ∀ id scan, s.db.scans.get? id = some scan → scan.sourcePath = path →
    Ledger file.csv id scan s.db
  result : ∀ id scan result, s.db.scans.get? id = some scan → scan.sourcePath = path →
    scan.result = some result → resultFor file.csv id = some result
  filed : ∀ row ∈ s.db.riskRows, ∃ scan, s.db.scans.get? row.scanId = some scan
  phases : ∀ worker, PhaseOk path file s.db worker (s.phase worker)

/-! What a change of the store means for the workers that it is not a step of. -/

/-- A row after a step: its source is the same, only the `exempt` worker may gain the lease or
move the counters under its own lease, and a finished ledger stays finished. -/
structure Follows (path : String) (file : File) (exempt : Option String) (id : String)
    (scan scan' : Scan) : Prop where
  source : scan'.sourcePath = scan.sourcePath
  signature : scan'.sourceSignature = scan.sourceSignature
  lease : ∀ worker, exempt ≠ some worker → scan'.heldBy worker = true →
    scan.heldBy worker = true ∧ scan'.tally = scan.tally
  done : scan.sourcePath = path → Done file.csv id scan → Done file.csv id scan'

def Advances (path : String) (file : File) (exempt : Option String) (db db' : Db) : Prop :=
  ∀ id scan, db.scans.get? id = some scan →
    ∃ scan', db'.scans.get? id = some scan' ∧ Follows path file exempt id scan scan'

section advance
variable {path : String} {file : File} {exempt : Option String} {db db' : Db} {worker : String}
  {phase : Phase}

theorem Advances.linked (advances : Advances path file exempt db db') {job : Job}
    (linked : Linked db job) : Linked db' job := by
  obtain ⟨scan, stored, source, signature⟩ := linked
  obtain ⟨scan', stored', follows⟩ := advances _ _ stored
  exact ⟨scan', stored', follows.source.trans source, follows.signature.trans signature⟩

/-- What holds of a row under the worker's lease still does. -/
theorem Advances.leased (advances : Advances path file exempt db db') (other : exempt ≠ some worker)
    {job : Job} (linked : Linked db job) {P : Tally → Prop}
    (holds : ∀ scan, db.scans.get? job.id = some scan → scan.heldBy worker = true → P scan.tally) :
    ∀ scan', db'.scans.get? job.id = some scan' → scan'.heldBy worker = true → P scan'.tally := by
  intro scan' stored' held'
  obtain ⟨scan, stored, -⟩ := linked
  obtain ⟨after, found, follows⟩ := advances _ _ stored
  rw [stored', Option.some.injEq] at found
  subst found
  obtain ⟨held, same⟩ := follows.lease worker other held'
  rw [same]
  exact holds scan stored held

theorem Advances.done (advances : Advances path file exempt db db') {job : Job}
    (linked : Linked db job) (source : job.scan.sourcePath = path)
    (done : ∃ scan, db.scans.get? job.id = some scan ∧ Done file.csv job.id scan) :
    ∃ scan, db'.scans.get? job.id = some scan ∧ Done file.csv job.id scan := by
  obtain ⟨before, known, path', -⟩ := linked
  obtain ⟨scan, stored, finished⟩ := done
  rw [known, Option.some.injEq] at stored
  subst stored
  obtain ⟨after, found, follows⟩ := advances _ _ known
  exact ⟨after, found, follows.done (path'.trans source) finished⟩

/-- A worker relies on nothing that the steps of others change. -/
theorem PhaseOk.advance (ok : PhaseOk path file db worker phase)
    (advances : Advances path file exempt db db') (other : exempt ≠ some worker) :
    PhaseOk path file db' worker phase where
  linked job is := advances.linked (ok.linked job is)
  own := ok.own
  fits := by
    intro job is source
    have linked := ok.linked job is
    have fits := ok.fits job is source
    cases phase with
    | idle => trivial
    | leaving => trivial
    | failing => trivial
    | opening own =>
      cases is
      refine ⟨fits.1, ?_⟩
      apply advances.leased (P := fun tally => tally = job.scan.tally) other linked
      exact fits.2
    | reading own sheet locals rest =>
      cases is
      refine ⟨fits.1, ?_⟩
      apply advances.leased (P := fun tally => Synced file.csv job.id locals tally.scanned) other
        linked
      exact fits.2
    | committing own sheet locals rest next =>
      cases is
      refine ⟨fits.1, ?_, fits.2.2⟩
      apply advances.leased (P := fun tally => Synced file.csv job.id locals tally.scanned) other
        linked
      exact fits.2.1
    | checking own =>
      cases is
      exact advances.done linked source fits
    | reconciling own current =>
      cases is
      exact ⟨advances.done linked source fits.1, fits.2⟩
    | querying own current views pending =>
      cases is
      exact ⟨advances.done linked source fits.1, fits.2⟩
    | publishing own result =>
      cases is
      exact fits

end advance

/-! The moves of a worker that write nothing. -/

section moves
variable {path : String} {file : File} {db : Db} {worker : String}

theorem phaseOk_idle : PhaseOk path file db worker .idle where
  linked _ is := nomatch is
  own _ is := nomatch is
  fits _ is := nomatch is

theorem phaseOk_failing {job : Job} (linked : Linked db job) (message : String) :
    PhaseOk path file db worker (.failing job message) where
  linked _ is := by cases is; exact linked
  own _ _ _ member := nomatch member
  fits _ _ _ := trivial

theorem phaseOk_leaving {job : Job} (linked : Linked db job) (exit : Exit) :
    PhaseOk path file db worker (.leaving job exit) where
  linked _ is := by cases is; exact linked
  own _ _ _ member := nomatch member
  fits _ _ _ := trivial

/-- A phase without a batch. -/
theorem phaseOk_of_fits {job : Job} {phase : Phase} (is : phase.job = some job)
    (empty : phase.batch = []) (linked : Linked db job)
    (fits : job.scan.sourcePath = path → PhaseFits file.csv db worker phase) :
    PhaseOk path file db worker phase where
  linked other same := by
    rw [is, Option.some.injEq] at same
    exact same ▸ linked
  own _ _ row member := by
    rw [empty] at member
    cases member
  fits other same source := by
    rw [is, Option.some.injEq] at same
    subst same
    exact fits source

/-- The header of a file that has been opened. -/
theorem layoutOf_eq {csv : CsvFile} {headers : List String} {columns : Columns}
    (header : csv.headers = .ok headers) (resolved : columnsOf headers = .ok columns) :
    layoutOf csv = some (headers, columns) := by
  unfold layoutOf
  rw [header]
  simp only [resolved]

theorem openSource_ok {env : Env} {job : Job} (steady : env.disk path = some file)
    (ok : PhaseOk path file db worker (.opening job)) :
    PhaseOk path file db worker (openSource env job) := by
  have linked := ok.linked job rfl
  unfold openSource
  split
  · exact phaseOk_failing linked _
  rename_i found disk
  split
  · exact phaseOk_failing linked _
  split
  · exact phaseOk_failing linked _
  rename_i headers header
  split
  · exact phaseOk_failing linked _
  rename_i columns resolved
  split
  · exact phaseOk_failing linked _
  apply phaseOk_of_fits rfl rfl linked
  intro source
  rw [source, steady, Option.some.injEq] at disk
  subst disk
  obtain ⟨described, same⟩ := ok.fits job rfl source
  refine ⟨⟨layoutOf_eq header resolved, rfl, rfl, described⟩, ?_⟩
  intro scan stored held
  have counters := same scan stored held
  constructor
  · rw [counters]
  · rw [counters, List.drop_eq_nil_of_le (List.length_take_le _ _)]
    rfl

/-- A phase with a batch of the worker's own rows. -/
theorem phaseOk_reading {job : Job} {sheet : Sheet} {locals : Locals} {rest : List (List String)}
    (linked : Linked db job) (own : ∀ row ∈ locals.batch, row.scanId = job.id)
    (fits : job.scan.sourcePath = path →
      PhaseFits file.csv db worker (.reading job sheet locals rest)) :
    PhaseOk path file db worker (.reading job sheet locals rest) where
  linked _ is := by cases is; exact linked
  own _ is := by cases is; exact own
  fits _ is := by cases is; exact fits

theorem phaseOk_committing {job : Job} {sheet : Sheet} {locals : Locals}
    {rest : List (List String)} {next : Next} (linked : Linked db job)
    (own : ∀ row ∈ locals.batch, row.scanId = job.id)
    (fits : job.scan.sourcePath = path →
      PhaseFits file.csv db worker (.committing job sheet locals rest next)) :
    PhaseOk path file db worker (.committing job sheet locals rest next) where
  linked _ is := by cases is; exact linked
  own _ is := by cases is; exact own
  fits _ is := by cases is; exact fits

theorem riskRow_own {id : String} {headers record : List String} {columns : Columns} {n : Nat}
    {row : RiskRow} (made : riskRow id headers columns n record = some row) : row.scanId = id := by
  unfold riskRow at made
  obtain ⟨amount, -, rfl⟩ := Option.map_eq_some_iff.mp made
  rfl

theorem record_own {job : Job} {sheet : Sheet} {locals : Locals} {record : List String} {n : Nat}
    (own : ∀ row ∈ locals.batch, row.scanId = job.id) :
    ∀ row ∈ (locals.record (riskRow job.id sheet.headers sheet.columns n record)).batch,
      row.scanId = job.id := by
  intro row member
  unfold Locals.record at member
  rcases List.mem_append.mp member with old | new
  · exact own row old
  · exact riskRow_own (Option.mem_toList.mp new)

theorem readRecord_ok {env : Env} {job : Job} {sheet : Sheet} {locals : Locals}
    {record : List String} {rest : List (List String)}
    (ok : PhaseOk path file db worker (.reading job sheet locals (record :: rest))) :
    PhaseOk path file db worker (readRecord env job sheet locals record rest) := by
  have linked := ok.linked job rfl
  have own : ∀ row ∈ (locals.record (riskRow job.id sheet.headers sheet.columns
      (locals.tally.scanned + 1) record)).batch, row.scanId = job.id := record_own (ok.own job rfl)
  unfold readRecord
  dsimp only
  split
  · exact phaseOk_failing linked _
  split
  · apply phaseOk_committing linked
    · exact own
    intro source
    obtain ⟨fits, synced⟩ := ok.fits job rfl source
    have later := fits_record fits
    refine ⟨⟨later.layout, later.failure, later.rest, later.described⟩, ?_, nofun⟩
    intro scan stored held
    have after := synced_record fits (synced scan stored held)
    exact ⟨after.behind, after.batch⟩
  · apply phaseOk_reading linked own
    intro source
    obtain ⟨fits, synced⟩ := ok.fits job rfl source
    refine ⟨fits_record fits, ?_⟩
    intro scan stored held
    exact synced_record fits (synced scan stored held)

theorem read_ok {env : Env} {job : Job} {sheet : Sheet} {locals : Locals}
    {rest : List (List String)} (ok : PhaseOk path file db worker (.reading job sheet locals rest)) :
    PhaseOk path file db worker (read env job sheet locals rest db) := by
  have linked := ok.linked job rfl
  -- a commit of what has been read so far
  have flush : ∀ next, next ≠ .finish →
      PhaseOk path file db worker (.committing job sheet locals rest next) := by
    intro next other
    apply phaseOk_committing linked (ok.own job rfl)
    intro source
    obtain ⟨fits, synced⟩ := ok.fits job rfl source
    exact ⟨fits, synced, fun same => absurd same other⟩
  unfold read
  split
  · split
    · exact phaseOk_failing linked _
    rename_i complete
    split
    · exact phaseOk_failing linked _
    apply phaseOk_committing linked
    · exact ok.own job rfl
    intro source
    obtain ⟨fits, synced⟩ := ok.fits job rfl source
    refine ⟨⟨fits.layout, fits.failure, fits.rest, fits.described⟩, ?_, ?_⟩
    · intro scan stored held
      have before := synced scan stored held
      exact ⟨before.behind, before.batch⟩
    · intro _
      exact ⟨rfl, fits.failure.symm.trans complete⟩
  · split
    · exact flush (.leave .interrupted) (by simp)
    split
    · split
      · exact phaseOk_idle
      split
      · exact flush (.leave .cancelled) (by simp)
      split
      · exact flush (.leave .interrupted) (by simp)
      · exact readRecord_ok ok
    · exact readRecord_ok ok

theorem checkSource_ok {env : Env} {job : Job}
    (known : ∀ id scan, db.scans.get? id = some scan → scan.sourcePath = path →
      Described file.csv id scan.tally)
    (ok : PhaseOk path file db worker (.checking job)) :
    PhaseOk path file db worker (checkSource env job db) := by
  have linked := ok.linked job rfl
  unfold checkSource
  split
  · exact phaseOk_failing linked _
  split
  · exact phaseOk_failing linked _
  split
  · exact phaseOk_idle
  rename_i current stored
  apply phaseOk_of_fits rfl rfl linked
  intro source
  have done := ok.fits job rfl source
  obtain ⟨scan, found, finished⟩ := done
  rw [stored, Option.some.injEq] at found
  subst found
  obtain ⟨before, same, path', -⟩ := linked
  rw [stored, Option.some.injEq] at same
  subst same
  exact ⟨⟨current, stored, finished⟩, finished, known _ _ stored (path'.trans source)⟩

theorem reconcile_ok {job : Job} {current : Scan}
    (ok : PhaseOk path file db worker (.reconciling job current)) :
    PhaseOk path file db worker (reconcile job current db) := by
  have linked := ok.linked job rfl
  unfold reconcile
  split
  · apply phaseOk_of_fits rfl rfl linked
    intro source
    obtain ⟨stored, now⟩ := ok.fits job rfl source
    refine ⟨stored, now, rfl, ?_⟩
    intro entry member
    cases member
  · exact phaseOk_failing linked _

theorem query_ok {job : Job} {current : Scan} {views : List (Query × List RiskRow)} {query : Query}
    {pending : List Query}
    (known : ∀ id scan, db.scans.get? id = some scan → scan.sourcePath = path →
      Ledger file.csv id scan db)
    (ok : PhaseOk path file db worker (.querying job current views (query :: pending))) :
    PhaseOk path file db worker
      (.querying job current (views ++ [(query, db.rowsOf job.id)]) pending) := by
  have linked := ok.linked job rfl
  apply phaseOk_of_fits rfl rfl linked
  intro source
  obtain ⟨stored, now, asked, seen⟩ := ok.fits job rfl source
  refine ⟨stored, now, ?_, ?_⟩
  · rw [List.map_append, List.append_assoc]
    exact asked
  · intro entry member
    rcases List.mem_append.mp member with old | new
    · exact seen entry old
    · obtain ⟨scan, found, done⟩ := stored
      obtain ⟨before, same, path', -⟩ := linked
      rw [found, Option.some.injEq] at same
      subst same
      rw [List.mem_singleton] at new
      rw [new]
      exact rows_of_done (known _ _ found (path'.trans source)) done

theorem resultFor_of_screen {id : String} {scan : Scan} {csv : CsvFile} {signals : Signals}
    (done : Done csv id scan) (described : Described csv id scan.tally)
    (screened : screen scan.tally.valid scan.invoiceColumn
      (fun _ => validRows (entriesOf csv id)) = .ok signals) :
    resultFor csv id = some (resultOf scan.tally scan.invoiceColumn signals) := by
  obtain ⟨headers, columns, layout, invoice⟩ := done.layout
  have tally := tally_of_done described done
  rw [tally, invoice] at screened
  unfold resultFor
  rw [layout, done.readable, tally, invoice]
  simp only [screened]

theorem conclude_ok {job : Job} {current : Scan} {views : List (Query × List RiskRow)}
    (ok : PhaseOk path file db worker (.querying job current views [])) :
    PhaseOk path file db worker (conclude job current views) := by
  have linked := ok.linked job rfl
  unfold conclude
  split
  · rename_i signals screened
    apply phaseOk_of_fits rfl rfl linked
    intro source
    obtain ⟨stored, ⟨done, described⟩, asked, seen⟩ := ok.fits job rfl source
    rw [List.append_nil] at asked
    rw [viewOf_eq asked seen] at screened
    exact resultFor_of_screen done described screened
  · exact phaseOk_failing linked _
  · exact phaseOk_idle

end moves

/-! The steps of the system. -/

section steps
variable {path : String} {file : File} {s s' : System}

theorem Ledger.described {csv : CsvFile} {id : String} {scan : Scan} {db : Db}
    (ledger : Ledger csv id scan db) : Described csv id scan.tally :=
  ⟨ledger.within, ledger.tally⟩

/-- A ledger depends on the counters of its row and on its own rows. -/
theorem Ledger.of_same {csv : CsvFile} {id : String} {scan scan' : Scan} {db db' : Db}
    (ledger : Ledger csv id scan db) (tally : scan'.tally = scan.tally)
    (rows : db'.rowsOf id = db.rowsOf id) : Ledger csv id scan' db' where
  within := tally ▸ ledger.within
  rows := by
    rw [rows, tally]
    exact ledger.rows
  tally := by
    rw [tally]
    exact ledger.tally

/-- A move of one worker that leaves the store as it is. -/
theorem Sound.goTo (sound : Sound path file s) {worker : String} {phase : Phase}
    (ok : PhaseOk path file s.db worker phase) : Sound path file (s.goTo worker phase) where
  signature := sound.signature
  ledger := sound.ledger
  result := sound.result
  filed := sound.filed
  phases other := by
    unfold System.goTo
    by_cases same : other = worker
    · simp only [same, if_true]
      exact ok
    · simp only [same, if_false]
      exact sound.phases other

/-- A row whose ledger a step does not touch; only the `exempt` worker may gain its lease. -/
structure Relabels (exempt : Option String) (scan scan' : Scan) : Prop where
  source : scan'.sourcePath = scan.sourcePath
  signature : scan'.sourceSignature = scan.sourceSignature
  tally : scan'.tally = scan.tally
  invoice : scan'.invoiceColumn = scan.invoiceColumn
  lease : ∀ worker, exempt ≠ some worker → scan'.heldBy worker = true → scan.heldBy worker = true

omit [ScanRuntime] in
theorem relabels_refl (exempt : Option String) (scan : Scan) : Relabels exempt scan scan :=
  ⟨rfl, rfl, rfl, rfl, fun _ _ held => held⟩

theorem Relabels.follows {exempt : Option String} {scan scan' : Scan}
    (relabels : Relabels exempt scan scan') (id : String) :
    Follows path file exempt id scan scan' where
  source := relabels.source
  signature := relabels.signature
  lease worker other held := ⟨relabels.lease worker other held, relabels.tally⟩
  done := by
    intro _ done
    obtain ⟨headers, columns, layout, invoice⟩ := done.layout
    exact ⟨done.readable, ⟨headers, columns, layout, relabels.invoice.trans invoice⟩,
      (congrArg Tally.scanned relabels.tally).trans done.scanned⟩

section relabel
variable (exempt : Option String) {f : String → Scan → Scan}
  (relabels : ∀ id scan, s.db.scans.get? id = some scan → Relabels exempt scan (f id scan))
  (db : s'.db = { s.db with scans := s.db.scans.mapValues f })
include relabels db

theorem relabel_advances : Advances path file exempt s.db s'.db := by
  intro id scan stored
  refine ⟨f id scan, ?_, (relabels id scan stored).follows id⟩
  rw [db, Dict.get?_mapValues, stored]
  rfl

theorem Sound.relabel (sound : Sound path file s)
    (results : ∀ id scan result, s.db.scans.get? id = some scan → scan.sourcePath = path →
      (f id scan).result = some result → resultFor file.csv id = some result)
    (others : ∀ worker, exempt ≠ some worker → s'.phase worker = s.phase worker)
    (actor : ∀ worker, exempt = some worker → PhaseOk path file s'.db worker (s'.phase worker)) :
    Sound path file s' := by
  have rows : s'.db.riskRows = s.db.riskRows := by rw [db]
  have sameRows : ∀ id, s'.db.rowsOf id = s.db.rowsOf id := by
    intro id
    unfold Db.rowsOf
    rw [rows]
  -- every row of the table has been one before
  have back : ∀ id scan', s'.db.scans.get? id = some scan' →
      ∃ scan, s.db.scans.get? id = some scan ∧ scan' = f id scan := by
    intro id scan' stored'
    rw [db, Dict.get?_mapValues, Option.map_eq_some_iff] at stored'
    obtain ⟨scan, stored, same⟩ := stored'
    exact ⟨scan, stored, same.symm⟩
  constructor
  · intro id scan' stored' source
    obtain ⟨scan, stored, rfl⟩ := back id scan' stored'
    have row := relabels id scan stored
    exact row.signature.trans (sound.signature id scan stored (row.source.symm.trans source))
  · intro id scan' stored' source
    obtain ⟨scan, stored, rfl⟩ := back id scan' stored'
    have row := relabels id scan stored
    exact (sound.ledger id scan stored (row.source.symm.trans source)).of_same row.tally
      (sameRows id)
  · intro id scan' result stored' source published
    obtain ⟨scan, stored, rfl⟩ := back id scan' stored'
    have row := relabels id scan stored
    exact results id scan result stored (row.source.symm.trans source) published
  · intro row member
    rw [rows] at member
    obtain ⟨scan, stored⟩ := sound.filed row member
    have advances : Advances path file exempt s.db s'.db := relabel_advances exempt relabels db
    obtain ⟨scan', stored', -⟩ := advances _ _ stored
    exact ⟨scan', stored'⟩
  · intro worker
    by_cases other : exempt = some worker
    · exact actor worker other
    · rw [others worker other]
      exact (sound.phases worker).advance (relabel_advances exempt relabels db) other

end relabel
/-- An update of one row. -/
theorem Sound.update (sound : Sound path file s) (exempt : Option String) {id : String}
    {change : Scan → Scan} (db : s'.db = s.db.update id change)
    (relabels : ∀ scan, s.db.scans.get? id = some scan → Relabels exempt scan (change scan))
    (results : ∀ scan result, s.db.scans.get? id = some scan → scan.sourcePath = path →
      (change scan).result = some result → resultFor file.csv id = some result)
    (others : ∀ worker, exempt ≠ some worker → s'.phase worker = s.phase worker)
    (actor : ∀ worker, exempt = some worker → PhaseOk path file s'.db worker (s'.phase worker)) :
    Sound path file s' := by
  apply Sound.relabel exempt (f := fun key scan => if key = id then change scan else scan) ?_ db
    sound ?_ others actor
  · intro key scan stored
    by_cases here : key = id
    · subst here
      simp only [if_true]
      exact relabels scan stored
    · simp only [here, if_false]
      exact relabels_refl exempt scan
  · intro key scan result stored source published
    by_cases here : key = id
    · subst here
      simp only [if_true] at published
      exact results scan result stored source published
    · simp only [here, if_false] at published
      exact sound.result key scan result stored source published

omit [ScanRuntime] in
theorem goTo_others {worker : String} {phase : Phase} (db : Db) :
    ∀ other, some worker ≠ some other →
      (({ s with db } : System).goTo worker phase).phase other = s.phase other := by
  intro other different
  have apart : other ≠ worker := fun same => different (congrArg some same.symm)
  simp only [System.goTo, apart, if_false]

theorem goTo_actor {worker : String} {phase : Phase} {db db' : Db}
    (ok : PhaseOk path file db' worker phase) :
    ∀ other, some worker = some other →
      PhaseOk path file db' other ((({ s with db } : System).goTo worker phase).phase other) := by
  intro other same
  cases same
  simp only [System.goTo, if_true]
  exact ok

omit [ScanRuntime] in
/-- A row that nobody holds any more. -/
theorem relabels_released {exempt : Option String} {scan scan' : Scan}
    (source : scan'.sourcePath = scan.sourcePath)
    (signature : scan'.sourceSignature = scan.sourceSignature) (tally : scan'.tally = scan.tally)
    (invoice : scan'.invoiceColumn = scan.invoiceColumn)
    (released : scan'.workerId = none ∨
      (scan'.status ≠ .running ∧ scan'.status ≠ .cancelRequested)) :
    Relabels exempt scan scan' := by
  refine ⟨source, signature, tally, invoice, ?_⟩
  intro worker _ held
  obtain ⟨mine, status⟩ := heldBy_iff.mp held
  rcases released with free | left
  · rw [free] at mine
    cases mine
  · rcases status with running | asked
    · exact absurd running left.1
    · exact absurd asked left.2

theorem act_sound (sound : Sound path file s) (env : Env) (action : ScanAction)
    (runId scanId org workspace : String) :
    Sound path file { s with db := actEvent env action runId scanId org workspace s.db } := by
  rcases actEvent_cases env action runId scanId org workspace s.db with
    same | ⟨scan, status, stored, -, next, written⟩
  · rw [same]
    exact sound
  refine sound.update none written ?_ ?_ ?_ nofun
  · intro before same
    rw [stored, Option.some.injEq] at same
    subst same
    refine ⟨rfl, rfl, rfl, rfl, ?_⟩
    intro worker _ held
    obtain ⟨mine, now⟩ := heldBy_iff.mp held
    refine heldBy_iff.mpr ⟨mine, ?_⟩
    -- only a running scan becomes one whose cancellation is requested
    rcases nextStatus_cases next with ⟨-, running, rfl⟩ | ⟨-, -, rfl⟩ | ⟨-, -, rfl⟩
    · exact .inl running
    · simp [relabel] at now
    · simp [relabel] at now
  · intro before result same source published
    exact sound.result scanId before result same source published
  · intro worker _
    rfl

/-- The worker leaves the scan. -/
theorem leave_sound (sound : Sound path file s) {worker : String} {job : Job} {exit : Exit}
    (now : Rat) :
    Sound path file
      (({ s with db := s.db.update job.id (leave now exit) } : System).goTo worker .idle) := by
  refine sound.update (some worker) rfl ?_ ?_ (goTo_others _) (goTo_actor phaseOk_idle)
  · intro scan stored
    exact relabels_released rfl rfl rfl rfl (.inl rfl)
  · intro scan result stored source published
    exact sound.result job.id scan result stored source published

theorem fail_sound (sound : Sound path file s) {worker message : String} {job : Job} (now : Rat) :
    Sound path file
      (({ s with db := s.db.update job.id (fail now worker message) } : System).goTo worker
        .idle) := by
  refine sound.update (some worker) rfl ?_ ?_ (goTo_others _) (goTo_actor phaseOk_idle)
  · intro scan stored
    unfold fail
    split
    · exact relabels_released rfl rfl rfl rfl (.inl rfl)
    · exact relabels_refl _ _
  · intro scan result stored source published
    unfold fail at published
    split at published
    · exact sound.result job.id scan result stored source published
    · exact sound.result job.id scan result stored source published

theorem publish_sound (sound : Sound path file s) {worker : String} {job : Job} {result : PyDict}
    (ok : PhaseOk path file s.db worker (.publishing job result)) (now : Rat) :
    Sound path file
      (({ s with db := s.db.update job.id (publish now worker result) } : System).goTo worker
        .idle) := by
  refine sound.update (some worker) rfl ?_ ?_ (goTo_others _) (goTo_actor phaseOk_idle)
  · intro scan stored
    unfold publish
    split
    · exact relabels_released rfl rfl rfl rfl (.inl rfl)
    split
    · exact relabels_released rfl rfl rfl rfl (.inl rfl)
    · exact relabels_refl _ _
  · intro scan published stored source found
    unfold publish at found
    split at found
    · exact sound.result job.id scan published stored source found
    split at found
    · simp only [Option.some.injEq] at found
      subst found
      obtain ⟨before, same, linked, -⟩ := ok.linked job rfl
      rw [stored, Option.some.injEq] at same
      subst same
      exact ok.fits job rfl (linked.symm.trans source)
    · exact sound.result job.id scan published stored source found

/-- The sweep takes leases away. -/
theorem swept_sound (sound : Sound path file s) (now : Rat) :
    Sound path file { s with db := swept now s.db } := by
  refine Sound.relabel none (f := fun _ => sweep now) ?_ rfl sound ?_ (fun _ _ => rfl) nofun
  · intro id scan stored
    unfold sweep
    split
    · exact relabels_released rfl rfl rfl rfl (.inl rfl)
    split
    · exact relabels_released rfl rfl rfl rfl (.inl rfl)
    · exact relabels_refl _ _
  · intro id scan result stored source published
    have kept : (sweep now scan).result = scan.result := by
      unfold sweep
      split
      · rfl
      split <;> rfl
    exact sound.result id scan result stored source (kept.symm.trans published)

theorem claim_sound (sound : Sound path file s) (env : Env) (worker : String) :
    Sound path file (claimEvent env worker s) := by
  have clean := swept_sound sound env.now
  unfold claimEvent
  rcases claim_cases env.now env.later worker s.db with none | ⟨id, scan, stored, queued, taken⟩
  · rw [none]
    exact clean.goTo phaseOk_idle
  rw [taken]
  dsimp only
  have same : takeLease worker env.later scan =
      { scan with status := .running, workerId := some worker, updatedAt := env.later } := by
    unfold takeLease
    rw [if_pos queued]
  refine clean.update (some worker) rfl ?_ ?_ (goTo_others _) (goTo_actor ?_)
  · intro before found
    have is : before = scan := Option.some.inj (found.symm.trans stored)
    subst is
    rw [same]
    refine ⟨rfl, rfl, rfl, rfl, ?_⟩
    intro other different held
    have mine := (heldBy_iff.mp held).1
    exact absurd mine different
  · intro before result found source published
    have is : before = scan := Option.some.inj (found.symm.trans stored)
    subst is
    rw [same] at published
    exact clean.result id before result stored source published
  · have now := get?_update_self (takeLease worker env.later) stored
    apply phaseOk_of_fits rfl rfl
    · exact ⟨_, now, rfl, rfl⟩
    intro source
    rw [same] at source
    constructor
    · rw [same]
      exact (clean.ledger id scan stored source).described
    · intro after found _
      rw [← Option.some.inj (now.symm.trans found)]

/-! Commits. -/

omit [ScanRuntime] in
theorem follows_refl [ScanRuntime] (exempt : Option String) (id : String) (scan : Scan) :
    Follows path file exempt id scan scan :=
  ⟨rfl, rfl, fun _ _ held => ⟨held, rfl⟩, fun _ done => done⟩

section commit
variable {env : Env} {worker : String} {job : Job} {sheet : Sheet} {locals : Locals}
  {rest : List (List String)} {next : Next} {scan : Scan} {size : Nat} {db : Db}
  (stored : db.scans.get? job.id = some scan) (held : scan.heldBy worker = true)
include stored held

omit [ScanRuntime] held in
theorem commitRows_get? (id : String) :
    (commitRows env.now job.id sheet locals size db).scans.get? id =
      if id = job.id then some (checkpoint env.now sheet locals size scan)
        else db.scans.get? id := by
  unfold commitRows
  rw [get?_update]
  by_cases here : id = job.id
  · subst here
    simp [stored]
  · simp [here]

/-- After a commit the row is as complete as it was. -/
theorem checkpoint_follows
    (ok : PhaseOk path file db worker (.committing job sheet locals rest next))
    (linked : scan.sourcePath = job.scan.sourcePath) :
    Follows path file (some worker) job.id scan (checkpoint env.now sheet locals size scan) where
  source := rfl
  signature := rfl
  lease other different now := by
    have mine := (heldBy_iff.mp held).1
    have theirs := (heldBy_iff.mp now).1
    exact absurd (mine.symm.trans theirs) different
  done := by
    intro source done
    obtain ⟨fits, synced, -⟩ := ok.fits job rfl (linked.symm.trans source)
    have behind := (synced scan stored held).behind
    have within := fits.described.within
    obtain ⟨headers, columns, layout, -⟩ := done.layout
    refine ⟨done.readable, ⟨sheet.headers, sheet.columns, fits.layout, rfl⟩, ?_⟩
    have all := done.scanned
    change locals.tally.scanned = _
    omega

/-- The batch completes the rows of the scan. -/
theorem checkpoint_ledger
    (ok : PhaseOk path file db worker (.committing job sheet locals rest next))
    (source : job.scan.sourcePath = path) (ledger : Ledger file.csv job.id scan db) :
    Ledger file.csv job.id (checkpoint env.now sheet locals size scan)
      (commitRows env.now job.id sheet locals size db) := by
  obtain ⟨fits, synced, -⟩ := ok.fits job rfl source
  obtain ⟨behind, batch⟩ := synced scan stored held
  have own := ok.own job rfl
  refine ⟨fits.described.within, ?_, fits.described.tally⟩
  change (db.riskRows ++ locals.batch).filter (fun row => row.scanId = job.id) =
    validRows ((entriesOf file.csv job.id).take locals.tally.scanned)
  have mine : locals.batch.filter (fun row => row.scanId = job.id) = locals.batch := by
    rw [List.filter_eq_self]
    intro row member
    exact decide_eq_true (own row member)
  have before : db.riskRows.filter (fun row => row.scanId = job.id) =
      validRows ((entriesOf file.csv job.id).take scan.tally.scanned) := ledger.rows
  have first : (entriesOf file.csv job.id).take scan.tally.scanned =
      ((entriesOf file.csv job.id).take locals.tally.scanned).take scan.tally.scanned := by
    rw [List.take_take, Nat.min_eq_left behind]
  rw [List.filter_append, mine, before, batch, first, ← validRows_append, List.take_append_drop]

omit [ScanRuntime] held in
theorem commitRows_linked (linked : Linked db job) :
    Linked (commitRows env.now job.id sheet locals size db) job := by
  obtain ⟨before, found, source, signature⟩ := linked
  have is : before = scan := Option.some.inj (found.symm.trans stored)
  subst is
  refine ⟨checkpoint env.now sheet locals size before, ?_, source, signature⟩
  rw [commitRows_get? stored, if_pos rfl]

omit held in
/-- Where the worker goes after its commit. -/
theorem afterCommit_ok
    (ok : PhaseOk path file db worker (.committing job sheet locals rest next)) :
    PhaseOk path file (commitRows env.now job.id sheet locals size db) worker
      (afterCommit env job sheet locals rest next) := by
  have linked : Linked (commitRows env.now job.id sheet locals size db) job :=
    commitRows_linked stored (ok.linked job rfl)
  have now : (commitRows env.now job.id sheet locals size db).scans.get? job.id =
      some (checkpoint env.now sheet locals size scan) := by
    rw [commitRows_get? stored, if_pos rfl]
  cases next with
  | leave exit => exact phaseOk_leaving linked exit
  | checkpoint =>
    unfold afterCommit
    dsimp only
    split
    · exact phaseOk_failing linked _
    apply phaseOk_reading linked
    · intro row member
      cases member
    intro source
    obtain ⟨fits, -, -⟩ := ok.fits job rfl source
    refine ⟨⟨fits.layout, fits.failure, fits.rest, fits.described⟩, ?_⟩
    intro after found _
    rw [← Option.some.inj (now.symm.trans found)]
    constructor
    · exact le_rfl
    · change [] = validRows (((entriesOf file.csv job.id).take locals.tally.scanned).drop
        locals.tally.scanned)
      rw [List.drop_eq_nil_of_le (List.length_take_le _ _)]
      rfl
  | finish =>
    apply phaseOk_of_fits rfl rfl linked
    intro source
    obtain ⟨fits, -, ended⟩ := ok.fits job rfl source
    obtain ⟨nothing, readable⟩ := ended rfl
    refine ⟨_, now, readable, ⟨sheet.headers, sheet.columns, fits.layout, rfl⟩, ?_⟩
    have within := fits.described.within
    have rest := fits.rest
    rw [nothing, eq_comm, List.drop_eq_nil_iff] at rest
    have length : (entriesOf file.csv job.id).length = file.csv.records.length :=
      entriesOf_length fits.layout
    change locals.tally.scanned = _
    omega

omit [ScanRuntime] stored held in
/-- The rows of other scans are not in a batch of the worker's own. -/
theorem rowsOf_commitRows (own : ∀ row ∈ locals.batch, row.scanId = job.id) {id : String}
    (other : id ≠ job.id) :
    (commitRows env.now job.id sheet locals size db).rowsOf id = db.rowsOf id := by
  change (db.riskRows ++ locals.batch).filter (fun row => row.scanId = id) = _
  have none : locals.batch.filter (fun row => decide (row.scanId = id)) = [] := by
    rw [List.filter_eq_nil_iff]
    intro row member
    rw [own row member]
    simpa using other.symm
  rw [List.filter_append, none, List.append_nil]
  rfl

end commit

theorem commit_sound (sound : Sound path file s) {env : Env} {worker : String} {job : Job}
    {sheet : Sheet} {locals : Locals} {rest : List (List String)} {next : Next} {db : Db}
    (ok : PhaseOk path file s.db worker (.committing job sheet locals rest next))
    (committed : commitBatch env worker job sheet locals s.db = .ok db) :
    Sound path file
      (({ s with db } : System).goTo worker (afterCommit env job sheet locals rest next)) := by
  obtain ⟨scan, size, stored, held, rfl⟩ := commitBatch_ok committed
  have linked : scan.sourcePath = job.scan.sourcePath := by
    obtain ⟨before, found, source, -⟩ := ok.linked job rfl
    have is : before = scan := Option.some.inj (found.symm.trans stored)
    exact is ▸ source
  -- a row of the new table is the scan's own or one of the others
  have rowCases : ∀ id after,
      (commitRows env.now job.id sheet locals size s.db).scans.get? id = some after →
      (id = job.id ∧ after = checkpoint env.now sheet locals size scan) ∨
        (id ≠ job.id ∧ s.db.scans.get? id = some after) := by
    intro id after found
    rw [commitRows_get? stored] at found
    by_cases here : id = job.id
    · rw [if_pos here, Option.some.injEq] at found
      exact .inl ⟨here, found.symm⟩
    · rw [if_neg here] at found
      exact .inr ⟨here, found⟩
  have advances : Advances path file (some worker) s.db
      (commitRows env.now job.id sheet locals size s.db) := by
    intro id before found
    by_cases here : id = job.id
    · subst here
      have is : before = scan := Option.some.inj (found.symm.trans stored)
      subst is
      refine ⟨checkpoint env.now sheet locals size before, ?_,
        checkpoint_follows stored held ok linked⟩
      rw [commitRows_get? stored, if_pos rfl]
    · refine ⟨before, ?_, follows_refl _ _ _⟩
      rw [commitRows_get? stored, if_neg here]
      exact found
  constructor
  · intro id after found source
    rcases rowCases id after found with ⟨rfl, rfl⟩ | ⟨-, old⟩
    · exact sound.signature _ scan stored source
    · exact sound.signature id after old source
  · intro id after found source
    rcases rowCases id after found with ⟨rfl, rfl⟩ | ⟨other, old⟩
    · exact checkpoint_ledger stored held ok (linked.symm.trans source)
        (sound.ledger _ scan stored source)
    · exact (sound.ledger id after old source).of_same rfl (rowsOf_commitRows (ok.own job rfl) other)
  · intro id after result found source published
    rcases rowCases id after found with ⟨rfl, rfl⟩ | ⟨-, old⟩
    · exact sound.result _ scan result stored source published
    · exact sound.result id after result old source published
  · intro row member
    have filed : ∃ before, s.db.scans.get? row.scanId = some before := by
      rcases List.mem_append.mp member with old | new
      · exact sound.filed row old
      · rw [ok.own job rfl row new]
        exact ⟨scan, stored⟩
    obtain ⟨before, known⟩ := filed
    obtain ⟨after, found, -⟩ := advances _ _ known
    exact ⟨after, found⟩
  · intro other
    by_cases mine : some worker = some other
    · exact goTo_actor (afterCommit_ok stored ok) other mine
    · rw [goTo_others _ other mine]
      exact (sound.phases other).advance advances mine

/-- A new scan has no rows and no worker. -/
theorem start_sound (sound : Sound path file s) (env : Env) (key runId source org workspace : String)
    (steady : env.disk path = some file) :
    Sound path file { s with db := startEvent env key runId source org workspace s.db } := by
  rcases startEvent_cases env key runId source org workspace s.db with
    same | ⟨found, disk, fresh, -, started⟩
  · rw [same]
    exact sound
  rw [started]
  have rowCases : ∀ id after,
      (s.db.scans.set key (newScan runId org workspace source found env.now)).get? id = some after →
      (id = key ∧ after = newScan runId org workspace source found env.now) ∨
        s.db.scans.get? id = some after := by
    intro id after stored
    rw [Dict.get?_set] at stored
    by_cases here : key = id
    · rw [if_pos here, Option.some.injEq] at stored
      exact .inl ⟨here.symm, stored.symm⟩
    · rw [if_neg here] at stored
      exact .inr stored
  have kept : ∀ id scan, s.db.scans.get? id = some scan →
      (s.db.scans.set key (newScan runId org workspace source found env.now)).get? id =
        some scan := by
    intro id scan stored
    have other : key ≠ id := by
      rintro rfl
      rw [fresh] at stored
      cases stored
    rw [Dict.get?_set_other _ _ other]
    exact stored
  have advances : Advances path file none s.db { s.db with
      scans := s.db.scans.set key (newScan runId org workspace source found env.now) } :=
    fun id scan stored => ⟨scan, kept id scan stored, follows_refl _ _ _⟩
  have noRows : s.db.rowsOf key = [] := by
    unfold Db.rowsOf
    rw [List.filter_eq_nil_iff]
    intro row member own
    obtain ⟨scan, stored⟩ := sound.filed row member
    rw [of_decide_eq_true own, fresh] at stored
    cases stored
  constructor
  · intro id after stored same
    rcases rowCases id after stored with ⟨rfl, rfl⟩ | old
    · have here : found = file := by
        have path' : source = path := same
        rw [path', steady, Option.some.injEq] at disk
        exact disk.symm
      exact congrArg File.signature here
    · exact sound.signature id after old same
  · intro id after stored same
    rcases rowCases id after stored with ⟨rfl, rfl⟩ | old
    · refine ⟨Nat.zero_le _, ?_, ?_⟩
      · exact noRows
      · rfl
    · exact (sound.ledger id after old same).of_same rfl rfl
  · intro id after result stored same published
    rcases rowCases id after stored with ⟨rfl, rfl⟩ | old
    · cases published
    · exact sound.result id after result old same published
  · intro row member
    obtain ⟨scan, stored⟩ := sound.filed row member
    exact ⟨scan, kept _ scan stored⟩
  · intro worker
    exact (sound.phases worker).advance advances nofun

end steps

end entries
end RiskScan
