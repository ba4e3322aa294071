import AeaiOs.RiskLeases

/-!
Amount cells that end `process_next` by an exception. `abs` rounds in the default context, and
its `decimal.Overflow` is none of the exceptions that make a scan fail.
-/
namespace RiskScan
open PyText OrderedDict RunValues

/-- `abs(x)` raises: rounded to 28 digits, `x` reaches ten to the power of a million. -/
def Decimal.overflows (x : Decimal) : Bool :=
  let y := x.rounded
  decide (y.coefficient ≠ 0) && decide (999999 < y.exponent + digitCount y.coefficient - 1)

section crashes
variable [ScanRuntime]

/-- `_amount_units` raises on the record's cell. -/
def poisons (sheet : Sheet) (record : List String) : Bool :=
  (money (cell sheet.headers record sheet.columns.amount)).any Decimal.overflows

/-- The record whose amount a turn of the loop converts, unless it stops before. -/
def converted (env : Env) (job : Job) (sheet : Sheet) (locals : Locals)
    (rest : List (List String)) (db : Db) : Option (List String) :=
  let stops :=
    env.stop || (decide (locals.tally.scanned % checkpointRows = 0) &&
      match db.scans.get? job.id with
      | none => true
      | some scan => decide (scan.status = .cancelRequested) || env.late)
  if stops || decide (sheet.maxRows < locals.tally.scanned + 1) then none else rest.head?

/-- The worker's next step leaves `process_next` by an exception. -/
def crashes (env : Env) (db : Db) : Phase → Bool
  | .reading job sheet locals rest => (converted env job sheet locals rest db).any (poisons sheet)
  | _ => false

/-- What a step of a worker comes to: an exception that nothing catches leaves the store as it
    is and ends the call. -/
def outcome (s : System) : Event → Event
  | .work env worker =>
      if crashes env s.db (s.phase worker) then .dies worker else .work env worker
  | e => e

def crashStep (s : System) (e : Event) : System := step s (outcome s e)

/-- A run in which workers may crash. -/
def crashRun (s : System) (events : List Event) : System := events.foldl crashStep s

/-- Outside of `process_next` the worker holds no running scan. -/
def Released (worker : String) (s : System) : Prop :=
  s.phase worker = .idle → ∀ id scan, s.db.scans.get? id = some scan →
    ¬ (scan.status = .running ∧ scan.workerId = some worker)

/-- A running scan of the worker is the one that it is at. -/
def Engaged (worker : String) (s : System) : Prop :=
  ∀ id scan, s.db.scans.get? id = some scan → scan.status = .running →
    scan.workerId = some worker → ∃ job, (s.phase worker).job = some job ∧ job.id = id

omit [ScanRuntime] in
theorem Engaged.released {worker : String} {s : System} (engaged : Engaged worker s) :
    Released worker s := by
  intro idle id scan stored ⟨running, own⟩
  obtain ⟨job, is, _⟩ := engaged id scan stored running own
  rw [idle] at is
  cases is

/-! The ledger only grows, so the quartiles of the reconciled rows exist. -/

theorem work_rows (env : Env) (worker : String) (phase : Phase) (db : Db) :
    ∃ more, (work env worker phase db).2.riskRows = db.riskRows ++ more := by
  have unchanged : ∃ more, db.riskRows = db.riskRows ++ more := ⟨[], by simp⟩
  cases phase with
  | committing job sheet locals rest next =>
    unfold work
    dsimp only
    split
    · rename_i db' committed
      obtain ⟨scan, size, _, _, rfl⟩ := commitBatch_ok committed
      exact ⟨locals.batch, rfl⟩
    · exact unchanged
  | querying job current views pending =>
    cases pending with
    | nil => exact unchanged
    | cons query pending => exact unchanged
  | idle => exact unchanged
  | opening => exact unchanged
  | reading => exact unchanged
  | leaving => exact unchanged
  | checking => exact unchanged
  | reconciling => exact unchanged
  | publishing => exact unchanged
  | failing => exact unchanged

omit [ScanRuntime] in
theorem claim_rows (now later : Rat) (worker : String) (db : Db) :
    (claim now later worker db).2.riskRows = db.riskRows := by
  rcases claim_cases now later worker db with none | ⟨id, scan, _, _, taken⟩
  · rw [none]
    rfl
  · rw [taken]
    rfl

theorem step_rows (s : System) (e : Event) :
    ∃ more, (step s e).db.riskRows = s.db.riskRows ++ more := by
  have unchanged : ∃ more, s.db.riskRows = s.db.riskRows ++ more := ⟨[], by simp⟩
  cases e with
  | start env key runId path org workspace =>
    rcases startEvent_cases env key runId path org workspace s.db with same | ⟨_, _, _, _, started⟩
    · exact ⟨[], by simp [step, same]⟩
    · exact ⟨[], by simp [step, started]⟩
  | act env action runId scanId org workspace =>
    rcases actEvent_cases env action runId scanId org workspace s.db with
      same | ⟨_, _, _, _, _, written⟩
    · exact ⟨[], by simp [step, same]⟩
    · exact ⟨[], by simp [step, written, Db.update]⟩
  | claim env worker =>
    unfold step
    dsimp only
    split
    · exact ⟨[], by simp [claimEvent, System.goTo, claim_rows]⟩
    · exact unchanged
  | work env worker => exact work_rows env worker (s.phase worker) s.db
  | raises worker message =>
    unfold step
    dsimp only
    split
    · exact unchanged
    · exact unchanged
    split <;> exact unchanged
  | dies worker => exact unchanged

omit [ScanRuntime] in
theorem rowsOf_grow {db db' : Db} {more : List RiskRow} (grown : db'.riskRows = db.riskRows ++ more)
    (id : String) : (db.rowsOf id).length ≤ (db'.rowsOf id).length := by
  unfold Db.rowsOf
  rw [grown, List.filter_append, List.length_append]
  omega

/-- The queries have found at least the valid rows that were reconciled. -/
def Viewed (db : Db) : Phase → Prop
  | .querying job current views pending =>
      views.map Prod.fst ++ pending = Query.all ∧
        (∀ view ∈ views, current.tally.valid ≤ view.2.length) ∧
        current.tally.valid ≤ (db.rowsOf job.id).length
  | _ => True

omit [ScanRuntime] in
theorem Viewed.grow {db db' : Db} {phase : Phase} {more : List RiskRow} (viewed : Viewed db phase)
    (grown : db'.riskRows = db.riskRows ++ more) : Viewed db' phase := by
  cases phase with
  | querying job current views pending =>
    obtain ⟨asked, found, enough⟩ := viewed
    exact ⟨asked, found, enough.trans (rowsOf_grow grown job.id)⟩
  | _ => trivial

/-- Only the phases of the queries have views. -/
theorem work_viewed {env : Env} {worker : String} {phase : Phase} {db : Db}
    (viewed : Viewed db phase) : Viewed (work env worker phase db).2 (work env worker phase db).1 := by
  cases phase with
  | reconciling job current =>
    unfold work reconcile
    dsimp only
    split
    · rename_i agrees
      simp only [reconciles, Bool.and_eq_true, decide_eq_true_eq] at agrees
      exact ⟨rfl, by simp, agrees.1.ge⟩
    · trivial
  | querying job current views pending =>
    obtain ⟨asked, found, enough⟩ := viewed
    cases pending with
    | nil =>
      unfold work conclude
      dsimp only
      split <;> trivial
    | cons query pending =>
      refine ⟨by simpa using asked, ?_, enough⟩
      intro view member
      rcases List.mem_append.mp member with old | new
      · exact found view old
      · rw [List.mem_singleton.mp new]
        exact enough
  | opening job =>
    unfold work openSource
    dsimp only
    repeat' split
    all_goals trivial
  | reading job sheet locals rest =>
    unfold work read readRecord
    dsimp only
    repeat' split
    all_goals trivial
  | committing job sheet locals rest next =>
    unfold work
    dsimp only
    split
    · cases next with
      | checkpoint =>
        unfold afterCommit
        dsimp only
        split <;> trivial
      | leave => trivial
      | finish => trivial
    · trivial
  | checking job =>
    unfold work checkSource
    dsimp only
    repeat' split
    all_goals trivial
  | _ => trivial

def AllViewed (s : System) : Prop := ∀ worker, Viewed s.db (s.phase worker)

omit [ScanRuntime] in
theorem goTo_viewed {s : System} {db : Db} {more : List RiskRow} (viewed : AllViewed s)
    (grown : db.riskRows = s.db.riskRows ++ more) {worker : String} {phase : Phase}
    (next : Viewed db phase) : AllViewed (({ s with db } : System).goTo worker phase) := by
  intro other
  by_cases same : other = worker
  · rw [same, goTo_phase]
    exact next
  · simp only [System.goTo, same, if_false]
    exact (viewed other).grow grown

theorem step_viewed {s : System} (viewed : AllViewed s) (e : Event) : AllViewed (step s e) := by
  obtain ⟨more, grown⟩ := step_rows s e
  cases e with
  | start => exact fun worker => (viewed worker).grow grown
  | act => exact fun worker => (viewed worker).grow grown
  | claim env worker =>
    unfold step at grown ⊢
    dsimp only at grown ⊢
    split
    · rename_i idle
      rw [idle] at grown
      unfold claimEvent at grown ⊢
      dsimp only at grown ⊢
      refine goTo_viewed viewed grown ?_
      split <;> trivial
    · exact viewed
  | work env worker => exact goTo_viewed viewed grown (work_viewed (viewed worker))
  | raises worker message =>
    unfold step at grown ⊢
    dsimp only at grown ⊢
    split
    · exact viewed
    · exact viewed
    split
    · exact goTo_viewed viewed (List.append_nil _).symm trivial
    · exact viewed
  | dies worker => exact goTo_viewed viewed (List.append_nil _).symm trivial

omit [ScanRuntime] in
theorem amountAt_ok (rows : List RiskRow) {k : Nat} (inside : k < rows.length) :
    ∃ amount, amountAt rows k = .ok amount := by
  unfold amountAt
  have sorted : k < ((rows.map RiskRow.amountUnits).mergeSort fun a b => decide (a ≤ b)).length := by
    simpa using inside
  rw [List.getElem?_eq_getElem sorted]
  exact ⟨_, rfl⟩

omit [ScanRuntime] in
theorem percentile_ok {first second : List RiskRow} {n quarters : Nat} (some : 0 < n)
    (part : quarters ≤ 4) (low : n ≤ first.length) (high : n ≤ second.length) :
    ∃ amount, percentile first second n quarters = .ok amount := by
  have bound : (n - 1) * quarters ≤ (n - 1) * 4 := Nat.mul_le_mul_left _ part
  have inFirst : (n - 1) * quarters / 4 < first.length := by omega
  obtain ⟨a, lower⟩ := amountAt_ok first inFirst
  unfold percentile
  simp only [lower, bind, Except.bind, pure, Except.pure]
  by_cases whole : (n - 1) * quarters % 4 = 0
  · rw [if_pos whole]
    exact ⟨a, rfl⟩
  · have inSecond : (n - 1) * quarters / 4 + 1 < second.length := by omega
    obtain ⟨b, upper⟩ := amountAt_ok second inSecond
    rw [if_neg whole, upper]
    exact ⟨_, rfl⟩

omit [ScanRuntime] in
theorem screen_ok {n : Nat} {view : Query → List RiskRow} (invoiceColumn : Bool)
    (enough : ∀ query, n ≤ (view query).length) :
    ∃ signals, screen n invoiceColumn view = .ok signals := by
  have quarters : ∃ q, quartiles n view = .ok q := by
    unfold quartiles
    by_cases four : 4 ≤ n
    · obtain ⟨q1, first⟩ := percentile_ok (by omega) (by omega : 1 ≤ 4) (enough .firstLow)
        (enough .firstHigh)
      obtain ⟨q3, third⟩ := percentile_ok (by omega) (by omega : 3 ≤ 4) (enough .thirdLow)
        (enough .thirdHigh)
      exact ⟨some (q1, q3), by simp [four, first, third, bind, Except.bind, pure, Except.pure]⟩
    · exact ⟨none, by simp [four, pure, Except.pure]⟩
  obtain ⟨q, found⟩ := quarters
  unfold screen
  simp only [found, bind, Except.bind, pure, Except.pure]
  exact ⟨_, rfl⟩

omit [ScanRuntime] in
theorem viewOf_enough {views : List (Query × List RiskRow)} {n : Nat}
    (asked : views.map Prod.fst = Query.all) (found : ∀ view ∈ views, n ≤ view.2.length)
    (query : Query) : n ≤ (viewOf views query).length := by
  unfold viewOf
  cases answer : lookupEntries views query with
  | none =>
    rw [lookupEntries_none, asked] at answer
    exact absurd (by cases query <;> decide) answer
  | some rows => exact found (query, rows) (mem_of_lookupEntries answer)

/-- Once all queries have answered, the result is published. -/
theorem conclude_publishes {job : Job} {current : Scan} {views : List (Query × List RiskRow)}
    {db : Db} (viewed : Viewed db (.querying job current views [])) :
    ∃ result, conclude job current views = .publishing job result := by
  obtain ⟨asked, found, _⟩ := viewed
  obtain ⟨signals, screened⟩ := screen_ok current.invoiceColumn
    (viewOf_enough (by simpa using asked) found)
  unfold conclude
  rw [screened]
  exact ⟨_, rfl⟩

/-! The worker that holds a scan lets go of it. -/

omit [ScanRuntime] in
/-- A running scan of a worker was one before, or the worker has just claimed it. -/
theorem leased_origin {s : System} {e : Event} {id worker : String} {scan' : Scan}
    (row : RowStep s e id scan') (running : scan'.status = .running)
    (mine : scan'.workerId = some worker) :
    claimedBy s e = some (worker, id) ∨
      ∃ scan, s.db.scans.get? id = some scan ∧ scan.status = .running ∧
        scan.workerId = some worker := by
  rcases worker_origin row mine with claimed | ⟨scan, stored, own, moved⟩
  · exact .inl claimed
  rcases moved with same | ⟨disk, action, next⟩
  · exact .inr ⟨scan, stored, same ▸ running, own⟩
  · rw [running] at next
    rcases nextStatus_cases next with ⟨-, -, status⟩ | ⟨-, -, status⟩ | ⟨-, -, status⟩ <;>
      cases status

/-- The worker stays with the scan, or the scan is not running under its id. -/
def LetsGo (worker : String) (job : Job) (phase : Phase) (db : Db) : Prop :=
  phase.job = some job ∨ ∀ scan, db.scans.get? job.id = some scan →
    ¬ (scan.status = .running ∧ scan.workerId = some worker)

omit [ScanRuntime] in
theorem letsGo_update {worker : String} {job : Job} {phase : Phase} {db : Db}
    {change : Scan → Scan}
    (ends : ∀ scan, ¬ ((change scan).status = .running ∧ (change scan).workerId = some worker)) :
    LetsGo worker job phase (db.update job.id change) := by
  refine .inr ?_
  intro scan stored
  rw [get?_update, Option.map_eq_some_iff] at stored
  obtain ⟨before, _, same⟩ := stored
  rw [if_pos rfl] at same
  exact same ▸ ends before

theorem work_letsGo (env : Env) (worker : String) {job : Job} {phase : Phase} {db : Db}
    (viewed : Viewed db phase) (is : phase.job = some job) :
    LetsGo worker job (work env worker phase db).1 (work env worker phase db).2 := by
  have missing : db.scans.get? job.id = none → LetsGo worker job .idle db := by
    intro none
    refine .inr ?_
    intro scan stored
    rw [none] at stored
    cases stored
  cases phase with
  | idle => cases is
  | opening other =>
    cases is
    unfold work openSource
    dsimp only
    repeat' split
    all_goals exact .inl rfl
  | reading other sheet locals rest =>
    cases is
    unfold work read readRecord
    dsimp only
    repeat' split
    all_goals first
      | exact .inl rfl
      | exact missing ‹_›
  | committing other sheet locals rest next =>
    cases is
    unfold work
    dsimp only
    split
    · cases next with
      | checkpoint =>
        unfold afterCommit
        dsimp only
        split <;> exact .inl rfl
      | leave => exact .inl rfl
      | finish => exact .inl rfl
    · exact .inl rfl
  | leaving other exit =>
    cases is
    apply letsGo_update
    intro scan freed
    have running := freed.1
    cases exit <;> cases running
  | checking other =>
    cases is
    unfold work checkSource
    dsimp only
    repeat' split
    all_goals first
      | exact .inl rfl
      | exact missing ‹_›
  | reconciling other current =>
    cases is
    unfold work reconcile
    dsimp only
    split <;> exact .inl rfl
  | querying other current views pending =>
    cases is
    cases pending with
    | nil =>
      obtain ⟨result, published⟩ := conclude_publishes viewed
      refine .inl ?_
      unfold work
      dsimp only
      rw [published]
      rfl
    | cons query pending => exact .inl rfl
  | publishing other result =>
    cases is
    apply letsGo_update
    intro scan freed
    obtain ⟨running, own⟩ := freed
    unfold publish at running own
    split at running
    · cases running
    rename_i first
    rw [if_neg first] at own
    split at running
    · cases running
    rename_i second
    rw [if_neg second] at own
    simp [running, own] at second
  | failing other message =>
    cases is
    apply letsGo_update
    intro scan freed
    obtain ⟨running, own⟩ := freed
    unfold fail at running own
    split at running
    · cases running
    rename_i first
    rw [if_neg first] at own
    exact first own

/-- Whoever else acts, a worker stays where it is. -/
theorem phase_others {s : System} {e : Event} {worker : String} (other : e.worker ≠ some worker) :
    (step s e).phase worker = s.phase worker := by
  have apart : ∀ actor, some actor ≠ some worker → worker ≠ actor := by
    intro actor different same
    exact different (congrArg some same.symm)
  cases e with
  | start => rfl
  | act => rfl
  | claim env actor =>
    unfold step
    dsimp only
    split
    · simp [claimEvent, System.goTo, apart actor other]
    · rfl
  | work env actor => simp [step, workEvent, System.goTo, apart actor other]
  | raises actor message =>
    unfold step
    dsimp only
    split
    · rfl
    · rfl
    split
    · simp [System.goTo, apart actor other]
    · rfl
  | dies actor => simp [step, System.goTo, apart actor other]

theorem step_letsGo {s : System} {e : Event} {worker : String} {job : Job}
    (viewed : AllViewed s) (alive : e ≠ .dies worker) (is : (s.phase worker).job = some job) :
    LetsGo worker job ((step s e).phase worker) (step s e).db := by
  by_cases other : e.worker ≠ some worker
  · exact .inl ((phase_others other).symm ▸ is)
  rw [ne_eq, Decidable.not_not] at other
  cases e with
  | start => cases other
  | act => cases other
  | claim env actor =>
    cases other
    refine .inl ?_
    unfold step
    dsimp only
    split
    · rename_i idle
      rw [idle] at is
      cases is
    · exact is
  | work env actor =>
    cases other
    have moved := work_letsGo env worker (viewed worker) is
    unfold LetsGo at moved ⊢
    simp only [step, workEvent, goTo_phase]
    exact moved
  | raises actor message =>
    cases other
    refine .inl ?_
    unfold step
    dsimp only
    split
    · rename_i idle
      rw [idle] at is
      cases is
    · exact is
    rw [is]
    simp only [goTo_phase]
    rfl
  | dies actor =>
    cases other
    exact absurd rfl alive

/-- Whoever has claimed a scan opens it next. -/
theorem claimed_phase {s : System} {e : Event} {worker id : String}
    (claimed : claimedBy s e = some (worker, id)) :
    ∃ job, ((step s e).phase worker).job = some job ∧ job.id = id := by
  unfold claimedBy at claimed
  split at claimed
  · rename_i env actor
    split at claimed
    · rename_i idle
      obtain ⟨job, found, same⟩ := Option.map_eq_some_iff.mp claimed
      simp only [Prod.mk.injEq] at same
      obtain ⟨rfl, rfl⟩ := same
      refine ⟨job, ?_, rfl⟩
      unfold step
      dsimp only
      rw [idle]
      dsimp only
      unfold claimEvent
      dsimp only
      rw [goTo_phase, found]
      rfl
    · cases claimed
  · cases claimed

theorem engaged_step {s : System} {e : Event} {worker : String} (engaged : Engaged worker s)
    (viewed : AllViewed s) (alive : e ≠ .dies worker) : Engaged worker (step s e) := by
  intro id scan' stored running own
  rcases leased_origin (step_row stored) running own with claimed | ⟨scan, known, was, mine⟩
  · exact claimed_phase claimed
  · obtain ⟨job, is, same⟩ := engaged id scan known was mine
    rcases step_letsGo viewed alive is with stays | gone
    · exact ⟨job, stays, same⟩
    · subst same
      exact absurd ⟨running, own⟩ (gone scan' stored)

/-! Runs in which a worker meets no such cell. -/

/-- The process of the worker is not killed, and its step does not convert an amount that
    overflows. -/
def safe (worker : String) (s : System) : Event → Bool
  | .dies actor => actor ≠ worker
  | .work env actor => actor ≠ worker || !crashes env s.db (s.phase actor)
  | _ => true

/-- All steps of the run are safe for the worker. -/
def unpoisoned (worker : String) : System → List Event → Bool
  | _, [] => true
  | s, e :: rest => safe worker s e && unpoisoned worker (crashStep s e) rest

theorem outcome_alive {worker : String} {s : System} {e : Event} (clean : safe worker s e = true) :
    outcome s e ≠ .dies worker := by
  cases e with
  | work env actor =>
    by_cases crashed : crashes env s.db (s.phase actor) = true
    · simp only [outcome, crashed, if_true, ne_eq, Event.dies.injEq]
      intro same
      subst same
      simp [safe, crashed] at clean
    · simp [outcome, crashed]
  | dies actor =>
    intro died
    cases died
    simp [safe] at clean
  | start => exact nofun
  | act => exact nofun
  | claim => exact nofun
  | raises => exact nofun

theorem run_engaged {worker : String} {s : System} {events : List Event}
    (engaged : Engaged worker s) (viewed : AllViewed s)
    (clean : unpoisoned worker s events = true) : Engaged worker (crashRun s events) := by
  induction events generalizing s with
  | nil => exact engaged
  | cons e rest ih =>
    simp only [unpoisoned, Bool.and_eq_true] at clean
    exact ih (engaged_step engaged viewed (outcome_alive clean.1)) (step_viewed viewed _) clean.2

/-- A running scan has the worker's id. -/
def Holds (worker : String) (s : System) : Prop :=
  ∃ id scan, s.db.scans.get? id = some scan ∧ scan.status = .running ∧
    scan.workerId = some worker

/-- A worker whose steps are all safe leaves no scan running under its id when it returns. A
    step that meets an overflowing amount does, unless the scan was taken from the worker. -/
theorem no_scan_left_running (worker : String) (events : List Event) :
    (unpoisoned worker {} events = true → Released worker (crashRun {} events)) ∧
      ∀ env, crashes env (crashRun {} events).db ((crashRun {} events).phase worker) = true →
        Holds worker (crashRun {} events) →
        ¬ Released worker (crashStep (crashRun {} events) (.work env worker)) := by
  constructor
  · intro clean
    have engaged : Engaged worker {} := fun _ _ stored => nomatch stored
    have viewed : AllViewed {} := fun _ => trivial
    exact (run_engaged engaged viewed clean).released
  · intro env crashed ⟨id, scan, stored, running, own⟩ released
    have dies : crashStep (crashRun {} events) (.work env worker) =
        (crashRun {} events).goTo worker .idle := by
      rw [crashStep, outcome, if_pos crashed]
      rfl
    rw [dies] at released
    exact released (goTo_phase worker .idle) id scan stored ⟨running, own⟩

end crashes

def poisoned : File where
  signature := "s1"
  sizeBytes := 50
  csv := {
    headers := .ok ["supplier", "category", "amount"]
    records := [["Acme", "Office", "1e1000000"]]
    failure := none }

def poisonedAt (now : Rat) : Env := { calm now with disk := fun _ => some poisoned }

/-- The worker crashes, and after the stale timeout the scan is claimed again and crashes the
    next worker. -/
def relapse : List Event :=
  [.start (poisonedAt 0) "risk_1" "run_1" "/data.csv" "acme" "main",
    .claim (poisonedAt 1) "a", .work (poisonedAt 1) "a", .work (poisonedAt 1) "a",
    .claim (poisonedAt 200) "b", .work (poisonedAt 200) "b", .work (poisonedAt 200) "b"]

/-- The worker of the row that a scan is running under -/
def runningUnder (id : String) (s : System) : Option String :=
  ((s.db.scans.get? id).filter fun scan => scan.status = .running).bind Scan.workerId

theorem poisoned_scan_left_running :
    let _ := plainScans
    (∀ worker, Event.dies worker ∉ relapse) ∧ ¬ Released "a" (crashRun {} (relapse.take 4)) ∧
      ¬ Released "b" (crashRun {} relapse) := by
  intro _
  have left : ∀ worker s, runningUnder "risk_1" s = some worker →
      (s.phase worker).job.isNone = true → ¬ Released worker s := by
    intro worker s under idle released
    obtain ⟨scan, found, own⟩ := Option.bind_eq_some_iff.mp under
    obtain ⟨stored, running⟩ := Option.filter_eq_some_iff.mp found
    refine released ?_ "risk_1" scan stored ⟨by simpa using running, own⟩
    cases is : s.phase worker <;> simp_all [Phase.job]
  refine ⟨?_, left _ _ (by decide +kernel) (by decide +kernel),
    left _ _ (by decide +kernel) (by decide +kernel)⟩
  intro worker member
  simp [relapse] at member

/-- An amount that is no number only counts as invalid. -/
theorem relay_releases : let _ := plainScans
    Released "a" (crashRun {} relay) := by
  intro _
  exact (no_scan_left_running "a" relay).1 (by decide +kernel)

end RiskScan
