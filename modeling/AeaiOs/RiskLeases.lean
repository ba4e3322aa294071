import AeaiOs.RiskResume

/-!
The statuses of the scans under all interleavings of the API's calls with the steps of the
workers: who may still change a scan, and how many scans of a run are active.
-/
namespace RiskScan
open PyText OrderedDict RunValues

section rows
variable [ScanRuntime]

/-- The worker and the scan of an event that claims one. -/
def claimedBy (s : System) : Event → Option (String × String)
  | .claim env worker =>
      match s.phase worker with
      | .idle => (claim env.now env.later worker s.db).1.map fun job => (worker, job.id)
      | _ => none
  | _ => none

/-- A row after a step: one case for each statement that writes one. -/
inductive RowStep (s : System) (e : Event) (id : String) : Scan → Prop where
  | same (scan : Scan) (stored : s.db.scans.get? id = some scan) : RowStep s e id scan
  | inserted (env : Env) (runId path org workspace : String) (file : File)
      (is : e = .start env id runId path org workspace) (fresh : s.db.scans.get? id = none)
      (alone : ∀ other scan, s.db.scans.get? other = some scan →
        ¬ (scan.ownedBy runId org workspace = true ∧ scan.active = true)) :
      RowStep s e id (newScan runId org workspace path file env.now)
  | acted (env : Env) (action : ScanAction) (runId org workspace : String) (scan : Scan)
      (status : ScanStatus) (is : e = .act env action runId id org workspace)
      (stored : s.db.scans.get? id = some scan)
      (owned : scan.ownedBy runId org workspace = true)
      (next : nextStatus env.disk scan action = .ok status) :
      RowStep s e id (relabel env.now status scan)
  | swept (env : Env) (worker : String) (scan : Scan) (is : e = .claim env worker)
      (stored : s.db.scans.get? id = some scan) : RowStep s e id (sweep env.now scan)
  | taken (env : Env) (worker : String) (scan : Scan) (is : e = .claim env worker)
      (claimed : claimedBy s e = some (worker, id)) (stored : s.db.scans.get? id = some scan)
      (queued : (sweep env.now scan).status = .queued) :
      RowStep s e id (takeLease worker env.later (sweep env.now scan))
  | committed (env : Env) (worker : String) (job : Job) (sheet : Sheet) (locals : Locals)
      (size : Nat) (scan : Scan) (is : e = .work env worker)
      (stored : s.db.scans.get? id = some scan) (held : scan.heldBy worker = true) :
      RowStep s e id (checkpoint env.now sheet locals size scan)
  | left (env : Env) (worker : String) (job : Job) (exit : Exit) (scan : Scan)
      (is : e = .work env worker) (phase : s.phase worker = .leaving job exit) (own : job.id = id)
      (stored : s.db.scans.get? id = some scan) : RowStep s e id (leave env.now exit scan)
  | published (env : Env) (worker : String) (job : Job) (result : PyDict) (scan : Scan)
      (is : e = .work env worker) (phase : s.phase worker = .publishing job result)
      (own : job.id = id) (stored : s.db.scans.get? id = some scan) :
      RowStep s e id (publish env.now worker result scan)
  | failed (env : Env) (worker : String) (job : Job) (message : String) (scan : Scan)
      (is : e = .work env worker) (phase : s.phase worker = .failing job message)
      (own : job.id = id) (stored : s.db.scans.get? id = some scan) :
      RowStep s e id (fail env.now worker message scan)

omit [ScanRuntime] in
theorem update_cases {db : Db} {id key : String} {change : Scan → Scan} {scan' : Scan}
    (stored : (db.update id change).scans.get? key = some scan') :
    (key = id ∧ ∃ scan, db.scans.get? key = some scan ∧ scan' = change scan) ∨
      db.scans.get? key = some scan' := by
  rw [get?_update, Option.map_eq_some_iff] at stored
  obtain ⟨scan, found, same⟩ := stored
  by_cases here : key = id
  · rw [if_pos here] at same
    exact .inl ⟨here, scan, found, same.symm⟩
  · rw [if_neg here] at same
    exact .inr (same ▸ found)

omit [ScanRuntime] in
theorem claim_row {s : System} {env : Env} {worker id : String} {scan' : Scan}
    (idle : s.phase worker = .idle)
    (stored : (claimEvent env worker s).db.scans.get? id = some scan') :
    RowStep s (.claim env worker) id scan' := by
  have sweeping : ∀ key after, (swept env.now s.db).scans.get? key = some after →
      ∃ scan, s.db.scans.get? key = some scan ∧ after = sweep env.now scan := by
    intro key after found
    unfold swept at found
    rw [Dict.get?_mapValues, Option.map_eq_some_iff] at found
    obtain ⟨scan, known, same⟩ := found
    exact ⟨scan, known, same.symm⟩
  unfold claimEvent at stored
  rcases claim_cases env.now env.later worker s.db with none | ⟨key, scan, found, queued, taken⟩
  · rw [none] at stored
    obtain ⟨scan, known, rfl⟩ := sweeping id scan' stored
    exact .swept env worker scan rfl known
  · rw [taken] at stored
    rcases update_cases stored with ⟨rfl, before, there, rfl⟩ | there
    · have is : before = scan := Option.some.inj (there.symm.trans found)
      subst is
      have claimed : claimedBy s (.claim env worker) = some (worker, id) := by
        unfold claimedBy
        dsimp only
        rw [idle]
        dsimp only
        rw [taken]
        rfl
      obtain ⟨old, known, rfl⟩ := sweeping id before there
      exact .taken env worker old rfl claimed known queued
    · obtain ⟨old, known, rfl⟩ := sweeping id scan' there
      exact .swept env worker old rfl known

theorem work_row {s : System} {env : Env} {worker id : String} {scan' : Scan}
    (stored : (workEvent env worker s).db.scans.get? id = some scan') :
    RowStep s (.work env worker) id scan' := by
  cases is : s.phase worker with
  | idle =>
    rw [workEvent_eq env is] at stored
    exact .same scan' stored
  | opening =>
    rw [workEvent_eq env is] at stored
    exact .same scan' stored
  | reading =>
    rw [workEvent_eq env is] at stored
    exact .same scan' stored
  | committing job sheet locals rest next =>
    rw [workEvent_eq env is] at stored
    unfold work at stored
    dsimp only at stored
    split at stored
    · rename_i db committed
      obtain ⟨scan, size, known, held, rfl⟩ := commitBatch_ok committed
      rcases update_cases stored with ⟨rfl, before, found, rfl⟩ | found
      · have same : before = scan := Option.some.inj (found.symm.trans known)
        exact .committed env worker job sheet locals size before rfl found (same ▸ held)
      · exact .same scan' found
    · exact .same scan' stored
  | leaving job exit =>
    rw [workEvent_eq env is] at stored
    rcases update_cases stored with ⟨rfl, scan, found, rfl⟩ | found
    · exact .left env worker job exit scan rfl is rfl found
    · exact .same scan' found
  | checking =>
    rw [workEvent_eq env is] at stored
    exact .same scan' stored
  | reconciling =>
    rw [workEvent_eq env is] at stored
    exact .same scan' stored
  | querying job current views pending =>
    rw [workEvent_eq env is] at stored
    cases pending with
    | nil => exact .same scan' stored
    | cons query pending => exact .same scan' stored
  | publishing job result =>
    rw [workEvent_eq env is] at stored
    rcases update_cases stored with ⟨rfl, scan, found, rfl⟩ | found
    · exact .published env worker job result scan rfl is rfl found
    · exact .same scan' found
  | failing job message =>
    rw [workEvent_eq env is] at stored
    rcases update_cases stored with ⟨rfl, scan, found, rfl⟩ | found
    · exact .failed env worker job message scan rfl is rfl found
    · exact .same scan' found

/-- What a step can do to a row. -/
theorem step_row {s : System} {e : Event} {id : String} {scan' : Scan}
    (stored : (step s e).db.scans.get? id = some scan') : RowStep s e id scan' := by
  cases e with
  | start env key runId path org workspace =>
    change (startEvent env key runId path org workspace s.db).scans.get? id = some scan' at stored
    rcases startEvent_cases env key runId path org workspace s.db with
      same | ⟨file, -, fresh, alone, started⟩
    · rw [same] at stored
      exact .same scan' stored
    · rw [started] at stored
      by_cases here : key = id
      · subst here
        rw [Dict.get?_set_self, Option.some.injEq] at stored
        subst stored
        exact .inserted env runId path org workspace file rfl fresh alone
      · rw [Dict.get?_set_other _ _ here] at stored
        exact .same scan' stored
  | act env action runId scanId org workspace =>
    change (actEvent env action runId scanId org workspace s.db).scans.get? id = some scan' at stored
    rcases actEvent_cases env action runId scanId org workspace s.db with
      same | ⟨scan, status, known, owned, next, written⟩
    · rw [same] at stored
      exact .same scan' stored
    · rw [written] at stored
      rcases update_cases stored with ⟨rfl, before, found, rfl⟩ | found
      · have same : before = scan := Option.some.inj (found.symm.trans known)
        subst same
        exact .acted env action runId org workspace before status rfl found owned next
      · exact .same scan' found
  | claim env worker =>
    unfold step at stored
    dsimp only at stored
    split at stored
    · rename_i idle
      exact claim_row idle stored
    · exact .same scan' stored
  | work env worker => exact work_row stored
  | raises worker message =>
    unfold step at stored
    dsimp only at stored
    split at stored
    · exact .same scan' stored
    · exact .same scan' stored
    · split at stored
      · exact .same scan' stored
      · exact .same scan' stored
  | dies worker => exact .same scan' stored

/-! One active scan. -/

def SameTenant (scan scan' : Scan) : Prop :=
  scan'.runId = scan.runId ∧ scan'.org = scan.org ∧ scan'.workspace = scan.workspace

/-- At most one scan of a run, an organization and a workspace is active. -/
def AtMostOneActive (db : Db) : Prop :=
  ∀ id scan id' scan', db.scans.get? id = some scan → db.scans.get? id' = some scan' →
    scan.active = true → scan'.active = true → SameTenant scan scan' → id = id'

/-- The event resumes a scan. -/
structure Resumes (s : System) (e : Event) (id : String) (scan : Scan) : Prop where
  stored : s.db.scans.get? id = some scan
  asked : ∃ env, e = .act env .resume scan.runId id scan.org scan.workspace ∧
    nextStatus env.disk scan .resume = .ok .queued

/-- No scan of the tenant is active. -/
def NoneActive (db : Db) (tenant : Scan) : Prop :=
  ∀ id scan, db.scans.get? id = some scan → SameTenant tenant scan → scan.active = false

omit [ScanRuntime] in
theorem sweep_active (now : Rat) (scan : Scan) (active : (sweep now scan).active = true) :
    scan.active = true := by
  unfold sweep at active
  split at active
  · rename_i running
    simp only [Bool.and_eq_true, decide_eq_true_eq] at running
    simp [Scan.active, running.1]
  split at active
  · simp [Scan.active] at active
  · exact active

omit [ScanRuntime] in
theorem sweep_tenant (now : Rat) (scan : Scan) : SameTenant scan (sweep now scan) := by
  unfold sweep
  split
  · exact ⟨rfl, rfl, rfl⟩
  split
  · exact ⟨rfl, rfl, rfl⟩
  · exact ⟨rfl, rfl, rfl⟩

omit [ScanRuntime] in
theorem exit_not_active (now : Rat) (exit : Exit) (scan : Scan) :
    (leave now exit scan).active = false := by
  cases exit <;> rfl

omit [ScanRuntime] in
/-- An active scan was active before the step, or the step has opened it. -/
theorem active_origin {s : System} {e : Event} {id : String} {scan' : Scan}
    (row : RowStep s e id scan') (active : scan'.active = true) :
    (∃ scan, s.db.scans.get? id = some scan ∧ scan.active = true ∧ SameTenant scan scan') ∨
      (∃ env runId path org workspace, e = .start env id runId path org workspace ∧
        NoneActive s.db scan') ∨
      ∃ scan, Resumes s e id scan ∧ SameTenant scan scan' := by
  cases row with
  | same _ stored => exact .inl ⟨scan', stored, active, rfl, rfl, rfl⟩
  | inserted env runId path org workspace file is fresh alone =>
    refine .inr (.inl ⟨env, runId, path, org, workspace, is, ?_⟩)
    rintro other scan stored ⟨run, orgs, spaces⟩
    have none := alone other scan stored
    rw [Bool.eq_false_iff]
    intro busy
    refine none ⟨?_, busy⟩
    simp only [Scan.ownedBy, Bool.and_eq_true, decide_eq_true_eq]
    exact ⟨⟨run, orgs⟩, spaces⟩
  | acted env action runId org workspace scan status is stored owned next =>
    rcases nextStatus_cases next with ⟨-, running, -⟩ | ⟨-, waiting, -⟩ | ⟨rfl, -, rfl⟩
    · exact .inl ⟨scan, stored, by simp [Scan.active, running], rfl, rfl, rfl⟩
    · refine .inl ⟨scan, stored, ?_, rfl, rfl, rfl⟩
      rcases waiting with queued | asked
      · simp [Scan.active, queued]
      · simp [Scan.active, asked]
    · simp only [Scan.ownedBy, Bool.and_eq_true, decide_eq_true_eq] at owned
      obtain ⟨⟨rfl, rfl⟩, rfl⟩ := owned
      exact .inr (.inr ⟨scan, ⟨stored, env, is, next⟩, rfl, rfl, rfl⟩)
  | swept env worker scan is stored =>
    exact .inl ⟨scan, stored, sweep_active _ _ active, sweep_tenant _ _⟩
  | taken env worker scan is claimed stored queued =>
    refine .inl ⟨scan, stored, sweep_active env.now scan ?_, ?_⟩
    · simp [Scan.active, queued]
    · have tenant := sweep_tenant env.now scan
      unfold takeLease
      rw [if_pos queued]
      exact tenant
  | committed env worker job sheet locals size scan is stored held =>
    exact .inl ⟨scan, stored, active, rfl, rfl, rfl⟩
  | left env worker job exit scan is phase own stored =>
    rw [exit_not_active] at active
    cases active
  | published env worker job result scan is phase own stored =>
    refine .inl ⟨scan, stored, ?_, ?_⟩
    · unfold publish at active
      split at active
      · simp [Scan.active] at active
      split at active
      · simp [Scan.active] at active
      · exact active
    · unfold publish
      split
      · exact ⟨rfl, rfl, rfl⟩
      split
      · exact ⟨rfl, rfl, rfl⟩
      · exact ⟨rfl, rfl, rfl⟩
  | failed env worker job message scan is phase own stored =>
    refine .inl ⟨scan, stored, ?_, ?_⟩
    · unfold fail at active
      split at active
      · simp [Scan.active] at active
      · exact active
    · unfold fail
      split
      · exact ⟨rfl, rfl, rfl⟩
      · exact ⟨rfl, rfl, rfl⟩

omit [ScanRuntime] in
theorem sameTenant_symm {a b : Scan} (h : SameTenant a b) : SameTenant b a :=
  ⟨h.1.symm, h.2.1.symm, h.2.2.symm⟩

omit [ScanRuntime] in
theorem sameTenant_trans {a b c : Scan} (first : SameTenant a b) (second : SameTenant b c) :
    SameTenant a c :=
  ⟨second.1.trans first.1, second.2.1.trans first.2.1, second.2.2.trans first.2.2⟩

omit [ScanRuntime] in
theorem NoneActive.of_tenant {db : Db} {a b : Scan} (none : NoneActive db a)
    (same : SameTenant a b) : NoneActive db b :=
  fun id scan stored tenant => none id scan stored (sameTenant_trans same tenant)

/-- Only a resumed scan can become a second active one. -/
theorem step_atMostOne {s : System} {e : Event} (one : AtMostOneActive s.db)
    (alone : ∀ id scan, Resumes s e id scan → NoneActive s.db scan) :
    AtMostOneActive (step s e).db := by
  -- a scan that the step has opened is the only active one of its tenant
  have opened : ∀ id scan' (row : RowStep s e id scan'), scan'.active = true →
      (∃ scan, s.db.scans.get? id = some scan ∧ scan.active = true ∧ SameTenant scan scan') ∨
        (NoneActive s.db scan' ∧ ∀ other, (∃ env runId path org workspace,
          e = .start env other runId path org workspace) ∨
          (∃ scan, Resumes s e other scan) → other = id) := by
    intro id scan' row active
    rcases active_origin row active with old | ⟨env, runId, path, org, workspace, is, none⟩ |
      ⟨scan, resumes, same⟩
    · exact .inl old
    · refine .inr ⟨none, ?_⟩
      rintro other (⟨_, _, _, _, _, is'⟩ | ⟨_, ⟨_, _, is', -⟩⟩)
      · rw [is] at is'
        cases is'
        rfl
      · rw [is] at is'
        cases is'
    · refine .inr ⟨(alone id scan resumes).of_tenant same, ?_⟩
      obtain ⟨_, env, is, -⟩ := resumes
      rintro other (⟨_, _, _, _, _, is'⟩ | ⟨_, ⟨_, _, is', -⟩⟩)
      · rw [is] at is'
        cases is'
      · rw [is, Event.act.injEq] at is'
        exact is'.2.2.2.1.symm
  intro id scan id' scan' stored stored' active active' tenant
  have row := step_row stored
  have row' := step_row stored'
  rcases opened id scan row active with ⟨old, known, busy, same⟩ | ⟨none, unique⟩
  · rcases opened id' scan' row' active' with ⟨old', known', busy', same'⟩ | ⟨none', unique'⟩
    · have between := sameTenant_trans (sameTenant_trans same tenant) (sameTenant_symm same')
      exact one id old id' old' known known' busy busy' between
    · have quiet := none' id old known (sameTenant_symm (sameTenant_trans same tenant))
      rw [busy] at quiet
      cases quiet
  · rcases active_origin row' active' with ⟨old', known', busy', same'⟩ |
      ⟨env, runId, path, org, workspace, is, -⟩ | ⟨old', resumes, -⟩
    · have quiet := none id' old' known' (sameTenant_trans tenant (sameTenant_symm same'))
      rw [busy'] at quiet
      cases quiet
    · exact (unique id' (.inl ⟨env, runId, path, org, workspace, is⟩)).symm
    · exact (unique id' (.inr ⟨old', resumes⟩)).symm

/-- A resumed scan is active after the step, and the others are as they were. -/
theorem resumes_step {s : System} {e : Event} {id : String} {scan : Scan}
    (resumes : Resumes s e id scan) :
    (∃ scan', (step s e).db.scans.get? id = some scan' ∧ scan'.active = true ∧
      SameTenant scan scan') ∧
      ∀ other, other ≠ id → (step s e).db.scans.get? other = s.db.scans.get? other := by
  obtain ⟨stored, env, rfl, next⟩ := resumes
  have owned : (s.db.scans.get? id).filter (Scan.ownedBy scan.runId scan.org scan.workspace) =
      some scan := by
    rw [stored, Option.filter_some, if_pos]
    simp [Scan.ownedBy]
  have written : actEvent env .resume scan.runId id scan.org scan.workspace s.db =
      s.db.update id (relabel env.now .queued) := by
    unfold actEvent setScanAction
    rw [owned]
    dsimp only
    rw [next]
    rfl
  change (∃ scan', (actEvent env .resume scan.runId id scan.org scan.workspace s.db).scans.get? id =
      some scan' ∧ _) ∧ ∀ other, other ≠ id →
    (actEvent env .resume scan.runId id scan.org scan.workspace s.db).scans.get? other = _
  rw [written]
  constructor
  · exact ⟨_, get?_update_self _ stored, rfl, rfl, rfl, rfl⟩
  · intro other different
    exact get?_update_other _ _ different

theorem run_append (s : System) (before : List Event) (e : Event) :
    run s (before ++ [e]) = step (run s before) e := by
  unfold run
  rw [List.foldl_append]
  rfl

/-- In every state of a run at most one scan of a tenant is active, exactly if no scan of the run
is resumed while another scan of its tenant is active. -/
theorem one_active_scan (events : List Event) :
    (∀ before after, events = before ++ after → AtMostOneActive (run {} before).db) ↔
      ∀ before e after, events = before ++ e :: after →
        ∀ id scan, Resumes (run {} before) e id scan → NoneActive (run {} before).db scan := by
  constructor
  · intro always before e after split id scan resumes other scan' stored tenant
    have next := always (before ++ [e]) after (by simp [split])
    rw [run_append] at next
    obtain ⟨⟨scan'', stored'', active, same⟩, others⟩ := resumes_step resumes
    obtain ⟨known, env, -, opens⟩ := resumes
    by_cases here : other = id
    · -- the resumed scan itself was not active
      subst here
      have is : scan' = scan := Option.some.inj (stored.symm.trans known)
      subst is
      rcases nextStatus_cases opens with ⟨differs, -⟩ | ⟨differs, -⟩ | ⟨-, stopped, -⟩
      · cases differs
      · cases differs
      · rcases stopped with cancelled | failed | interrupted
        · simp [Scan.active, cancelled]
        · simp [Scan.active, failed]
        · simp [Scan.active, interrupted]
    · rw [Bool.eq_false_iff]
      intro busy
      have there := (others other here).trans stored
      have between : SameTenant scan' scan'' := sameTenant_trans (sameTenant_symm tenant) same
      exact here (next other scan' id scan'' there stored'' busy active between)
  · intro alone before
    induction before using List.reverseRecOn with
    | nil =>
      intro after _ id scan id' scan' stored
      cases stored
    | append_singleton before e ih =>
      intro after split
      rw [run_append]
      apply step_atMostOne
      · exact ih (e :: after) (by simp [split])
      · exact alone before e after (by simp [split])

end rows

/-- A cancelled scan that is resumed after its run has started another one. -/
def revived : List Event :=
  [.start (calm 0) "risk_1" "run_1" "/data.csv" "acme" "main",
    .act (calm 1) .cancel "run_1" "risk_1" "acme" "main",
    .start (calm 2) "risk_2" "run_1" "/data.csv" "acme" "main",
    .act (calm 3) .resume "run_1" "risk_1" "acme" "main"]

theorem revived_scan_is_second :
    let _ := plainScans
    ¬ ∀ events before after, events = before ++ after → AtMostOneActive (run {} before).db := by
  intro _ always
  have one := always revived revived [] (by simp)
  have first : ((run {} revived).db.scans.get? "risk_1").map
      (fun scan => (scan.active, scan.runId, scan.org, scan.workspace)) =
        some (true, "run_1", "acme", "main") := by
    decide +kernel
  have second : ((run {} revived).db.scans.get? "risk_2").map
      (fun scan => (scan.active, scan.runId, scan.org, scan.workspace)) =
        some (true, "run_1", "acme", "main") := by
    decide +kernel
  obtain ⟨scan, stored, same⟩ := Option.map_eq_some_iff.mp first
  obtain ⟨scan', stored', same'⟩ := Option.map_eq_some_iff.mp second
  simp only [Prod.mk.injEq] at same same'
  have tenant : SameTenant scan scan' :=
    ⟨same'.2.1.trans same.2.1.symm, same'.2.2.1.trans same.2.2.1.symm,
      same'.2.2.2.trans same.2.2.2.symm⟩
  exact absurd (one "risk_1" scan "risk_2" scan' stored stored' same.1 same'.1 tenant) (by decide)

/-! Scans out of a worker's hands. -/

section hands
variable [ScanRuntime]

/-- Which scans each worker has claimed, and which of them it has since lost to a cancellation or
to a resumption. -/
structure Watched where
  system : System := {}
  held : String → String → Bool := fun _ _ => false
  out : String → String → Bool := fun _ _ => false

def statusOf (id : String) (db : Db) : Option ScanStatus := (db.scans.get? id).map Scan.status

def Event.isResume : Event → Bool
  | .act _ .resume _ _ _ _ => true
  | _ => false

/-- The scan becomes cancelled, or a resumption queues it. -/
def givesBack (s : System) (e : Event) (id : String) : Bool :=
  let before := statusOf id s.db
  let after := statusOf id (step s e).db
  (decide (after = some .cancelled) && decide (before ≠ some .cancelled)) ||
    (e.isResume && decide (after = some .queued) && decide (before ≠ some .queued))

def watchStep (t : Watched) (e : Event) : Watched where
  system := step t.system e
  held worker id := decide (claimedBy t.system e = some (worker, id)) || t.held worker id
  out worker id :=
    !decide (claimedBy t.system e = some (worker, id)) &&
      (t.out worker id || (t.held worker id && givesBack t.system e id))

def watch (events : List Event) : Watched := events.foldl watchStep {}

/-- The worker whose step an event is. -/
def Event.worker : Event → Option String
  | .start _ _ _ _ _ _ => none
  | .act _ _ _ _ _ _ => none
  | .claim _ worker => some worker
  | .work _ worker => some worker
  | .raises worker _ => some worker
  | .dies worker => some worker

/-- Status, error, counters and ledger rows of a scan. -/
def visible (id : String) (db : Db) : Option (ScanStatus × Option String × Tally) × List RiskRow :=
  ((db.scans.get? id).map fun scan => (scan.status, scan.error, scan.tally), db.rowsOf id)

/-- No step of a worker that has lost a scan changes it, unless the worker claims it again. -/
def OutOfHands (events : List Event) : Prop :=
  ∀ before e after, events = before ++ e :: after → ∀ worker id,
    (watch before).out worker id = true → e.worker = some worker →
      claimedBy (watch before).system e ≠ some (worker, id) →
      visible id (watch (before ++ [e])).system.db = visible id (watch before).system.db

/-- The statements of a worker that ask too little of the row: the unconditional update after the
last commit, the publication where a cancellation is requested, the failure of a scan whose row
still names the worker, and the sweep of a stale scan. -/
def Oversteps (s : System) (e : Event) (worker id : String) : Prop :=
  ∃ scan, s.db.scans.get? id = some scan ∧
    match e with
    | .work _ _ =>
        match s.phase worker with
        | .leaving job exit => job.id = id ∧ scan.status ≠ exit.status
        | .publishing job _ => job.id = id ∧ scan.status = .cancelRequested
        | .failing job _ => job.id = id ∧ scan.workerId = some worker
        | _ => False
    | .claim env _ =>
        s.phase worker = .idle ∧ (scan.status = .running ∨ scan.status = .cancelRequested) ∧
          scan.stale env.now = true
    | _ => False

theorem watch_append (before : List Event) (e : Event) :
    watch (before ++ [e]) = watchStep (watch before) e := by
  unfold watch
  rw [List.foldl_append]
  rfl

theorem watch_system (events : List Event) : (watch events).system = run {} events := by
  induction events using List.reverseRecOn with
  | nil => rfl
  | append_singleton before e ih =>
    rw [watch_append, run_append, ← ih]
    rfl

/-- A scan that a worker has lost and that still names it is cancelled or waits in the queue. -/
def Freed (t : Watched) : Prop :=
  ∀ worker id scan, t.out worker id = true → t.system.db.scans.get? id = some scan →
    scan.workerId = some worker → scan.status = .cancelled ∨ scan.status = .queued

omit [ScanRuntime] in
/-- The worker of a row is kept or has just claimed it; where it is kept, only an action of the
API moves the status. -/
theorem worker_origin {s : System} {e : Event} {id worker : String} {scan' : Scan}
    (row : RowStep s e id scan') (mine : scan'.workerId = some worker) :
    claimedBy s e = some (worker, id) ∨
      ∃ scan, s.db.scans.get? id = some scan ∧ scan.workerId = some worker ∧
        (scan'.status = scan.status ∨
          ∃ disk action, nextStatus disk scan action = .ok scan'.status) := by
  cases row with
  | same _ stored => exact .inr ⟨scan', stored, mine, .inl rfl⟩
  | inserted env runId path org workspace file is fresh alone => cases mine
  | acted env action runId org workspace scan status is stored owned next =>
    exact .inr ⟨scan, stored, mine, .inr ⟨env.disk, action, next⟩⟩
  | swept env other scan is stored =>
    have kept : sweep env.now scan = scan := by
      unfold sweep at mine ⊢
      split at mine
      · cases mine
      rename_i first
      rw [if_neg first]
      split at mine
      · cases mine
      rename_i second
      rw [if_neg second]
    rw [kept] at mine ⊢
    exact .inr ⟨scan, stored, mine, .inl rfl⟩
  | taken env other scan is claimed stored queued =>
    unfold takeLease at mine
    rw [if_pos queued] at mine
    simp only [Option.some.injEq] at mine
    exact .inl (mine ▸ claimed)
  | committed env other job sheet locals size scan is stored held =>
    exact .inr ⟨scan, stored, mine, .inl rfl⟩
  | left env other job exit scan is phase own stored => cases mine
  | published env other job result scan is phase own stored =>
    have kept : publish env.now other result scan = scan := by
      unfold publish at mine ⊢
      split at mine
      · cases mine
      rename_i first
      rw [if_neg first]
      split at mine
      · cases mine
      rename_i second
      rw [if_neg second]
    rw [kept] at mine ⊢
    exact .inr ⟨scan, stored, mine, .inl rfl⟩
  | failed env other job message scan is phase own stored =>
    have kept : fail env.now other message scan = scan := by
      unfold fail at mine ⊢
      split at mine
      · cases mine
      rename_i first
      rw [if_neg first]
    rw [kept] at mine ⊢
    exact .inr ⟨scan, stored, mine, .inl rfl⟩

theorem freed_step {t : Watched} (freed : Freed t) (e : Event) : Freed (watchStep t e) := by
  intro worker id scan' out stored mine
  simp only [watchStep, Bool.and_eq_true, Bool.not_eq_true', decide_eq_false_iff_not,
    Bool.or_eq_true] at out
  obtain ⟨unclaimed, lost | ⟨-, back⟩⟩ := out
  · rcases worker_origin (step_row stored) mine with claimed | ⟨scan, known, old, moved⟩
    · exact absurd claimed unclaimed
    have before := freed worker id scan lost known old
    rcases moved with same | ⟨disk, action, next⟩
    · rw [same]
      exact before
    · rcases nextStatus_cases next with ⟨-, running, -⟩ | ⟨-, -, cancelled⟩ | ⟨-, -, queued⟩
      · rw [running] at before
        rcases before with h | h
        · cases h
        · cases h
      · exact .inl cancelled
      · exact .inr queued
  · have status : statusOf id (step t.system e).db = some scan'.status := by
      change ((step t.system e).db.scans.get? id).map Scan.status = _
      have here : (step t.system e).db.scans.get? id = some scan' := stored
      rw [here]
      rfl
    simp only [givesBack, status, Bool.or_eq_true, Bool.and_eq_true, decide_eq_true_eq,
      Option.some.injEq] at back
    rcases back with ⟨cancelled, -⟩ | ⟨⟨-, queued⟩, -⟩
    · exact .inl cancelled
    · exact .inr queued

theorem watch_freed (events : List Event) : Freed (watch events) := by
  induction events using List.reverseRecOn with
  | nil => exact fun _ _ _ _ stored => nomatch stored
  | append_singleton before e ih =>
    rw [watch_append]
    exact freed_step ih e

/-! The rows of a batch are of the scan that the worker is at. -/

def OwnBatches (s : System) : Prop :=
  ∀ worker job, (s.phase worker).job = some job →
    ∀ row ∈ (s.phase worker).batch, row.scanId = job.id

/-- The batch of one phase. -/
def OwnBatch (phase : Phase) : Prop :=
  ∀ job, phase.job = some job → ∀ row ∈ phase.batch, row.scanId = job.id

omit [ScanRuntime] in
theorem ownBatch_nil {phase : Phase} (empty : phase.batch = []) : OwnBatch phase := by
  intro job _ row member
  rw [empty] at member
  cases member

omit [ScanRuntime] in
theorem OwnBatches.goTo {s : System} (own : OwnBatches s) {worker : String} {phase : Phase}
    (next : OwnBatch phase) (db : Db) :
    OwnBatches (({ s with db } : System).goTo worker phase) := by
  intro other job is
  by_cases same : other = worker
  · subst same
    rw [goTo_phase] at is ⊢
    exact next job is
  · simp only [System.goTo, same, if_false] at is ⊢
    exact own other job is

theorem readRecord_ownBatch {env : Env} {job : Job} {sheet : Sheet} {locals : Locals}
    {record : List String} {rest : List (List String)}
    (own : ∀ row ∈ locals.batch, row.scanId = job.id) :
    OwnBatch (readRecord env job sheet locals record rest) := by
  have more : ∀ row ∈ (locals.record (riskRow job.id sheet.headers sheet.columns
      (locals.tally.scanned + 1) record)).batch, row.scanId = job.id := record_own own
  unfold readRecord
  dsimp only
  split
  · exact ownBatch_nil rfl
  split
  · intro _ is
    cases is
    exact more
  · intro _ is
    cases is
    exact more

theorem read_ownBatch {env : Env} {job : Job} {sheet : Sheet} {locals : Locals}
    {rest : List (List String)} {db : Db} (own : ∀ row ∈ locals.batch, row.scanId = job.id) :
    OwnBatch (read env job sheet locals rest db) := by
  have flush : ∀ locals' next rest', locals'.batch = locals.batch →
      OwnBatch (.committing job sheet locals' rest' next) := by
    intro locals' next rest' same _ is
    cases is
    change ∀ row ∈ locals'.batch, _
    rw [same]
    exact own
  unfold read
  split
  · split
    · exact ownBatch_nil rfl
    split
    · exact ownBatch_nil rfl
    · exact flush _ _ _ rfl
  · split
    · exact flush _ _ _ rfl
    split
    · split
      · exact ownBatch_nil rfl
      split
      · exact flush _ _ _ rfl
      split
      · exact flush _ _ _ rfl
      · exact readRecord_ownBatch own
    · exact readRecord_ownBatch own

/-- Apart from the loop no phase has a batch. -/
theorem work_ownBatch {env : Env} {worker : String} {phase : Phase} {db : Db}
    (own : OwnBatch phase) : OwnBatch (work env worker phase db).1 := by
  cases phase with
  | idle => exact ownBatch_nil rfl
  | opening job =>
    unfold work openSource
    dsimp only
    repeat' split
    all_goals exact ownBatch_nil rfl
  | reading job sheet locals rest => exact read_ownBatch (own job rfl)
  | committing job sheet locals rest next =>
    unfold work
    dsimp only
    split
    · cases next with
      | leave => exact ownBatch_nil rfl
      | checkpoint =>
        unfold afterCommit
        dsimp only
        split <;> exact ownBatch_nil rfl
      | finish => exact ownBatch_nil rfl
    · exact ownBatch_nil rfl
  | leaving => exact ownBatch_nil rfl
  | checking job =>
    unfold work checkSource
    dsimp only
    repeat' split
    all_goals exact ownBatch_nil rfl
  | reconciling job current =>
    unfold work reconcile
    dsimp only
    split <;> exact ownBatch_nil rfl
  | querying job current views pending =>
    cases pending with
    | nil =>
      unfold work conclude
      dsimp only
      split <;> exact ownBatch_nil rfl
    | cons query pending => exact ownBatch_nil rfl
  | publishing => exact ownBatch_nil rfl
  | failing => exact ownBatch_nil rfl

theorem step_ownBatches {s : System} (own : OwnBatches s) (e : Event) : OwnBatches (step s e) := by
  cases e with
  | start => exact own
  | act => exact own
  | claim env worker =>
    unfold step
    dsimp only
    split
    · unfold claimEvent
      dsimp only
      apply own.goTo
      split <;> exact ownBatch_nil rfl
    · exact own
  | work env worker => exact own.goTo (work_ownBatch (own worker)) _
  | raises worker message =>
    unfold step
    dsimp only
    split
    · exact own
    · exact own
    split
    · exact own.goTo (ownBatch_nil rfl) s.db
    · exact own
  | dies worker => exact own.goTo (ownBatch_nil rfl) s.db

theorem run_ownBatches (events : List Event) : OwnBatches (run {} events) := by
  induction events using List.reverseRecOn with
  | nil => exact fun _ _ is => nomatch is
  | append_singleton before e ih =>
    rw [run_append]
    exact step_ownBatches ih e

/-! What the step of a worker that has lost a scan changes of it. -/

section overstep
variable {db : Db} {id key : String} {change : Scan → Scan}

omit [ScanRuntime] in
theorem visible_update_other (other : id ≠ key) :
    visible id (db.update key change) = visible id db := by
  unfold visible
  rw [get?_update_other _ _ other]
  rfl

omit [ScanRuntime] in
theorem visible_update_absent (absent : db.scans.get? id = none) :
    visible id (db.update id change) = visible id db := by
  unfold visible
  rw [get?_update, absent]
  rfl

omit [ScanRuntime] in
/-- An update that keeps the counters is seen in the status or the error. -/
theorem visible_update {scan : Scan} (stored : db.scans.get? id = some scan)
    (tally : (change scan).tally = scan.tally) :
    visible id (db.update id change) = visible id db ↔
      (change scan).status = scan.status ∧ (change scan).error = scan.error := by
  unfold visible
  rw [get?_update_self _ stored, stored]
  simp only [Option.map_some, Prod.mk.injEq, Option.some.injEq, tally, and_true]
  constructor
  · exact fun same => same.1
  · exact fun same => ⟨same, rfl⟩

end overstep

section lost
variable {t : Watched} {worker id : String} {env : Env}
  (freed : Freed t) (lost : t.out worker id = true)
include freed lost

omit [ScanRuntime] in
/-- The worker does not hold the scan. -/
theorem not_held_of_out {scan : Scan} (stored : t.system.db.scans.get? id = some scan) :
    scan.heldBy worker = false := by
  rw [Bool.eq_false_iff]
  intro held
  obtain ⟨mine, running⟩ := heldBy_iff.mp held
  rcases freed worker id scan lost stored mine with status | status
  · rw [status] at running
    rcases running with h | h <;> cases h
  · rw [status] at running
    rcases running with h | h <;> cases h

omit [ScanRuntime] in
theorem commit_unseen {job : Job} {sheet : Sheet} {locals : Locals} {db : Db}
    (own : ∀ row ∈ locals.batch, row.scanId = job.id)
    (committed : commitBatch env worker job sheet locals t.system.db = .ok db) :
    visible id db = visible id t.system.db := by
  obtain ⟨scan, size, stored, held, rfl⟩ := commitBatch_ok committed
  have other : id ≠ job.id := by
    rintro rfl
    rw [not_held_of_out freed lost stored] at held
    cases held
  have rows : (commitRows env.now job.id sheet locals size t.system.db).rowsOf id =
      t.system.db.rowsOf id := rowsOf_commitRows own other
  unfold visible
  rw [rows]
  unfold commitRows
  rw [get?_update_other _ _ other]

omit [ScanRuntime] freed lost in
theorem leave_unseen {job : Job} {exit : Exit} :
    visible id (t.system.db.update job.id (leave env.now exit)) = visible id t.system.db ↔
      ¬ ∃ scan, t.system.db.scans.get? id = some scan ∧ job.id = id ∧
        scan.status ≠ exit.status := by
  by_cases here : id = job.id
  swap
  · refine iff_of_true (visible_update_other here) ?_
    rintro ⟨_, _, own, _⟩
    exact here own.symm
  subst here
  cases stored : t.system.db.scans.get? job.id with
  | none => exact iff_of_true (visible_update_absent stored) fun ⟨_, found, _⟩ => nomatch found
  | some scan =>
    rw [visible_update stored rfl]
    constructor
    · rintro ⟨status, -⟩ ⟨other, found, -, differs⟩
      rw [← Option.some.inj found] at differs
      exact differs status.symm
    · intro same
      refine ⟨?_, rfl⟩
      by_contra differs
      exact same ⟨scan, rfl, rfl, fun equal => differs equal.symm⟩

omit [ScanRuntime] in
theorem publish_unseen {job : Job} {result : PyDict} :
    visible id (t.system.db.update job.id (publish env.now worker result)) =
        visible id t.system.db ↔
      ¬ ∃ scan, t.system.db.scans.get? id = some scan ∧ job.id = id ∧
        scan.status = .cancelRequested := by
  by_cases here : id = job.id
  swap
  · refine iff_of_true (visible_update_other here) ?_
    rintro ⟨_, _, own, _⟩
    exact here own.symm
  subst here
  cases stored : t.system.db.scans.get? job.id with
  | none => exact iff_of_true (visible_update_absent stored) fun ⟨_, found, _⟩ => nomatch found
  | some scan => ?_
  have tally : (publish env.now worker result scan).tally = scan.tally := by
    unfold publish
    split
    · rfl
    split <;> rfl
  rw [visible_update stored tally]
  by_cases asked : scan.status = .cancelRequested
  · refine iff_of_false ?_ (fun none => none ⟨scan, rfl, rfl, asked⟩)
    unfold publish
    rw [if_pos asked, asked]
    simp
  · have kept : publish env.now worker result scan = scan := by
      have idle : ¬ (scan.status = .running && scan.workerId = some worker) = true := by
        simp only [Bool.and_eq_true, decide_eq_true_eq]
        rintro ⟨running, mine⟩
        have free := not_held_of_out freed lost stored
        rw [heldBy_iff.mpr ⟨mine, .inl running⟩] at free
        cases free
      unfold publish
      rw [if_neg asked, if_neg idle]
    rw [kept]
    refine iff_of_true ⟨rfl, rfl⟩ ?_
    rintro ⟨other, found, -, status⟩
    have is : other = scan := (Option.some.inj found).symm
    exact asked (is ▸ status)

omit [ScanRuntime] in
theorem fail_unseen {job : Job} {message : String} :
    visible id (t.system.db.update job.id (fail env.now worker message)) =
        visible id t.system.db ↔
      ¬ ∃ scan, t.system.db.scans.get? id = some scan ∧ job.id = id ∧
        scan.workerId = some worker := by
  by_cases here : id = job.id
  swap
  · refine iff_of_true (visible_update_other here) ?_
    rintro ⟨_, _, own, _⟩
    exact here own.symm
  subst here
  cases stored : t.system.db.scans.get? job.id with
  | none => exact iff_of_true (visible_update_absent stored) fun ⟨_, found, _⟩ => nomatch found
  | some scan => ?_
  have tally : (fail env.now worker message scan).tally = scan.tally := by
    unfold fail
    split <;> rfl
  rw [visible_update stored tally]
  unfold fail
  by_cases mine : scan.workerId = some worker
  · rw [if_pos mine]
    refine iff_of_false ?_ (fun none => none ⟨scan, rfl, rfl, mine⟩)
    -- what a lost row says is not a failure
    rintro ⟨failed, -⟩
    rcases freed worker job.id scan lost stored mine with status | status
    · rw [status] at failed
      cases failed
    · rw [status] at failed
      cases failed
  · rw [if_neg mine]
    refine iff_of_true ⟨rfl, rfl⟩ ?_
    rintro ⟨other, found, -, same⟩
    have is : other = scan := (Option.some.inj found).symm
    exact mine (is ▸ same)

end lost

omit [ScanRuntime] in
/-- The sweep is seen where the scan is stale. -/
theorem sweep_unseen {db : Db} {id : String} (now : Rat) :
    visible id (swept now db) = visible id db ↔
      ¬ ∃ scan, db.scans.get? id = some scan ∧
        (scan.status = .running ∨ scan.status = .cancelRequested) ∧ scan.stale now = true := by
  have found : (swept now db).scans.get? id = (db.scans.get? id).map (sweep now) := by
    unfold swept
    rw [Dict.get?_mapValues]
  unfold visible
  rw [found]
  cases stored : db.scans.get? id with
  | none => exact iff_of_true rfl fun ⟨_, known, _⟩ => nomatch known
  | some scan =>
    have rows : (swept now db).rowsOf id = db.rowsOf id := rfl
    simp only [Option.map_some, rows, Prod.mk.injEq, and_true, Option.some.injEq, exists_eq_left']
    unfold sweep
    by_cases stale : scan.stale now = true
    · by_cases running : scan.status = .running
      · simp [running, stale]
      · by_cases asked : scan.status = .cancelRequested
        · simp [asked, stale]
        · simp [running, asked, stale]
    · simp [stale]

omit [ScanRuntime] in
theorem claim_unseen {s : System} {env : Env} {worker id : String} (idle : s.phase worker = .idle)
    (unclaimed : claimedBy s (.claim env worker) ≠ some (worker, id)) :
    visible id (claimEvent env worker s).db = visible id (swept env.now s.db) := by
  unfold claimedBy at unclaimed
  dsimp only at unclaimed
  rw [idle] at unclaimed
  dsimp only at unclaimed
  unfold claimEvent
  rcases claim_cases env.now env.later worker s.db with none | ⟨key, scan, found, queued, taken⟩
  · rw [none]
    rfl
  · rw [taken] at unclaimed ⊢
    have other : id ≠ key := by
      rintro rfl
      exact unclaimed rfl
    exact visible_update_other other

omit [ScanRuntime] in
theorem not_exists_false {p : Scan → Prop} : ¬ ∃ scan, p scan ∧ False := by
  simp

/-- A step of a worker that has lost a scan leaves the scan as it is, unless it oversteps. -/
theorem step_unseen {t : Watched} {e : Event} {worker id : String} (freed : Freed t)
    (own : OwnBatches t.system) (lost : t.out worker id = true) (actor : e.worker = some worker)
    (unclaimed : claimedBy t.system e ≠ some (worker, id)) :
    visible id (step t.system e).db = visible id t.system.db ↔
      ¬ Oversteps t.system e worker id := by
  unfold Oversteps
  cases e with
  | start => cases actor
  | act => cases actor
  | raises other message =>
    refine iff_of_true ?_ not_exists_false
    unfold step
    dsimp only
    split
    · rfl
    · rfl
    split <;> rfl
  | dies other => exact iff_of_true rfl not_exists_false
  | claim env other =>
    cases actor
    unfold step
    dsimp only
    split
    · rename_i idle
      rw [claim_unseen idle unclaimed, sweep_unseen]
      constructor
      · intro none oversteps
        obtain ⟨scan, found, _, rest⟩ := oversteps
        exact none ⟨scan, found, rest⟩
      · intro none stale
        obtain ⟨scan, found, rest⟩ := stale
        exact none ⟨scan, found, idle, rest⟩
    · rename_i busy
      apply iff_of_true rfl
      intro oversteps
      obtain ⟨_, _, idle, _⟩ := oversteps
      exact busy idle
  | work env other =>
    cases actor
    change visible id (workEvent env worker t.system).db = _ ↔ _
    dsimp only
    cases is : t.system.phase worker with
    | idle =>
      rw [workEvent_eq env is]
      exact iff_of_true rfl not_exists_false
    | opening =>
      rw [workEvent_eq env is]
      exact iff_of_true rfl not_exists_false
    | reading =>
      rw [workEvent_eq env is]
      exact iff_of_true rfl not_exists_false
    | committing job sheet locals rest next =>
      rw [workEvent_eq env is]
      refine iff_of_true ?_ not_exists_false
      have rows : ∀ row ∈ locals.batch, row.scanId = job.id := by
        have mine := own worker job
        rw [is] at mine
        exact mine rfl
      unfold work
      dsimp only
      split
      · rename_i db committed
        exact commit_unseen freed lost rows committed
      · rfl
    | leaving job exit =>
      rw [workEvent_eq env is]
      exact leave_unseen
    | checking =>
      rw [workEvent_eq env is]
      exact iff_of_true rfl not_exists_false
    | reconciling =>
      rw [workEvent_eq env is]
      exact iff_of_true rfl not_exists_false
    | querying job current views pending =>
      rw [workEvent_eq env is]
      cases pending with
      | nil => exact iff_of_true rfl not_exists_false
      | cons query pending => exact iff_of_true rfl not_exists_false
    | publishing job result =>
      rw [workEvent_eq env is]
      exact publish_unseen freed lost
    | failing job message =>
      rw [workEvent_eq env is]
      exact fail_unseen freed lost

/-- In a run a lost scan stays as it is under the steps of the workers that have lost it, exactly
if none of these steps is one of the statements that ask too little of the row. -/
theorem out_of_hands (events : List Event) :
    OutOfHands events ↔
      ∀ before e after, events = before ++ e :: after → ∀ worker id,
        (watch before).out worker id = true → e.worker = some worker →
          claimedBy (watch before).system e ≠ some (worker, id) →
          ¬ Oversteps (watch before).system e worker id := by
  have steps : ∀ before e worker id, (watch before).out worker id = true →
      e.worker = some worker → claimedBy (watch before).system e ≠ some (worker, id) →
      (visible id (watch (before ++ [e])).system.db = visible id (watch before).system.db ↔
        ¬ Oversteps (watch before).system e worker id) := by
    intro before e worker id lost actor unclaimed
    have own : OwnBatches (watch before).system := by
      rw [watch_system]
      exact run_ownBatches before
    rw [watch_append]
    exact step_unseen (watch_freed before) own lost actor unclaimed
  constructor
  · intro kept before e after split worker id lost actor unclaimed
    exact (steps before e worker id lost actor unclaimed).mp
      (kept before e after split worker id lost actor unclaimed)
  · intro guarded before e after split worker id lost actor unclaimed
    exact (steps before e worker id lost actor unclaimed).mpr
      (guarded before e after split worker id lost actor unclaimed)

end hands

/-- The worker is told twice to cancel and the scan is resumed before it commits. -/
def overruled : List Event :=
  [.start (calm 0) "risk_1" "run_1" "/data.csv" "acme" "main",
    .claim (calm 1) "a", .work (calm 1) "a",
    .act (calm 2) .cancel "run_1" "risk_1" "acme" "main", .work (calm 2) "a",
    .act (calm 3) .cancel "run_1" "risk_1" "acme" "main",
    .act (calm 4) .resume "run_1" "risk_1" "acme" "main", .work (calm 5) "a"]

/-- Its commit is refused, and the queued scan becomes a failed one. -/
theorem overruled_worker_fails_scan :
    let _ := plainScans
    ¬ ∀ events, OutOfHands events := by
  intro _ always
  have kept := always (overruled ++ [.work (calm 5) "a"]) overruled (.work (calm 5) "a") [] rfl "a"
    "risk_1" (by decide +kernel) rfl nofun
  have before : statusOf "risk_1" (watch overruled).system.db = some .queued := by decide +kernel
  have after : statusOf "risk_1" (watch (overruled ++ [.work (calm 5) "a"])).system.db =
      some .failed := by
    decide +kernel
  have status : ∀ db, statusOf "risk_1" db = (visible "risk_1" db).1.map Prod.fst := by
    intro db
    simp [statusOf, visible, Function.comp_def]
  rw [status, kept, ← status, before] at after
  cases after

end RiskScan
