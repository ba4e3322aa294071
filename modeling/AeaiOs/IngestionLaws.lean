import AeaiOs.IngestionCalls
import AeaiOs.Lib.ExceptLists
import Mathlib.Algebra.GroupWithZero.Nat

/-!
Runs of synchronizations over one store, of any configurations and sources: the checkpoints,
the audit and the records stay in step, and rows that are replayed change nothing.
-/
namespace Ingestion
open OrderedDict RunValues StoreAction

theorem Db.upsert_cases (scope id : String) (record : StoredRecord) (db : Db) :
    (∃ old, db.records.get? (scope, id) = some old ∧ old.digest = record.digest ∧
        Db.upsert scope id record db = (0, db)) ∨
      (∀ old, db.records.get? (scope, id) = some old → old.digest ≠ record.digest) ∧
        Db.upsert scope id record db =
          (1, { db with records := db.records.set (scope, id) record }) := by
  unfold Db.upsert
  cases found : db.records.get? (scope, id) with
  | none =>
    right
    constructor
    · intro old other
      cases other
    · rfl
  | some old =>
    by_cases same : old.digest = record.digest
    · left
      exact ⟨old, rfl, same, if_pos same⟩
    · right
      constructor
      · intro old' here
        cases here
        exact same
      · exact if_neg same

theorem Db.upsert_other {scope scope' id : String} (different : scope' ≠ scope) (id' : String)
    (record : StoredRecord) (db : Db) :
    (Db.upsert scope id record db).2.records.get? (scope', id') =
      db.records.get? (scope', id') := by
  obtain ⟨old, -, -, made⟩ | ⟨-, made⟩ := Db.upsert_cases scope id record db
  · rw [made]
  · rw [made]
    apply Dict.get?_set_other
    intro same
    exact different (Prod.mk.inj same).1.symm

theorem Db.upsert_tables (scope id : String) (record : StoredRecord) (db : Db) :
    (Db.upsert scope id record db).2.checkpoints = db.checkpoints ∧
      (Db.upsert scope id record db).2.audit = db.audit := by
  obtain ⟨old, -, -, made⟩ | ⟨-, made⟩ := Db.upsert_cases scope id record db
  · rw [made]
    exact ⟨rfl, rfl⟩
  · rw [made]
    exact ⟨rfl, rfl⟩

namespace IngestionStore
variable [SourceRuntime]

/-- The rows of all pages. -/
def rowsOf (pages : List (List PyValue × PyValue)) : List PyValue := pages.flatMap Prod.fst

theorem absorbRows_cons (config : PyDict) (scope : String) (changed : Nat) (db : Db)
    (row : PyValue) (rest : List PyValue) :
    absorbRows config scope (changed, db) (row :: rest) =
      (recordOf config row >>= fun made => absorbRows config scope
        (changed + (Db.upsert scope made.1 made.2 db).1, (Db.upsert scope made.1 made.2 db).2)
        rest) := rfl

theorem absorbRows_induct {config : PyDict} {scope : String} {P : Nat × Db → Prop}
    {rows : List PyValue} {start done : Nat × Db}
    (step : ∀ changed db row id record, row ∈ rows → recordOf config row = .ok (id, record) →
      P (changed, db) →
        P (changed + (Db.upsert scope id record db).1, (Db.upsert scope id record db).2))
    (first : P start) (h : absorbRows config scope start rows = .ok done) : P done := by
  induction rows generalizing start with
  | nil =>
    cases h
    exact first
  | cons row rest ih =>
    obtain ⟨changed, db⟩ := start
    rw [absorbRows_cons] at h
    cases made : recordOf config row with
    | error e =>
      rw [made] at h
      cases h
    | ok pair =>
      obtain ⟨id, record⟩ := pair
      rw [made] at h
      apply ih ?_ ?_ h
      · intro changed' db' row' id' record' member
        exact step changed' db' row' id' record' (List.mem_cons_of_mem row member)
      · exact step changed db row id record List.mem_cons_self made first

theorem absorbRows_append (config : PyDict) (scope : String) (start : Nat × Db)
    (xs ys : List PyValue) :
    absorbRows config scope start (xs ++ ys) =
      (absorbRows config scope start xs >>= fun done => absorbRows config scope done ys) := by
  induction xs generalizing start with
  | nil => rfl
  | cons row rest ih =>
    obtain ⟨changed, db⟩ := start
    rw [List.cons_append, absorbRows_cons, absorbRows_cons]
    cases recordOf config row with
    | error e => rfl
    | ok pair => exact ih _

/-- The pages are written as one list of rows. -/
theorem absorbPages_rows (config : PyDict) (scope : String) (start : Nat × Db)
    (pages : List (List PyValue × PyValue)) :
    absorbPages config scope start pages = absorbRows config scope start (rowsOf pages) := by
  induction pages generalizing start with
  | nil => rfl
  | cons page rest ih =>
    obtain ⟨rows, next⟩ := page
    have split := absorbRows_append config scope start rows (rowsOf rest)
    unfold absorbPages
    simp only [ih]
    exact split.symm

/-! Runs. -/

structure Call where
  moment : Moment
  config : PyDict
  fetch : PyDict → PyValue → Fetched
  force : Bool

def Call.run (c : Call) (db : Db) : Except PyError Nat × Db :=
  call c.moment c.config c.fetch c.force db

theorem Call.run_cases (c : Call) (db : Db) :
    (∃ e, c.run db = (.error e, db)) ∨ ∃ changed db', c.run db = (.ok changed, db') ∧
      Returns c.moment c.config c.fetch c.force db changed db' :=
  call_cases c.fetch c.force db

/-- The calls, one after another: `BEGIN IMMEDIATE` serializes them. -/
def afterCalls (calls : List Call) (db : Db) : Db := calls.foldl (fun db c => (c.run db).2) db

theorem afterCalls_induct {P : Db → Prop} (step : ∀ (c : Call) db, P db → P (c.run db).2)
    (calls : List Call) {db : Db} (first : P db) : P (afterCalls calls db) := by
  induction calls generalizing db with
  | nil => exact first
  | cons c rest ih => exact ih (step c db first)

def recordCount (scope : String) (db : Db) : Nat :=
  (db.records.keys.filter fun key => decide (key.1 = scope)).length

def auditOf (scope : String) (db : Db) : List AuditEntry :=
  db.audit.filter fun entry => decide (entry.scope = scope)

/-- All changes that the audit reports for a scope. -/
def changesOf (scope : String) (db : Db) : Nat := ((auditOf scope db).map (·.changed)).sum

structure Sound (db : Db) : Prop where
  digests : ∀ key record, db.records.get? key = some record →
    record.digest = SourceRuntime.sha256 record.payload
  /-- The checkpoint of a scope is where its last audit entry has ended. -/
  pointed : ∀ scope, (db.checkpoints.get? scope).map (·.cursor) =
    (auditOf scope db).getLast?.map (·.cursor)
  counted : ∀ scope, recordCount scope db ≤ changesOf scope db

/-- What no later call takes back. -/
structure Grows (db db' : Db) : Prop where
  audit : db.audit <+: db'.audit
  hash : ∀ scope saved, db.checkpoints.get? scope = some saved →
    ∃ saved', db'.checkpoints.get? scope = some saved' ∧ saved'.configHash = saved.configHash

def emptyDb : Db := ⟨Dict.empty, Dict.empty, []⟩

omit [SourceRuntime] in
theorem recordCount_upsert (scope scope' id : String) (record : StoredRecord) (db : Db) :
    recordCount scope' (Db.upsert scope id record db).2 ≤
      recordCount scope' db + if scope = scope' then (Db.upsert scope id record db).1 else 0 := by
  obtain ⟨old, -, -, made⟩ | ⟨-, made⟩ := Db.upsert_cases scope id record db
  · rw [made]
    exact Nat.le_add_right _ _
  · rw [made]
    unfold recordCount
    dsimp only
    cases found : db.records.get? (scope, id) with
    | some old =>
      rw [Dict.keys_set_of_found record found]
      omega
    | none =>
      rw [Dict.keys_set_of_fresh record found, List.filter_append, List.length_append]
      by_cases own : scope = scope'
      · simp [own]
      · simp [own]

theorem recordOf_digest {config : PyDict} {row : PyValue} {id : String} {record : StoredRecord}
    (made : recordOf config row = .ok (id, record)) :
    record.digest = SourceRuntime.sha256 record.payload := by
  unfold recordOf at made
  obtain ⟨name, -, made⟩ := ExceptLists.bind_eq_ok.mp made
  obtain ⟨value, -, made⟩ := ExceptLists.bind_eq_ok.mp made
  split at made
  · cases made
  · cases made
  · obtain ⟨payload, -, made⟩ := ExceptLists.bind_eq_ok.mp made
    obtain ⟨text, -, made⟩ := ExceptLists.bind_eq_ok.mp made
    cases made
    rfl

theorem absorbPages_tables {config : PyDict} {scope : String}
    {pages : List (List PyValue × PyValue)} {db : Db} {done : Nat × Db}
    (h : absorbPages config scope (0, db) pages = .ok done) :
    done.2.checkpoints = db.checkpoints ∧ done.2.audit = db.audit := by
  rw [absorbPages_rows] at h
  apply absorbRows_induct
    (P := fun done => done.2.checkpoints = db.checkpoints ∧ done.2.audit = db.audit) ?_ ⟨rfl, rfl⟩ h
  intro changed mid row id record member made before
  obtain ⟨checkpoints, audit⟩ := Db.upsert_tables scope id record mid
  exact ⟨checkpoints.trans before.1, audit.trans before.2⟩

/-- What the upserts of a call have done to the records. -/
structure Absorbed (scope : String) (db : Db) (done : Nat × Db) : Prop where
  digests : ∀ key record, done.2.records.get? key = some record →
    record.digest = SourceRuntime.sha256 record.payload
  counted : ∀ scope', recordCount scope' done.2 ≤
    recordCount scope' db + if scope = scope' then done.1 else 0

theorem absorbPages_absorbed {config : PyDict} {scope : String}
    {pages : List (List PyValue × PyValue)} {db : Db} {done : Nat × Db} (sound : Sound db)
    (h : absorbPages config scope (0, db) pages = .ok done) : Absorbed scope db done := by
  rw [absorbPages_rows] at h
  apply absorbRows_induct ?_ ?_ h
  · intro changed mid row id record member made before
    constructor
    · intro key stored found
      obtain ⟨old, -, -, same⟩ | ⟨-, set⟩ := Db.upsert_cases scope id record mid
      · rw [same] at found
        exact before.digests key stored found
      · rw [set] at found
        dsimp only at found
        rw [Dict.get?_set] at found
        split at found
        · cases found
          exact recordOf_digest made
        · exact before.digests key stored found
    · intro scope'
      have more := recordCount_upsert scope scope' id record mid
      have counted := before.counted scope'
      dsimp only at counted ⊢
      split at more
      · rename_i own
        rw [if_pos own] at counted ⊢
        omega
      · rename_i other
        rw [if_neg other] at counted ⊢
        omega
  · exact ⟨sound.digests, fun scope' => Nat.le_add_right _ _⟩

omit [SourceRuntime] in
theorem auditOf_stored (scope scope' digest text : String) (due time : Rat) (changed : Nat)
    (db : Db) :
    auditOf scope' (stored scope digest text due time changed db) =
      auditOf scope' db ++ if scope = scope' then [⟨scope, time, changed, text⟩] else [] := by
  unfold auditOf stored
  dsimp only
  rw [List.filter_append]
  by_cases own : scope = scope'
  · simp [own]
  · simp [own]

omit [SourceRuntime] in
theorem checkpoint_stored (scope scope' digest text : String) (due time : Rat) (changed : Nat)
    (db : Db) :
    (stored scope digest text due time changed db).checkpoints.get? scope' =
      if scope = scope' then some ⟨text, due, digest⟩ else db.checkpoints.get? scope' :=
  Dict.get?_set db.checkpoints scope scope' _

omit [SourceRuntime] in
theorem Grows.refl (db : Db) : Grows db db :=
  ⟨List.prefix_rfl, fun _ saved found => ⟨saved, found, rfl⟩⟩

theorem sound_call (c : Call) {db : Db} (sound : Sound db) :
    Sound (c.run db).2 ∧ Grows db (c.run db).2 := by
  have same : Sound db ∧ Grows db db := ⟨sound, Grows.refl db⟩
  obtain ⟨e, ran⟩ | ⟨changed, db', ran, returns⟩ := c.run_cases db
  · rw [ran]
    exact same
  · rw [ran]
    cases returns with
    | notDue => exact same
    | @committed scope digest text interval cursor _ mid named hashed timed positive resumes
        unbroken absorbed encoded =>
      have done := absorbPages_absorbed sound absorbed
      obtain ⟨checkpoints, audit⟩ := absorbPages_tables absorbed
      dsimp only at checkpoints audit
      refine ⟨⟨done.digests, ?_, ?_⟩, ?_, ?_⟩
      · intro scope'
        rw [auditOf_stored, checkpoint_stored]
        by_cases own : scope = scope'
        · rw [if_pos own, if_pos own, List.getLast?_append]
          rfl
        · have before := sound.pointed scope'
          rw [if_neg own, if_neg own, checkpoints, List.append_nil]
          unfold auditOf at before ⊢
          rw [audit]
          exact before
      · intro scope'
        have counted := done.counted scope'
        have before := sound.counted scope'
        unfold changesOf at before ⊢
        have kept : auditOf scope' mid = auditOf scope' db := by
          unfold auditOf
          rw [audit]
        rw [auditOf_stored, kept, List.map_append, List.sum_append]
        unfold stored recordCount at *
        dsimp only at counted ⊢
        split at counted
        · rename_i own
          rw [if_pos own]
          simp only [List.map_cons, List.map_nil, List.sum_cons, List.sum_nil]
          omega
        · omega
      · unfold stored
        dsimp only
        rw [audit]
        exact List.prefix_append db.audit _
      · intro scope' saved found
        rw [checkpoint_stored, checkpoints]
        split
        · rename_i own
          unfold Resumes at resumes
          rw [own, found] at resumes
          exact ⟨_, rfl, resumes.1.symm⟩
        · exact ⟨saved, found, rfl⟩

omit [SourceRuntime] in
theorem Grows.trans {a b c : Db} (first : Grows a b) (second : Grows b c) : Grows a c := by
  constructor
  · exact first.audit.trans second.audit
  · intro scope saved found
    obtain ⟨mid, there, same⟩ := first.hash scope saved found
    obtain ⟨last, here, same'⟩ := second.hash scope mid there
    exact ⟨last, here, same'.trans same⟩

theorem sound_empty : Sound emptyDb := by
  constructor
  · intro key record found
    cases found
  · intro scope
    rfl
  · intro scope
    rfl

/-- Whatever is synchronized and wherever it is interrupted, records, checkpoints and audit stay
    in step; the audit only grows, and a scope keeps the configuration that it started with. -/
theorem store_sound (before after : List Call) :
    Sound (afterCalls before emptyDb) ∧ Sound (afterCalls after (afterCalls before emptyDb)) ∧
      Grows (afterCalls before emptyDb) (afterCalls after (afterCalls before emptyDb)) := by
  have start : Sound (afterCalls before emptyDb) := by
    apply afterCalls_induct (P := Sound)
    · intro c db sound
      exact (sound_call c sound).1
    · exact sound_empty
  refine ⟨start, ?_⟩
  apply afterCalls_induct (P := fun db => Sound db ∧ Grows (afterCalls before emptyDb) db)
  · intro c db held
    obtain ⟨sound, grows⟩ := sound_call c held.1
    exact ⟨sound, held.2.trans grows⟩
  · exact ⟨start, Grows.refl _⟩

/-! Replays. -/

/-- The row is stored, with the digest of what it holds now. -/
def Holds (config : PyDict) (scope : String) (row : PyValue) (db : Db) : Prop :=
  ∃ id record old, recordOf config row = .ok (id, record) ∧
    db.records.get? (scope, id) = some old ∧ old.digest = record.digest

/-- Rows with one id have one content. -/
def Agreeing (config : PyDict) (rows : List PyValue) : Prop :=
  ∀ a ∈ rows, ∀ b ∈ rows, ∀ id r s, recordOf config a = .ok (id, r) →
    recordOf config b = .ok (id, s) → r.digest = s.digest

/-- Rows with different ids agree. -/
theorem agreeing_of_ids {config : PyDict} {rows : List PyValue}
    {records : List (String × StoredRecord)} (made : rows.mapM (recordOf config) = .ok records)
    (nodup : (records.map Prod.fst).Nodup) : Agreeing config rows := by
  intro a inside b inside' id r s first second
  obtain ⟨x, member, same⟩ := ExceptLists.mapM_target made a inside
  obtain ⟨y, member', same'⟩ := ExceptLists.mapM_target made b inside'
  cases first.symm.trans same
  cases second.symm.trans same'
  have equal := List.inj_on_of_nodup_map nodup member member' rfl
  exact congrArg (fun pair => pair.2.digest) equal

theorem holds_upserted {config : PyDict} {scope id : String} {row : PyValue}
    {record : StoredRecord} (made : recordOf config row = .ok (id, record)) (db : Db) :
    Holds config scope row (Db.upsert scope id record db).2 := by
  obtain ⟨old, found, same, kept⟩ | ⟨-, set⟩ := Db.upsert_cases scope id record db
  · rw [kept]
    exact ⟨id, record, old, made, found, same⟩
  · rw [set]
    refine ⟨id, record, record, made, ?_, rfl⟩
    dsimp only
    rw [Dict.get?_set, if_pos rfl]

theorem Holds.upsert {config : PyDict} {scope id : String} {rows : List PyValue}
    {row other : PyValue} {record : StoredRecord} {db : Db} (holds : Holds config scope row db)
    (agree : Agreeing config rows) (member : row ∈ rows) (inside : other ∈ rows)
    (made : recordOf config other = .ok (id, record)) :
    Holds config scope row (Db.upsert scope id record db).2 := by
  obtain ⟨id', record', old, own, found, same⟩ := holds
  obtain ⟨-, -, -, kept⟩ | ⟨-, set⟩ := Db.upsert_cases scope id record db
  · rw [kept]
    exact ⟨id', record', old, own, found, same⟩
  · rw [set]
    by_cases here : (scope, id) = (scope, id')
    · obtain ⟨-, rfl⟩ := Prod.mk.inj here
      refine ⟨id, record', record, own, ?_, ?_⟩
      · dsimp only
        rw [Dict.get?_set, if_pos rfl]
      · exact agree other inside row member id record record' made own
    · refine ⟨id', record', old, own, ?_, same⟩
      dsimp only
      rw [Dict.get?_set_other _ _ here]
      exact found

/-- After the rows have been written, each of them is stored. -/
theorem absorbRows_holds {config : PyDict} {scope : String} {all rows : List PyValue}
    {start done : Nat × Db} (agree : Agreeing config all) (part : rows ⊆ all)
    (h : absorbRows config scope start rows = .ok done) :
    ∀ row ∈ rows, Holds config scope row done.2 := by
  induction rows generalizing start with
  | nil =>
    intro row member
    cases member
  | cons row rest ih =>
    obtain ⟨changed, db⟩ := start
    have later : rest ⊆ all := List.subset_of_cons_subset part
    have inside : row ∈ all := part List.mem_cons_self
    rw [absorbRows_cons] at h
    cases made : recordOf config row with
    | error e =>
      rw [made] at h
      cases h
    | ok pair =>
      obtain ⟨id, record⟩ := pair
      rw [made] at h
      intro x member
      rcases List.mem_cons.mp member with rfl | member
      · apply absorbRows_induct (P := fun done => Holds config scope x done.2) ?_ ?_ h
        · intro changed' mid row' id' record' member' made' held
          exact held.upsert agree inside (later member') made'
        · exact holds_upserted made db
      · exact ih later h x member

/-- Rows that are stored change nothing when they are written again. -/
theorem absorbRows_stored {config : PyDict} {scope : String} {rows : List PyValue} {changed : Nat}
    {db : Db} (stored : ∀ row ∈ rows, Holds config scope row db) :
    absorbRows config scope (changed, db) rows = .ok (changed, db) := by
  induction rows with
  | nil => rfl
  | cons row rest ih =>
    obtain ⟨id, record, old, made, found, same⟩ := stored row List.mem_cons_self
    have kept : Db.upsert scope id record db = (0, db) := by
      unfold Db.upsert
      rw [found]
      exact if_pos same
    rw [absorbRows_cons, made]
    dsimp only [bind, Except.bind]
    rw [kept]
    exact ih fun x member => stored x (List.mem_cons_of_mem row member)

/-- The call is made for another scope. -/
def Call.Elsewhere (scope : String) (c : Call) : Prop :=
  IngestionStore.scope c.config ≠ .ok scope

/-- Whatever cursor it starts from, the call fetches only rows of the list. -/
def Call.Replays (config : PyDict) (rows : List PyValue) (c : Call) : Prop :=
  c.config = config ∧ ∀ cursor, rowsOf (c.fetch config cursor).pages ⊆ rows

theorem records_elsewhere {scope : String} {c : Call} (elsewhere : c.Elsewhere scope) (db : Db)
    (id : String) : (c.run db).2.records.get? (scope, id) = db.records.get? (scope, id) := by
  obtain ⟨e, ran⟩ | ⟨changed, db', ran, returns⟩ := c.run_cases db
  · rw [ran]
  · rw [ran]
    cases returns with
    | notDue => rfl
    | @committed scope' digest text interval cursor _ mid named hashed timed positive resumes
        unbroken absorbed encoded =>
      have different : scope ≠ scope' := by
        rintro rfl
        exact elsewhere named
      rw [absorbPages_rows] at absorbed
      apply absorbRows_induct
        (P := fun done => done.2.records.get? (scope, id) = db.records.get? (scope, id)) ?_ rfl
        absorbed
      intro changed' mid' row id' record member made kept
      rw [Db.upsert_other different]
      exact kept

/-- A call that fetches only stored rows raises or returns 0, and writes no record. -/
theorem replay_returns {config : PyDict} {scope : String} {rows : List PyValue} {c : Call} {db : Db}
    (named : IngestionStore.scope config = .ok scope) (replays : c.Replays config rows)
    (stored : ∀ row ∈ rows, Holds config scope row db) :
    ((∃ e, (c.run db).1 = .error e) ∨ (c.run db).1 = .ok 0) ∧
      (c.run db).2.records = db.records := by
  obtain ⟨same, fetched⟩ := replays
  obtain ⟨e, ran⟩ | ⟨changed, db', ran, returns⟩ := c.run_cases db
  · rw [ran]
    exact ⟨Or.inl ⟨e, rfl⟩, rfl⟩
  · rw [ran]
    cases returns with
    | notDue => exact ⟨Or.inr rfl, rfl⟩
    | @committed scope' digest text interval cursor _ mid named' hashed timed positive resumes
        unbroken absorbed encoded =>
      rw [same] at named' absorbed
      rw [named] at named'
      cases named'
      rw [absorbPages_rows, absorbRows_stored] at absorbed
      · cases absorbed
        exact ⟨Or.inr rfl, rfl⟩
      · intro row member
        exact stored row (fetched cursor member)

theorem resumes_unique {db : Db} {scope digest : String} {a b : PyValue}
    (first : Resumes db scope digest a) (second : Resumes db scope digest b) : a = b := by
  unfold Resumes at first second
  cases found : db.checkpoints.get? scope with
  | none =>
    rw [found] at first second
    exact first.trans second.symm
  | some saved =>
    rw [found] at first second
    exact Except.ok.inj (first.2.symm.trans second.2)

/-- A forced call that returns has stored every row that it fetched. -/
theorem forced_holds {c : Call} {db : Db} {scope digest : String} {cursor : PyValue} {changed : Nat}
    (named : IngestionStore.scope c.config = .ok scope)
    (hashed : IngestionStore.digest c.config = .ok digest)
    (resumes : Resumes db scope digest cursor) (forced : c.force = true)
    (agree : Agreeing c.config (rowsOf (c.fetch c.config cursor).pages))
    (returned : (c.run db).1 = .ok changed) :
    ∀ row ∈ rowsOf (c.fetch c.config cursor).pages,
      Holds c.config scope row (c.run db).2 := by
  obtain ⟨e, ran⟩ | ⟨changed', db', ran, returns⟩ := c.run_cases db
  · rw [ran] at returned
    cases returned
  · rw [ran]
    cases returns with
    | notDue named' hashed' found same early waits =>
      rw [forced] at waits
      cases waits
    | @committed scope' digest' text interval cursor' _ mid named' hashed' timed positive resumes'
        unbroken absorbed encoded =>
      rw [named] at named'
      cases named'
      rw [hashed] at hashed'
      cases hashed'
      cases resumes_unique resumes resumes'
      rw [absorbPages_rows] at absorbed
      exact absorbRows_holds agree (List.Subset.refl _) absorbed

/-- After a forced call has returned, calls for other scopes and calls that fetch the same rows
    again (all of them or a part, from any cursor) leave every record of the scope as it is, and
    each of the latter raises or returns 0. -/
theorem replays_change_nothing {first : Call} {db : Db} {scope digest : String} {cursor : PyValue}
    {changed : Nat} (named : IngestionStore.scope first.config = .ok scope)
    (hashed : IngestionStore.digest first.config = .ok digest)
    (resumes : Resumes db scope digest cursor) (forced : first.force = true)
    (agree : Agreeing first.config (rowsOf (first.fetch first.config cursor).pages))
    (returned : (first.run db).1 = .ok changed) (later : List Call)
    (each : ∀ c ∈ later, c.Elsewhere scope ∨
      c.Replays first.config (rowsOf (first.fetch first.config cursor).pages))
    (again : Call) (replays :
      again.Replays first.config (rowsOf (first.fetch first.config cursor).pages)) :
    (∀ id, (afterCalls later (first.run db).2).records.get? (scope, id) =
        (first.run db).2.records.get? (scope, id)) ∧
      ((∃ e, (again.run (afterCalls later (first.run db).2)).1 = .error e) ∨
        (again.run (afterCalls later (first.run db).2)).1 = .ok 0) := by
  have start := forced_holds named hashed resumes forced agree returned
  generalize (first.run db).2 = db' at start ⊢
  clear returned
  induction later generalizing db' with
  | nil => exact ⟨fun id => rfl, (replay_returns named replays start).1⟩
  | cons c rest ih =>
    have kept : ∀ id, (c.run db').2.records.get? (scope, id) = db'.records.get? (scope, id) := by
      intro id
      rcases each c List.mem_cons_self with elsewhere | own
      · exact records_elsewhere elsewhere db' id
      · rw [(replay_returns named own start).2]
    have next : ∀ row ∈ rowsOf (first.fetch first.config cursor).pages,
        Holds first.config scope row (c.run db').2 := by
      intro row member
      obtain ⟨id, record, old, made, found, same⟩ := start row member
      exact ⟨id, record, old, made, (kept id).trans found, same⟩
    obtain ⟨records, last⟩ := ih (fun x member => each x (List.mem_cons_of_mem c member)) _ next
    exact ⟨fun id => (records id).trans (kept id), last⟩

/-! A runtime for values whose texts need no escape and whose keys are sorted. -/

mutual

def plainJson : PyValue → String
  | .none => "null"
  | .bool b => if b then "true" else "false"
  | .int n => toString n
  | .float q => toString q.num ++ "/" ++ toString q.den
  | .str s => "\"" ++ s ++ "\""
  | .list items => "[" ++ plainItems items ++ "]"
  | .dict entries => "\x7b" ++ plainEntries entries ++ "\x7d"

def plainItems : List PyValue → String
  | [] => ""
  | [item] => plainJson item
  | item :: rest => plainJson item ++ "," ++ plainItems rest

def plainEntries : List (String × PyValue) → String
  | [] => ""
  | [(key, value)] => "\"" ++ key ++ "\":" ++ plainJson value
  | (key, value) :: rest => "\"" ++ key ++ "\":" ++ plainJson value ++ "," ++ plainEntries rest

end

def orderRow (id : Int) (order : String) : PyDict := [("id", .int id), ("order", .str order)]

def ordersConfig (workspace : String) : PyDict :=
  [("connection_env", .str "SOURCE"), ("cursor_key", .str "id"), ("id", .str "orders"),
    ("kind", .str "sql"), ("organization_id", .str "acme"), ("primary_key", .str "order"),
    ("table", .str "orders"), ("workspace_id", .str workspace)]

def knownDigests : List (String × String) :=
  [(plainJson (.dict (ordersConfig "finance")),
      "d538b27facfdda7cb3e1e08050ea33f012200cd230dad25d5c5139f6cf382b5e"),
    (plainJson (.dict (ordersConfig "other")),
      "0e43e92fecb611e6914e9728c93e9863d57858fc9dce04e761020dcad7cb7cf1"),
    (plainJson (.dict (orderRow 1 "a")),
      "3356322cf0f14617e2809da124abc2cc6474a057ed6da66eadbe7432ee0d5438"),
    (plainJson (.dict (orderRow 2 "b")),
      "fd0999cd2a09d7e76c66425a1ebc0c7ed5d076b01bf6d09eef7b589a600801b4"),
    (plainJson (.dict (orderRow 3 "a")),
      "e17a86fa781bbff44d09766817c7121ca363eaf4ae59e85d80ba3fecd447af9f")]

/-- It reads null and the numbers of the rows, and knows the digests of their texts. -/
abbrev plainSource : SourceRuntime where
  toPyRuntime := plainRuntime
  canonical value := .ok (plainJson value)
  loads text :=
    if text = "null" then .ok .none
    else if text = "1" then .ok (.int 1)
    else if text = "2" then .ok (.int 2)
    else if text = "3" then .ok (.int 3)
    else .error (.valueError "Expecting value")
  loadsBytes _ := .error (.valueError "Expecting value")
  sha256 text := (lookupEntries knownDigests text).getD ""
  csvRows _ := .ok []

def calm : Moment := ⟨fun _ => 0, fun _ => none⟩

def ordersCall (workspace : String) (rows : List PyDict) : Call where
  moment := calm
  config := ordersConfig workspace
  fetch _ _ := ⟨[(rows.map .dict, .int 2)], none⟩
  force := true

def twoOrders : List PyDict := [orderRow 1 "a", orderRow 2 "b"]

omit [SourceRuntime] in
theorem orders_replayed : let _ := plainSource
    let first := ((ordersCall "finance" twoOrders).run emptyDb).2
    let later := afterCalls [ordersCall "other" twoOrders, ordersCall "finance" twoOrders] first
    (∀ id, later.records.get? ("[\"acme\",\"finance\",\"orders\"]", id) =
        first.records.get? ("[\"acme\",\"finance\",\"orders\"]", id)) ∧
      ((∃ e, ((ordersCall "finance" [orderRow 2 "b"]).run later).1 = .error e) ∨
        ((ordersCall "finance" [orderRow 2 "b"]).run later).1 = .ok 0) := by
  intro _
  have made : (rowsOf [(twoOrders.map PyValue.dict, PyValue.int 2)]).mapM
      (recordOf (ordersConfig "finance")) = .ok
        [("\"a\"", ⟨plainJson (.dict (orderRow 1 "a")),
            "3356322cf0f14617e2809da124abc2cc6474a057ed6da66eadbe7432ee0d5438"⟩),
          ("\"b\"", ⟨plainJson (.dict (orderRow 2 "b")),
            "fd0999cd2a09d7e76c66425a1ebc0c7ed5d076b01bf6d09eef7b589a600801b4"⟩)] := by
    decide +kernel
  refine @replays_change_nothing _ (ordersCall "finance" twoOrders) emptyDb
    "[\"acme\",\"finance\",\"orders\"]"
    "d538b27facfdda7cb3e1e08050ea33f012200cd230dad25d5c5139f6cf382b5e" .none 2
    (by decide +kernel) (by decide +kernel) rfl rfl ?_ (by decide +kernel)
    [ordersCall "other" twoOrders, ordersCall "finance" twoOrders] ?_
    (ordersCall "finance" [orderRow 2 "b"]) ?_
  · exact agreeing_of_ids made (by decide)
  · intro c member
    rcases List.mem_cons.mp member with rfl | member
    · left
      unfold Call.Elsewhere
      decide +kernel
    · right
      rw [List.mem_singleton.mp member]
      exact ⟨rfl, fun cursor => List.Subset.refl _⟩
  · refine ⟨rfl, ?_⟩
    intro cursor row member
    exact List.mem_cons_of_mem _ member

end IngestionStore
end Ingestion
