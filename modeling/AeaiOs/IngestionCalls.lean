import AeaiOs.Ingestion

/-!
One synchronization as a whole: it raises and has stored nothing, it is not due, or it has
stored the records of all its pages, their cursor and one audit entry.
-/
namespace Ingestion
open OrderedDict RunValues StoreAction Session

namespace IngestionStore
variable [SourceRuntime]

/-! The statements of one call when none of them raises. -/

/-- The records of the rows, one after another, and how many of them were new or changed. -/
def absorbRows (config : PyDict) (scope : String) :
    Nat × Db → List PyValue → Except PyError (Nat × Db)
  | done, [] => .ok done
  | (changed, db), row :: rest => do
      let (id, record) ← recordOf config row
      let (rowcount, db) := Db.upsert scope id record db
      absorbRows config scope (changed + rowcount, db) rest

def absorbPages (config : PyDict) (scope : String) :
    Nat × Db → List (List PyValue × PyValue) → Except PyError (Nat × Db)
  | done, [] => .ok done
  | done, (rows, _) :: rest => do
      let done ← absorbRows config scope done rows
      absorbPages config scope done rest

/-- The cursor after the pages. -/
def lastCursor (cursor : PyValue) (pages : List (List PyValue × PyValue)) : PyValue :=
  (pages.getLast?.map Prod.snd).getD cursor

/-- The cursor that a synchronization starts from. -/
def Resumes (db : Db) (scope digest : String) (cursor : PyValue) : Prop :=
  match db.checkpoints.get? scope with
  | none => cursor = .none
  | some saved => saved.configHash = digest ∧ SourceRuntime.loads saved.cursor = .ok cursor

/-- What a committed synchronization has stored. -/
def stored (scope digest text : String) (due time : Rat) (changed : Nat) (db : Db) : Db :=
  { db with
    checkpoints := db.checkpoints.set scope ⟨text, due, digest⟩
    audit := db.audit ++ [⟨scope, time, changed, text⟩] }

/-- Everything that a call can do when it returns. -/
inductive Returns (moment : Moment) (config : PyDict) (fetch : PyDict → PyValue → Fetched)
    (force : Bool) (db : Db) : Nat → Db → Prop where
  | notDue {scope digest : String} {saved : Checkpoint} (named : IngestionStore.scope config = .ok scope)
      (hashed : IngestionStore.digest config = .ok digest) (found : db.checkpoints.get? scope = some saved)
      (same : saved.configHash = digest) (early : moment.clock 0 < saved.due)
      (waits : force = false) : Returns moment config fetch force db 0 db
  | committed {scope digest text : String} {interval : Int} {cursor : PyValue} {changed : Nat}
      {db' : Db} (named : IngestionStore.scope config = .ok scope) (hashed : IngestionStore.digest config = .ok digest)
      (timed : IngestionStore.interval config = .ok interval) (positive : 1 ≤ interval)
      (resumes : Resumes db scope digest cursor)
      (unbroken : (fetch config cursor).raised = none)
      (absorbed : absorbPages config scope (0, db) (fetch config cursor).pages =
        .ok (changed, db'))
      (encoded : SourceRuntime.canonical (lastCursor cursor (fetch config cursor).pages) =
        .ok text) :
      Returns moment config fetch force db changed
        (stored scope digest text (moment.clock 1 + interval) (moment.clock 2) changed db')

variable {moment : Moment} {config : PyDict}

theorem saveRows_keeps (scope : String) (changed : Nat) (rows : List PyValue) :
    Action.Keeps Tentative (saveRows moment config scope changed rows) := by
  induction rows generalizing changed with
  | nil => exact Action.keeps_pure Tentative.refl changed
  | cons row rest ih =>
    unfold saveRows
    apply Action.keeps_bind Tentative.trans
    · exact Action.keeps_ofExcept Tentative.refl _
    · intro made
      apply Action.keeps_bind Tentative.trans
      · exact keeps_execute _
      · intro rowcount
        exact ih (changed + rowcount)

theorem saveRows_ok {scope : String} {changed changed' : Nat} {rows : List PyValue}
    {s s' : Session Db} (h : saveRows moment config scope changed rows s = (.ok changed', s')) :
    absorbRows config scope (changed, s.working) rows = .ok (changed', s'.working) := by
  induction rows generalizing changed s with
  | nil =>
    cases h
    rfl
  | cons row rest ih =>
    unfold saveRows at h
    obtain ⟨⟨id, record⟩, mid, recorded, later⟩ := Action.bind_ok h
    obtain ⟨made, rfl⟩ := Action.ofExcept_ok recorded
    obtain ⟨rowcount, after, written, later⟩ := Action.bind_ok later
    obtain ⟨rfl, working, -⟩ := execute_ok written
    have rest_ok := ih later
    rw [working] at rest_ok
    unfold absorbRows
    rw [made]
    exact rest_ok

theorem savePages_keeps (scope : String) (changed : Nat) (cursor : PyValue)
    (pages : List (List PyValue × PyValue)) :
    Action.Keeps Tentative (savePages moment config scope changed cursor pages) := by
  induction pages generalizing changed cursor with
  | nil => exact Action.keeps_pure Tentative.refl (changed, cursor)
  | cons page rest ih =>
    unfold savePages
    apply Action.keeps_bind Tentative.trans
    · exact saveRows_keeps scope changed page.1
    · intro changed'
      exact ih changed' page.2

omit [SourceRuntime] in
theorem lastCursor_cons (cursor next : PyValue) (rows : List PyValue)
    (rest : List (List PyValue × PyValue)) :
    lastCursor cursor ((rows, next) :: rest) = lastCursor next rest := by
  unfold lastCursor
  cases rest with
  | nil => rfl
  | cons page rest =>
    rw [List.getLast?_cons_cons]
    obtain ⟨last, ends⟩ := Option.isSome_iff_exists.mp
      (List.getLast?_isSome.mpr (List.cons_ne_nil page rest))
    rw [ends]
    rfl

theorem savePages_ok {scope : String} {changed changed' : Nat} {cursor cursor' : PyValue}
    {pages : List (List PyValue × PyValue)} {s s' : Session Db}
    (h : savePages moment config scope changed cursor pages s = (.ok (changed', cursor'), s')) :
    absorbPages config scope (changed, s.working) pages = .ok (changed', s'.working) ∧
      cursor' = lastCursor cursor pages := by
  induction pages generalizing changed cursor s with
  | nil =>
    cases h
    exact ⟨rfl, rfl⟩
  | cons page rest ih =>
    obtain ⟨rows, next⟩ := page
    unfold savePages at h
    obtain ⟨between, mid, saved, later⟩ := Action.bind_ok h
    obtain ⟨rest_ok, named⟩ := ih later
    have rows_ok := saveRows_ok saved
    unfold absorbPages
    rw [rows_ok, lastCursor_cons]
    exact ⟨rest_ok, named⟩

theorem ingest_undone (scope digest : String) (interval : Int) (fetched : Fetched)
    (cursor : PyValue) :
    Undone (ingest moment config scope digest interval fetched cursor) := by
  unfold ingest
  apply undone_bind (savePages_keeps scope 0 cursor fetched.pages)
  intro done
  cases fetched.raised with
  | some e => exact undone_of_keeps (Action.keeps_raise Tentative.refl e)
  | none =>
    apply undone_bind (Action.keeps_ofExcept Tentative.refl _)
    intro text
    apply undone_bind (keeps_execute _)
    intro _
    apply undone_bind (keeps_execute _)
    intro _
    exact undone_commit done.1

theorem synchronize_undone (fetch : PyDict → PyValue → Fetched) (force : Bool)
    (scope digest : String) (interval : Int) :
    Undone (synchronize moment config fetch force scope digest interval) := by
  unfold synchronize
  apply undone_bind (keeps_execute _)
  intro saved
  cases saved with
  | none => exact ingest_undone scope digest interval _ _
  | some saved =>
    dsimp only
    split
    · exact undone_of_keeps (Action.keeps_raise Tentative.refl _)
    · split
      · apply undone_bind keeps_rollback
        intro _
        exact undone_of_keeps (Action.keeps_pure Tentative.refl _)
      · apply undone_bind (Action.keeps_ofExcept Tentative.refl _)
        intro cursor
        exact ingest_undone scope digest interval _ _

theorem sync_undone (fetch : PyDict → PyValue → Fetched) (force : Bool) :
    Undone (sync moment config fetch force) := by
  unfold sync
  apply undone_bind (Action.keeps_ofExcept Tentative.refl _)
  intro scope
  apply undone_bind (Action.keeps_ofExcept Tentative.refl _)
  intro digest
  apply undone_bind (Action.keeps_ofExcept Tentative.refl _)
  intro interval
  split
  · exact undone_of_keeps (Action.keeps_raise Tentative.refl _)
  · apply undone_bind (keeps_execute _)
    intro _
    apply undone_bind (keeps_execute _)
    intro _
    exact undone_orRollback (synchronize_undone fetch force scope digest interval)

/-- What the statements after the checks have done when they return. -/
theorem ingest_ok {scope digest : String} {interval : Int} {fetched : Fetched} {cursor : PyValue}
    {changed : Nat} {s s' : Session Db}
    (h : ingest moment config scope digest interval fetched cursor s = (.ok changed, s')) :
    fetched.raised = none ∧ ∃ text db,
      absorbPages config scope (0, s.working) fetched.pages = .ok (changed, db) ∧
        SourceRuntime.canonical (lastCursor cursor fetched.pages) = .ok text ∧
        s'.stored = stored scope digest text (moment.clock 1 + interval) (moment.clock 2)
          changed db := by
  unfold ingest at h
  obtain ⟨⟨changed', cursor'⟩, mid, saved, later⟩ := Action.bind_ok h
  obtain ⟨absorbed, rfl⟩ := savePages_ok saved
  cases unbroken : fetched.raised with
  | some e =>
    rw [unbroken] at later
    cases later
  | none =>
    rw [unbroken] at later
    obtain ⟨text, mid', written, pointing⟩ := Action.bind_ok later
    obtain ⟨encoded, rfl⟩ := Action.ofExcept_ok written
    obtain ⟨_, first, pointed, auditing⟩ := Action.bind_ok pointing
    obtain ⟨-, working, -⟩ := execute_ok pointed
    obtain ⟨_, second, audited, committing⟩ := Action.bind_ok auditing
    obtain ⟨-, working', -⟩ := execute_ok audited
    obtain ⟨_, last, committed, answered⟩ := Action.bind_ok committing
    cases answered
    refine ⟨rfl, text, mid'.working, absorbed, encoded, ?_⟩
    rw [commit_ok committed, working', working]
    rfl

theorem synchronize_ok {fetch : PyDict → PyValue → Fetched} {force : Bool}
    {scope digest : String} {interval : Int} (named : IngestionStore.scope config = .ok scope)
    (hashed : IngestionStore.digest config = .ok digest)
    (timed : IngestionStore.interval config = .ok interval) (positive : 1 ≤ interval)
    {changed : Nat} {s s' : Session Db} (fresh : s.working = s.stored)
    (h : synchronize moment config fetch force scope digest interval s = (.ok changed, s')) :
    Returns moment config fetch force s.stored changed s'.stored := by
  unfold synchronize at h
  obtain ⟨saved, mid, selected, later⟩ := Action.bind_ok h
  obtain ⟨rfl, working, kept⟩ := execute_ok selected
  rw [fresh] at later working
  cases found : s.stored.checkpoints.get? scope with
  | none =>
    rw [found] at later
    obtain ⟨unbroken, text, db, absorbed, encoded, result⟩ := ingest_ok later
    rw [working] at absorbed
    rw [result]
    refine Returns.committed named hashed timed positive ?_ unbroken absorbed encoded
    unfold Resumes
    rw [found]
  | some saved =>
    rw [found] at later
    dsimp only at later
    split at later
    · cases later
    · rename_i same
      split at later
      · rename_i early
        obtain ⟨_, last, undone, answered⟩ := Action.bind_ok later
        cases answered
        cases undone
        dsimp only
        rw [kept]
        exact Returns.notDue named hashed found (not_not.mp same) early.1 (by simpa using early.2)
      · obtain ⟨cursor, mid', reading, ingesting⟩ := Action.bind_ok later
        obtain ⟨loaded, rfl⟩ := Action.ofExcept_ok reading
        obtain ⟨unbroken, text, db, absorbed, encoded, result⟩ := ingest_ok ingesting
        rw [working] at absorbed
        rw [result]
        refine Returns.committed named hashed timed positive ?_ unbroken absorbed encoded
        unfold Resumes
        rw [found]
        exact ⟨not_not.mp same, loaded⟩

/-- A call that raises leaves the tables as they were; what one that returns leaves. -/
theorem call_cases (fetch : PyDict → PyValue → Fetched) (force : Bool) (db : Db) :
    (∃ e, call moment config fetch force db = (.error e, db)) ∨
      ∃ changed db', call moment config fetch force db = (.ok changed, db') ∧
        Returns moment config fetch force db changed db' := by
  unfold call
  rcases ran : sync moment config fetch force (opened db) with ⟨result, s'⟩
  cases result with
  | error e =>
    left
    have undone := sync_undone fetch force _ e s' ran
    refine ⟨e, ?_⟩
    dsimp only
    rw [undone]
    rfl
  | ok changed =>
    right
    refine ⟨changed, s'.stored, rfl, ?_⟩
    unfold sync at ran
    obtain ⟨scope, first, naming, ran⟩ := Action.bind_ok ran
    obtain ⟨named, rfl⟩ := Action.ofExcept_ok naming
    obtain ⟨digest, second, hashing, ran⟩ := Action.bind_ok ran
    obtain ⟨hashed, rfl⟩ := Action.ofExcept_ok hashing
    obtain ⟨interval, third, timing, ran⟩ := Action.bind_ok ran
    obtain ⟨timed, rfl⟩ := Action.ofExcept_ok timing
    split at ran
    · cases ran
    · rename_i positive
      obtain ⟨_, connected, connecting, ran⟩ := Action.bind_ok ran
      obtain ⟨-, working, kept⟩ := execute_ok connecting
      obtain ⟨_, begun, beginning, ran⟩ := Action.bind_ok ran
      obtain ⟨-, working', kept'⟩ := execute_ok beginning
      have fresh : begun.working = begun.stored := by
        rw [working', working, kept', kept]
        rfl
      have result := synchronize_ok named hashed timed (by omega) fresh (orRollback_ok ran)
      rw [kept', kept] at result
      exact result

end IngestionStore
end Ingestion
