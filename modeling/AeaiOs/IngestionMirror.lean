import AeaiOs.IngestionLaws
import AeaiOs.Lib.CursorPages
import Mathlib.Order.Fin.Basic

/-!
The store as a mirror of an operator's table. The table grows by rows with larger keys while its
scope is synchronized at any times, by calls that may fail anywhere: the store holds what a
reader of pages has read of the table, and each page brings it on.
-/
namespace Ingestion
open OrderedDict RunValues StoreAction CursorPages

inductive TableKind where
  | sql
  | snowflake
  deriving DecidableEq

def TableKind.name : TableKind → String
  | .sql => "sql"
  | .snowflake => "snowflake"

section source
variable [SourceRuntime]

def TableKind.rows (outside : Outside) :
    TableKind → PyDict → String → PyValue → Except PyError (List PyDict)
  | .sql => sqlRows outside
  | .snowflake => snowflakeRows outside

/-- A configured table. Its key is read as `K`; a value of it survives in a checkpoint. -/
structure Table (K : Type) where
  config : PyDict
  kind : TableKind
  scope : String
  digest : String
  tableName : String
  keyName : String
  key : PyDict → K
  value : K → PyValue
  is_kind : item config "kind" = .ok (.str kind.name)
  is_table : (item config "table" >>= identifier) = .ok tableName
  is_key : (item config "cursor_key" >>= identifier) = .ok keyName
  in_scope : IngestionStore.scope config = .ok scope
  in_digest : IngestionStore.digest config = .ok digest
  value_kept : ∀ k, ∃ text, SourceRuntime.canonical (value k) = .ok text ∧
    SourceRuntime.loads text = .ok (value k)
  null_kept : ∃ text, SourceRuntime.canonical .none = .ok text ∧
    SourceRuntime.loads text = .ok .none

namespace Table
variable {K : Type} (t : Table K)

/-- The cursor of a checkpoint: the key of the last row, or null. -/
def cursorValue (cursor : Option K) : PyValue := (cursor.map t.value).getD .none

/-- The record of the row, if the row has this id. -/
def recordNamed (config : PyDict) (id : String) (row : PyDict) : Option StoredRecord :=
  match IngestionStore.recordOf config (.dict row) with
  | .ok (i, record) => if i = id then some record else none
  | .error _ => none

/-- What the last row with an id says. -/
def lastRecord (config : PyDict) (id : String) (rows : List PyDict) : Option StoredRecord :=
  (rows.filterMap (recordNamed config id)).getLast?

/-- The store holds what has been read of the table, by the last row for each id. -/
def HoldsRows (read : List PyDict) (db : Db) : Prop :=
  ∀ id, db.records.get? (t.scope, id) = lastRecord t.config id read

theorem lastRecord_append (config : PyDict) (id : String) (front : List PyDict) (row : PyDict) :
    lastRecord config id (front ++ [row]) =
      (recordNamed config id row).or (lastRecord config id front) := by
  unfold lastRecord
  rw [List.filterMap_append, List.getLast?_append]
  cases named : recordNamed config id row with
  | none => simp [named]
  | some record => simp [named]

/-- The last record of an id comes from one of the rows. -/
theorem lastRecord_row {config : PyDict} {id : String} {rows : List PyDict}
    {record : StoredRecord} (last : lastRecord config id rows = some record) :
    ∃ row ∈ rows, IngestionStore.recordOf config (.dict row) = .ok (id, record) := by
  obtain ⟨row, member, named⟩ := List.mem_filterMap.mp (List.mem_of_getLast? last)
  refine ⟨row, member, ?_⟩
  unfold recordNamed at named
  split at named
  · rename_i i r made
    split at named
    · rename_i same
      cases named
      rw [made, same]
    · cases named
  · cases named

variable {t}

theorem HoldsRows.upsert {read : List PyDict} {row : PyDict} {id : String} {record : StoredRecord}
    {db : Db} (holds : t.HoldsRows read db)
    (made : IngestionStore.recordOf t.config (.dict row) = .ok (id, record))
    (distinct : ∀ a ∈ read, ∀ i r, IngestionStore.recordOf t.config (.dict a) = .ok (i, r) →
      r.digest = record.digest → r.payload = record.payload) :
    t.HoldsRows (read ++ [row]) (Db.upsert t.scope id record db).2 := by
  intro id'
  have own : recordNamed t.config id' row = if id = id' then some record else none := by
    unfold recordNamed
    rw [made]
  rw [lastRecord_append, own]
  obtain ⟨old, found, same, kept⟩ | ⟨-, set⟩ := Db.upsert_cases t.scope id record db
  · rw [kept]
    by_cases here : id = id'
    · subst here
      have last := (holds id).symm.trans found
      obtain ⟨a, member, stored⟩ := lastRecord_row last
      have payload := distinct a member id old stored same
      have whole : old = record := by
        cases old
        cases record
        cases same
        cases payload
        rfl
      rw [if_pos rfl, found, whole]
      rfl
    · rw [if_neg here]
      exact holds id'
  · rw [set]
    dsimp only
    rw [Dict.get?_set]
    by_cases here : id = id'
    · rw [if_pos here, if_pos (by rw [here])]
      rfl
    · have other : (t.scope, id) ≠ (t.scope, id') := fun same => here (Prod.mk.inj same).2
      rw [if_neg here, if_neg other]
      exact holds id'

theorem HoldsRows.absorbed {read rows : List PyDict} {changed : Nat} {db : Db}
    {done : Nat × Db} (holds : t.HoldsRows read db)
    (distinct : ∀ a ∈ read ++ rows, ∀ b ∈ read ++ rows, ∀ i j r s,
      IngestionStore.recordOf t.config (.dict a) = .ok (i, r) →
        IngestionStore.recordOf t.config (.dict b) = .ok (j, s) →
          r.digest = s.digest → r.payload = s.payload)
    (h : IngestionStore.absorbRows t.config t.scope (changed, db) (rows.map .dict) = .ok done) :
    t.HoldsRows (read ++ rows) done.2 := by
  induction rows generalizing read changed db with
  | nil =>
    cases h
    rw [List.append_nil]
    exact holds
  | cons row rest ih =>
    rw [List.map_cons, IngestionStore.absorbRows_cons] at h
    obtain ⟨⟨id, record⟩, made, later⟩ := ExceptLists.bind_eq_ok.mp h
    have inside : row ∈ read ++ row :: rest :=
      List.mem_append_right read List.mem_cons_self
    have next : t.HoldsRows (read ++ [row]) (Db.upsert t.scope id record db).2 := by
      apply holds.upsert made
      intro a member i r stored same
      exact distinct a (List.mem_append_left _ member) row inside i id r record stored made same
    have split : read ++ row :: rest = (read ++ [row]) ++ rest := by
      rw [List.append_assoc]
      rfl
    rw [split] at distinct ⊢
    exact ih next distinct later

/-- Rows with different digests are told apart by them. -/
theorem distinct_of_digests {config : PyDict} {rows : List PyDict}
    {records : List (String × StoredRecord)}
    (made : rows.mapM (fun row => IngestionStore.recordOf config (.dict row)) = .ok records)
    (nodup : (records.map fun pair => pair.2.digest).Nodup) :
    ∀ a ∈ rows, ∀ b ∈ rows, ∀ i j r s, IngestionStore.recordOf config (.dict a) = .ok (i, r) →
      IngestionStore.recordOf config (.dict b) = .ok (j, s) →
        r.digest = s.digest → r.payload = s.payload := by
  intro a inside b inside' i j r s first second same
  obtain ⟨x, member, stored⟩ := ExceptLists.mapM_target made a inside
  obtain ⟨y, member', stored'⟩ := ExceptLists.mapM_target made b inside'
  cases first.symm.trans stored
  cases second.symm.trans stored'
  have equal := List.inj_on_of_nodup_map nodup member member' same
  exact congrArg (fun pair => pair.2.payload) equal

/-! One page. -/

theorem nextPage_table (t : Table K) (outside : Outside) (cursor : PyValue) :
    nextPage outside t.config cursor = tablePage (t.kind.rows outside) t.config cursor := by
  unfold nextPage
  rw [t.is_kind]
  cases t.kind with
  | sql => rfl
  | snowflake => rfl

theorem loads_cursor (t : Table K) {cursor : Option K} {text : String}
    (written : SourceRuntime.canonical (t.cursorValue cursor) = .ok text) :
    SourceRuntime.loads text = .ok (t.cursorValue cursor) := by
  have kept : ∃ text, SourceRuntime.canonical (t.cursorValue cursor) = .ok text ∧
      SourceRuntime.loads text = .ok (t.cursorValue cursor) := by
    cases cursor with
    | none => exact t.null_kept
    | some k => exact t.value_kept k
  obtain ⟨text', written', loaded⟩ := kept
  rw [written] at written'
  cases written'
  exact loaded

/-- No other configuration has taken the scope. -/
def Ours (t : Table K) (db : Db) : Prop :=
  ∀ saved, db.checkpoints.get? t.scope = some saved → saved.configHash = t.digest

theorem ours_of_resumes {db : Db} {cursor : PyValue}
    (resumes : IngestionStore.Resumes db t.scope t.digest cursor) : t.Ours db := by
  intro saved found
  unfold IngestionStore.Resumes at resumes
  rw [found] at resumes
  exact resumes.1

/-- The stored cursor is the key of the last row read. -/
def PointsTo (t : Table K) (db : Db) (read : List PyDict) : Prop :=
  match db.checkpoints.get? t.scope with
  | none => read = []
  | some saved => SourceRuntime.canonical (t.cursorValue (cursorOf t.key read)) = .ok saved.cursor

/-- The store is where the reader is. -/
structure Mirrors (t : Table K) (db : Db) (r : Reading PyDict) : Prop where
  rows : t.HoldsRows r.read db
  pages : (IngestionStore.auditOf t.scope db).length = r.pages
  cursor : t.PointsTo db r.read

/-- A synchronization of the table starts where the reader is. -/
theorem Mirrors.resumes {db : Db} {r : Reading PyDict} (mirrors : t.Mirrors db r)
    {cursor : PyValue} (resumes : IngestionStore.Resumes db t.scope t.digest cursor) :
    cursor = t.cursorValue (cursorOf t.key r.read) := by
  have at_cursor := mirrors.cursor
  unfold PointsTo at at_cursor
  unfold IngestionStore.Resumes at resumes
  cases found : db.checkpoints.get? t.scope with
  | none =>
    rw [found] at resumes at_cursor
    rw [resumes, at_cursor]
    rfl
  | some saved =>
    rw [found] at resumes at_cursor
    have loaded := t.loads_cursor at_cursor
    rw [resumes.2] at loaded
    exact Except.ok.inj loaded

/-- A call for another scope, or for this one with another configuration. -/
def Foreign (t : Table K) (c : IngestionStore.Call) : Prop :=
  IngestionStore.scope c.config = .ok t.scope → IngestionStore.digest c.config ≠ .ok t.digest

/-- A call that is not for this table leaves the mirror as it is, or takes the scope. -/
theorem foreign_mirrors {c : IngestionStore.Call} (foreign : t.Foreign c) {db : Db}
    {r : Reading PyDict} (mirrors : t.Ours db → t.Mirrors db r)
    (ours : t.Ours (c.run db).2) : t.Mirrors (c.run db).2 r := by
  obtain ⟨e, ran⟩ | ⟨changed, db', ran, returns⟩ := c.run_cases db
  · rw [ran] at ours ⊢
    exact mirrors ours
  · rw [ran] at ours ⊢
    cases returns with
    | notDue => exact mirrors ours
    | @committed scope digest text interval cursor _ mid named hashed timed positive resumes
        unbroken absorbed encoded =>
      obtain ⟨checkpoints, audit⟩ := IngestionStore.absorbPages_tables absorbed
      have other : scope ≠ t.scope := by
        rintro rfl
        have taken := IngestionStore.checkpoint_stored t.scope t.scope digest text
          (c.moment.clock 1 + interval) (c.moment.clock 2) changed mid
        rw [if_pos rfl] at taken
        have same : digest = t.digest := ours _ taken
        rw [same] at hashed
        exact foreign named hashed
      have same : (IngestionStore.stored scope digest text (c.moment.clock 1 + interval)
          (c.moment.clock 2) changed mid).checkpoints.get? t.scope =
            db.checkpoints.get? t.scope := by
        rw [IngestionStore.checkpoint_stored, if_neg other]
        exact congrArg (fun table => table.get? t.scope) checkpoints
      have before : t.Mirrors db r := by
        apply mirrors
        intro saved found
        exact ours saved (same.trans found)
      constructor
      · intro id
        have elsewhere : c.Elsewhere t.scope := by
          intro here
          rw [named] at here
          exact other (Except.ok.inj here)
        have kept := IngestionStore.records_elsewhere elsewhere db id
        rw [ran] at kept
        exact kept.trans (before.rows id)
      · rw [IngestionStore.auditOf_stored, if_neg other, List.append_nil]
        unfold IngestionStore.auditOf
        rw [show mid.audit = db.audit from audit]
        exact before.pages
      · unfold PointsTo
        rw [same]
        exact before.cursor

section ordered
variable [LinearOrder K]

/-- The rows of the table: the keys increase, and two records with one digest are the same. -/
structure Rows (t : Table K) (rows : List PyDict) : Prop where
  increasing : Increasing t.key rows
  keyed : ∀ row ∈ rows, item row t.keyName = .ok (t.value (t.key row))
  distinct : ∀ a ∈ rows, ∀ b ∈ rows, ∀ i j r s,
    IngestionStore.recordOf t.config (.dict a) = .ok (i, r) →
      IngestionStore.recordOf t.config (.dict b) = .ok (j, s) →
        r.digest = s.digest → r.payload = s.payload

theorem Rows.front {t : Table K} {rows new : List PyDict} (lawful : t.Rows (rows ++ new)) :
    t.Rows rows := by
  constructor
  · exact (List.pairwise_append.mp lawful.increasing).1
  · intro row member
    exact lawful.keyed row (List.mem_append_left new member)
  · intro a inside b inside'
    exact lawful.distinct a (List.mem_append_left new inside) b (List.mem_append_left new inside')

/-- The database of the table answers the query for a page, if it answers at all, with the
    first 1000 rows after the cursor, in the order of the key. -/
def Serves (t : Table K) (outside : Outside) (rows : List PyDict) : Prop :=
  ∀ cursor page, t.kind.rows outside t.config
      (pageQuery t.tableName t.keyName (t.cursorValue cursor)) (t.cursorValue cursor) = .ok page →
    page = (beyond t.key cursor rows).take 1000

/-- The page that a serving database gives. -/
def pageAfter (t : Table K) (cursor : Option K) (rows : List PyDict) : List PyDict :=
  (beyond t.key cursor rows).take 1000

theorem tablePage_ok {outside : Outside} {rows : List PyDict} (lawful : t.Rows rows)
    (serves : t.Serves outside rows) {cursor : Option K} {page : Option (List PyValue × PyValue)}
    (h : tablePage (t.kind.rows outside) t.config (t.cursorValue cursor) = .ok page) :
    page = (t.pageAfter cursor rows).getLast?.map fun last =>
      ((t.pageAfter cursor rows).map .dict, t.value (t.key last)) := by
  unfold tablePage at h
  rw [← bind_assoc, t.is_table] at h
  obtain ⟨table, named, h⟩ := ExceptLists.bind_eq_ok.mp h
  cases named
  rw [← bind_assoc, t.is_key] at h
  obtain ⟨key, named, h⟩ := ExceptLists.bind_eq_ok.mp h
  cases named
  obtain ⟨served, answered, h⟩ := ExceptLists.bind_eq_ok.mp h
  have same : served = t.pageAfter cursor rows := serves cursor served answered
  rw [same] at h
  cases ends : (t.pageAfter cursor rows).getLast? with
  | none =>
    rw [ends] at h
    cases h
    rfl
  | some last =>
    have member : last ∈ rows :=
      (List.mem_filter.mp (List.mem_of_mem_take (List.mem_of_getLast? ends))).1
    rw [ends] at h
    dsimp only at h
    rw [lawful.keyed last member] at h
    dsimp only [bind, Except.bind] at h
    split at h
    · cases h
    · split at h
      · cases h
      · cases h
        rfl

/-- The rows that an own call absorbs, and the cursor that it ends with. -/
theorem pages_ok {outside : Outside} {rows : List PyDict} (table : t.Rows rows)
    (serves : t.Serves outside rows) {cursor : Option K}
    (unbroken : (pages outside t.config (t.cursorValue cursor)).raised = none) :
    IngestionStore.rowsOf (pages outside t.config (t.cursorValue cursor)).pages =
        (t.pageAfter cursor rows).map .dict ∧
      IngestionStore.lastCursor (t.cursorValue cursor)
          (pages outside t.config (t.cursorValue cursor)).pages =
        t.cursorValue (((t.pageAfter cursor rows).getLast?.map t.key).or cursor) := by
  unfold pages at unbroken ⊢
  rw [nextPage_table] at unbroken ⊢
  cases made : tablePage (t.kind.rows outside) t.config (t.cursorValue cursor) with
  | error e =>
    rw [made] at unbroken
    cases unbroken
  | ok page =>
    have same := tablePage_ok table serves made
    cases ends : (t.pageAfter cursor rows).getLast? with
    | none =>
      rw [ends] at same
      subst same
      rw [List.getLast?_eq_none_iff.mp ends]
      exact ⟨rfl, rfl⟩
    | some last =>
      rw [ends] at same
      subst same
      constructor
      · exact List.append_nil _
      · rfl

/-! Runs. -/

/-- The operator's table and the store. -/
structure World where
  source : List PyDict
  db : Db

inductive Event where
  /-- Rows are appended to the table. -/
  | append (new : List PyDict)
  | call (c : IngestionStore.Call)

def Event.step (w : World) : Event → World
  | .append new => { w with source := w.source ++ new }
  | .call c => { w with db := (c.run w.db).2 }

/-- A synchronization of the table, at any time; the database may not answer, and any statement
    may raise. -/
def Own (t : Table K) (rows : List PyDict) (c : IngestionStore.Call) : Prop :=
  c.config = t.config ∧ ∃ outside, c.fetch = pages outside ∧ t.Serves outside rows

def Allowed (t : Table K) (w : World) : Event → Prop
  | .append new => t.Rows (w.source ++ new)
  | .call c => t.Foreign c ∨ t.Own w.source c

def Step (t : Table K) (w w' : World) : Prop := ∃ e, t.Allowed w e ∧ w' = Event.step w e

structure Refines (t : Table K) (w : World) (r : Reading PyDict) : Prop where
  source : r.source = w.source
  mirrors : t.Ours w.db → t.Mirrors w.db r

/-- A synchronization of the table changes nothing, or brings the mirror on by a page. -/
theorem own_mirrors {c : IngestionStore.Call} {rows : List PyDict} (lawful : t.Rows rows)
    (own : t.Own rows c) {db : Db} {r : Reading PyDict} (source : r.source = rows)
    (faithful : Faithful t.key r) (mirrors : t.Ours db → t.Mirrors db r) :
    (c.run db).2 = db ∨
      t.Mirrors (c.run db).2 ⟨r.source, r.read ++ t.pageAfter (cursorOf t.key r.read) rows,
        r.pages + 1⟩ := by
  obtain ⟨config, outside, fetched, serves⟩ := own
  obtain ⟨e, ran⟩ | ⟨changed, db', ran, returns⟩ := c.run_cases db
  · left
    rw [ran]
  · rw [ran]
    cases returns with
    | notDue => exact Or.inl rfl
    | @committed scope digest text interval cursor _ mid named hashed timed positive resumes
        unbroken absorbed encoded =>
      right
      rw [config] at named hashed
      rw [t.in_scope] at named
      rw [t.in_digest] at hashed
      cases named
      cases hashed
      have before := mirrors (ours_of_resumes resumes)
      obtain ⟨checkpoints, audit⟩ := IngestionStore.absorbPages_tables absorbed
      rw [config, fetched, before.resumes resumes] at unbroken absorbed encoded
      obtain ⟨served, next⟩ := pages_ok lawful serves unbroken
      rw [next] at encoded
      rw [IngestionStore.absorbPages_rows, served] at absorbed
      have distinct := lawful.distinct
      have part := (faithful.move (Move.page r : Move t.key 1000 r _)).read.subset
      rw [source] at part
      constructor
      · exact before.rows.absorbed
          (fun a inside b inside' => distinct a (part inside) b (part inside')) absorbed
      · rw [IngestionStore.auditOf_stored, if_pos rfl, List.length_append]
        unfold IngestionStore.auditOf
        rw [show mid.audit = db.audit from audit]
        exact congrArg (· + 1) before.pages
      · unfold PointsTo
        rw [IngestionStore.checkpoint_stored, if_pos rfl]
        dsimp only
        rw [cursorOf_append]
        exact encoded

/-- Every event is a move of the reader, or none. -/
theorem step_refines {w : World} {r : Reading PyDict} (lawful : t.Rows w.source)
    (refines : t.Refines w r) (faithful : Faithful t.key r) {e : Event} (allowed : t.Allowed w e) :
    ∃ r', Relation.ReflTransGen (Move t.key 1000) r r' ∧ t.Refines (Event.step w e) r' := by
  cases e with
  | append new =>
    have increasing : Increasing t.key (r.source ++ new) := by
      rw [refines.source]
      exact Rows.increasing allowed
    refine ⟨_, Relation.ReflTransGen.single (Move.grow r new increasing), ?_, ?_⟩
    · exact congrArg (· ++ new) refines.source
    · intro ours
      obtain ⟨rows, pages, cursor⟩ := refines.mirrors ours
      exact ⟨rows, pages, cursor⟩
  | call c =>
    rcases allowed with foreign | own
    · refine ⟨r, Relation.ReflTransGen.refl, refines.source, ?_⟩
      exact foreign_mirrors foreign refines.mirrors
    · rcases own_mirrors lawful own refines.source faithful refines.mirrors with same | next
      · refine ⟨r, Relation.ReflTransGen.refl, refines.source, ?_⟩
        dsimp only [Event.step]
        rw [same]
        exact refines.mirrors
      · refine ⟨_, Relation.ReflTransGen.single (Move.page r), refines.source, ?_⟩
        intro ours
        rw [← refines.source] at next
        exact next

/-- What holds of table, store and reader at any time. -/
structure Tracked (t : Table K) (w : World) (r : Reading PyDict) : Prop where
  lawful : t.Rows w.source
  sound : IngestionStore.Sound w.db
  faithful : Faithful t.key r
  refines : t.Refines w r

theorem Tracked.run {w w' : World} {r : Reading PyDict} (tracked : t.Tracked w r)
    (steps : Relation.ReflTransGen t.Step w w') :
    ∃ r', Relation.ReflTransGen (Move t.key 1000) r r' ∧ t.Tracked w' r' ∧
      IngestionStore.Grows w.db w'.db := by
  induction steps with
  | refl => exact ⟨r, Relation.ReflTransGen.refl, tracked, IngestionStore.Grows.refl w.db⟩
  | @tail mid _ _ step ih =>
    obtain ⟨between, before, held, grows⟩ := ih
    obtain ⟨e, allowed, rfl⟩ := step
    obtain ⟨r', moves, refines⟩ :=
      step_refines held.lawful held.refines held.faithful allowed
    have faithful := (reads_on held.faithful moves).1
    refine ⟨r', before.trans moves, ?_, ?_⟩
    · cases e with
      | append new => exact ⟨allowed, held.sound, faithful, refines⟩
      | call c => exact ⟨held.lawful, (IngestionStore.sound_call c held.sound).1, faithful, refines⟩
    · cases e with
      | append new => exact grows
      | call c => exact grows.trans (IngestionStore.sound_call c held.sound).2

theorem tracked_empty {rows : List PyDict} (lawful : t.Rows rows) :
    t.Tracked ⟨rows, IngestionStore.emptyDb⟩ ⟨rows, [], 0⟩ := by
  refine ⟨lawful, IngestionStore.sound_empty, ⟨lawful.increasing, List.nil_prefix⟩, rfl, ?_⟩
  intro ours
  exact ⟨fun id => rfl, rfl, rfl⟩

/-- However the table has grown and the synchronizations have gone, the store holds, by the last
    row for each id, exactly what has been read: a first part of the table, up to the row whose
    key is the stored cursor. -/
theorem store_mirrors {rows : List PyDict} (lawful : t.Rows rows) {w : World}
    (steps : Relation.ReflTransGen t.Step ⟨rows, IngestionStore.emptyDb⟩ w)
    (ours : t.Ours w.db) :
    ∃ read, read <+: w.source ∧
      (∀ id, w.db.records.get? (t.scope, id) = lastRecord t.config id read) ∧
      t.PointsTo w.db read := by
  obtain ⟨r, -, tracked, -⟩ := (tracked_empty lawful).run steps
  obtain ⟨held, -, cursor⟩ := tracked.refines.mirrors ours
  refine ⟨r.read, ?_, held, cursor⟩
  rw [← tracked.refines.source]
  exact tracked.faithful.read

/-- With `k` synchronizations stored since the table was `w.source`, the first `1000 * k` of its
    rows have been read, whatever has failed in between. -/
theorem store_catches_up {rows : List PyDict} (lawful : t.Rows rows) {w w' : World}
    (before : Relation.ReflTransGen t.Step ⟨rows, IngestionStore.emptyDb⟩ w)
    (after : Relation.ReflTransGen t.Step w w') (ours : t.Ours w'.db) {k : Nat}
    (stored : (IngestionStore.auditOf t.scope w'.db).length =
      (IngestionStore.auditOf t.scope w.db).length + k) :
    ∃ read, w.source.take (1000 * k) <+: read ∧ read <+: w'.source ∧
      ∀ id, w'.db.records.get? (t.scope, id) = lastRecord t.config id read := by
  obtain ⟨r, -, tracked, -⟩ := (tracked_empty lawful).run before
  obtain ⟨r', moves, tracked', grows⟩ := tracked.run after
  have ours_before : t.Ours w.db := by
    intro saved found
    obtain ⟨saved', here, same⟩ := grows.hash t.scope saved found
    exact same.symm.trans (ours saved' here)
  obtain ⟨-, pages, -⟩ := tracked.refines.mirrors ours_before
  obtain ⟨held, pages', -⟩ := tracked'.refines.mirrors ours
  have count : r'.pages - r.pages = k := by omega
  refine ⟨r'.read, ?_, ?_, held⟩
  · have reads := (reads_on tracked.faithful moves).2
    rw [count, tracked.refines.source] at reads
    exact reads
  · rw [← tracked'.refines.source]
    exact tracked'.faithful.read

end ordered
end Table
end source

section orders
open IngestionStore

/-! A table of orders: the ids of the rows increase, and its records go by `order`. -/

theorem orders_table : let _ := plainSource
    (item (ordersConfig "finance") "table" >>= identifier) = .ok "orders" := by
  decide +kernel

theorem orders_key : let _ := plainSource
    (item (ordersConfig "finance") "cursor_key" >>= identifier) = .ok "id" := by
  decide +kernel

theorem orders_scope : let _ := plainSource
    scope (ordersConfig "finance") = .ok "[\"acme\",\"finance\",\"orders\"]" := by
  decide +kernel

theorem orders_digest : let _ := plainSource
    digest (ordersConfig "finance") =
      .ok "d538b27facfdda7cb3e1e08050ea33f012200cd230dad25d5c5139f6cf382b5e" := by
  decide +kernel

def ordersTable : @Table plainSource (Fin 3) :=
  let _ := plainSource
  { config := ordersConfig "finance"
    kind := .sql
    scope := "[\"acme\",\"finance\",\"orders\"]"
    digest := "d538b27facfdda7cb3e1e08050ea33f012200cd230dad25d5c5139f6cf382b5e"
    tableName := "orders"
    keyName := "id"
    key := fun row =>
      match lookupEntries row "id" with
      | some (.int n) => Fin.ofNat 3 (n.toNat - 1)
      | _ => 0
    value := fun k => .int (k.val + 1)
    is_kind := rfl
    is_table := orders_table
    is_key := orders_key
    in_scope := orders_scope
    in_digest := orders_digest
    value_kept := fun
      | 0 => ⟨"1", rfl, rfl⟩
      | 1 => ⟨"2", rfl, rfl⟩
      | 2 => ⟨"3", rfl, rfl⟩
    null_kept := ⟨"null", rfl, rfl⟩ }

def threeOrders : List PyDict := twoOrders ++ [orderRow 3 "a"]

def afterCursor : PyValue → PyDict → Bool
  | .int c, row =>
      match lookupEntries row "id" with
      | some (.int n) => decide (c < n)
      | _ => false
  | _, _ => true

/-- The database with these rows, at the address in `SOURCE`. -/
def ordersDatabase (rows : List PyDict) : Outside where
  environ name := if name = "SOURCE" then some "sqlite:///orders.db" else none
  file _ := none
  sql _ _ cursor := .ok (rows.filter (afterCursor cursor))
  snowflake _ _ _ := .error .typeError
  stream _ _ _ := .error .typeError
  headObject _ _ := .error .typeError
  getObject _ _ _ := .error .typeError

theorem threeOrders_lawful : let _ := plainSource
    ordersTable.Rows threeOrders := by
  intro _
  constructor
  · unfold Increasing
    decide
  · intro row member
    change row ∈ [orderRow 1 "a", orderRow 2 "b", orderRow 3 "a"] at member
    simp only [List.mem_cons, List.not_mem_nil, or_false] at member
    rcases member with rfl | rfl | rfl
    · rfl
    · rfl
    · rfl
  · have made : threeOrders.mapM (fun row => recordOf (ordersConfig "finance") (.dict row)) = .ok
        [("\"a\"", ⟨plainJson (.dict (orderRow 1 "a")),
            "3356322cf0f14617e2809da124abc2cc6474a057ed6da66eadbe7432ee0d5438"⟩),
          ("\"b\"", ⟨plainJson (.dict (orderRow 2 "b")),
            "fd0999cd2a09d7e76c66425a1ebc0c7ed5d076b01bf6d09eef7b589a600801b4"⟩),
          ("\"a\"", ⟨plainJson (.dict (orderRow 3 "a")),
            "e17a86fa781bbff44d09766817c7121ca363eaf4ae59e85d80ba3fecd447af9f"⟩)] := by
      decide +kernel
    exact Table.distinct_of_digests made (by decide)

theorem ordersDatabase_serves {rows : List PyDict}
    (orders : rows = twoOrders ∨ rows = threeOrders) : let _ := plainSource
    ordersTable.Serves (ordersDatabase rows) rows := by
  intro _ cursor page answered
  have served : rows.filter (afterCursor (ordersTable.cursorValue cursor)) =
      (beyond ordersTable.key cursor rows).take 1000 := by
    rcases orders with rfl | rfl
    · match cursor with
      | none => rfl
      | some 0 => rfl
      | some 1 => rfl
      | some 2 => rfl
    · match cursor with
      | none => rfl
      | some 0 => rfl
      | some 1 => rfl
      | some 2 => rfl
  rw [← served]
  cases answered
  rfl

/-- A forced synchronization of the orders; the statement may raise. -/
def ordersSync (rows : List PyDict) (raising : Option Nat) : let _ := plainSource; Table.Event :=
  let _ := plainSource
  .call {
    moment := ⟨fun _ => 0, fun n => if raising = some n then some .integrityError else none⟩
    config := ordersConfig "finance"
    fetch := pages (ordersDatabase rows)
    force := true }

def ordersBefore : Table.World :=
  let _ := plainSource
  Table.Event.step ⟨twoOrders, emptyDb⟩ (ordersSync twoOrders none)

def ordersAfter : Table.World :=
  let _ := plainSource
  Table.Event.step
    (Table.Event.step (Table.Event.step ordersBefore (.append [orderRow 3 "a"]))
      (ordersSync threeOrders (some 5)))
    (ordersSync threeOrders none)

theorem orders_before : let _ := plainSource
    Relation.ReflTransGen ordersTable.Step ⟨twoOrders, emptyDb⟩ ordersBefore := by
  intro _
  refine Relation.ReflTransGen.single ⟨ordersSync twoOrders none, ?_, rfl⟩
  exact Or.inr ⟨rfl, ordersDatabase twoOrders, rfl, ordersDatabase_serves (Or.inl rfl)⟩

theorem orders_after : let _ := plainSource
    Relation.ReflTransGen ordersTable.Step ordersBefore ordersAfter := by
  intro _
  have own : ∀ moment, ordersTable.Own threeOrders
      ⟨moment, ordersConfig "finance", pages (ordersDatabase threeOrders), true⟩ :=
    fun _ => ⟨rfl, ordersDatabase threeOrders, rfl, ordersDatabase_serves (Or.inr rfl)⟩
  have grown : ordersTable.Step ordersBefore
      (Table.Event.step ordersBefore (.append [orderRow 3 "a"])) :=
    ⟨.append [orderRow 3 "a"], threeOrders_lawful, rfl⟩
  have failed : ordersTable.Step _ (Table.Event.step
      (Table.Event.step ordersBefore (.append [orderRow 3 "a"]))
      (ordersSync threeOrders (some 5))) :=
    ⟨ordersSync threeOrders (some 5), Or.inr (own _), rfl⟩
  have synced : ordersTable.Step _ ordersAfter :=
    ⟨ordersSync threeOrders none, Or.inr (own _), rfl⟩
  exact ((Relation.ReflTransGen.single grown).tail failed).tail synced

theorem twoOrders_lawful : let _ := plainSource
    ordersTable.Rows twoOrders := by
  intro _
  exact Table.Rows.front threeOrders_lawful

theorem orders_ours : let _ := plainSource
    ordersTable.Ours ordersAfter.db := by
  intro _ saved found
  have all : (ordersAfter.db.checkpoints.get? ordersTable.scope).all
      (fun saved => decide (saved.configHash = ordersTable.digest)) = true := by
    decide +kernel
  rw [found] at all
  exact of_decide_eq_true all

theorem orders_mirrored : let _ := plainSource
    ∃ read, read <+: ordersAfter.source ∧
      (∀ id, ordersAfter.db.records.get? (ordersTable.scope, id) =
        Table.lastRecord ordersTable.config id read) ∧
      ordersTable.PointsTo ordersAfter.db read := by
  intro _
  exact Table.store_mirrors twoOrders_lawful (orders_before.trans orders_after) orders_ours

/-- The failed call counts for nothing; the one after it has read the whole table. -/
theorem orders_caught_up : let _ := plainSource
    ∃ read, ordersBefore.source.take (1000 * 1) <+: read ∧ read <+: ordersAfter.source ∧
      ∀ id, ordersAfter.db.records.get? (ordersTable.scope, id) =
        Table.lastRecord ordersTable.config id read := by
  intro _
  have stored : (auditOf ordersTable.scope ordersAfter.db).length =
      (auditOf ordersTable.scope ordersBefore.db).length + 1 := by
    decide +kernel
  exact Table.store_catches_up twoOrders_lawful orders_before orders_after orders_ours stored

end orders
end Ingestion
