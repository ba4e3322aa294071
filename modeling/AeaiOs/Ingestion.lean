import AeaiOs.Values
import AeaiOs.Lib.Sessions
import AeaiOs.Lib.UrlSplit

/-!
Incremental ingestion: pages of an operator's source, read after a cursor, are written to a
store together with the next cursor, in one transaction.
-/
namespace Ingestion
open PyText OrderedDict UrlSplit RunValues StoreAction

/-- What the standard library makes of the values: compact JSON with sorted keys and without
    NaN, the reading of JSON and of CSV, and SHA-256 in hexadecimal. -/
class SourceRuntime extends PyRuntime where
  canonical : PyValue → Except PyError String
  loads : String → Except PyError PyValue
  loadsBytes : List UInt8 → Except PyError PyValue
  sha256 : String → String
  csvRows : List UInt8 → Except PyError (List PyValue)

/-! `==` -/

def PyValue.number? : PyValue → Option Rat
  | .bool b => some (if b then 1 else 0)
  | .int n => some n
  | .float q => some q
  | _ => none

mutual

def equal : PyValue → PyValue → Bool
  | .none, .none => true
  | .str a, .str b => a == b
  | .list xs, .list ys => equalItems xs ys
  | .dict xs, .dict ys => xs.length == ys.length && equalEntries xs ys
  | a, b =>
      match PyValue.number? a, PyValue.number? b with
      | some p, some q => p == q
      | _, _ => false

def equalItems : List PyValue → List PyValue → Bool
  | [], [] => true
  | x :: xs, y :: ys => equal x y && equalItems xs ys
  | _, _ => false

def equalEntries : List (String × PyValue) → List (String × PyValue) → Bool
  | [], _ => true
  | (key, value) :: rest, ys =>
      (match lookupEntries ys key with
        | some other => equal value other
        | none => false) && equalEntries rest ys

end

/-- `mapping[name]` -/
def subscript [PyRuntime] (mapping name : PyValue) : Except PyError PyValue :=
  match mapping, name with
  | .dict entries, .str key =>
      match lookupEntries entries key with
      | some value => .ok value
      | none => .error (.keyError key)
  | .dict _, .list _ => .error .typeError
  | .dict _, .dict _ => .error .typeError
  | .dict _, key => .error (.keyError (PyRuntime.repr key))
  | _, _ => .error .typeError

section config
variable [PyRuntime]

def item (config : PyDict) (key : String) : Except PyError PyValue :=
  subscript (.dict config) (.str key)

/-- `re.fullmatch(r"[A-Za-z_][A-Za-z0-9_]*", value)` -/
def isIdentifier : Text → Bool
  | [] => false
  | c :: rest => (c.isAlpha || c == '_') && rest.all fun d => d.isAlphanum || d == '_'

def identifier : PyValue → Except PyError String
  | .str value =>
      if isIdentifier value.toList then .ok value
      else .error (.valueError "Expected a simple SQL identifier")
  | _ => .error .typeError

def IngestionStore.interval (config : PyDict) : Except PyError Int :=
  ((lookupEntries config "interval_seconds").getD (.int 300)).toInt

end config

/-! Sources. -/

/-- What answers outside the process: environment variables and files, the operator's
    databases, the web server and the object store. -/
structure Outside where
  environ : String → Option String
  /-- The text of a file, if the path is one. -/
  file : String → Option String
  sql : String → String → PyValue → Except PyError (List PyDict)
  snowflake : PyValue → String → PyValue → Except PyError (List PyDict)
  /-- The chunks of a response. -/
  stream : String → List (String × String) → PyValue → Except PyError (List (List UInt8))
  headObject : PyValue → PyValue → Except PyError (PyValue × Int)
  getObject : PyValue → PyValue → PyValue → Except PyError (List UInt8)

/-- The pages that a generator yields, and the exception that ends it. -/
structure Fetched where
  pages : List (List PyValue × PyValue)
  raised : Option PyError

section sources
variable [SourceRuntime]

/-- `get_env_secret` of one name. -/
def getEnvSecret (outside : Outside) : PyValue → Except PyError String
  | .str name =>
      match (outside.environ name).map strip with
      | some direct => if direct ≠ "" then .ok direct else .ok (fromFile name)
      | none => .ok (fromFile name)
  | _ => .error .typeError
where
  fromFile (name : String) : String :=
    match (outside.environ s!"{name}_FILE").map strip with
    | some path => if path ≠ "" then ((outside.file path).map strip).getD "" else ""
    | none => ""

/-- The text of the query for one page. -/
def pageQuery (table key : String) (cursor : PyValue) : String :=
  match cursor with
  | .none => s!"SELECT * FROM {table} ORDER BY {key} LIMIT 1000"
  | _ => s!"SELECT * FROM {table} WHERE {key} > :cursor ORDER BY {key} LIMIT 1000"

def sqlRows (outside : Outside) (config : PyDict) (query : String) (cursor : PyValue) :
    Except PyError (List PyDict) := do
  let url ← getEnvSecret outside (← item config "connection_env")
  outside.sql url query cursor

def snowflakeRows (outside : Outside) (config : PyDict) (query : String) (cursor : PyValue) :
    Except PyError (List PyDict) := do
  let credentials ← SourceRuntime.loads (← getEnvSecret outside (← item config "connection_env"))
  let query := String.ofList (replace query.toList ":cursor".toList "%(cursor)s".toList)
  outside.snowflake credentials query cursor

/-- The page of a table, if any: its rows in the order of the key, and the last one's key. -/
def tablePage (query : PyDict → String → PyValue → Except PyError (List PyDict))
    (config : PyDict) (cursor : PyValue) : Except PyError (Option (List PyValue × PyValue)) := do
  let table ← identifier (← item config "table")
  let key ← identifier (← item config "cursor_key")
  let rows ← query config (pageQuery table key cursor) cursor
  match rows.getLast? with
  | none => return none
  | some last => do
      let next ← item last key
      match next with
      | .none => .error (.valueError "Source cursor must advance")
      | _ =>
          if equal next cursor then .error (.valueError "Source cursor must advance")
          else return some (rows.map .dict, next)

/-- `body.extend(chunk)`, up to 10 MiB. -/
def readChunks (body : List UInt8) : List (List UInt8) → Except PyError (List UInt8)
  | [] => .ok body
  | chunk :: rest =>
      if (body ++ chunk).length > 10 * 1024 * 1024 then
        .error (.valueError "REST page exceeds 10 MiB")
      else readChunks (body ++ chunk) rest

def restPage (outside : Outside) (config : PyDict) (cursor : PyValue) :
    Except PyError (Option (List PyValue × PyValue)) := do
  match ← item config "url" with
  | .str url => do
      let parsed ← (urlsplit url.toList).mapError .valueError
      if parsed.scheme ≠ "https".toList ∨ parsed.username.any (· ≠ []) ∨
          parsed.password.any (· ≠ []) then
        .error (.valueError "REST ingestion requires HTTPS without embedded credentials")
      else do
        let headers ←
          match lookupEntries config "token_env" with
          | some name =>
              if name.truthy then do
                let token ← getEnvSecret outside name
                pure [("Authorization", "Bearer " ++ token)]
              else pure []
          | none => pure []
        let sent := if cursor.truthy then cursor else .str ""
        let body ← readChunks [] (← outside.stream url headers sent)
        let payload ← SourceRuntime.loadsBytes body
        let rows ← subscript payload (.str "items")
        match rows, payload with
        | .list rows, .dict payload =>
            if rows.length > 10000 then
              .error (.valueError "REST items must be an array of at most 10000 records")
            else
              let next := (lookupEntries payload "next_cursor").getD .none
              if !rows.isEmpty && (equal next .none || equal next cursor) then
                .error (.valueError "Nonempty REST pages require a new durable next_cursor")
              else return (if rows.isEmpty then none else some (rows, next))
        | _, _ => .error (.valueError "REST items must be an array of at most 10000 records")
  | .list _ | .dict _ => .error .typeError
  | url =>
      if url.truthy then .error .attributeError
      else .error (.valueError "REST ingestion requires HTTPS without embedded credentials")

def s3Page (outside : Outside) (config : PyDict) (cursor : PyValue) :
    Except PyError (Option (List PyValue × PyValue)) := do
  let bucket ← item config "bucket"
  let key ← item config "key"
  let (etag, contentLength) ← outside.headObject bucket key
  if equal cursor etag then return none
  else if contentLength > 50 * 1024 * 1024 then .error (.valueError "S3 object exceeds 50 MiB")
  else do
    let body ← outside.getObject bucket key etag
    let content := body.take (50 * 1024 * 1024 + 1)
    if content.length > 50 * 1024 * 1024 then .error (.valueError "S3 object exceeds 50 MiB")
    else do
      let rows ← SourceRuntime.csvRows content
      return some (rows, etag)

/-- The page of the configured source, if it has one. -/
def nextPage (outside : Outside) (config : PyDict) (cursor : PyValue) :
    Except PyError (Option (List PyValue × PyValue)) := do
  match ← item config "kind" with
  | .str "sql" => tablePage (sqlRows outside) config cursor
  | .str "snowflake" => tablePage (snowflakeRows outside) config cursor
  | .str "rest" => restPage outside config cursor
  | .str "s3" => s3Page outside config cursor
  | .list _ | .dict _ => .error .typeError
  | _ => .error (.valueError "Unsupported ingestion connector")

def pages (outside : Outside) (config : PyDict) (cursor : PyValue) : Fetched :=
  match nextPage outside config cursor with
  | .ok page => ⟨page.toList, none⟩
  | .error e => ⟨[], some e⟩

end sources

/-! The store. -/

structure Checkpoint where
  /-- JSON -/
  cursor : String
  due : Rat
  configHash : String
  deriving DecidableEq

structure StoredRecord where
  payload : String
  digest : String
  deriving DecidableEq

structure AuditEntry where
  scope : String
  time : Rat
  changed : Nat
  cursor : String
  deriving DecidableEq

structure Db where
  checkpoints : Dict String Checkpoint
  /-- By scope and id. -/
  records : Dict (String × String) StoredRecord
  audit : List AuditEntry
  deriving DecidableEq

/-- The readings of the clock during one call, and which of its statements raise. -/
structure Moment where
  clock : Nat → Rat
  fault : Nat → Option PyError

/-- `INSERT INTO records ... ON CONFLICT(scope,id) DO UPDATE ... WHERE records.digest !=
    excluded.digest`, with its row count. -/
def Db.upsert (scope id : String) (record : StoredRecord) (db : Db) : Nat × Db :=
  match db.records.get? (scope, id) with
  | some old =>
      if old.digest = record.digest then (0, db)
      else (1, { db with records := db.records.set (scope, id) record })
  | none => (1, { db with records := db.records.set (scope, id) record })

namespace IngestionStore
open Session
variable [SourceRuntime]

def scope (config : PyDict) : Except PyError String := do
  let organization ← item config "organization_id"
  let workspace ← item config "workspace_id"
  let id ← item config "id"
  SourceRuntime.canonical (.list [organization, workspace, id])

def digest (config : PyDict) : Except PyError String :=
  (SourceRuntime.canonical (.dict config)).map SourceRuntime.sha256

/-- The id and the record that a row is stored as. -/
def recordOf (config : PyDict) (row : PyValue) : Except PyError (String × StoredRecord) := do
  let value ← subscript row (← item config "primary_key")
  match value with
  | .none | .str "" => .error (.valueError "Missing record primary key")
  | value => do
      let payload ← SourceRuntime.canonical row
      let id ← SourceRuntime.canonical value
      return (id, ⟨payload, SourceRuntime.sha256 payload⟩)

section sync
variable (moment : Moment) (config : PyDict)

def saveRows (scope : String) : Nat → List PyValue → Action (Session Db) PyError Nat
  | changed, [] => pure changed
  | changed, row :: rest => do
      let (id, record) ← Action.ofExcept (recordOf config row)
      let rowcount ← execute moment.fault (Db.upsert scope id record)
      saveRows scope (changed + rowcount) rest

def savePages (scope : String) : Nat → PyValue → List (List PyValue × PyValue) →
    Action (Session Db) PyError (Nat × PyValue)
  | changed, cursor, [] => pure (changed, cursor)
  | changed, _, (rows, next) :: rest => do
      let changed ← saveRows moment config scope changed rows
      savePages scope changed next rest

/-- Everything after the checks of the checkpoint. -/
def ingest (scope digest : String) (interval : Int) (fetched : Fetched) (cursor : PyValue) :
    Action (Session Db) PyError Nat := do
  let (changed, cursor) ← savePages moment config scope 0 cursor fetched.pages
  match fetched.raised with
  | some e => Action.raise e
  | none => do
      let encodedCursor ← Action.ofExcept (SourceRuntime.canonical cursor)
      execute moment.fault fun db => ((), { db with
        checkpoints := db.checkpoints.set scope
          ⟨encodedCursor, moment.clock 1 + interval, digest⟩ })
      execute moment.fault fun db => ((), { db with
        audit := db.audit ++ [⟨scope, moment.clock 2, changed, encodedCursor⟩] })
      commit moment.fault
      return changed

variable (fetch : PyDict → PyValue → Fetched) (force : Bool)

/-- The body of the transaction. -/
def synchronize (scope digest : String) (interval : Int) : Action (Session Db) PyError Nat := do
  let saved ← execute moment.fault fun db => (db.checkpoints.get? scope, db)
  match saved with
  | none => ingest moment config scope digest interval (fetch config .none) .none
  | some saved =>
      if saved.configHash ≠ digest then
        Action.raise (.valueError "Source configuration changed; use a new ingestion ID")
      else if saved.due > moment.clock 0 ∧ !force then do
        rollback
        return 0
      else do
        let cursor ← Action.ofExcept (SourceRuntime.loads saved.cursor)
        ingest moment config scope digest interval (fetch config cursor) cursor

def sync : Action (Session Db) PyError Nat := do
  let scope ← Action.ofExcept (scope config)
  let digest ← Action.ofExcept (digest config)
  let interval ← Action.ofExcept (interval config)
  if interval < 1 then Action.raise (.valueError "Synchronization interval must be positive")
  else do
    execute moment.fault fun db => ((), db)
    execute moment.fault fun db => ((), db)
    orRollback (synchronize moment config fetch force scope digest interval)

/-- A call on the stored tables, and what it leaves there. -/
def call (db : Db) : Except PyError Nat × Db :=
  let (result, session) := sync moment config fetch force (opened db)
  (result, session.stored)

end sync
end IngestionStore
end Ingestion
