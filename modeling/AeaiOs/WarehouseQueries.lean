import AeaiOs.Lib.ExceptLists
import AeaiOs.Lib.SqlText

/-!
The statements that the warehouse connectors wrap around a dataset's query.
-/
namespace Warehouse
open PyText SqlText ExceptLists

/-- Whether `value` is truthy. -/
def given (value : Option String) : Bool := value.any (· ≠ "")

/-- A dataset in a warehouse; `Param` is what a query parameter may hold. -/
structure DatasetReference (Param : Type) where
  source : String
  table : Option String := none
  query : Option String := none
  database : Option String := none
  schema : Option String := none
  parameters : List (String × Param) := []
  exactlyOne : given table ≠ given query := by decide

def internalLimitParameter : String := "_aeai_limit"

/-- `re.match(rf"^{keyword}($|\s)", normalized)` for one of the keywords -/
def startsWithSqlKeyword (normalized : Text) (keywords : List String) : Bool :=
  keywords.any fun keyword =>
    match dropPrefix? normalized keyword.toList with
    | some [] => true
    | some (c :: _) => isSpace c
    | none => false

def isIdentifierPart (part : Text) : Bool :=
  match part with
  | [] => false
  | c :: rest =>
      (c.isAlpha || c == '_') && rest.all fun d => d.isAlphanum || d == '_'

/-- `_sql_identifier` with dots allowed -/
def sqlIdentifier (identifier : String) : Except String String :=
  if (splitOn '.' identifier.toList).all isIdentifierPart then .ok identifier
  else .error ("Unsafe SQL identifier: " ++ identifier)

section connectors
variable [UnicodeDatabase] {Param : Type}

def selectQuery (query : Option String) : Except String String :=
  let text := query.getD ""
  if strip text = "" then .error "Warehouse dataset query cannot be empty."
  else
    let normalized := UnicodeDatabase.lower (strip text).toList
    if !startsWithSqlKeyword normalized ["select", "with"] || normalized.contains ';' then
      .error "Warehouse dataset query must be a single SELECT or WITH statement."
    else .ok (strip text)

namespace DatasetReference

def normalizedSource (reference : DatasetReference Param) : Text :=
  replace (UnicodeDatabase.lower (strip reference.source).toList) ['-'] ['_']

def qualifiedTable (reference : DatasetReference Param) : String :=
  let table := reference.table.getD ""
  if table.toList.contains '.' || !(given reference.database || given reference.schema) then table
  else
    let parts := [reference.database, reference.schema, reference.table].filter given
    String.ofList (joinWith ['.'] (parts.map fun part => (part.getD "").toList))

end DatasetReference

def assertSource (reference : DatasetReference Param) (expected : String) : Except String Unit :=
  if reference.normalizedSource = expected.toList then .ok ()
  else .error (expected ++ " connector cannot query " ++ reference.source ++ " warehouse references.")

/-- `_source_sql` of the connector for `source` -/
def sourceSql (source : String) (reference : DatasetReference Param) : Except String String := do
  assertSource reference source
  if given reference.table then sqlIdentifier reference.qualifiedTable
  else
    let text ← selectQuery reference.query
    return "(" ++ text ++ ") AS warehouse_source"

/-- `_merge_parameters` with the limit as the only further parameter; `limit` is how a
    number is passed. -/
def mergeLimit (parameters : List (String × Param)) (limit : Param) :
    Except String (List (String × Param)) :=
  if parameters.any fun pair => pair.1 = internalLimitParameter then
    .error ("Warehouse query parameter cannot be reused: " ++ internalLimitParameter)
  else .ok (parameters ++ [(internalLimitParameter, limit)])

structure Statement (Param : Type) where
  text : String
  parameters : List (String × Param)

/-- `SqliteWarehouseConnector.fetch_rows`, up to the execution of its statement -/
def sqliteFetchRows (number : Int → Param) (reference : DatasetReference Param)
    (limit : Option Int) : Except String (Statement Param) :=
  match limit with
  | none => do
      let source ← sourceSql "sqlite" reference
      return ⟨"SELECT * FROM " ++ source, reference.parameters⟩
  | some limit => do
      let parameters ← mergeLimit reference.parameters (number (max limit 0))
      let source ← sourceSql "sqlite" reference
      return ⟨"SELECT * FROM " ++ source ++ " LIMIT :_aeai_limit", parameters⟩

/-- `_bounded_limit`; the setting of the row limit is positive. -/
def boundedLimit (rowLimit : Nat) (limit : Option Int) : Int :=
  min (limit.elim (rowLimit : Int) fun limit => max limit 0) rowLimit

/-- `SnowflakeWarehouseConnector.fetch_rows`, up to the execution of its statement -/
def snowflakeFetchRows (number : Int → Param) (rowLimit : Nat)
    (reference : DatasetReference Param) (limit : Option Int) :
    Except String (Statement Param) := do
  let parameters ← mergeLimit reference.parameters (number (boundedLimit rowLimit limit))
  let source ← sourceSql "snowflake" reference
  return ⟨"SELECT * FROM " ++ source ++ " LIMIT %(_aeai_limit)s", parameters⟩

/-- The connectors that append a limit: SQLite's for a given limit, Snowflake's always. -/
inductive Fetch
  | sqlite (limit : Int)
  | snowflake (rowLimit : Nat) (limit : Option Int)

def Fetch.rows (number : Int → Param) (reference : DatasetReference Param) :
    Fetch → Except String (Statement Param)
  | .sqlite limit => sqliteFetchRows number reference (some limit)
  | .snowflake rowLimit limit => snowflakeFetchRows number rowLimit reference limit

end connectors

def sqliteDialect : Dialect where
  slashComments := false
  backslashEscapes := false
  dollarStrings := false
  backticks := true
  brackets := true
  suffixedVariables := true

def snowflakeDialect : Dialect where
  slashComments := true
  backslashEscapes := true
  dollarStrings := true
  backticks := false
  brackets := false
  suffixedVariables := false

def Fetch.dialect : Fetch → Dialect
  | .sqlite _ => sqliteDialect
  | .snowflake _ _ => snowflakeDialect

def Fetch.limitClause : Fetch → Text
  | .sqlite _ => "LIMIT :_aeai_limit".toList
  | .snowflake _ _ => "LIMIT %(_aeai_limit)s".toList

def openAt : Nat := "SELECT * FROM ".length

def closeAt (query : String) : Nat := openAt + 1 + query.length

def limitAt (query : String) : Nat := closeAt query + ") AS warehouse_source ".length

/-- In the statement around `query` the wrapper's parentheses match each other and its limit
    is code of the outermost level. -/
structure LimitHolds (fetch : Fetch) (statement query : String) : Prop where
  wrapped : Closes fetch.dialect statement.toList openAt (closeAt query)
  live : LiveAt fetch.dialect statement.toList (limitAt query)
  clause : statement.toList.drop (limitAt query) = fetch.limitClause

/-! The statement as a wrapper around the query. -/

def opening : Text := "SELECT * FROM ".toList

def naming : Text := " AS warehouse_source ".toList

def wrapped (text clause : Text) : Text := opening ++ '(' :: text ++ ')' :: (naming ++ clause)

theorem joined_text {front behind clause : String} {rest : Text}
    (joined : behind.toList ++ clause.toList = ')' :: rest) (text : String) :
    (front ++ ("(" ++ text ++ behind) ++ clause).toList =
      front.toList ++ '(' :: text.toList ++ ')' :: rest := by
  have single : "(".toList = ['('] := rfl
  rw [← joined]
  simp only [String.toList_append, single, List.append_assoc, List.cons_append, List.nil_append]

theorem sqlite_tail : ") AS warehouse_source".toList ++ " LIMIT :_aeai_limit".toList =
    ')' :: (naming ++ "LIMIT :_aeai_limit".toList) := by decide

theorem snowflake_tail : ") AS warehouse_source".toList ++ " LIMIT %(_aeai_limit)s".toList =
    ')' :: (naming ++ "LIMIT %(_aeai_limit)s".toList) := by decide

section connectors
variable [UnicodeDatabase] {Param : Type}

theorem selectQuery_given {query : Option String} {text : String}
    (selected : selectQuery query = .ok text) : given query = true := by
  cases query with
  | none =>
    have empty : strip "" = "" := by simp [strip, stripText]
    simp [selectQuery, empty] at selected
  | some text =>
    have nonempty : text ≠ "" := by
      intro empty
      subst empty
      have blank : strip "" = "" := by simp [strip, stripText]
      simp [selectQuery, blank] at selected
    simp [given, nonempty]

theorem DatasetReference.no_table (reference : DatasetReference Param) {text : String}
    (selected : selectQuery reference.query = .ok text) : given reference.table = false := by
  have differ := reference.exactlyOne
  rw [selectQuery_given selected] at differ
  simpa using differ

theorem sourceSql_query {source : String} {reference : DatasetReference Param}
    {text sql : String} (selected : selectQuery reference.query = .ok text)
    (made : sourceSql source reference = .ok sql) :
    sql = "(" ++ text ++ ") AS warehouse_source" := by
  unfold sourceSql at made
  cases asserted : assertSource reference source with
  | error message => simp [asserted, bind, Except.bind] at made
  | ok _ =>
    simp [asserted, bind, Except.bind, pure, Except.pure, reference.no_table selected,
      selected] at made
    exact made.symm

theorem Fetch.rows_text {number : Int → Param} {reference : DatasetReference Param}
    {fetch : Fetch} {statement : Statement Param} {text : String}
    (selected : selectQuery reference.query = .ok text)
    (built : fetch.rows number reference = .ok statement) :
    statement.text.toList = wrapped text.toList fetch.limitClause := by
  cases fetch with
  | sqlite limit =>
    simp only [rows, sqliteFetchRows, bind_eq_ok, pure_eq_ok] at built
    obtain ⟨parameters, merged, source, made, found⟩ := built
    rw [← found, sourceSql_query selected made]
    exact joined_text sqlite_tail text
  | snowflake rowLimit limit =>
    simp only [rows, snowflakeFetchRows, bind_eq_ok, pure_eq_ok] at built
    obtain ⟨parameters, merged, source, made, found⟩ := built
    rw [← found, sourceSql_query selected made]
    exact joined_text snowflake_tail text

end connectors

theorem opening_scanned (d : Dialect) :
    (scanText d opening).mode = .plain ∧ (scanText d opening).opened = [] := by
  have split : opening = "SELECT * FROM".toList ++ [' '] := by decide
  unfold scanText
  rw [split]
  exact run_words d (by decide) (.inl rfl)

/-- The name of the wrapped source is code without parentheses. -/
theorem naming_scanned (d : Dialect) {scan : Scan} (code : scan.mode = .plain) :
    (scan.run d naming).mode = .plain ∧ (scan.run d naming).opened = scan.opened := by
  have split : naming = " AS warehouse_source".toList ++ [' '] := by decide
  rw [split]
  exact run_words d (by decide) (.inl code)

theorem take_named (text clause : Text) :
    (wrapped text clause).take (opening.length + 1 + text.length + (naming.length + 1)) =
      (opening ++ '(' :: text ++ [')']) ++ naming := by
  have split : wrapped text clause = ((opening ++ '(' :: text ++ [')']) ++ naming) ++ clause := by
    simp [wrapped]
  have measured : ((opening ++ '(' :: text ++ [')']) ++ naming).length =
      opening.length + 1 + text.length + (naming.length + 1) := by
    simp
    omega
  rw [split, ← measured, List.take_left]

theorem drop_named (text clause : Text) :
    (wrapped text clause).drop (opening.length + 1 + text.length + (naming.length + 1)) =
      clause := by
  have split : wrapped text clause = ((opening ++ '(' :: text ++ [')']) ++ naming) ++ clause := by
    simp [wrapped]
  have measured : ((opening ++ '(' :: text ++ [')']) ++ naming).length =
      opening.length + 1 + text.length + (naming.length + 1) := by
    simp
    omega
  rw [split, ← measured, List.drop_left]

theorem live_of_contained {d : Dialect} {text clause : Text} (contained : SelfContained d text) :
    LiveAt d (wrapped text clause)
      (opening.length + 1 + text.length + (naming.length + 1)) := by
  obtain ⟨code, outermost⟩ := opening_scanned d
  obtain ⟨plain, closed⟩ := scan_after_wrapped code outermost contained
  obtain ⟨stillPlain, stillClosed⟩ := naming_scanned d plain
  unfold LiveAt
  rw [take_named]
  unfold scanText at *
  rw [Scan.run_append, stillPlain, stillClosed, closed]
  simp [Mode.inCode]

/-- In the statement that `fetch_rows` builds around an accepted query, the wrapper's own
    parentheses match and the limit is live exactly if the query, read alone in the dialect
    of the warehouse, ends outside comments, strings, quoted identifiers and parentheses and
    closes no parenthesis that it did not open. -/
theorem limit_holds_iff [UnicodeDatabase] {Param : Type} (number : Int → Param)
    (reference : DatasetReference Param) (fetch : Fetch) {statement : Statement Param}
    {text : String} (selected : selectQuery reference.query = .ok text)
    (built : fetch.rows number reference = .ok statement) :
    LimitHolds fetch statement.text text ↔ SelfContained fetch.dialect text.toList := by
  have shape := fetch.rows_text selected built
  obtain ⟨code, outermost⟩ := opening_scanned fetch.dialect
  constructor
  · intro ⟨closes, _, _⟩
    rw [shape] at closes
    exact (closes_wrapped_iff code outermost).mp closes
  · intro contained
    constructor
    · rw [shape]
      exact (closes_wrapped_iff code outermost).mpr contained
    · rw [shape]
      exact live_of_contained contained
    · rw [shape]
      exact drop_named text.toList _

def openNotes : DatasetReference Unit where
  source := "sqlite"
  query := some "select count(*) from sales where note = '('"

/-- A parenthesis in a string of the query does not count. -/
theorem quoted_parenthesis_keeps_limit : let _ := asciiDatabase
    ∃ statement, (Fetch.sqlite 5).rows (fun _ => ()) openNotes = .ok statement ∧
      LimitHolds (.sqlite 5) statement.text "select count(*) from sales where note = '('" := by
  intro _
  have selected : selectQuery openNotes.query =
      .ok "select count(*) from sales where note = '('" := by decide
  have accepted : ((Fetch.sqlite 5).rows (fun _ => ()) openNotes).isOk = true := by
    decide
  cases built : (Fetch.sqlite 5).rows (fun _ => ()) openNotes with
  | error message => simp [built, Except.isOk, Except.toBool] at accepted
  | ok statement =>
    exact ⟨statement, rfl,
      (limit_holds_iff (fun _ => ()) openNotes (.sqlite 5) selected built).mpr (by decide)⟩

def everySale : DatasetReference Unit where
  source := "sqlite"
  query := some "select * from sales) --"

/-- The query closes the wrapper's parenthesis itself and comments out the limit. -/
theorem comment_hides_limit : let _ := asciiDatabase
    ∃ statement, selectQuery everySale.query = .ok "select * from sales) --" ∧
      (Fetch.sqlite 5).rows (fun _ => ()) everySale = .ok statement ∧
      ¬ LimitHolds (.sqlite 5) statement.text "select * from sales) --" := by
  intro _
  have text : ((Fetch.sqlite 5).rows (fun _ => ()) everySale).map Statement.text = .ok
      "SELECT * FROM (select * from sales) --) AS warehouse_source LIMIT :_aeai_limit" := by
    decide
  obtain ⟨statement, built, same⟩ := except_map_ok text
  refine ⟨statement, by decide, built, ?_⟩
  intro holds
  have closes := holds.wrapped
  rw [same] at closes
  exact absurd closes (by decide)

end Warehouse
