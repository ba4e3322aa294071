import AeaiOs.HarmlessUris
import AeaiOs.WarehouseQueries

/-!
The uris under which the tables of a warehouse are registered, and the references that are read
from them after their redaction.
-/
namespace Warehouse
open PyText UrlSplit OrderedDict ExceptLists Redaction

/-! Reading a reference. -/

inductive WarehouseError where
  | connector (message : String)
  | valueError (message : String)
  | indexError
  deriving DecidableEq, Repr

/-- A reference with its place; the values of its metadata are texts, so it has no parameters. -/
structure DatasetLocation extends DatasetReference Unit where
  databasePath : Option String := none
  uri : Option String := none
  credentialProfileId : Option String := none

/-- The check of `__post_init__`. -/
def DatasetLocation.checked (source : String) (table query database schema : Option String)
    (databasePath uri credentialProfileId : Option String) : Except WarehouseError DatasetLocation :=
  if one : given table ≠ given query then
    .ok {
      source, table, query, database, schema, exactlyOne := one
      databasePath, uri, credentialProfileId }
  else
    .error (.connector "Warehouse dataset reference must include exactly one of table or query.")

/-- The schemes whose urls have parameters behind a semicolon. -/
def usesParams : List String :=
  ["", "ftp", "hdl", "prospero", "http", "https", "shttp", "rtsp", "rtspu", "sip", "sips", "mms",
    "sftp", "tel"]

/-- `_splitparams(path)[0]` -/
def withoutParams (path : Text) : Text :=
  let last := (path.reverse.takeWhile (· ≠ '/')).reverse
  path.take (path.length - last.length) ++ (partition ';' last).1

/-- `urlparse(url)` -/
def urlparse (url : Text) : Except WarehouseError SplitResult :=
  match urlsplit url with
  | .error message => .error (.valueError message)
  | .ok parsed =>
      if usesParams.contains (String.ofList parsed.scheme) && parsed.path.contains ';' then
        .ok { parsed with path := withoutParams parsed.path }
      else .ok parsed

/-- `value or other` -/
def orElse (value other : Option String) : Option String := if given value then value else other

/-- `parse_qs(query).get(key, [""])[0] or None` -/
def firstValue (query : Text) (key : String) : Option String :=
  ((parseQsl query).find? fun pair => pair.1 = key.toList && !pair.2.isEmpty).map fun pair =>
    String.ofList pair.2

/-- `_sqlite_path_from_uri` -/
def sqlitePathFromUri (parsed : SplitResult) : Text :=
  if !parsed.netloc.isEmpty && parsed.netloc ≠ "localhost".toList then
    unquote (['/', '/'] ++ parsed.netloc ++ parsed.path)
  else unquote parsed.path

/-- `path.strip("/")` -/
def stripSlashes (path : Text) : Text :=
  ((path.dropWhile (· = '/')).reverse.dropWhile (· = '/')).reverse

/-- `_snowflake_relation_from_uri` -/
def snowflakeRelationFromUri (parsed : SplitResult) :
    Except WarehouseError (Option (Option String × Option String × String)) :=
  let relation := joinWith ['.']
    ([parsed.netloc, stripSlashes parsed.path].filter fun part => !part.isEmpty)
  if relation.isEmpty then .ok none
  else
    let parts := ((splitOn '.' (replace relation ['/'] ['.'])).filter fun part => !part.isEmpty).map
      fun part => String.ofList (unquote part)
    match parts.reverse with
    | [] => .error .indexError
    | [table] => .ok (some (none, none, table))
    | [table, schema] => .ok (some (none, some schema, table))
    | table :: schema :: database :: _ => .ok (some (some database, some schema, table))

section metadata
variable [UnicodeDatabase]

/-- `_normalize_source` -/
def normalizeSource (source : String) : String :=
  String.ofList (replace (UnicodeDatabase.lower (strip source).toList) ['-'] ['_'])

/-- `_metadata_source` -/
def metadataSource (metadata : Dict String String) : Option String :=
  ["warehouse", "warehouse_source", "adapter", "source"].findSome? fun key =>
    (((metadata.get? key).filter (· ≠ "")).map normalizeSource).filter fun source =>
      source = "sqlite" || source = "snowflake"

/-- `_metadata_value` -/
def metadataValue (metadata : Dict String String) (keys : List String) : Option String :=
  keys.findSome? fun key => ((metadata.get? key).map strip).filter (· ≠ "")

/-- `_metadata_parameters` of texts -/
def metadataParameters (metadata : Dict String String) : Except WarehouseError Unit :=
  match ["parameters", "query_parameters", "warehouse_parameters"].find? fun key =>
      (metadata.get? key).isSome with
  | some key => .error (.connector ("Warehouse metadata " ++ key ++ " must be a mapping."))
  | none => .ok ()

/-- `_default_credential_profile` -/
def defaultCredentialProfile (source : String) : Option String :=
  if source = "snowflake" then some "snowflake-default"
  else if source = "sqlite" then some "local-filesystem"
  else none

/-- `warehouse_reference_from_metadata` -/
def referenceFromMetadata (uri : String) (metadata : Dict String String) :
    Except WarehouseError DatasetLocation := do
  let parsed ← urlparse uri.toList
  let scheme := String.ofList (UnicodeDatabase.lower parsed.scheme)
  let uriSource := if scheme = "sqlite" || scheme = "snowflake" then some scheme else none
  match orElse (metadataSource metadata) uriSource with
  | none =>
      .error (.connector "Dataset metadata does not identify a warehouse source.")
  | some source => do
      let table := metadataValue metadata ["table", "warehouse_table"]
      let query := metadataValue metadata ["query", "warehouse_query"]
      let database := metadataValue metadata ["database", "warehouse_database"]
      let schema := metadataValue metadata ["schema", "warehouse_schema"]
      let databasePath := metadataValue metadata ["database_path", "sqlite_path"]
      let profile := metadataValue metadata
        ["credential_profile_id", "credential_profile", "connector_profile"]
      let location (table query database schema databasePath : Option String) := do
        metadataParameters metadata
        DatasetLocation.checked source table query database schema databasePath (some uri)
          (orElse profile (defaultCredentialProfile source))
      if source = "sqlite" && scheme = "sqlite" then
        let databasePath := orElse databasePath (some (String.ofList (sqlitePathFromUri parsed)))
        let table := orElse table (some (String.ofList (unquote parsed.fragment)))
        let table := orElse table (firstValue parsed.query "table")
        location table (orElse query (firstValue parsed.query "query")) database schema databasePath
      else if source = "snowflake" && scheme = "snowflake" then
        let relation ← snowflakeRelationFromUri parsed
        let query := orElse query (firstValue parsed.query "query")
        match relation, table with
        | some (database, schema, table), none =>
            location (some table) query database schema databasePath
        | _, _ => location table query database schema databasePath
      else location table query database schema databasePath

end metadata

/-! Registering a table. -/

structure Connector where
  id : String
  credentialProfileId : Option String

structure Installation where
  id : String
  connectorId : String
  configuration : Dict String String

/-- The registry of the connectors, and the files. -/
structure Site where
  getConnector : String → Except String Connector
  /-- `str(Path(path).resolve())` -/
  resolve : String → String
  /-- `str(self._local_asset(installation, asset_id))` -/
  localAsset : Installation → String → Except String String

structure RegistrationSpec where
  sourceType : String
  datasetUri : String
  connectorId : String
  credentialProfileId : Option String
  metadata : List (String × Option String)

/-- `_SAFE_IDENTIFIER.fullmatch(name)` -/
def safeIdentifier (name : String) : Bool := isIdentifierPart name.toList

/-- `_sqlite_reference`, of which the table and the path are read. -/
def sqliteReference (installation : Installation) (assetId : String) :
    Except String (String × Option String) :=
  if safeIdentifier assetId then .ok (assetId, installation.configuration.get? "database_path")
  else .error "Selected SQLite table name is not supported."

/-- `_snowflake_reference`: its database, schema and table. -/
def snowflakeReference (installation : Installation) (assetId : String) :
    Except String (String × String × String) :=
  match (splitOn '/' assetId.toList).map String.ofList with
  | [database, schema, table] =>
      if !(safeIdentifier database && safeIdentifier schema && safeIdentifier table) then
        .error "Select a valid Snowflake table from the catalog."
      else if some database ≠ installation.configuration.get? "database" ∨
          some schema ≠ installation.configuration.get? "schema" then
        .error "The selected Snowflake table is outside this installation."
      else .ok (database, schema, table)
  | _ => .error "Select a valid Snowflake table from the catalog."

def quoted (text : String) : String := String.ofList (quote text.toList)

/-- `registration_spec` -/
def Site.registrationSpec (site : Site) (installation : Installation) (assetId : String) :
    Except String RegistrationSpec := do
  let connector ← site.getConnector installation.connectorId
  let spec (sourceType datasetUri : String) (metadata : List (String × Option String)) :
      RegistrationSpec :=
    { sourceType, datasetUri
      connectorId := connector.id
      credentialProfileId := connector.credentialProfileId
      metadata := [("installation_id", some installation.id), ("asset_id", some assetId)] ++
        metadata }
  if installation.connectorId = "local-file" then
    let path ← site.localAsset installation assetId
    return spec "local_file" path []
  else if installation.connectorId = "sqlite-local" then
    let (table, databasePath) ← sqliteReference installation assetId
    let path := site.resolve (databasePath.getD "")
    return spec "sqlite" ("sqlite://" ++ quoted path ++ "#" ++ quoted assetId)
      [("table", some table), ("database_path", databasePath)]
  else if installation.connectorId = "snowflake-default" then
    let (database, schema, table) ← snowflakeReference installation assetId
    return spec "snowflake" ("snowflake://" ++ database ++ "/" ++ schema ++ "/" ++ table)
      [("database", some database), ("schema", some schema), ("table", some table)]
  else .error "This connector does not expose workflow-selectable datasets."

/-! What is written in a uri. -/

/-- The characters of quoted paths and of identifiers mean nothing to a reader of uris. -/
theorem quotedChar_inert {c : Char} (quoted : quotedChar c = true) :
    isLineChar c = false ∧ endsAuthority c = false ∧ c ≠ '[' ∧ c ≠ ']' ∧ c ≠ '@' ∧ c ≠ '?' ∧
      c ≠ '#' ∧ nfkcDelimiter c = false := by
  have ascii : c.toNat < 128 := of_decide_eq_true (Bool.and_eq_true_iff.mp quoted).1
  have each : ∀ n < 128, quotedChar (Char.ofNat n) = true →
      isLineChar (Char.ofNat n) = false ∧ endsAuthority (Char.ofNat n) = false ∧
        Char.ofNat n ≠ '[' ∧ Char.ofNat n ≠ ']' ∧ Char.ofNat n ≠ '@' ∧ Char.ofNat n ≠ '?' ∧
        Char.ofNat n ≠ '#' ∧ nfkcDelimiter (Char.ofNat n) = false := by
    decide
  have here := each c.toNat ascii
  rw [Char.ofNat_toNat] at here
  exact here quoted

/-- A path or a fragment that `quote` has written. -/
theorem quote_inert (s : Text) : ∀ c ∈ quote s, isLineChar c = false ∧ c ≠ '[' ∧ c ≠ '?' ∧ c ≠ '#' := by
  intro c member
  rcases quote_chars s c member with rfl | ⟨quoted, _⟩
  · decide
  · obtain ⟨line, _, opened, _, _, mark, hash, _⟩ := quotedChar_inert quoted
    exact ⟨line, opened, mark, hash⟩

theorem identifier_chars {part : Text} (safe : isIdentifierPart part = true) :
    ∀ c ∈ part, quotedChar c = true ∧ c ≠ '.' ∧ c ≠ '%' ∧ c ≠ '/' := by
  have each : ∀ c : Char, (c.isAlphanum || c == '_') = true →
      quotedChar c = true ∧ c ≠ '.' ∧ c ≠ '%' ∧ c ≠ '/' := by
    intro c plain
    have ascii : c.toNat < 128 := by
      delta Char.isAlphanum Char.isAlpha Char.isUpper Char.isLower Char.isDigit at plain
      simp only [Bool.or_eq_true, Bool.and_eq_true, decide_eq_true_eq, beq_iff_eq] at plain
      rcases plain with ((⟨_, high⟩ | ⟨_, high⟩) | ⟨_, high⟩) | rfl
      · have bound : c.toNat ≤ 90 := UInt32.le_iff_toNat_le.mp high
        omega
      · have bound : c.toNat ≤ 122 := UInt32.le_iff_toNat_le.mp high
        omega
      · have bound : c.toNat ≤ 57 := UInt32.le_iff_toNat_le.mp high
        omega
      · decide
    have table : ∀ n < 128, (Char.ofNat n).isAlphanum || Char.ofNat n == '_' →
        quotedChar (Char.ofNat n) = true ∧ Char.ofNat n ≠ '.' ∧ Char.ofNat n ≠ '%' ∧
          Char.ofNat n ≠ '/' := by
      decide
    have here := table c.toNat ascii
    rw [Char.ofNat_toNat] at here
    exact here plain
  intro c member
  cases part with
  | nil => cases member
  | cons d rest =>
    simp only [isIdentifierPart, Bool.and_eq_true, List.all_eq_true] at safe
    rcases List.mem_cons.mp member with rfl | later
    · apply each
      have first := safe.1
      unfold Char.isAlphanum
      simp only [Bool.or_eq_true] at first ⊢
      exact first.imp_left .inl
    · exact each c (safe.2 c later)

theorem replace_free {first : Char} {s : Text} (free : first ∉ s) (old new : Text) :
    replace s (first :: old) new = s := by
  induction s with
  | nil => rfl
  | cons c s ih =>
    simp only [List.mem_cons, not_or] at free
    rw [replace_cons (by simp), dropPrefix?, if_neg (Ne.symm free.1)]
    exact congrArg (c :: ·) (ih free.2)

theorem replace_char (old new : Char) (s : Text) :
    replace s [old] [new] = s.map fun c => if c = old then new else c := by
  induction s with
  | nil => rfl
  | cons c s ih =>
    rw [replace_cons (by simp), List.map_cons]
    by_cases here : c = old
    · simp [dropPrefix?, here, ih]
    · simp [dropPrefix?, here, ih]

theorem identifier_some {part : Text} (safe : isIdentifierPart part = true) : part ≠ [] := by
  intro empty
  rw [empty] at safe
  cases safe

theorem unquote_identifier {part : Text} (safe : isIdentifierPart part = true) :
    unquote part = part := by
  have plain : part.contains '%' = false := by
    rw [List.contains_eq_mem, decide_eq_false_iff_not]
    exact fun member => (identifier_chars safe '%' member).2.2.1 rfl
  unfold unquote
  rw [plain, if_neg Bool.false_ne_true]

theorem stripSlashes_inner {first last : Text} (left : isIdentifierPart first = true)
    (right : isIdentifierPart last = true) :
    stripSlashes ('/' :: (first ++ '/' :: last)) = first ++ '/' :: last := by
  have front : ∀ part : Text, isIdentifierPart part = true → ∀ rest : Text,
      (part ++ rest).dropWhile (fun c => decide (c = '/')) = part ++ rest := by
    intro part safe rest
    cases part with
    | nil => cases safe
    | cons c part =>
      have plain := (identifier_chars safe c List.mem_cons_self).2.2.2
      rw [List.cons_append, List.dropWhile_cons_of_neg (by simpa using plain)]
  have back : (last.reverse ++ ('/' :: first.reverse)).dropWhile (fun c => decide (c = '/')) =
      last.reverse ++ ('/' :: first.reverse) := by
    cases turned : last.reverse with
    | nil => exact absurd (List.reverse_eq_nil_iff.mp turned) (identifier_some right)
    | cons c rest =>
      have member : c ∈ last := by
        rw [← List.mem_reverse, turned]
        exact List.mem_cons_self
      have plain := (identifier_chars right c member).2.2.2
      rw [List.cons_append, List.dropWhile_cons_of_neg (by simpa using plain)]
  have turned : (first ++ '/' :: last).reverse = last.reverse ++ ('/' :: first.reverse) := by
    simp
  unfold stripSlashes
  rw [List.dropWhile_cons_of_pos (by decide), front first left, turned, back, ← turned,
    List.reverse_reverse]

/-- The relation of a Snowflake uri. -/
theorem snowflakeRelation_of {database schema table : Text}
    (safeDatabase : isIdentifierPart database = true) (safeSchema : isIdentifierPart schema = true)
    (safeTable : isIdentifierPart table = true) :
    snowflakeRelationFromUri
        ⟨"snowflake".toList, database, '/' :: (schema ++ '/' :: table), [], []⟩ =
      .ok (some (some (String.ofList database), some (String.ofList schema),
        String.ofList table)) := by
  have noDot : ∀ part, isIdentifierPart part = true → '.' ∉ part :=
    fun part safe member => (identifier_chars safe '.' member).2.1 rfl
  have kept : ∀ part, isIdentifierPart part = true →
      part.map (fun c => if c = '/' then '.' else c) = part := by
    intro part safe
    conv_rhs => rw [← List.map_id part]
    apply List.map_congr_left
    intro c member
    rw [if_neg (identifier_chars safe c member).2.2.2]
    rfl
  have full : ∀ part, isIdentifierPart part = true → part.isEmpty = false := by
    intro part safe
    simpa using identifier_some safe
  have joined : joinWith ['.'] ([database, schema ++ '/' :: table].filter fun part =>
      !part.isEmpty) = database ++ '.' :: (schema ++ '/' :: table) := by
    have tail : (schema ++ '/' :: table).isEmpty = false := by simp
    simp [List.filter, full database safeDatabase, tail, joinWith]
  have dotted : replace (database ++ '.' :: (schema ++ '/' :: table)) ['/'] ['.'] =
      database ++ '.' :: (schema ++ '.' :: table) := by
    rw [replace_char]
    simp [kept database safeDatabase, kept schema safeSchema, kept table safeTable]
  have parts : splitOn '.' (database ++ '.' :: (schema ++ '.' :: table)) =
      [database, schema, table] := by
    rw [splitOn_append (noDot database safeDatabase), splitOn_append (noDot schema safeSchema),
      splitOn_free (noDot table safeTable)]
  have some_relation : (database ++ '.' :: (schema ++ '/' :: table)).isEmpty = false := by simp
  unfold snowflakeRelationFromUri
  dsimp only
  rw [stripSlashes_inner safeSchema safeTable, joined, some_relation, if_neg Bool.false_ne_true,
    dotted, parts]
  simp [full database safeDatabase, full schema safeSchema, full table safeTable,
    unquote_identifier safeDatabase, unquote_identifier safeSchema, unquote_identifier safeTable]

theorem checkAuthority_plain {netloc : Text} (host : ∀ c ∈ netloc, quotedChar c = true) :
    checkAuthority netloc = .ok () := by
  have opened : netloc.contains '[' = false := by
    rw [List.contains_eq_mem, decide_eq_false_iff_not]
    exact fun member => (quotedChar_inert (host _ member)).2.2.1 rfl
  have closed : netloc.contains ']' = false := by
    rw [List.contains_eq_mem, decide_eq_false_iff_not]
    exact fun member => (quotedChar_inert (host _ member)).2.2.2.1 rfl
  have delimiters : netloc.any nfkcDelimiter = false := by
    rw [List.any_eq_false]
    intro c member
    have inert := (quotedChar_inert (host c member)).2.2.2.2.2.2.2
    simp [inert]
  unfold checkAuthority checkBrackets checkNetloc
  rw [opened, closed, delimiters]
  rfl

section uris
variable [UnicodeDatabase]

/-- Redaction drops the slashes of an empty authority, and the parts are read back. -/
theorem urlparse_redacted {scheme netloc path fragment : Text}
    (named : schemeHead scheme = true) (plain : usesParams.contains (String.ofList scheme) = false)
    (split : IsSplit ⟨scheme, netloc, '/' :: path, [], fragment⟩)
    (host : ∀ c ∈ netloc, quotedChar c = true)
    (unmarked : '[' ∉ slashedUrl scheme netloc ('/' :: path) fragment) :
    ∃ text, redactUriText (slashedUrl scheme netloc ('/' :: path) fragment) = .ok text ∧
      urlparse text = .ok ⟨scheme, netloc, '/' :: path, [], fragment⟩ := by
  have parts := splitParts_slashedUrl named split
  have kept : masked (slashedUrl scheme netloc ('/' :: path) fragment) =
      slashedUrl scheme netloc ('/' :: path) fragment := by
    unfold masked
    rw [markedUserinfo_chars]
    exact replace_free unmarked _ _
  have authority := checkAuthority_plain host
  have accepted : ¬ Refused (masked (slashedUrl scheme netloc ('/' :: path) fragment)) := by
    unfold Refused
    rw [kept, parts, authority]
    exact nofun
  have user : hasUser (splitParts (masked (slashedUrl scheme netloc ('/' :: path) fragment))) =
      false := by
    rw [kept, parts]
    apply hasUser_free
    intro at_sign
    exact (quotedChar_inert (host '@' at_sign)).2.2.2.2.1 rfl
  have redaction := redactUriText_free accepted user
  rw [kept, parts] at redaction
  refine ⟨_, redaction, ?_⟩
  have empty : urlencode (redactPairs (parseQsl [])) = [] := rfl
  dsimp only
  rw [empty]
  have again := splitParts_urlunsplit split
  have path_kept : (if (⟨scheme, netloc, '/' :: path, [], fragment⟩ : SplitResult).slashed then
      rootedPath ('/' :: path) else '/' :: path) = '/' :: path := by
    split <;> rfl
  unfold urlparse
  rw [urlsplit_eq, again]
  dsimp only
  rw [path_kept, authority]
  dsimp only [Except.map]
  rw [plain, Bool.false_and, if_neg Bool.false_ne_true]

/-! Registration and reference. -/

/-- The metadata that name a source and nothing else. -/
def sourceMetadata (key source : String) : Dict String String := Dict.empty.set key source

def sourceKeys : List String := ["warehouse", "warehouse_source", "adapter", "source"]

omit [UnicodeDatabase] in
theorem sourceMetadata_other {key other : String} (different : key ≠ other) (source : String) :
    (sourceMetadata key source).get? other = none := by
  unfold sourceMetadata
  rw [Dict.get?_set_other _ _ different]
  rfl

theorem normalizeSource_known {source : String} (known : source = "sqlite" ∨ source = "snowflake") :
    normalizeSource source = source := by
  unfold normalizeSource
  rcases known with rfl | rfl
  · have stripped : (strip "sqlite").toList = "sqlite".toList := by decide
    rw [stripped, UnicodeDatabase.lower_ascii _ (by simp [isAscii])]
    decide
  · have stripped : (strip "snowflake").toList = "snowflake".toList := by decide
    rw [stripped, UnicodeDatabase.lower_ascii _ (by simp [isAscii])]
    decide

theorem metadataSource_of {key source : String} (named : key ∈ sourceKeys)
    (known : source = "sqlite" ∨ source = "snowflake") :
    metadataSource (sourceMetadata key source) = some source := by
  have here : (sourceMetadata key source).get? key = some source := Dict.get?_set_self _ _ _
  have some_text : source ≠ "" := by
    rcases known with rfl | rfl <;> decide
  have accepted : (source = "sqlite" || source = "snowflake") = true := by simpa using known
  have at_key : (((some source).filter (· ≠ "")).map normalizeSource).filter
      (fun source => source = "sqlite" || source = "snowflake") = some source := by
    rw [Option.filter_some, if_pos (by simpa using some_text), Option.map_some,
      normalizeSource_known known, Option.filter_some, if_pos accepted]
  have elsewhere : ∀ other, key ≠ other → ((((sourceMetadata key source).get? other).filter
      (· ≠ "")).map normalizeSource).filter
      (fun source => source = "sqlite" || source = "snowflake") = none := by
    intro other different
    rw [sourceMetadata_other different]
    rfl
  unfold metadataSource
  simp only [sourceKeys, List.mem_cons, List.not_mem_nil, or_false] at named
  rcases named with rfl | rfl | rfl | rfl
  · simp only [List.findSome?_cons, here, at_key]
  · simp only [List.findSome?_cons, elsewhere "warehouse" (by decide), here, at_key]
  · simp only [List.findSome?_cons, elsewhere "warehouse" (by decide),
      elsewhere "warehouse_source" (by decide), here, at_key]
  · simp only [List.findSome?_cons, elsewhere "warehouse" (by decide),
      elsewhere "warehouse_source" (by decide), elsewhere "adapter" (by decide), here, at_key]

omit [UnicodeDatabase] in
theorem metadataValue_none {key source : String} {keys : List String} (other : key ∉ keys) :
    metadataValue (sourceMetadata key source) keys = none := by
  unfold metadataValue
  rw [List.findSome?_eq_none_iff]
  intro name member
  have different : key ≠ name := by
    intro same
    exact other (same ▸ member)
  rw [sourceMetadata_other different]
  rfl

omit [UnicodeDatabase] in
/-- Metadata that only name the source leave everything else to the uri. -/
theorem sourceMetadata_silent {key : String} (named : key ∈ sourceKeys) (source : String) :
    metadataValue (sourceMetadata key source) ["table", "warehouse_table"] = none ∧
      metadataValue (sourceMetadata key source) ["query", "warehouse_query"] = none ∧
      metadataValue (sourceMetadata key source) ["database", "warehouse_database"] = none ∧
      metadataValue (sourceMetadata key source) ["schema", "warehouse_schema"] = none ∧
      metadataValue (sourceMetadata key source) ["database_path", "sqlite_path"] = none ∧
      metadataValue (sourceMetadata key source)
        ["credential_profile_id", "credential_profile", "connector_profile"] = none ∧
      metadataParameters (sourceMetadata key source) = .ok () := by
  have apart : ∀ name ∈ sourceKeys, name ∉ ["table", "warehouse_table", "query", "warehouse_query",
      "database", "warehouse_database", "schema", "warehouse_schema", "database_path",
      "sqlite_path", "credential_profile_id", "credential_profile", "connector_profile",
      "parameters", "query_parameters", "warehouse_parameters"] := by
    decide
  have other := apart key named
  simp only [List.mem_cons, List.not_mem_nil, or_false, not_or] at other
  obtain ⟨a, b, c, d, e, f, g, h, i, j, k, l, m, n, o, p⟩ := other
  refine ⟨metadataValue_none (by simp [a, b]), metadataValue_none (by simp [c, d]),
    metadataValue_none (by simp [e, f]), metadataValue_none (by simp [g, h]),
    metadataValue_none (by simp [i, j]), metadataValue_none (by simp [k, l, m]), ?_⟩
  unfold metadataParameters
  simp [sourceMetadata_other n, sourceMetadata_other o, sourceMetadata_other p]

omit [UnicodeDatabase] in
theorem orElse_none (other : Option String) : orElse none other = other := rfl

omit [UnicodeDatabase] in
theorem orElse_given {value : Option String} (is_given : given value = true)
    (other : Option String) : orElse value other = value :=
  if_pos is_given

omit [UnicodeDatabase] in
theorem checked_table {source table : String} (some_text : table ≠ "")
    (database schema databasePath uri profile : Option String) :
    ∃ reference, DatasetLocation.checked source (some table) none database schema databasePath uri
        profile = .ok reference ∧
      reference.source = source ∧ reference.table = some table ∧ reference.query = none ∧
      reference.database = database ∧ reference.schema = schema ∧
      reference.databasePath = databasePath := by
  have one : given (some table) ≠ given none := by
    simp [given, some_text]
  unfold DatasetLocation.checked
  rw [dif_pos one]
  exact ⟨_, rfl, rfl, rfl, rfl, rfl, rfl, rfl⟩

theorem reference_of_sqlite {key : String} (named : key ∈ sourceKeys) {text path fragment : Text}
    (parsed : urlparse text = .ok ⟨"sqlite".toList, [], path, [], fragment⟩)
    (table : unquote fragment ≠ []) :
    ∃ reference, referenceFromMetadata (String.ofList text) (sourceMetadata key "sqlite") =
        .ok reference ∧
      reference.source = "sqlite" ∧ reference.table = some (String.ofList (unquote fragment)) ∧
      reference.query = none ∧ reference.database = none ∧ reference.schema = none ∧
      reference.databasePath = some (String.ofList (unquote path)) := by
  obtain ⟨noTable, noQuery, noDatabase, noSchema, noPath, noProfile, noParameters⟩ :=
    sourceMetadata_silent named "sqlite"
  have some_text : String.ofList (unquote fragment) ≠ "" := by
    intro empty
    exact table (by simpa using congrArg String.toList empty)
  have lower : String.ofList (UnicodeDatabase.lower "sqlite".toList) = "sqlite" := by
    rw [UnicodeDatabase.lower_ascii _ (by simp [isAscii])]
    decide
  have is_given : given (some (String.ofList (unquote fragment))) = true := by
    simpa [given] using some_text
  unfold referenceFromMetadata
  rw [String.toList_ofList, parsed]
  dsimp only [bind, Except.bind]
  rw [lower, metadataSource_of named (.inl rfl)]
  have no_value : ∀ name, firstValue [] name = none := fun _ => rfl
  have path_read : sqlitePathFromUri ⟨"sqlite".toList, [], path, [], fragment⟩ = unquote path := rfl
  simp only [noTable, noQuery, noDatabase, noSchema, noPath, noProfile, noParameters, no_value,
    path_read, orElse_none, orElse_given (by decide : given (some "sqlite") = true),
    orElse_given is_given, decide_true, Bool.and_self, if_true]
  exact checked_table some_text _ _ _ _ _

theorem reference_of_snowflake {key : String} (named : key ∈ sourceKeys)
    {text database schema table : Text}
    (parsed : urlparse text =
      .ok ⟨"snowflake".toList, database, '/' :: (schema ++ '/' :: table), [], []⟩)
    (safeDatabase : isIdentifierPart database = true) (safeSchema : isIdentifierPart schema = true)
    (safeTable : isIdentifierPart table = true) :
    ∃ reference, referenceFromMetadata (String.ofList text) (sourceMetadata key "snowflake") =
        .ok reference ∧
      reference.source = "snowflake" ∧ reference.table = some (String.ofList table) ∧
      reference.query = none ∧ reference.database = some (String.ofList database) ∧
      reference.schema = some (String.ofList schema) ∧ reference.databasePath = none := by
  obtain ⟨noTable, noQuery, noDatabase, noSchema, noPath, noProfile, noParameters⟩ :=
    sourceMetadata_silent named "snowflake"
  have some_text : String.ofList table ≠ "" := by
    intro empty
    exact identifier_some safeTable (by simpa using congrArg String.toList empty)
  have lower : String.ofList (UnicodeDatabase.lower "snowflake".toList) = "snowflake" := by
    rw [UnicodeDatabase.lower_ascii _ (by simp [isAscii])]
    decide
  have relation := snowflakeRelation_of safeDatabase safeSchema safeTable
  have no_value : ∀ name, firstValue [] name = none := fun _ => rfl
  have other : decide ("snowflake" = "sqlite") = false := by decide
  unfold referenceFromMetadata
  rw [String.toList_ofList, parsed]
  dsimp only [bind, Except.bind]
  rw [lower, metadataSource_of named (.inr rfl)]
  simp only [noTable, noQuery, noDatabase, noSchema, noPath, noProfile, noParameters, no_value,
    relation, orElse_none, orElse_given (by decide : given (some "snowflake") = true), other,
    decide_true, Bool.and_self, Bool.false_eq_true, if_false, if_true]
  exact checked_table some_text _ _ _ _ _

omit [UnicodeDatabase] in
/-- The uri of a table of a SQLite file. -/
theorem sqlite_uri (path assetId : String) (some_name : assetId ≠ "") :
    ("sqlite://" ++ quoted path ++ "#" ++ quoted assetId).toList =
      slashedUrl "sqlite".toList [] (quote path.toList) (quote assetId.toList) := by
  have fragment : quote assetId.toList ≠ [] := by
    intro empty
    have read := unquote_quote assetId.toList
    rw [empty] at read
    have none : assetId.toList = [] := read.symm
    exact some_name (by simpa using none)
  have marked : tailOf '#' (quote assetId.toList) = '#' :: quote assetId.toList := by
    unfold tailOf
    rw [if_neg (by simpa using fragment)]
  unfold slashedUrl quoted
  rw [marked]
  simp [String.toList_append]

omit [UnicodeDatabase] in
theorem snowflake_uri (database schema table : String) :
    ("snowflake://" ++ database ++ "/" ++ schema ++ "/" ++ table).toList =
      slashedUrl "snowflake".toList database.toList
        ('/' :: (schema.toList ++ '/' :: table.toList)) [] := by
  unfold slashedUrl tailOf
  simp [String.toList_append]

omit [UnicodeDatabase] in
theorem isSplit_inert {scheme netloc path fragment : Text} (named : schemeHead scheme = true)
    (same : scheme.map Char.toLower = scheme) (host : ∀ c ∈ netloc, quotedChar c = true)
    (inert : ∀ c ∈ path ++ fragment, isLineChar c = false ∧ c ≠ '[' ∧ c ≠ '?' ∧ c ≠ '#') :
    IsSplit ⟨scheme, netloc, '/' :: path, [], fragment⟩ where
  scheme := .inr ⟨named, same⟩
  netloc c member := (quotedChar_inert (host c member)).2.1
  path := by
    constructor
    · intro member
      rcases List.mem_cons.mp member with here | later
      · cases here
      · exact (inert '?' (List.mem_append_left _ later)).2.2.1 rfl
    · intro member
      rcases List.mem_cons.mp member with here | later
      · cases here
      · exact (inert '#' (List.mem_append_left _ later)).2.2.2 rfl
  rooted _ c first := (Option.some.inj first).symm
  query := List.not_mem_nil
  clean := by
    intro c member
    simp only [List.append_nil, List.mem_append, List.mem_cons] at member
    rcases member with (inNetloc | rfl | inPath) | inFragment
    · exact (quotedChar_inert (host c inNetloc)).1
    · rfl
    · exact (inert c (List.mem_append_left _ inPath)).1
    · exact (inert c (List.mem_append_right _ inFragment)).1
  front none := absurd none (schemeHead_some named)
  bare none := absurd none (schemeHead_some named)

omit [UnicodeDatabase] in
theorem slashedUrl_unmarked {scheme netloc path fragment : Text} (plain : '[' ∉ scheme)
    (host : ∀ c ∈ netloc, quotedChar c = true)
    (inert : ∀ c ∈ path ++ fragment, isLineChar c = false ∧ c ≠ '[' ∧ c ≠ '?' ∧ c ≠ '#') :
    '[' ∉ slashedUrl scheme netloc ('/' :: path) fragment := by
  have tail : '[' ∉ tailOf '#' fragment := by
    unfold tailOf
    split
    · exact List.not_mem_nil
    · intro member
      rcases List.mem_cons.mp member with here | later
      · cases here
      · exact (inert '[' (List.mem_append_right _ later)).2.1 rfl
  intro member
  simp only [slashedUrl, List.mem_append, List.mem_cons] at member
  rcases member with inScheme | here | here | here | inNetloc | (here | inPath) | inFragment
  · exact plain inScheme
  · cases here
  · cases here
  · cases here
  · exact (quotedChar_inert (host '[' inNetloc)).2.2.1 rfl
  · cases here
  · exact (inert '[' (List.mem_append_left _ inPath)).2.1 rfl
  · exact tail inFragment

section registered
variable {site : Site} {installation : Installation} {assetId : String} {connector : Connector}
  (found : site.getConnector installation.connectorId = .ok connector)

omit [UnicodeDatabase] in
include found in
theorem sqlite_registered (is : installation.connectorId = "sqlite-local")
    (safe : safeIdentifier assetId = true) {path : String}
    (resolved : site.resolve ((installation.configuration.get? "database_path").getD "") = path) :
    ∃ spec, site.registrationSpec installation assetId = .ok spec ∧
      spec.datasetUri = "sqlite://" ++ quoted path ++ "#" ++ quoted assetId := by
  have reference : sqliteReference installation assetId =
      .ok (assetId, installation.configuration.get? "database_path") := by
    unfold sqliteReference
    rw [if_pos safe]
  have other : ("sqlite-local" = "local-file") = False := by decide
  unfold Site.registrationSpec
  rw [found]
  dsimp only [bind, Except.bind]
  rw [is, reference]
  simp only [other, if_false, if_true, resolved]
  exact ⟨_, rfl, rfl⟩

omit [UnicodeDatabase] in
include found in
theorem snowflake_registered (is : installation.connectorId = "snowflake-default")
    {database schema table : String}
    (accepted : snowflakeReference installation assetId = .ok (database, schema, table)) :
    ∃ spec, site.registrationSpec installation assetId = .ok spec ∧
      spec.datasetUri = "snowflake://" ++ database ++ "/" ++ schema ++ "/" ++ table := by
  have first : ("snowflake-default" = "local-file") = False := by decide
  have second : ("snowflake-default" = "sqlite-local") = False := by decide
  unfold Site.registrationSpec
  rw [found]
  dsimp only [bind, Except.bind]
  rw [is, accepted]
  simp only [first, second, if_false, if_true]
  exact ⟨_, rfl, rfl⟩

omit [UnicodeDatabase] in
theorem snowflakeReference_safe {database schema table : String}
    (accepted : snowflakeReference installation assetId = .ok (database, schema, table)) :
    safeIdentifier database = true ∧ safeIdentifier schema = true ∧ safeIdentifier table = true := by
  unfold snowflakeReference at accepted
  split at accepted
  · split at accepted
    · cases accepted
    rename_i safe
    split at accepted
    · cases accepted
    cases accepted
    simpa [and_assoc] using safe
  · cases accepted

end registered

/-- A table that is registered from a SQLite file or from Snowflake is found again by its redacted
    uri, whichever key of the metadata names the source. -/
theorem registration_round_trip (site : Site) (installation : Installation)
    (assetId key : String) (connector : Connector)
    (found : site.getConnector installation.connectorId = .ok connector)
    (named : key ∈ sourceKeys) :
    (installation.connectorId = "sqlite-local" → safeIdentifier assetId = true →
      ∀ path, site.resolve ((installation.configuration.get? "database_path").getD "") = path →
        path.toList.head? = some '/' →
        ∃ spec uri reference, site.registrationSpec installation assetId = .ok spec ∧
          redactUri spec.datasetUri = .ok uri ∧
          referenceFromMetadata uri (sourceMetadata key "sqlite") = .ok reference ∧
          reference.databasePath = some path ∧ reference.table = some assetId ∧
          reference.database = none ∧ reference.schema = none) ∧
      (installation.connectorId = "snowflake-default" → ∀ database schema table,
        snowflakeReference installation assetId = .ok (database, schema, table) →
        ∃ spec uri reference, site.registrationSpec installation assetId = .ok spec ∧
          redactUri spec.datasetUri = .ok uri ∧
          referenceFromMetadata uri (sourceMetadata key "snowflake") = .ok reference ∧
          reference.databasePath = none ∧ reference.table = some table ∧
          reference.database = some database ∧ reference.schema = some schema) := by
  constructor
  · intro is safe path resolved absolute
    obtain ⟨rest, rooted⟩ : ∃ rest, path.toList = '/' :: rest := by
      cases chars : path.toList with
      | nil =>
        rw [chars] at absolute
        cases absolute
      | cons c rest =>
        rw [chars, List.head?_cons, Option.some.injEq] at absolute
        exact ⟨rest, by rw [absolute]⟩
    have some_name : assetId ≠ "" := by
      intro empty
      exact identifier_some safe (by simpa using congrArg String.toList empty)
    obtain ⟨spec, made, written⟩ := sqlite_registered found is safe resolved
    have inert : ∀ c ∈ quote rest ++ quote assetId.toList,
        isLineChar c = false ∧ c ≠ '[' ∧ c ≠ '?' ∧ c ≠ '#' := by
      intro c member
      rcases List.mem_append.mp member with inPath | inFragment
      · exact quote_inert rest c inPath
      · exact quote_inert assetId.toList c inFragment
    have uri := sqlite_uri path assetId some_name
    rw [rooted, quote_slash] at uri
    have scheme : schemeHead "sqlite".toList = true := by decide
    have host : ∀ c ∈ ([] : Text), quotedChar c = true := by simp
    obtain ⟨text, redacted, parsed⟩ := urlparse_redacted scheme (by decide)
      (isSplit_inert scheme (by decide) host inert) host
      (slashedUrl_unmarked (by decide) host inert)
    have table : unquote (quote assetId.toList) ≠ [] := by
      rw [unquote_quote]
      exact identifier_some safe
    obtain ⟨reference, read, -, isTable, -, noDatabase, noSchema, isPath⟩ :=
      reference_of_sqlite named parsed table
    refine ⟨spec, String.ofList text, reference, made, ?_, read, ?_, ?_, noDatabase, noSchema⟩
    · unfold redactUri
      rw [written, uri, redacted]
    · rw [isPath, ← quote_slash, unquote_quote, ← rooted, String.ofList_toList]
    · rw [isTable, unquote_quote, String.ofList_toList]
  · intro is database schema table accepted
    obtain ⟨safeDatabase, safeSchema, safeTable⟩ := snowflakeReference_safe accepted
    obtain ⟨spec, made, written⟩ := snowflake_registered found is accepted
    have inert : ∀ c ∈ (schema.toList ++ '/' :: table.toList) ++ [],
        isLineChar c = false ∧ c ≠ '[' ∧ c ≠ '?' ∧ c ≠ '#' := by
      intro c member
      have plain : ∀ part, isIdentifierPart part = true → c ∈ part →
          isLineChar c = false ∧ c ≠ '[' ∧ c ≠ '?' ∧ c ≠ '#' := by
        intro part safe inside
        obtain ⟨line, _, opened, _, _, mark, hash, _⟩ :=
          quotedChar_inert (identifier_chars safe c inside).1
        exact ⟨line, opened, mark, hash⟩
      simp only [List.append_nil, List.mem_append, List.mem_cons] at member
      rcases member with inSchema | rfl | inTable
      · exact plain schema.toList safeSchema inSchema
      · decide
      · exact plain table.toList safeTable inTable
    have scheme : schemeHead "snowflake".toList = true := by decide
    have host : ∀ c ∈ database.toList, quotedChar c = true :=
      fun c member => (identifier_chars safeDatabase c member).1
    obtain ⟨text, redacted, parsed⟩ := urlparse_redacted scheme (by decide)
      (isSplit_inert scheme (by decide) host inert) host
      (slashedUrl_unmarked (by decide) host inert)
    obtain ⟨reference, read, -, isTable, -, isDatabase, isSchema, noPath⟩ :=
      reference_of_snowflake named parsed safeDatabase safeSchema safeTable
    refine ⟨spec, String.ofList text, reference, made, ?_, read, noPath, ?_, ?_, ?_⟩
    · unfold redactUri
      rw [written, snowflake_uri, redacted]
    · rw [isTable, String.ofList_toList]
    · rw [isDatabase, String.ofList_toList]
    · rw [isSchema, String.ofList_toList]

end uris

def plainSite : Site where
  getConnector id := .ok ⟨id, none⟩
  resolve path := path
  localAsset _ _ := .error "Dataset path escapes the configured root."

def quarterly : Installation where
  id := "installation_1"
  connectorId := "sqlite-local"
  configuration := Dict.empty.set "database_path" "/data/q1 #2/a%b?.db"

theorem quarterly_found :
    let _ := asciiDatabase
    ∃ spec uri reference, plainSite.registrationSpec quarterly "sales" = .ok spec ∧
      redactUri spec.datasetUri = .ok uri ∧
      referenceFromMetadata uri (sourceMetadata "source" "sqlite") = .ok reference ∧
      reference.databasePath = some "/data/q1 #2/a%b?.db" ∧ reference.table = some "sales" ∧
      reference.database = none ∧ reference.schema = none := by
  intro _
  exact (registration_round_trip plainSite quarterly "sales" "source" ⟨"sqlite-local", none⟩ rfl
    (by decide)).1 rfl (by decide) "/data/q1 #2/a%b?.db" (by decide) (by decide)

end Warehouse
