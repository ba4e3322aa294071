import AeaiOs.SourceCatalog

/-!
The catalog that a new process reads: the reader of the file, and what the file of a reached
registry gives back.
-/
namespace DataSources
open PyText OrderedDict CivilTime RunValues
open JsonText (Json)

/-- What the reader asks of the standard library: `datetime.fromisoformat`, `str` of a value that
    is no text, and whether a literal with a fraction or an exponent is equal to one. -/
class CatalogReader extends UnicodeDatabase where
  timeOf : String → Option Time
  timeOf_isoformat : ∀ t, Representable t → timeOf (isoformat t) = some t
  printed : Json → String
  isOne : Text → Bool

namespace Registry

section reading
variable [CatalogReader]

/-- `str(value)` -/
def textOf : Json → String
  | .str text => String.ofList text
  | value => CatalogReader.printed value

/-- `datetime.fromisoformat(value)`, which raises for anything but a text. -/
def instantOf : Json → Option Time
  | .str text => CatalogReader.timeOf (String.ofList text)
  | _ => none

/-- The record of a raw entry. What is no local file is skipped; a missing field raises. -/
def loadRecord : Json → Option (Option DataSourceRecord)
  | .dict raw =>
      match lookupEntries raw "source_type".toList with
      | some (.str kind) =>
          if kind = "local_file".toList then do
            let id ← lookupEntries raw "id".toList
            let name ← lookupEntries raw "name".toList
            let datasetUri ← lookupEntries raw "dataset_uri".toList
            let owner ← lookupEntries raw "owner".toList
            let organizationId ← lookupEntries raw "organization_id".toList
            let workspaceId ← lookupEntries raw "workspace_id".toList
            let createdAt ← lookupEntries raw "created_at".toList
            let createdAt ← instantOf createdAt
            let updatedAt ← lookupEntries raw "updated_at".toList
            let updatedAt ← instantOf updatedAt
            return some
              { id := textOf id
                name := textOf name
                sourceType := .localFile
                connectorId := "local-file"
                credentialProfileId := none
                datasetUri := textOf datasetUri
                owner := textOf owner
                organizationId := textOf organizationId
                workspaceId := textOf workspaceId
                metadata := []
                createdAt := createdAt
                updatedAt := updatedAt }
          else some none
      | _ => some none
  | _ => some none

def loadRecords : List Json → Sources → Option Sources
  | [], sources => some sources
  | raw :: rest, sources =>
      match loadRecord raw with
      | none => none
      | some none => loadRecords rest sources
      | some (some record) => loadRecords rest (sources.set record.scope.key record)

/-- `value == 1` -/
def isVersionOne : Option Json → Bool
  | some (.int n) => n = 1
  | some (.bool value) => value
  | some (.real literal) => CatalogReader.isOne literal
  | _ => false

/-- The body of the `try`, where every exception is caught. -/
def loadText (text : String) : Option Sources :=
  match JsonText.read text.toList with
  | some (.dict payload) =>
      if isVersionOne (lookupEntries payload "version".toList) then
        match lookupEntries payload "sources".toList with
        | some (.list records) =>
            if 500 < records.length then none else loadRecords records Dict.empty
        | _ => none
      else none
  | _ => none

/-- `_load_local_catalog` of a new process, with the sources that it starts with. -/
def loadLocalCatalog (symlink : Bool) (catalog : Option String) : Except SourceError Sources :=
  match catalog with
  | none => .ok Dict.empty
  | some text =>
      if symlink ∨ 1048576 < text.utf8ByteSize then
        .error (.valueError "Local source catalog must be a small regular file.")
      else
        match loadText text with
        | some sources => .ok sources
        | none => .error (.valueError "Local source catalog could not be loaded safely.")

/-! What the writer leaves for it. -/

/-- A record as it is read again. -/
def reloaded (record : DataSourceRecord) : DataSourceRecord where
  id := record.id
  name := record.name
  sourceType := .localFile
  connectorId := "local-file"
  credentialProfileId := none
  datasetUri := record.datasetUri
  owner := record.owner
  organizationId := record.organizationId
  workspaceId := record.workspaceId
  metadata := []
  createdAt := record.createdAt
  updatedAt := record.updatedAt

/-- The record has instants that `datetime` can hold. -/
def Dated (record : DataSourceRecord) : Prop :=
  Representable record.createdAt ∧ Representable record.updatedAt

theorem textOf_str (text : String) : textOf (.str text.toList) = text := String.ofList_toList

theorem instantOf_isoformat {t : Time} (fits : Representable t) :
    instantOf (.str (isoformat t).toList) = some t := by
  have decoded := CatalogReader.timeOf_isoformat t fits
  rw [← decoded]
  exact congrArg CatalogReader.timeOf String.ofList_toList

omit [CatalogReader] in
/-- The fields that the reader looks up in an item. -/
theorem lookup_catalogItem (record : DataSourceRecord) :
    ∃ raw, catalogItem record = .dict raw ∧
      lookupEntries raw "source_type".toList = some (.str "local_file".toList) ∧
      lookupEntries raw "id".toList = some (.str record.id.toList) ∧
      lookupEntries raw "name".toList = some (.str record.name.toList) ∧
      lookupEntries raw "dataset_uri".toList = some (.str record.datasetUri.toList) ∧
      lookupEntries raw "owner".toList = some (.str record.owner.toList) ∧
      lookupEntries raw "organization_id".toList = some (.str record.organizationId.toList) ∧
      lookupEntries raw "workspace_id".toList = some (.str record.workspaceId.toList) ∧
      lookupEntries raw "created_at".toList =
        some (.str (isoformat record.createdAt).toList) ∧
      lookupEntries raw "updated_at".toList =
        some (.str (isoformat record.updatedAt).toList) :=
  ⟨_, rfl, rfl, rfl, rfl, rfl, rfl, rfl, rfl, rfl, rfl⟩

theorem loadRecord_item {record : DataSourceRecord} (dated : Dated record) :
    loadRecord (catalogItem record) = some (some (reloaded record)) := by
  have created := instantOf_isoformat dated.1
  have updated := instantOf_isoformat dated.2
  obtain ⟨raw, item, kind, id, name, uri, owner, organization, workspace, createdAt, updatedAt⟩ :=
    lookup_catalogItem record
  rw [item]
  unfold loadRecord
  simp only [kind, id, name, uri, owner, organization, workspace, createdAt, updatedAt, if_true,
    created, updated, textOf_str, Option.bind_eq_bind, Option.bind_some]
  rfl

theorem loadRecords_items {records : List DataSourceRecord}
    (dated : ∀ record ∈ records, Dated record) (sources : Sources) :
    loadRecords (records.map catalogItem) sources =
      some ((records.map fun record => (record.scope.key, reloaded record)).foldl
        (fun sources pair => sources.set pair.1 pair.2) sources) := by
  induction records generalizing sources with
  | nil => rfl
  | cons record records ih =>
    rw [List.map_cons, loadRecords, loadRecord_item (dated record List.mem_cons_self)]
    exact ih (fun other later => dated other (List.mem_cons_of_mem _ later)) _

omit [CatalogReader] in
theorem plainItems_map {records : List DataSourceRecord} :
    JsonText.PlainItems (records.map catalogItem) := by
  induction records with
  | nil => trivial
  | cons record records ih =>
    rw [List.map_cons, JsonText.PlainItems]
    refine ⟨?_, ih⟩
    unfold catalogItem
    simp only [JsonText.Plain, JsonText.PlainEntries, and_self, and_true, List.map_cons,
      List.map_nil]
    decide

omit [CatalogReader] in
theorem catalogPayload_plain (records : List DataSourceRecord) :
    JsonText.Plain (catalogPayload records) := by
  unfold catalogPayload
  simp only [JsonText.Plain, JsonText.PlainEntries, plainItems_map, and_self, and_true,
    List.map_cons, List.map_nil]
  decide

/-- The text of a catalog gives its local records back. -/
theorem loadText_catalog {records : List DataSourceRecord}
    (dated : ∀ record ∈ localRecords records, Dated record)
    (few : (localRecords records).length ≤ 500) :
    loadText (catalogText records) =
      some (Dict.ofPairs ((localRecords records).map fun record =>
        (record.scope.key, reloaded record))) := by
  have read := JsonText.read_write (catalogPayload_plain records)
  unfold loadText catalogText
  rw [String.toList_ofList, read]
  unfold catalogPayload
  have version : lookupEntries [("version".toList, Json.int 1),
      ("sources".toList, .list ((localRecords records).map catalogItem))] "version".toList =
        some (.int 1) := rfl
  have items : lookupEntries [("version".toList, Json.int 1),
      ("sources".toList, .list ((localRecords records).map catalogItem))] "sources".toList =
        some (.list ((localRecords records).map catalogItem)) := rfl
  simp only [version, items, isVersionOne, decide_true, if_true, List.length_map,
    if_neg (not_lt.mpr few)]
  exact loadRecords_items dated Dict.empty

/-! Reached registries. -/

/-- The registries that successful registrations make of an empty one. -/
inductive Reached : Registry → Prop where
  | start : Reached ⟨Dict.empty, true, false, none⟩
  | register (around : Surroundings) (request : Registration) {registry registry' : Registry}
      {record : DataSourceRecord} (reached : Reached registry) (fits : Representable around.now)
      (registered : registry.register around request = (registry', .ok record)) :
      Reached registry'

/-- Every record stands under its own key, and the file is that of the sources. -/
structure Saved (registry : Registry) : Prop where
  keyed : ∀ pair ∈ registry.sources.entries, pair.1 = pair.2.scope.key
  dated : ∀ pair ∈ registry.sources.entries, Dated pair.2
  few : (localRecords registry.sources.values).length ≤ 500
  path : registry.configured = true ∧ registry.symlink = false
  file : registry.catalog = some (catalogText registry.sources.values) ∨
    registry.sources.entries = [] ∧ registry.catalog = none

omit [CatalogReader] in
theorem saveLocalCatalog_written {around : Surroundings} {registry registry' : Registry}
    (path : registry.configured = true)
    (saved : saveLocalCatalog around registry = (registry', .ok ())) :
    registry' = { registry with catalog := some (catalogText registry.sources.values) } ∧
      (localRecords registry.sources.values).length ≤ 500 := by
  unfold saveLocalCatalog at saved
  rw [if_neg (not_not.mpr path)] at saved
  split at saved
  · cases saved
  split at saved
  · cases saved
  split at saved
  · cases saved
  rename_i few
  dsimp only at saved
  split at saved <;> cases saved
  exact ⟨rfl, not_lt.mp few⟩

theorem record_now {request : Registration} {now : Time} {record : DataSourceRecord}
    (built : request.record now = .ok record) :
    record.createdAt = now ∧ record.updatedAt = now := by
  unfold Registration.record at built
  simp only [bind, Except.bind] at built
  repeat' split at built
  all_goals cases built
  exact ⟨rfl, rfl⟩

theorem prepare_now {around : Surroundings} {request : Registration} {registry : Registry}
    {stored : DataSourceRecord} (prepared : registry.prepare around request = .ok stored) :
    stored.createdAt = around.now ∧ stored.updatedAt = around.now := by
  unfold prepare check at prepared
  cases built : request.record around.now with
  | error e =>
    rw [built] at prepared
    cases prepared
  | ok record =>
    have times := record_now built
    rw [built] at prepared
    dsimp only at prepared
    split at prepared
    · cases prepared
    rename_i found
    split at found
    · cases found
    · cases found
      unfold validated at prepared
      split at prepared
      · cases prepared
      split at prepared
      · cases prepared
        exact times
      · cases prepared

/-- A successful registration adds one record, at the end, and writes the file. -/
theorem register_ok {around : Surroundings} {request : Registration} {registry registry' : Registry}
    {record : DataSourceRecord} (path : registry.configured = true)
    (registered : registry.register around request = (registry', .ok record)) :
    record.createdAt = around.now ∧ record.updatedAt = around.now ∧
      registry'.sources.entries = registry.sources.entries ++ [(record.scope.key, record)] ∧
      (localRecords registry'.sources.values).length ≤ 500 ∧
      registry'.configured = registry.configured ∧ registry'.symlink = registry.symlink ∧
      registry'.catalog = some (catalogText registry'.sources.values) := by
  unfold register at registered
  cases prepared : registry.prepare around request with
  | error e =>
    rw [prepared] at registered
    cases registered
  | ok stored =>
    rw [prepared] at registered
    dsimp only at registered
    have same := ((store_ok around stored record registry).mp (congrArg Prod.snd registered)).1
    subst same
    obtain ⟨created, updated⟩ := prepare_now prepared
    have grown := storeEntries_fresh record (prepare_fresh prepared)
    unfold store at registered
    dsimp only at registered
    cases saved : saveLocalCatalog around
        { registry with sources := registry.sources.set record.scope.key record } with
    | mk next result =>
      rw [saved] at registered
      cases result with
      | error e => cases registered
      | ok done =>
        obtain ⟨written, few⟩ := saveLocalCatalog_written (by exact path) saved
        cases registered
        subst written
        exact ⟨created, updated, grown, few, rfl, rfl, rfl⟩

theorem saved_of_reached {registry : Registry} (reached : Reached registry) : Saved registry := by
  induction reached with
  | start =>
    constructor
    · intro pair member
      cases member
    · intro pair member
      cases member
    · decide
    · exact ⟨rfl, rfl⟩
    · exact .inr ⟨rfl, rfl⟩
  | register around request reached fits registered ih =>
    obtain ⟨created, updated, grown, few, configured, symlink, file⟩ :=
      register_ok ih.path.1 registered
    constructor
    · intro pair member
      rw [grown, List.mem_append, List.mem_singleton] at member
      rcases member with old | rfl
      · exact ih.keyed pair old
      · rfl
    · intro pair member
      rw [grown, List.mem_append, List.mem_singleton] at member
      rcases member with old | rfl
      · exact ih.dated pair old
      · unfold Dated
        rw [created, updated]
        exact ⟨fits, fits⟩
    · exact few
    · rw [configured, symlink]
      exact ih.path
    · exact .inl file

omit [CatalogReader] in
theorem localRecords_keys {registry : Registry} (saved : Saved registry) :
    (((localRecords registry.sources.values).map fun record =>
      (record.scope.key, reloaded record)).map Prod.fst).Nodup := by
  have unique := registry.sources.keys_nodup
  have keyed := saved.keyed
  unfold localRecords Dict.values
  generalize registry.sources.entries = entries at unique keyed
  have values : (((entries.map Prod.snd).filter isLocal).map fun record =>
      (record.scope.key, reloaded record)).map Prod.fst =
      (entries.filter fun pair => isLocal pair.2).map Prod.fst := by
    rw [List.filter_map, List.map_map, List.map_map]
    apply List.map_congr_left
    intro pair member
    exact (keyed pair (List.mem_of_mem_filter member)).symm
  rw [values]
  exact unique.sublist (List.filter_sublist.map Prod.fst)

/-- Two records of one local source. -/
structure SameSource (record record' : DataSourceRecord) : Prop where
  kind : record.sourceType = .localFile ∧ record'.sourceType = .localFile
  id : record.id = record'.id
  name : record.name = record'.name
  datasetUri : record.datasetUri = record'.datasetUri
  owner : record.owner = record'.owner
  organizationId : record.organizationId = record'.organizationId
  workspaceId : record.workspaceId = record'.workspaceId
  createdAt : record.createdAt = record'.createdAt
  updatedAt : record.updatedAt = record'.updatedAt

/-- A new process accepts the file and has the same local sources, under the same keys. -/
def Loads (registry : Registry) : Prop :=
  ∃ loaded, loadLocalCatalog registry.symlink registry.catalog = .ok loaded ∧
    ∀ key, Option.Rel SameSource (loaded.get? key) ((registry.sources.get? key).filter isLocal)

omit [CatalogReader] in
theorem sameSource_reloaded {record : DataSourceRecord} (kind : isLocal record = true) :
    SameSource (reloaded record) record where
  kind := ⟨rfl, of_decide_eq_true kind⟩
  id := rfl
  name := rfl
  datasetUri := rfl
  owner := rfl
  organizationId := rfl
  workspaceId := rfl
  createdAt := rfl
  updatedAt := rfl

omit [CatalogReader] in
theorem reloaded_sources {registry : Registry} (saved : Saved registry) (key : String) :
    Option.Rel SameSource
      ((Dict.ofPairs ((localRecords registry.sources.values).map fun record =>
        (record.scope.key, reloaded record))).get? key)
      ((registry.sources.get? key).filter isLocal) := by
  have iff_mem : ∀ value, (Dict.ofPairs ((localRecords registry.sources.values).map fun record =>
      (record.scope.key, reloaded record))).get? key = some value ↔
      (key, value) ∈ (localRecords registry.sources.values).map fun record =>
        (record.scope.key, reloaded record) := by
    intro value
    exact Dict.get?_ofPairs_iff (localRecords_keys saved)
  have found : ∀ record, registry.sources.get? key = some record → isLocal record = true →
      (Dict.ofPairs ((localRecords registry.sources.values).map fun record =>
        (record.scope.key, reloaded record))).get? key = some (reloaded record) := by
    intro record there kind
    have entry := Dict.mem_entries_of_get? there
    have value : record ∈ localRecords registry.sources.values :=
      List.mem_filter.mpr ⟨List.mem_map_of_mem (f := Prod.snd) entry, kind⟩
    rw [iff_mem, List.mem_map]
    have keyed := saved.keyed _ entry
    exact ⟨record, value, by rw [← keyed]⟩
  cases search : (Dict.ofPairs ((localRecords registry.sources.values).map fun record =>
      (record.scope.key, reloaded record))).get? key with
  | none =>
    cases there : registry.sources.get? key with
    | none => exact .none
    | some record =>
      cases kind : isLocal record with
      | true =>
        rw [found record there kind] at search
        cases search
      | false =>
        rw [Option.filter_some_neg (by simp [kind])]
        exact .none
  | some value =>
    rw [iff_mem, List.mem_map] at search
    obtain ⟨record, member, same⟩ := search
    obtain ⟨entry, kind⟩ := List.mem_filter.mp member
    obtain ⟨pair, stands, value_eq⟩ := List.mem_map.mp entry
    have keyed := saved.keyed pair stands
    cases same
    subst value_eq
    have there : registry.sources.get? pair.2.scope.key = some pair.2 := by
      rw [← keyed]
      exact Dict.get?_of_mem_entries stands
    rw [there, Option.filter_some_pos kind]
    exact .some (sameSource_reloaded kind)

theorem short_of_loads {registry : Registry} (saved : Saved registry) (loads : Loads registry) :
    (catalogText registry.sources.values).utf8ByteSize ≤ 1048576 := by
  obtain ⟨loaded, accepted, -⟩ := loads
  unfold loadLocalCatalog at accepted
  rcases saved.file with file | ⟨empty, file⟩
  · rw [file] at accepted
    by_contra long
    dsimp only at accepted
    rw [if_pos (.inr (not_le.mp long))] at accepted
    cases accepted
  · have none : registry.sources = Dict.empty := Dict.ext empty
    rw [none]
    decide

theorem loads_of_short {registry : Registry} (saved : Saved registry)
    (short : (catalogText registry.sources.values).utf8ByteSize ≤ 1048576) : Loads registry := by
  unfold Loads loadLocalCatalog
  rw [saved.path.2]
  rcases saved.file with file | ⟨empty, file⟩
  · have dated : ∀ record ∈ localRecords registry.sources.values, Dated record := by
      intro record member
      obtain ⟨pair, stands, rfl⟩ := List.mem_map.mp (List.mem_filter.mp member).1
      exact saved.dated pair stands
    rw [file]
    dsimp only
    rw [if_neg (by simpa using short), loadText_catalog dated saved.few]
    exact ⟨_, rfl, reloaded_sources saved⟩
  · have none : registry.sources = Dict.empty := Dict.ext empty
    rw [file, none]
    exact ⟨Dict.empty, rfl, fun _ => .none⟩

/-- The file of a reached registry gives its local sources back exactly if it is no longer than
    the reader allows: the writer counts the sources, but not the bytes. -/
theorem catalog_loads_iff {registry : Registry} (reached : Reached registry) :
    Loads registry ↔ (catalogText registry.sources.values).utf8ByteSize ≤ 1048576 := by
  have saved := saved_of_reached reached
  constructor
  · exact short_of_loads saved
  · exact loads_of_short saved

end reading

/-! The size of a text. -/

theorem utf8ByteSize_ofList (text : Text) :
    (String.ofList text).utf8ByteSize = (text.map Char.utf8Size).sum := by
  induction text with
  | nil => decide
  | cons c text ih =>
    rw [String.ofList_cons, String.utf8ByteSize_append, String.utf8ByteSize_singleton, ih,
      List.map_cons, List.sum_cons]

theorem length_le_utf8ByteSize (text : Text) : text.length ≤ (String.ofList text).utf8ByteSize := by
  rw [utf8ByteSize_ofList]
  induction text with
  | nil => decide
  | cons c text ih =>
    have one := Char.utf8Size_pos c
    rw [List.map_cons, List.sum_cons, List.length_cons]
    omega

/-- A reader that knows no letter outside ASCII. -/
abbrev asciiReader : CatalogReader where
  toUnicodeDatabase := asciiDatabase
  timeOf := fromisoformat
  timeOf_isoformat _ fits := fromisoformat_isoformat fits
  printed _ := ""
  isOne literal := literal = "1.0".toList

def unregistered : Registry := ⟨Dict.empty, true, false, none⟩

def named (name : String) : Registration := { procurement "acme" "ops" with name := name }

/-- What is stored under a name. -/
def storedUnder (name : String) : DataSourceRecord where
  id := "procurement"
  name := name
  sourceType := .localFile
  connectorId := "local-file"
  credentialProfileId := some "local-filesystem"
  datasetUri := "procurement.csv"
  owner := "finance-platform"
  organizationId := "acme"
  workspaceId := "ops"
  metadata := []
  createdAt := 0
  updatedAt := 0
  latestValidation :=
    some { status := .ok, message := "Local dataset is reachable.", checkedAt := 0 }

def savedUnder (name : String) : Registry where
  sources := Dict.empty.set "acme:ops:procurement" (storedUnder name)
  configured := true
  symlink := false
  catalog := some (catalogText [storedUnder name])

theorem record_named {name : String} (stripped : strip name = name) (given : name ≠ "") :
    let _ := asciiReader
    (named name).record 0 = .ok { storedUnder name with latestValidation := none } := by
  intro _
  have required : normalizeRequired name "Data source name" = .ok name := by
    unfold normalizeRequired
    rw [stripped]
    exact if_neg given
  have id : normalizeId "procurement" = .ok "procurement" := rfl
  have owner : normalizeRequired "finance-platform" "Data source owner" =
      .ok "finance-platform" := rfl
  have uri : normalizeRequired "procurement.csv" "Dataset URI" = .ok "procurement.csv" := rfl
  have organization : normalizeRequired "acme" "Organization id" = .ok "acme" := rfl
  have workspace : normalizeRequired "ops" "Workspace id" = .ok "ops" := rfl
  unfold Registration.record named procurement
  simp only [id, required, owner, uri, organization, workspace, bind, Except.bind]
  rfl

theorem reached_named {name : String} (stripped : strip name = name) (given : name ≠ "") :
    let _ := asciiReader
    Reached (savedUnder name) := by
  intro _
  have built := record_named stripped given
  have registered : unregistered.register calm (named name) =
      (savedUnder name, .ok (storedUnder name)) := by
    unfold register prepare check
    have now : calm.now = 0 := rfl
    rw [now, built]
    rfl
  exact .register calm (named name) .start (by decide) registered

theorem catalog_loads_registered :
    let _ := asciiReader
    Loads (savedUnder "Procurement spend") := by
  intro _
  have short : (catalogText (savedUnder "Procurement spend").sources.values).utf8ByteSize ≤
      1048576 := by
    unfold catalogText
    rw [utf8ByteSize_ofList]
    decide +kernel
  exact (catalog_loads_iff (reached_named (by decide) (by decide))).mpr short

/-! A long name. -/

theorem length_write_item {item : Json} {items : List Json} (member : item ∈ items) :
    (JsonText.write item).length ≤ (JsonText.write (.list items)).length := by
  have part := JsonText.length_le_joined (List.mem_map_of_mem (f := JsonText.write) member)
  rw [JsonText.write, JsonText.writeItems_eq, List.length_cons, List.length_append]
  omega

theorem length_write_entry (key : Text) {value : Json} {entries : List (Text × Json)}
    (member : (key, value) ∈ entries) :
    (JsonText.write value).length ≤ (JsonText.write (.dict entries)).length := by
  have part := JsonText.length_le_joined (List.mem_map_of_mem (f := JsonText.writeEntry) member)
  rw [JsonText.writeEntry, List.length_cons, List.length_append, List.length_cons,
    List.length_cons] at part
  dsimp only at part
  rw [JsonText.write, JsonText.writeEntries_eq, List.length_cons, List.length_append]
  omega

theorem length_name_le {record : DataSourceRecord} {records : List DataSourceRecord}
    (member : record ∈ localRecords records) :
    record.name.length ≤ (catalogText records).utf8ByteSize := by
  have quoted := JsonText.length_quotedTail record.name.toList
  have name : (JsonText.write (.str record.name.toList)).length ≤
      (JsonText.write (catalogItem record)).length :=
    length_write_entry "name".toList (by simp)
  have item := length_write_item (List.mem_map_of_mem (f := catalogItem) member)
  have items : (JsonText.write (.list ((localRecords records).map catalogItem))).length ≤
      (JsonText.write (catalogPayload records)).length :=
    length_write_entry "sources".toList (by simp)
  have bytes := length_le_utf8ByteSize (JsonText.write (catalogPayload records))
  rw [JsonText.write, List.length_cons] at name
  have text : record.name.length = record.name.toList.length := String.length_toList.symm
  unfold catalogText
  omega

theorem strip_letters (n : Nat) :
    strip (String.ofList (List.replicate n 'a')) = String.ofList (List.replicate n 'a') := by
  have kept : ∀ m, (List.replicate m 'a').dropWhile isSpace = List.replicate m 'a' := by
    intro m
    cases m with
    | zero => rfl
    | succ m =>
      apply List.dropWhile_cons_of_neg
      decide
  unfold strip stripText
  rw [String.toList_ofList, kept, List.reverse_replicate, kept, List.reverse_replicate]

/-- The name of one source makes a file that no process reads again. -/
theorem catalog_unread :
    let _ := asciiReader
    ∃ registry, Reached registry ∧ ¬ Loads registry := by
  intro _
  have stripped := strip_letters 1048577
  have length : (String.ofList (List.replicate 1048577 'a')).length = 1048577 := by
    rw [String.length_ofList, List.length_replicate]
  generalize String.ofList (List.replicate 1048577 'a') = name at stripped length
  have given : name ≠ "" := by
    rintro rfl
    cases length
  have reached := reached_named stripped given
  refine ⟨savedUnder name, reached, fun loads => ?_⟩
  have short := short_of_loads (saved_of_reached reached) loads
  have long : (storedUnder name).name.length ≤
      (catalogText (savedUnder name).sources.values).utf8ByteSize :=
    length_name_le List.mem_cons_self
  have same : (storedUnder name).name = name := rfl
  rw [same] at long
  omega

end Registry
end DataSources
