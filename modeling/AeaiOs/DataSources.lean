import AeaiOs.Values
import AeaiOs.Lib.StoreAction
import Mathlib.Data.Set.Basic

/-!
The registry of data sources. It keeps the records of every tenant in one dictionary,
whose key joins the organization, the workspace and the id of a source with colons.
-/
namespace DataSources
open PyText OrderedDict CivilTime StoreAction Action RunValues

inductive DataSourceType where
  | localFile
  | sqlite
  | snowflake
  deriving DecidableEq, Repr

inductive ValidationStatus where
  | ok
  | invalid
  deriving DecidableEq, Repr

structure DataSourceValidationResult where
  status : ValidationStatus
  message : String
  checkedAt : Time
  details : PyDict := []

structure DataSourceRecord where
  id : String
  name : String
  sourceType : DataSourceType
  connectorId : String
  credentialProfileId : Option String
  datasetUri : String
  owner : String
  organizationId : String
  workspaceId : String
  metadata : PyDict
  createdAt : Time
  updatedAt : Time
  latestValidation : Option DataSourceValidationResult := none

inductive SourceError where
  | valueError (message : String)
  | notFound (dataSourceId : String)
  | alreadyExists (dataSourceId : String)
  | validation (result : DataSourceValidationResult)
  | raisedByHost

abbrev Sources := Dict String DataSourceRecord

/-- What one call finds around it: the clock; what `validate_record` makes of a record with
    the files, connectors and warehouses that it consults, unless they raise; and whether the
    catalog file can be written. -/
structure Host where
  now : Time
  validateRecord : DataSourceRecord → Option DataSourceValidationResult
  writesCatalog : List DataSourceRecord → Bool

/-! Names. -/

/-- The organization, the workspace and the id that a source is looked up by. -/
structure Scope where
  organizationId : String
  workspaceId : String
  dataSourceId : String
  deriving DecidableEq, Repr

def sourceKey (dataSourceId organizationId workspaceId : String) : String :=
  organizationId ++ ":" ++ workspaceId ++ ":" ++ dataSourceId

def Scope.key (scope : Scope) : String :=
  sourceKey scope.dataSourceId scope.organizationId scope.workspaceId

def DataSourceRecord.scope (record : DataSourceRecord) : Scope :=
  ⟨record.organizationId, record.workspaceId, record.id⟩

def allowedInId : List Char := "abcdefghijklmnopqrstuvwxyz0123456789-".toList

def normalizeRequired (value label : String) : Except SourceError String :=
  let normalized := strip value
  if normalized = "" then .error (.valueError s!"{label} is required.") else .ok normalized

def defaultConnectorId : DataSourceType → String
  | .snowflake => "snowflake-default"
  | .sqlite => "sqlite-local"
  | .localFile => "local-file"

def defaultCredentialProfileId : DataSourceType → String
  | .snowflake => "snowflake-default"
  | _ => "local-filesystem"

/-- `value or default` -/
def orDefault (value : Option String) (default : String) : String :=
  match value with
  | some text => if text = "" then default else text
  | none => default

section registry
variable [UnicodeDatabase]

def normalizeId (value : String) : Except SourceError String :=
  let lowered := UnicodeDatabase.lower (stripText value.toList)
  let normalized := replace (replace lowered [' '] ['-']) ['_'] ['-']
  if normalized.length < 3 then
    .error (.valueError "Data source ID must contain at least 3 characters.")
  else if normalized.any fun character => !allowedInId.contains character then
    .error (.valueError "Data source ID can only contain letters, numbers, and hyphens.")
  else .ok (String.ofList normalized)

structure Registration where
  dataSourceId : String
  name : String
  sourceType : DataSourceType
  datasetUri : String
  owner : String
  organizationId : String := "local-org"
  workspaceId : String := "default"
  connectorId : Option String := none
  credentialProfileId : Option String := none
  metadata : Option PyDict := none

/-- The record that `register` builds before it validates it. -/
def Registration.record (request : Registration) (now : Time) :
    Except SourceError DataSourceRecord := do
  let id ← normalizeId request.dataSourceId
  let name ← normalizeRequired request.name "Data source name"
  let owner ← normalizeRequired request.owner "Data source owner"
  let datasetUri ← normalizeRequired request.datasetUri "Dataset URI"
  let organizationId ← normalizeRequired request.organizationId "Organization id"
  let workspaceId ← normalizeRequired request.workspaceId "Workspace id"
  return {
    id, name, owner, datasetUri, organizationId, workspaceId
    sourceType := request.sourceType
    connectorId := orDefault request.connectorId (defaultConnectorId request.sourceType)
    credentialProfileId := some
      (orDefault request.credentialProfileId (defaultCredentialProfileId request.sourceType))
    metadata := request.metadata.getD []
    createdAt := now
    updatedAt := now }

abbrev SourceM := Action Sources SourceError

def validateRecord (host : Host) (source : DataSourceRecord) :
    SourceM DataSourceValidationResult :=
  match host.validateRecord source with
  | some result => pure result
  | none => raise .raisedByHost

def saveLocalCatalog (host : Host) : SourceM Unit := do
  let sources ← read
  if host.writesCatalog sources.values then pure () else raise .raisedByHost

def register (host : Host) (request : Registration) : SourceM DataSourceRecord := do
  let record ← ofExcept (request.record host.now)
  let sources ← read
  if (sources.get? record.scope.key).isSome then raise (.alreadyExists record.id)
  else
    let validation ← validateRecord host record
    if validation.status = .ok then
      let stored := { record with latestValidation := some validation }
      change fun sources => sources.set record.scope.key stored
      -- the record stays in the dictionary when the catalog cannot be written
      saveLocalCatalog host
      return stored
    else raise (.validation validation)

def get (scope : Scope) : SourceM DataSourceRecord := do
  let sources ← read
  match sources.get? scope.key with
  | some record => return record
  | none => raise (.notFound scope.dataSourceId)

/-- `replace(source, latest_validation=validation, updated_at=_now())` under the key that
    was asked for. -/
def storeValidated (host : Host) (scope : Scope) (source : DataSourceRecord)
    (validation : DataSourceValidationResult) : SourceM DataSourceRecord := do
  let updated := { source with latestValidation := some validation, updatedAt := host.now }
  change fun sources => sources.set scope.key updated
  return updated

def validate (host : Host) (scope : Scope) : SourceM DataSourceValidationResult := do
  let source ← get scope
  let validation ← validateRecord host source
  let _ ← storeValidated host scope source validation
  saveLocalCatalog host
  return validation

def validateForExecution (host : Host) (scope : Scope) : SourceM DataSourceRecord := do
  let source ← get scope
  let validation ← validateRecord host source
  if validation.status = .ok then storeValidated host scope source validation
  else raise (.validation validation)

/-! Runs. -/

inductive Call where
  | register (request : Registration)
  | get (scope : Scope)
  | validate (scope : Scope)
  | validateForExecution (scope : Scope)

inductive Answer where
  | record (record : DataSourceRecord)
  | validation (result : DataSourceValidationResult)

def Call.perform (host : Host) : Call → SourceM Answer
  | .register request => Answer.record <$> DataSources.register host request
  | .get scope => Answer.record <$> DataSources.get scope
  | .validate scope => Answer.validation <$> DataSources.validate host scope
  | .validateForExecution scope => Answer.record <$> DataSources.validateForExecution host scope

/-- The scope that a call names. A registration names the normalized one, or none when an
    argument is refused. -/
def Call.scope? : Call → Option Scope
  | .register request =>
      match request.record 0 with
      | .ok record => some record.scope
      | .error _ => none
  | .get scope => some scope
  | .validate scope => some scope
  | .validateForExecution scope => some scope

/-- The organization and the workspace. -/
def Scope.tenant (scope : Scope) : String × String := (scope.organizationId, scope.workspaceId)

/-- What a call may do with the records of other tenants, and of other triples. -/
structure Isolated (host : Host) (call : Call) (before : Sources)
    (answer : Except SourceError Answer) (after : Sources) : Prop where
  returned : ∀ record, answer = .ok (.record record) →
    ∃ scope, call.scope? = some scope ∧ record.scope.tenant = scope.tenant
  validated : ∀ result, answer = .ok (.validation result) →
    ∃ scope record, call.scope? = some scope ∧ before.get? record.scope.key = some record ∧
      record.scope.tenant = scope.tenant ∧ host.validateRecord record = some result
  updated : ∀ key record, after.get? key ≠ before.get? key →
    (before.get? key = some record ∨ after.get? key = some record) →
    ∃ scope, call.scope? = some scope ∧ record.scope.tenant = scope.tenant
  blocked : ∀ id, answer = .error (.alreadyExists id) →
    ∃ record, call.scope? = some record.scope ∧ before.get? record.scope.key = some record
  overwritten : ∀ request, call = .register request → ∀ key record,
    before.get? key = some record → call.scope? ≠ some record.scope →
    after.get? key = some record

/-- Every call of a run is isolated on the registry that it finds. -/
def IsolatedRun : Sources → List (Host × Call) → Prop
  | _, [] => True
  | sources, (host, call) :: rest =>
      Isolated host call sources (call.perform host sources).1 (call.perform host sources).2 ∧
        IsolatedRun (call.perform host sources).2 rest

/-- A triple that is registered and a triple that is named are joined to one text only when
    they are the same. -/
def Separated (calls : Set Call) : Prop :=
  ∀ request, Call.register request ∈ calls → ∀ call ∈ calls, ∀ registered named,
    (Call.register request).scope? = some registered → call.scope? = some named →
    registered.key = named.key → registered = named

/-! What one call can do. -/

/-- Every way in which a call can end. -/
inductive Performed (host : Host) (call : Call) (before : Sources) :
    Except SourceError Answer → Sources → Prop where
  | refused (error : SourceError) (other : ∀ id, error ≠ .alreadyExists id) :
      Performed host call before (.error error) before
  | blocked (scope : Scope) (record : DataSourceRecord) (id : String)
      (named : call.scope? = some scope) (stored : before.get? scope.key = some record) :
      Performed host call before (.error (.alreadyExists id)) before
  | registered (request : Registration) (record : DataSourceRecord)
      (answer : Except SourceError Answer) (same : call = .register request)
      (named : call.scope? = some record.scope) (fresh : before.get? record.scope.key = none)
      (answered : answer = .ok (.record record) ∨ answer = .error .raisedByHost) :
      Performed host call before answer (before.set record.scope.key record)
  | found (scope : Scope) (record : DataSourceRecord) (named : call.scope? = some scope)
      (stored : before.get? scope.key = some record) :
      Performed host call before (.ok (.record record)) before
  | checked (scope : Scope) (record updated : DataSourceRecord)
      (answer : Except SourceError Answer) (reads : ∀ request, call ≠ .register request)
      (named : call.scope? = some scope) (stored : before.get? scope.key = some record)
      (same : updated.scope = record.scope)
      (answered : answer = .ok (.record updated) ∨ answer = .error .raisedByHost ∨
        ∃ result, answer = .ok (.validation result) ∧ host.validateRecord record = some result) :
      Performed host call before answer (before.set scope.key updated)

theorem record_at (request : Registration) (now : Time) :
    request.record now =
      (request.record 0).map fun record => { record with createdAt := now, updatedAt := now } := by
  unfold Registration.record
  cases normalizeId request.dataSourceId with
  | error => rfl
  | ok id =>
    cases normalizeRequired request.name "Data source name" with
    | error => rfl
    | ok name =>
      cases normalizeRequired request.owner "Data source owner" with
      | error => rfl
      | ok owner =>
        cases normalizeRequired request.datasetUri "Dataset URI" with
        | error => rfl
        | ok uri =>
          cases normalizeRequired request.organizationId "Organization id" with
          | error => rfl
          | ok organization =>
            cases normalizeRequired request.workspaceId "Workspace id" <;> rfl

theorem scope_of_record {request : Registration} {now : Time} {record : DataSourceRecord}
    (built : request.record now = .ok record) :
    (Call.register request).scope? = some record.scope := by
  rw [record_at] at built
  cases first : request.record 0 with
  | error => simp [first, Except.map] at built
  | ok initial =>
    rw [first] at built
    cases built
    simp [Call.scope?, first, DataSourceRecord.scope]

omit [UnicodeDatabase] in
theorem bind_error {α β : Type} {first : Except SourceError α} {next : α → Except SourceError β}
    {error : SourceError} (failed : first >>= next = .error error) :
    first = .error error ∨ ∃ value, next value = .error error := by
  cases first with
  | error e => exact .inl (congrArg Except.error (Except.error.inj failed))
  | ok value => exact .inr ⟨value, failed⟩

theorem record_error {request : Registration} {now : Time} {error : SourceError}
    (refused : request.record now = .error error) (id : String) : error ≠ .alreadyExists id := by
  have required : ∀ value label, normalizeRequired value label ≠ .error (.alreadyExists id) := by
    intro value label
    unfold normalizeRequired
    grind
  have normalized : ∀ value, normalizeId value ≠ .error (.alreadyExists id) := by
    intro value
    unfold normalizeId
    grind
  rintro rfl
  unfold Registration.record at refused
  obtain failed | ⟨_, refused⟩ := bind_error refused
  · exact normalized _ failed
  iterate 5
    obtain failed | ⟨_, refused⟩ := bind_error refused
    · exact required _ _ failed
  cases refused

omit [UnicodeDatabase] in
theorem validateRecord_run (host : Host) (source : DataSourceRecord) (sources : Sources) :
    validateRecord host source sources = match host.validateRecord source with
      | some result => (.ok result, sources)
      | none => (.error .raisedByHost, sources) := by
  unfold validateRecord
  cases host.validateRecord source <;> rfl

omit [UnicodeDatabase] in
theorem saveLocalCatalog_run (host : Host) (sources : Sources) :
    saveLocalCatalog host sources =
      (if host.writesCatalog sources.values then .ok () else .error .raisedByHost, sources) := by
  unfold saveLocalCatalog
  simp only [bind_run, read_run]
  split <;> simp [*]

omit [UnicodeDatabase] in
theorem get_run (scope : Scope) (sources : Sources) :
    get scope sources = match sources.get? scope.key with
      | some record => (.ok record, sources)
      | none => (.error (.notFound scope.dataSourceId), sources) := by
  unfold get
  simp only [bind_run, read_run]
  split <;> simp [*]

omit [UnicodeDatabase] in
theorem map_run {α β : Type} (f : α → β) (action : SourceM α) (sources : Sources) :
    (f <$> action) sources = ((action sources).1.map f, (action sources).2) := by
  have unfolded : f <$> action = action >>= fun value => pure (f value) := rfl
  rw [unfolded, bind_run]
  rcases action sources with ⟨_ | _, _⟩ <;> rfl

theorem register_performed (host : Host) (request : Registration) (before : Sources) :
    Performed host (.register request) before
      ((DataSources.register host request before).1.map .record)
      (DataSources.register host request before).2 := by
  unfold DataSources.register
  rw [bind_run, ofExcept_run]
  cases built : request.record host.now with
  | error error => exact .refused error (record_error built)
  | ok record =>
    have named := scope_of_record built
    simp only [bind_run, read_run]
    cases stored : before.get? record.scope.key with
    | some old => exact .blocked record.scope old record.id named stored
    | none =>
      simp only [Option.isSome_none, Bool.false_eq_true, if_false, bind_run, validateRecord_run]
      cases host.validateRecord record with
      | none => exact .refused _ (by simp)
      | some validation =>
        dsimp only
        split
        · simp only [bind_run, change_run, saveLocalCatalog_run]
          generalize host.writesCatalog _ = written
          have registered : ∀ answer, answer = _ ∨ answer = _ → Performed host _ before answer _ :=
            fun answer => .registered request { record with latestValidation := some validation }
              answer rfl named stored
          cases written with
          | true => exact registered _ (.inl rfl)
          | false => exact registered _ (.inr rfl)
        · exact .refused _ (by simp)

omit [UnicodeDatabase] in
theorem storeValidated_run (host : Host) (scope : Scope) (source : DataSourceRecord)
    (validation : DataSourceValidationResult) (sources : Sources) :
    storeValidated host scope source validation sources =
      (.ok { source with latestValidation := some validation, updatedAt := host.now },
        sources.set scope.key
          { source with latestValidation := some validation, updatedAt := host.now }) := rfl

/-- The calls that look a record up, and what they store of it. -/
theorem reading_performed (host : Host) {call : Call} {scope : Scope} (before : Sources)
    (reads : call = .get scope ∨ call = .validate scope ∨ call = .validateForExecution scope) :
    Performed host call before (call.perform host before).1 (call.perform host before).2 := by
  have named : call.scope? = some scope := by
    rcases reads with rfl | rfl | rfl <;> rfl
  have notRegister : ∀ request, call ≠ .register request := by
    rcases reads with rfl | rfl | rfl <;> simp
  cases stored : before.get? scope.key with
  | none =>
    have missing : call.perform host before = (.error (.notFound scope.dataSourceId), before) := by
      rcases reads with rfl | rfl | rfl <;>
        simp [Call.perform, map_run, DataSources.validate, DataSources.validateForExecution, bind_run,
          get_run, stored, Except.map]
    rw [missing]
    exact .refused _ (by simp)
  | some record =>
    have checked : ∀ updated answer, DataSourceRecord.scope updated = record.scope → _ →
        Performed host call before answer (before.set scope.key updated) :=
      fun updated answer => .checked scope record updated answer notRegister named stored
    rcases reads with rfl | rfl | rfl
    · simp only [Call.perform, map_run, get_run, stored]
      exact .found scope record named stored
    · simp only [Call.perform, map_run, DataSources.validate, bind_run, get_run, stored,
        validateRecord_run]
      cases validated : host.validateRecord record with
      | none => exact .refused _ (by simp)
      | some validation =>
        simp only [storeValidated_run, saveLocalCatalog_run, pure_run]
        generalize host.writesCatalog _ = written
        cases written with
        | true => exact checked _ _ rfl (.inr (.inr ⟨validation, rfl, validated⟩))
        | false => exact checked _ _ rfl (.inr (.inl rfl))
    · simp only [Call.perform, map_run, DataSources.validateForExecution, bind_run, get_run, stored,
        validateRecord_run]
      cases host.validateRecord record with
      | none => exact .refused _ (by simp)
      | some validation =>
        dsimp only
        split
        · exact checked _ _ rfl (.inl rfl)
        · exact .refused _ (by simp)

theorem performed (host : Host) (call : Call) (before : Sources) :
    Performed host call before (call.perform host before).1 (call.perform host before).2 := by
  cases call with
  | register request =>
    simp only [Call.perform, map_run]
    exact register_performed host request before
  | get scope => exact reading_performed host before (.inl rfl)
  | validate scope => exact reading_performed host before (.inr (.inl rfl))
  | validateForExecution scope => exact reading_performed host before (.inr (.inr rfl))

/-! Isolation. -/

/-- Every record is stored under the key of its own triple, which a call has registered. -/
def Keyed (calls : Set Call) (sources : Sources) : Prop :=
  ∀ key record, sources.get? key = some record → record.scope.key = key ∧
    ∃ request, Call.register request ∈ calls ∧
      (Call.register request).scope? = some record.scope

theorem keyed_set {calls : Set Call} {sources : Sources} (keyed : Keyed calls sources)
    {key : String} {record : DataSourceRecord} (own : record.scope.key = key)
    (known : ∃ request, Call.register request ∈ calls ∧
      (Call.register request).scope? = some record.scope) :
    Keyed calls (sources.set key record) := by
  intro k stored found
  rw [Dict.get?_set] at found
  split at found
  · cases found
    subst k
    exact ⟨own, known⟩
  · exact keyed k stored found

theorem keyed_step {calls : Set Call} {host : Host} {call : Call} {before after : Sources}
    {answer : Except SourceError Answer} (known : call ∈ calls) (keyed : Keyed calls before)
    (done : Performed host call before answer after) : Keyed calls after := by
  cases done with
  | refused => exact keyed
  | blocked => exact keyed
  | found => exact keyed
  | registered request record _ same named fresh answered =>
    subst same
    exact keyed_set keyed rfl ⟨request, known, named⟩
  | checked scope record updated _ reads named stored same answered =>
    obtain ⟨own, registered⟩ := keyed _ _ stored
    rw [← same] at own registered
    exact keyed_set keyed own registered

theorem isolated_step {calls : Set Call} (separated : Separated calls) {host : Host} {call : Call}
    {before after : Sources} {answer : Except SourceError Answer} (known : call ∈ calls)
    (keyed : Keyed calls before) (done : Performed host call before answer after) :
    Isolated host call before answer after := by
  -- the record under the key that a call names is the one that was registered as named
  have own : ∀ {scope record}, call.scope? = some scope → before.get? scope.key = some record →
      record.scope = scope := by
    intro scope record named stored
    obtain ⟨sameKey, request, registers, registered⟩ := keyed _ _ stored
    exact separated request registers call known _ _ registered named sameKey
  cases done with
  | refused error other => constructor <;> simp_all
  | blocked scope record id named stored =>
    obtain rfl := own named stored
    constructor <;> simp_all
    exact ⟨record, rfl, stored⟩
  | found scope record named stored =>
    obtain rfl := own named stored
    constructor <;> simp_all
  | registered request record _ same named fresh answered =>
    constructor
    · intro returned eq
      rcases answered with rfl | rfl <;> cases eq
      exact ⟨record.scope, named, rfl⟩
    · intro result eq
      rcases answered with rfl | rfl <;> cases eq
    · intro key changed differs there
      by_cases here : record.scope.key = key
      · subst here
        simp only [Dict.get?_set_self, fresh, reduceCtorEq, false_or, Option.some.injEq] at there
        exact ⟨record.scope, named, by rw [there]⟩
      · exact absurd (Dict.get?_set_other before record here) differs
    · intro other eq
      rcases answered with rfl | rfl <;> cases eq
    · intro _ _ key kept stored _
      have elsewhere : record.scope.key ≠ key := by
        rintro rfl
        rw [fresh] at stored
        cases stored
      rw [Dict.get?_set_other before record elsewhere, stored]
  | checked scope record updated _ reads named stored same answered =>
    obtain rfl := own named stored
    constructor
    · intro returned eq
      rcases answered with rfl | rfl | ⟨_, rfl, _⟩ <;> cases eq
      exact ⟨record.scope, named, by rw [same]⟩
    · intro result eq
      rcases answered with rfl | rfl | ⟨validation, rfl, validated⟩ <;> cases eq
      exact ⟨record.scope, record, named, stored, rfl, validated⟩
    · intro key changed differs there
      by_cases here : record.scope.key = key
      · subst here
        rw [stored, Dict.get?_set_self] at there
        refine ⟨record.scope, named, ?_⟩
        rcases there with eq | eq <;> cases eq
        · rfl
        · rw [same]
      · exact absurd (Dict.get?_set_other before updated here) differs
    · intro other eq
      rcases answered with rfl | rfl | ⟨_, rfl, _⟩ <;> cases eq
    · exact fun request registers => absurd registers (reads request)

theorem isolated_run {calls : Set Call} (separated : Separated calls) :
    ∀ {sources : Sources} (run : List (Host × Call)), Keyed calls sources →
      (∀ step ∈ run, step.2 ∈ calls) → IsolatedRun sources run := by
  intro sources run
  induction run generalizing sources with
  | nil => exact fun _ _ => trivial
  | cons step rest ih =>
    obtain ⟨host, call⟩ := step
    intro keyed known
    have here := known (host, call) List.mem_cons_self
    have done := performed host call sources
    refine ⟨isolated_step separated here keyed done, ih (keyed_step here keyed done) ?_⟩
    exact fun later member => known later (List.mem_cons_of_mem _ member)

/-- A host on which every validation succeeds. -/
def reachable : Host where
  now := 0
  validateRecord _ := some { status := .ok, message := "Local dataset is reachable.", checkedAt := 0 }
  writesCatalog _ := true

theorem register_reachable {request : Registration} {scope : Scope}
    (named : (Call.register request).scope? = some scope) :
    ∃ record, record.scope = scope ∧ (Call.register request).perform reachable Dict.empty =
      (.ok (.record record), Dict.empty.set scope.key record) := by
  cases built : request.record 0 with
  | error => simp [Call.scope?, built] at named
  | ok record =>
    simp only [Call.scope?, built, Option.some.injEq] at named
    subst named
    have built' : request.record reachable.now = .ok record := built
    refine ⟨{ record with latestValidation := reachable.validateRecord record }, rfl, ?_⟩
    simp only [Call.perform, map_run, DataSources.register, bind_run, ofExcept_run, built', read_run,
      Dict.get?_empty, Option.isSome_none, Bool.false_eq_true]
    rfl

theorem register_blocked {request : Registration} {scope : Scope} {sources : Sources}
    {old : DataSourceRecord} (named : (Call.register request).scope? = some scope)
    (stored : sources.get? scope.key = some old) :
    ∃ id, ((Call.register request).perform reachable sources).1 = .error (.alreadyExists id) := by
  cases built : request.record 0 with
  | error => simp [Call.scope?, built] at named
  | ok record =>
    simp only [Call.scope?, built, Option.some.injEq] at named
    subst named
    have built' : request.record reachable.now = .ok record := built
    refine ⟨record.id, ?_⟩
    simp only [Call.perform, map_run, DataSources.register, bind_run, ofExcept_run, built', read_run,
      stored, Option.isSome_some, if_true]
    rfl

omit [UnicodeDatabase] in
theorem scope_of_tenant {a b : Scope} (tenant : a.tenant = b.tenant) (sameKey : a.key = b.key) :
    a = b := by
  obtain ⟨organization, workspace, id⟩ := a
  obtain ⟨organization', workspace', id'⟩ := b
  obtain ⟨rfl, rfl⟩ := Prod.mk.inj tenant
  have sameId : id = id' := by
    simpa [Scope.key, sourceKey] using sameKey
  rw [sameId]

/-- Two calls that join different triples to one text break the isolation: the first
    registers its source, and the second finds it. -/
theorem separated_of_isolated {calls : Set Call}
    (isolated : ∀ run : List (Host × Call), (∀ step ∈ run, step.2 ∈ calls) →
      IsolatedRun Dict.empty run) : Separated calls := by
  intro request registers call known registered named scope scope' sameKey
  obtain ⟨record, rfl, first⟩ := register_reachable scope
  obtain ⟨-, second, -⟩ :=
    isolated [(reachable, .register request), (reachable, call)] (by simp_all)
  rw [first] at second
  have stored : (Dict.set (Dict.empty : Sources) record.scope.key record).get? named.key =
      some record := by
    rw [← sameKey, Dict.get?_set_self]
  have only : ∀ key other, (Dict.set (Dict.empty : Sources) record.scope.key record).get? key =
      some other → other = record := by
    intro key other found
    rw [Dict.get?_set] at found
    split at found <;> cases found
    rfl
  have reached : ∀ other : DataSourceRecord, other.scope.tenant = record.scope.tenant →
      (∃ there, call.scope? = some there ∧ other.scope.tenant = there.tenant) →
      record.scope = named := by
    rintro other own ⟨there, called, tenant⟩
    have same : named = there := Option.some.inj (scope'.symm.trans called)
    rw [own, ← same] at tenant
    exact scope_of_tenant tenant sameKey
  cases call with
  | register other =>
    obtain ⟨id, blocked⟩ := register_blocked scope' stored
    obtain ⟨found, called, here⟩ := second.blocked id blocked
    rw [only _ _ here] at called
    exact Option.some.inj (called.symm.trans scope')
  | get there =>
    cases scope'
    refine reached record rfl (second.returned record ?_)
    simp only [Call.perform, map_run, get_run, stored, Except.map]
  | validate there =>
    cases scope'
    have answered := second.validated
    simp only [Call.perform, map_run, DataSources.validate, bind_run, get_run, stored,
      validateRecord_run] at answered
    obtain ⟨there', found, called, here, tenant, -⟩ := answered _ rfl
    rw [only _ _ here] at tenant
    exact reached record rfl ⟨there', called, tenant⟩
  | validateForExecution there =>
    cases scope'
    have answered := second.returned
    simp only [Call.perform, map_run, DataSources.validateForExecution, bind_run, get_run, stored,
      validateRecord_run] at answered
    exact reached _ (by rfl) (answered _ rfl)

/-- Every run of the calls keeps the tenants and the triples apart exactly when the calls
    join no two different triples, one of them registered, to the same key. -/
theorem run_isolated_iff (calls : Set Call) :
    (∀ run : List (Host × Call), (∀ step ∈ run, step.2 ∈ calls) → IsolatedRun Dict.empty run) ↔
      Separated calls := by
  constructor
  · exact separated_of_isolated
  · intro separated run known
    apply isolated_run separated run _ known
    intro key record stored
    cases stored

omit [UnicodeDatabase] in
theorem first_colon {a b : Text} (plain : ':' ∉ a) (plain' : ':' ∉ b) {rest rest' : Text}
    (joined : a ++ (":".toList ++ rest) = b ++ (":".toList ++ rest')) : a = b ∧ rest = rest' := by
  induction a generalizing b with
  | nil =>
    cases b with
    | nil => simpa using joined
    | cons d b =>
      have colon : ':' = d := (List.cons.inj joined).1
      exact absurd (colon ▸ List.mem_cons_self) plain'
  | cons c a ih =>
    cases b with
    | nil =>
      have colon : c = ':' := (List.cons.inj joined).1
      exact absurd (colon ▸ List.mem_cons_self) plain
    | cons d b =>
      obtain ⟨rfl, rest_joined⟩ := List.cons.inj joined
      obtain ⟨rfl, rfl⟩ := ih (fun h => plain (List.mem_cons_of_mem _ h))
        (fun h => plain' (List.mem_cons_of_mem _ h)) rest_joined
      exact ⟨rfl, rfl⟩

/-- Names without colons are never joined to the text of another triple. -/
theorem separated_of_no_colon {calls : Set Call}
    (plain : ∀ call ∈ calls, ∀ scope, call.scope? = some scope →
      ':' ∉ scope.organizationId.toList ∧ ':' ∉ scope.workspaceId.toList) : Separated calls := by
  intro request registers call known registered named scope scope' sameKey
  obtain ⟨organization, workspace⟩ := plain _ registers registered scope
  obtain ⟨organization', workspace'⟩ := plain _ known named scope'
  have joined := congrArg String.toList sameKey
  simp only [Scope.key, sourceKey, String.toList_append, List.append_assoc] at joined
  obtain ⟨sameOrganization, joined⟩ := first_colon organization organization' joined
  obtain ⟨sameWorkspace, -⟩ := first_colon workspace workspace' joined
  apply scope_of_tenant _ sameKey
  rw [Scope.tenant, Scope.tenant, String.toList_inj.mp sameOrganization,
    String.toList_inj.mp sameWorkspace]

end registry

def procurement (organizationId workspaceId : String) : Registration where
  dataSourceId := "procurement"
  name := "Procurement spend"
  sourceType := .localFile
  datasetUri := "procurement.csv"
  owner := "finance-platform"
  organizationId := organizationId
  workspaceId := workspaceId

/-- The source of the workspace `ops` of `acme:eu` is the source of the workspace `eu:ops` of
    `acme`, which cannot register its own. -/
theorem tenants_joined :
    let _ := asciiDatabase
    let run := [(reachable, Call.register (procurement "acme:eu" "ops")),
      (reachable, Call.get ⟨"acme", "eu:ops", "procurement"⟩),
      (reachable, Call.register (procurement "acme" "eu:ops"))]
    ¬ IsolatedRun Dict.empty run := by
  intro _ run isolated
  obtain ⟨-, found, -⟩ := isolated
  obtain ⟨scope, named, tenant⟩ := found.returned _ rfl
  cases named
  exact absurd tenant (by decide)

end DataSources
