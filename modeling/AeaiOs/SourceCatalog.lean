import AeaiOs.DataSources
import AeaiOs.Lib.JsonText
import AeaiOs.Lib.IsoText
import Mathlib.Data.Finset.Range
import Mathlib.Logic.Function.Basic

/-!
The catalog file of the local sources behind a registration: the two locked parts of `register`,
alone and in a race for one id.
-/
namespace DataSources
open PyText OrderedDict CivilTime RunValues
open JsonText (Json)

/-- How the writing of the file ends: as it should, before `os.replace`, or behind it. -/
inductive FileOutcome where
  | written
  | failed
  | replaced
  deriving DecidableEq

/-- What one registration meets: the clock, the validation of its record, and the folder and the
    file of the catalog. -/
structure Surroundings where
  now : Time
  validateRecord : DataSourceRecord → Option DataSourceValidationResult
  makesFolder : Bool
  write : String → FileOutcome

/-- A registry with its catalog file. -/
structure Registry where
  sources : Sources
  configured : Bool
  symlink : Bool
  catalog : Option String

def isLocal (record : DataSourceRecord) : Bool := record.sourceType = .localFile

def localRecords (records : List DataSourceRecord) : List DataSourceRecord := records.filter isLocal

def catalogItem (record : DataSourceRecord) : Json :=
  .dict
    [("id".toList, .str record.id.toList), ("name".toList, .str record.name.toList),
      ("source_type".toList, .str "local_file".toList),
      ("dataset_uri".toList, .str record.datasetUri.toList),
      ("owner".toList, .str record.owner.toList),
      ("organization_id".toList, .str record.organizationId.toList),
      ("workspace_id".toList, .str record.workspaceId.toList),
      ("created_at".toList, .str (isoformat record.createdAt).toList),
      ("updated_at".toList, .str (isoformat record.updatedAt).toList)]

def catalogPayload (records : List DataSourceRecord) : Json :=
  .dict
    [("version".toList, .int 1), ("sources".toList, .list ((localRecords records).map catalogItem))]

/-- `json.dumps(..., ensure_ascii=False)` of the catalog. -/
def catalogText (records : List DataSourceRecord) : String :=
  String.ofList (JsonText.write (catalogPayload records))

namespace Registry

/-- `_save_local_catalog` -/
def saveLocalCatalog (around : Surroundings) (registry : Registry) :
    Registry × Except SourceError Unit :=
  if ¬ registry.configured then (registry, .ok ())
  else if registry.symlink then
    (registry, .error (.valueError "Refusing to write through a local catalog symlink."))
  else if ¬ around.makesFolder then (registry, .error .raisedByHost)
  else if 500 < (localRecords registry.sources.values).length then
    (registry, .error (.valueError "Local source catalog has reached its configured limit."))
  else
    let text := catalogText registry.sources.values
    match around.write text with
    | .written => ({ registry with catalog := some text }, .ok ())
    | .failed => (registry, .error .raisedByHost)
    | .replaced => ({ registry with catalog := some text }, .error .raisedByHost)

section registry
variable [UnicodeDatabase]

/-- The first part of `register`, which ends with the test for the key. -/
def check (request : Registration) (now : Time) (registry : Registry) :
    Except SourceError DataSourceRecord :=
  match request.record now with
  | .error e => .error e
  | .ok record =>
      if (registry.sources.get? record.scope.key).isSome then .error (.alreadyExists record.id)
      else .ok record

end registry

/-- The validation between the two parts, without the lock. -/
def validated (around : Surroundings) (record : DataSourceRecord) :
    Except SourceError DataSourceRecord :=
  match around.validateRecord record with
  | none => .error .raisedByHost
  | some validation =>
      if validation.status = .ok then .ok { record with latestValidation := some validation }
      else .error (.validation validation)

/-- The second part of `register`. The record stays when the catalog cannot be written. -/
def store (around : Surroundings) (stored : DataSourceRecord) (registry : Registry) :
    Registry × Except SourceError DataSourceRecord :=
  let (registry, saved) := saveLocalCatalog around
    { registry with sources := registry.sources.set stored.scope.key stored }
  (registry, saved.map fun _ => stored)

section registry
variable [UnicodeDatabase]

/-- The record that a request stores, if it gets so far. -/
def prepare (around : Surroundings) (request : Registration) (registry : Registry) :
    Except SourceError DataSourceRecord :=
  match registry.check request around.now with
  | .error e => .error e
  | .ok record => validated around record

def register (around : Surroundings) (request : Registration) (registry : Registry) :
    Registry × Except SourceError DataSourceRecord :=
  match registry.prepare around request with
  | .error e => (registry, .error e)
  | .ok stored => registry.store around stored

end registry

/-- The catalog of these records is written, or there is none. -/
def Writable (around : Surroundings) (registry : Registry) (records : List DataSourceRecord) : Prop :=
  registry.configured = false ∨
    registry.symlink = false ∧ around.makesFolder = true ∧ (localRecords records).length ≤ 500 ∧
      around.write (catalogText records) = .written

instance (around : Surroundings) (registry : Registry) (records : List DataSourceRecord) :
    Decidable (Writable around registry records) :=
  inferInstanceAs (Decidable (_ ∨ _))

theorem saveLocalCatalog_sources (around : Surroundings) (registry : Registry) :
    (saveLocalCatalog around registry).1.sources = registry.sources := by
  unfold saveLocalCatalog
  split
  · rfl
  split
  · rfl
  split
  · rfl
  split
  · rfl
  · dsimp only
    cases around.write (catalogText registry.sources.values) <;> rfl

theorem saveLocalCatalog_ok (around : Surroundings) (registry : Registry) :
    (saveLocalCatalog around registry).2 = .ok () ↔
      Writable around registry registry.sources.values := by
  unfold saveLocalCatalog Writable
  cases registry.configured with
  | false => simp
  | true =>
    cases registry.symlink with
    | true => simp
    | false =>
      cases around.makesFolder with
      | false => simp
      | true =>
        by_cases full : 500 < (localRecords registry.sources.values).length
        · simp [full]
        · simp only [full, not_true_eq_false, Bool.false_eq_true, if_false, reduceCtorEq, false_or,
            true_and, not_lt.mp full]
          cases around.write (catalogText registry.sources.values) <;> simp

theorem saveLocalCatalog_error {around : Surroundings} {registry registry' : Registry}
    {e : SourceError} (failed : saveLocalCatalog around registry = (registry', .error e)) (id : String) :
    e ≠ .alreadyExists id := by
  unfold saveLocalCatalog at failed
  split at failed
  · cases failed
  split at failed
  · cases failed
    exact SourceError.noConfusion
  split at failed
  · cases failed
    exact SourceError.noConfusion
  split at failed
  · cases failed
    exact SourceError.noConfusion
  · dsimp only at failed
    split at failed <;> cases failed
    · exact SourceError.noConfusion
    · exact SourceError.noConfusion

theorem store_fst (around : Surroundings) (stored : DataSourceRecord) (registry : Registry) :
    (store around stored registry).1.sources =
      registry.sources.set stored.scope.key stored := by
  unfold store
  exact saveLocalCatalog_sources around _

theorem store_ok (around : Surroundings) (stored record : DataSourceRecord) (registry : Registry) :
    (store around stored registry).2 = .ok record ↔ record = stored ∧
      Writable around registry (registry.sources.set stored.scope.key stored).values := by
  have saved := saveLocalCatalog_ok around
    { registry with sources := registry.sources.set stored.scope.key stored }
  have same : Writable around { registry with sources := registry.sources.set stored.scope.key stored }
      (registry.sources.set stored.scope.key stored).values ↔
      Writable around registry (registry.sources.set stored.scope.key stored).values := Iff.rfl
  rw [← same, ← saved]
  unfold store
  dsimp only
  cases (saveLocalCatalog around
    { registry with sources := registry.sources.set stored.scope.key stored }).2 with
  | ok done => simp [Except.map, eq_comm]
  | error e => simp [Except.map]

theorem store_error {around : Surroundings} {stored : DataSourceRecord} {registry : Registry}
    (id : String) : (store around stored registry).2 ≠ .error (.alreadyExists id) := by
  unfold store
  dsimp only
  cases saved : saveLocalCatalog around
      { registry with sources := registry.sources.set stored.scope.key stored } with
  | mk registry' result =>
    cases result with
    | ok done => simp [Except.map]
    | error e =>
      have other := saveLocalCatalog_error saved id
      simpa [Except.map] using other

theorem validated_error {around : Surroundings} {record : DataSourceRecord} (id : String) :
    validated around record ≠ .error (.alreadyExists id) := by
  unfold validated
  split
  · simp
  · split <;> simp

theorem validated_scope {around : Surroundings} {record stored : DataSourceRecord}
    (valid : validated around record = .ok stored) : stored.scope = record.scope := by
  unfold validated at valid
  split at valid
  · cases valid
  · split at valid
    · cases valid
      rfl
    · cases valid

section registry
variable [UnicodeDatabase]

/-- A registration that raises leaves the sources and the catalog as they were. -/
def Atomic (around : Surroundings) (request : Registration) (registry : Registry) : Prop :=
  ∀ registry' e, registry.register around request = (registry', .error e) →
    registry'.sources = registry.sources ∧ registry'.catalog = registry.catalog

/-- A prepared record is a new one. -/
theorem prepare_fresh {around : Surroundings} {request : Registration} {registry : Registry}
    {stored : DataSourceRecord} (prepared : registry.prepare around request = .ok stored) :
    registry.sources.get? stored.scope.key = none := by
  unfold prepare check at prepared
  cases built : request.record around.now with
  | error e =>
    rw [built] at prepared
    cases prepared
  | ok record =>
    rw [built] at prepared
    dsimp only at prepared
    cases found : registry.sources.get? record.scope.key with
    | some old =>
      rw [found] at prepared
      cases prepared
    | none =>
      rw [found] at prepared
      rw [validated_scope prepared]
      exact found

/-- A registration is atomic exactly if the catalog can be written whenever it gets so far. -/
theorem atomic_iff (around : Surroundings) (request : Registration) (registry : Registry) :
    Atomic around request registry ↔
      ∀ stored, registry.prepare around request = .ok stored →
        Writable around registry (registry.sources.set stored.scope.key stored).values := by
  unfold Atomic register
  cases prepared : registry.prepare around request with
  | error e =>
    constructor
    · intro _ stored same
      cases same
    · intro _ registry' e' raised
      cases raised
      exact ⟨rfl, rfl⟩
  | ok stored =>
    dsimp only
    have fresh := prepare_fresh prepared
    constructor
    · intro atomic record same
      cases same
      by_contra unwritable
      cases result : (store around stored registry).2 with
      | ok record => exact unwritable ((store_ok around stored record registry).mp result).2
      | error e =>
        have kept := (atomic _ e (Prod.ext rfl result)).1
        rw [store_fst] at kept
        have there := congrArg (fun sources => Dict.get? sources stored.scope.key) kept
        simp [fresh] at there
    · intro writable registry' e raised
      have finished := (store_ok around stored stored registry).mpr ⟨rfl, writable stored rfl⟩
      rw [raised] at finished
      cases finished

/-- The host of the registry without its file, for which the catalog is written or not. -/
def host (around : Surroundings) (registry : Registry) : Host where
  now := around.now
  validateRecord := around.validateRecord
  writesCatalog records := decide (Writable around registry records)

/-- Both registrations succeed together and leave the same sources. -/
theorem register_sources (around : Surroundings) (request : Registration) (registry : Registry) :
    (DataSources.register (host around registry) request registry.sources).2 =
        (registry.register around request).1.sources ∧
      ∀ record, (DataSources.register (host around registry) request registry.sources).1 =
          .ok record ↔ (registry.register around request).2 = .ok record := by
  unfold DataSources.register Registry.register prepare check
  rw [StoreAction.Action.bind_run, StoreAction.Action.ofExcept_run]
  cases built : request.record around.now with
  | error e =>
    have built' : request.record (host around registry).now = .error e := built
    rw [built']
    simp
  | ok record =>
    have built' : request.record (host around registry).now = .ok record := built
    rw [built']
    simp only [StoreAction.Action.bind_run, StoreAction.Action.read_run]
    cases found : registry.sources.get? record.scope.key with
    | some old => simp
    | none =>
      simp only [Option.isSome_none, Bool.false_eq_true, if_false, StoreAction.Action.bind_run,
        validateRecord_run]
      have same : (host around registry).validateRecord = around.validateRecord := rfl
      rw [same]
      unfold validated
      cases around.validateRecord record with
      | none => simp
      | some validation =>
        dsimp only
        by_cases valid : validation.status = .ok
        · rw [if_pos valid, if_pos valid]
          simp only [StoreAction.Action.bind_run, StoreAction.Action.change_run, saveLocalCatalog_run]
          generalize same_record : ({ record with latestValidation := some validation } :
            DataSourceRecord) = stored
          have key : record.scope.key = stored.scope.key := by rw [← same_record]; rfl
          rw [store_fst, key]
          by_cases writable : Writable around registry
              (registry.sources.set stored.scope.key stored).values
          · have writes : (host around registry).writesCatalog
                (registry.sources.set stored.scope.key stored).values = true :=
              decide_eq_true writable
            simp only [writes, if_true, StoreAction.Action.pure_run, store_ok, writable, and_true,
              Except.ok.injEq, true_and]
            exact fun found => eq_comm
          · have writes : (host around registry).writesCatalog
                (registry.sources.set stored.scope.key stored).values = false :=
              decide_eq_false writable
            simp [writes, store_ok, writable]
        · rw [if_neg valid, if_neg valid]
          simp

/-! Registrations for one id at once. -/

/-- One of them, with what it meets. -/
structure Contender where
  around : Surroundings
  request : Registration

/-- How far a call is: before its first part, between the two, or done. -/
inductive Phase where
  | waiting
  | ready (stored : DataSourceRecord)
  | finished (result : Except SourceError DataSourceRecord)

structure RaceState where
  registry : Registry
  phases : Nat → Phase

/-- The next part of a call. -/
def raceStep (calls : List Contender) (state : RaceState) (i : Nat) : RaceState :=
  match calls[i]?, state.phases i with
  | some call, .waiting =>
      match state.registry.prepare call.around call.request with
      | .ok stored => { state with phases := Function.update state.phases i (.ready stored) }
      | .error e => { state with phases := Function.update state.phases i (.finished (.error e)) }
  | some call, .ready stored =>
      { registry := (state.registry.store call.around stored).1
        phases := Function.update state.phases i
          (.finished (state.registry.store call.around stored).2) }
  | _, _ => state

def raceRun (calls : List Contender) (state : RaceState) (schedule : List Nat) : RaceState :=
  schedule.foldl (raceStep calls) state

/-- Calls that name one triple, and an order of their parts. -/
structure Race where
  calls : List Contender
  scope : Scope
  same : ∀ call ∈ calls, (Call.register call.request).scope? = some scope
  schedule : List Nat
  interleaved : ∀ i, schedule.count i = if i < calls.length then 2 else 0

def Race.outcome (race : Race) (registry : Registry) : RaceState :=
  raceRun race.calls ⟨registry, fun _ => .waiting⟩ race.schedule

/-- One call succeeds, and the others find its source. -/
def Race.ExactlyOne (race : Race) (registry : Registry) : Prop :=
  ∃ k < race.calls.length,
    (∃ record, (race.outcome registry).phases k = .finished (.ok record)) ∧
    ∀ j < race.calls.length, j ≠ k →
      ∃ id, (race.outcome registry).phases j = .finished (.error (.alreadyExists id))

/-- The first call stores its record, in a catalog that can be written, before another call
    looks for it. -/
def Race.StoresAlone (race : Race) (registry : Registry) : Prop :=
  ∃ i rest call stored, race.schedule = i :: i :: rest ∧ race.calls[i]? = some call ∧
    registry.prepare call.around call.request = .ok stored ∧
    Writable call.around registry (registry.sources.set stored.scope.key stored).values

/-! What the parts of a call do in a race. -/

theorem prepare_taken {around : Surroundings} {request : Registration} {registry : Registry}
    {scope : Scope} (named : (Call.register request).scope? = some scope) {old : DataSourceRecord}
    (taken : registry.sources.get? scope.key = some old) :
    ∃ id, registry.prepare around request = .error (.alreadyExists id) := by
  unfold prepare check
  rw [record_at]
  cases built : request.record 0 with
  | error e => simp [Call.scope?, built] at named
  | ok record =>
    simp only [Call.scope?, built, Option.some.injEq] at named
    subst named
    have taken' : registry.sources.get?
        ({ record with createdAt := around.now, updatedAt := around.now } :
          DataSourceRecord).scope.key = some old := taken
    simp only [Except.map, taken', Option.isSome_some, if_true]
    exact ⟨_, rfl⟩

theorem prepare_free {around : Surroundings} {request : Registration} {registry : Registry}
    {scope : Scope} (named : (Call.register request).scope? = some scope)
    (free : registry.sources.get? scope.key = none) (id : String) :
    registry.prepare around request ≠ .error (.alreadyExists id) := by
  unfold prepare check
  rw [record_at]
  cases built : request.record 0 with
  | error e => simp [Call.scope?, built] at named
  | ok record =>
    simp only [Call.scope?, built, Option.some.injEq] at named
    subst named
    have free' : registry.sources.get?
        ({ record with createdAt := around.now, updatedAt := around.now } :
          DataSourceRecord).scope.key = none := free
    simp only [Except.map, free', Option.isSome_none, Bool.false_eq_true, if_false]
    exact validated_error id

theorem prepare_scope {around : Surroundings} {request : Registration} {registry : Registry}
    {scope : Scope} (named : (Call.register request).scope? = some scope)
    {stored : DataSourceRecord} (prepared : registry.prepare around request = .ok stored) :
    stored.scope = scope := by
  unfold prepare check at prepared
  cases built : request.record around.now with
  | error e =>
    rw [built] at prepared
    cases prepared
  | ok record =>
    rw [built] at prepared
    dsimp only at prepared
    split at prepared
    · cases prepared
    · rename_i checked
      split at checked
      · cases checked
      · cases checked
        rw [validated_scope prepared]
        exact Option.some.inj ((scope_of_record built).symm.trans named)

theorem raceStep_other {calls : List Contender} {state : RaceState} {i j : Nat} (other : j ≠ i) :
    (raceStep calls state i).phases j = state.phases j := by
  unfold raceStep
  split
  · split <;> exact Function.update_of_ne other _ _
  · exact Function.update_of_ne other _ _
  · rfl

/-- A call that is done stays as it is. -/
theorem raceStep_finished {calls : List Contender} {state : RaceState} {j : Nat}
    {result : Except SourceError DataSourceRecord} (done : state.phases j = .finished result)
    (i : Nat) : (raceStep calls state i).phases j = .finished result := by
  by_cases same : j = i
  · subst same
    unfold raceStep
    rw [done]
    split
    · rename_i waits
      cases waits
    · rename_i waits
      cases waits
    · exact done
  · rw [raceStep_other same, done]

theorem raceRun_finished (calls : List Contender) {state : RaceState} {j : Nat}
    {result : Except SourceError DataSourceRecord} (done : state.phases j = .finished result)
    (schedule : List Nat) : (raceRun calls state schedule).phases j = .finished result := by
  induction schedule generalizing state with
  | nil => exact done
  | cons i schedule ih => exact ih (raceStep_finished done i)

/-- The call did not find the source of another one. -/
def Ahead (phase : Phase) : Prop :=
  (∃ stored, phase = .ready stored) ∨
    ∃ result, phase = .finished result ∧ ∀ id, result ≠ .error (.alreadyExists id)

theorem ahead_step {calls : List Contender} {state : RaceState} {j : Nat}
    (ahead : Ahead (state.phases j)) (i : Nat) : Ahead ((raceStep calls state i).phases j) := by
  by_cases same : j = i
  · subst same
    rcases ahead with ⟨stored, ready⟩ | ⟨result, done, other⟩
    · unfold raceStep
      rw [ready]
      split
      · rename_i waits
        cases waits
      · rename_i call stored' _ waits
        cases waits
        right
        exact ⟨_, Function.update_self _ _ _, fun id => store_error id⟩
      · exact .inl ⟨stored, ready⟩
    · exact .inr ⟨result, raceStep_finished done j, other⟩
  · rw [raceStep_other same]
    exact ahead

theorem ahead_run {calls : List Contender} {state : RaceState} {j : Nat}
    (ahead : Ahead (state.phases j)) (schedule : List Nat) :
    Ahead ((raceRun calls state schedule).phases j) := by
  induction schedule generalizing state with
  | nil => exact ahead
  | cons i schedule ih => exact ih (ahead_step ahead i)

/-- The source is there, the call `winner` is done, and the others have not begun or have found
    the source. -/
structure Settled (scope : Scope) (winner : Nat → Prop) (state : RaceState) : Prop where
  taken : ∃ old, state.registry.sources.get? scope.key = some old
  others : ∀ j, ¬ winner j → state.phases j = .waiting ∨
    ∃ id, state.phases j = .finished (.error (.alreadyExists id))
  done : ∀ j, winner j → ∃ result, state.phases j = .finished result

theorem settled_step {calls : List Contender} {scope : Scope} {winner : Nat → Prop}
    (same : ∀ call ∈ calls, (Call.register call.request).scope? = some scope) {state : RaceState}
    (settled : Settled scope winner state) (i : Nat) :
    Settled scope winner (raceStep calls state i) ∧
      (i < calls.length → (raceStep calls state i).phases i ≠ .waiting) := by
  obtain ⟨⟨old, taken⟩, others, done⟩ := settled
  have idle : (∃ result, state.phases i = .finished result) →
      Settled scope winner (raceStep calls state i) ∧
        (i < calls.length → (raceStep calls state i).phases i ≠ .waiting) := by
    rintro ⟨result, finished⟩
    have unchanged : raceStep calls state i = state := by
      unfold raceStep
      rw [finished]
      split
      · rename_i waits
        cases waits
      · rename_i waits
        cases waits
      · rfl
    rw [unchanged]
    refine ⟨⟨⟨old, taken⟩, others, done⟩, fun _ waits => ?_⟩
    rw [finished] at waits
    cases waits
  by_cases wins : winner i
  · exact idle (done i wins)
  rcases others i wins with waiting | ⟨id, finished⟩
  swap
  · exact idle ⟨_, finished⟩
  cases found : calls[i]? with
  | none =>
    have unchanged : raceStep calls state i = state := by
      unfold raceStep
      rw [found]
    rw [unchanged]
    refine ⟨⟨⟨old, taken⟩, others, done⟩, fun within => ?_⟩
    rw [List.getElem?_eq_getElem within] at found
    cases found
  | some call =>
    obtain ⟨id, refused⟩ : ∃ id, state.registry.prepare call.around call.request =
        .error (.alreadyExists id) := prepare_taken (same call (List.mem_of_getElem? found)) taken
    have stepped : raceStep calls state i =
        { state with phases :=
            Function.update state.phases i (.finished (.error (.alreadyExists id))) } := by
      unfold raceStep
      rw [found, waiting]
      dsimp only
      rw [refused]
    rw [stepped]
    refine ⟨⟨⟨old, taken⟩, fun j loses => ?_, fun j wins' => ?_⟩, fun _ waits => ?_⟩
    · by_cases here : j = i
      · subst here
        exact .inr ⟨id, Function.update_self _ _ _⟩
      · dsimp only
        rw [Function.update_of_ne here]
        exact others j loses
    · have elsewhere : j ≠ i := by
        rintro rfl
        exact wins wins'
      dsimp only
      rw [Function.update_of_ne elsewhere]
      exact done j wins'
    · dsimp only at waits
      rw [Function.update_self] at waits
      cases waits

theorem settled_run {calls : List Contender} {scope : Scope} {winner : Nat → Prop}
    (same : ∀ call ∈ calls, (Call.register call.request).scope? = some scope) {state : RaceState}
    (settled : Settled scope winner state) (schedule : List Nat) :
    Settled scope winner (raceRun calls state schedule) ∧
      ∀ j ∈ schedule, j < calls.length → (raceRun calls state schedule).phases j ≠ .waiting := by
  induction schedule generalizing state with
  | nil =>
    refine ⟨settled, fun j member => ?_⟩
    cases member
  | cons i schedule ih =>
    obtain ⟨next, moved⟩ := settled_step same settled i
    obtain ⟨final, begun⟩ := ih next
    refine ⟨final, fun j member within => ?_⟩
    rcases List.mem_cons.mp member with rfl | later
    · -- a call that has begun stays so
      have phase := moved within
      by_cases wins : winner j
      · obtain ⟨result, done⟩ := final.done j wins
        intro waits
        rw [show raceRun calls state (j :: schedule) = raceRun calls (raceStep calls state j) schedule
          from rfl, done] at waits
        cases waits
      · rcases next.others j wins with waiting | ⟨id, finished⟩
        · exact absurd waiting phase
        · intro waits
          rw [show raceRun calls state (j :: schedule) = raceRun calls (raceStep calls state j) schedule
            from rfl, raceRun_finished calls finished] at waits
          cases waits
    · exact begun j later within

theorem raceStep_waiting {calls : List Contender} (state : RaceState) {i : Nat} {call : Contender}
    (found : calls[i]? = some call) (waiting : state.phases i = .waiting) :
    (raceStep calls state i).registry = state.registry ∧
      (raceStep calls state i).phases i =
        match state.registry.prepare call.around call.request with
        | .ok stored => .ready stored
        | .error e => .finished (.error e) := by
  unfold raceStep
  rw [found, waiting]
  dsimp only
  cases state.registry.prepare call.around call.request with
  | ok stored => exact ⟨rfl, Function.update_self _ _ _⟩
  | error e => exact ⟨rfl, Function.update_self _ _ _⟩

theorem raceStep_ready {calls : List Contender} {state : RaceState} {i : Nat} {call : Contender}
    {stored : DataSourceRecord} (found : calls[i]? = some call)
    (ready : state.phases i = .ready stored) :
    (raceStep calls state i).registry = (state.registry.store call.around stored).1 ∧
      (raceStep calls state i).phases i =
        .finished (state.registry.store call.around stored).2 := by
  unfold raceStep
  rw [found, ready]
  exact ⟨rfl, Function.update_self _ _ _⟩

/-- A call whose first part does not find the source is ahead. -/
theorem ahead_of_free {calls : List Contender} {scope : Scope} (state : RaceState) {i : Nat}
    {call : Contender} (found : calls[i]? = some call)
    (named : (Call.register call.request).scope? = some scope)
    (waiting : state.phases i = .waiting)
    (free : state.registry.sources.get? scope.key = none) :
    Ahead ((raceStep calls state i).phases i) := by
  obtain ⟨_, phase⟩ := raceStep_waiting state found waiting
  rw [phase]
  cases prepared : state.registry.prepare call.around call.request with
  | ok stored => exact .inl ⟨stored, rfl⟩
  | error e =>
    right
    refine ⟨_, rfl, fun id same => ?_⟩
    rw [same] at prepared
    exact prepare_free named free id prepared

theorem storesAlone_of_exactlyOne {race : Race} {registry : Registry}
    (one : race.ExactlyOne registry) : race.StoresAlone registry := by
  obtain ⟨k, within, ⟨record, won⟩, lost⟩ := one
  -- only the winner can be ahead at the end
  have winner : ∀ m < race.calls.length, Ahead ((race.outcome registry).phases m) → m = k := by
    intro m inside ahead
    by_contra other
    obtain ⟨id, beaten⟩ := lost m inside other
    rw [beaten] at ahead
    rcases ahead with ⟨stored, same⟩ | ⟨result, same, plain⟩
    · cases same
    · cases same
      exact plain id rfl
  have inside : ∀ m ∈ race.schedule, m < race.calls.length := by
    intro m member
    by_contra outside
    have none := race.interleaved m
    rw [if_neg outside] at none
    exact List.count_eq_zero.mp none member
  have twice := race.interleaved
  unfold Race.outcome at won winner lost
  unfold Race.StoresAlone
  cases order : race.schedule with
  | nil =>
    have two := twice k
    rw [order, if_pos within] at two
    cases two
  | cons i rest =>
    rw [order] at won winner lost inside
    have first := inside i List.mem_cons_self
    have found := List.getElem?_eq_getElem first
    have named := race.same _ (List.getElem_mem first)
    generalize race.calls[i] = call at found named
    cases taken : registry.sources.get? race.scope.key with
    | some old =>
      have settled : Settled race.scope (fun _ => False) ⟨registry, fun _ => .waiting⟩ :=
        ⟨⟨old, taken⟩, fun _ _ => .inl rfl, fun _ none => none.elim⟩
      obtain ⟨final, _⟩ := settled_run race.same settled (i :: rest)
      rcases final.others k id with waits | ⟨id, beaten⟩
      · rw [won] at waits
        cases waits
      · rw [won] at beaten
        cases beaten
    | none =>
      obtain ⟨kept, phase⟩ := raceStep_waiting ⟨registry, fun _ => .waiting⟩ found rfl
      have ahead := ahead_of_free ⟨registry, fun _ => .waiting⟩ found named rfl taken
      have same : i = k := winner i first (ahead_run ahead rest)
      dsimp only at phase kept
      cases prepared : registry.prepare call.around call.request with
      | error e =>
        rw [prepared] at phase
        have final := raceRun_finished race.calls phase rest
        rw [← same] at won
        have both := final.symm.trans won
        cases both
      | ok stored =>
        rw [prepared] at phase
        cases rest with
        | nil =>
          have two := twice i
          rw [order, if_pos first] at two
          simp at two
        | cons j rest =>
          by_cases again : j = i
          · subst again
            obtain ⟨_, stored_phase⟩ := raceStep_ready found phase
            have final := raceRun_finished race.calls stored_phase rest
            rw [← same] at won
            have both := final.symm.trans won
            rw [kept] at both
            have success := Phase.finished.inj both
            exact ⟨j, rest, call, stored, rfl, found, prepared,
              ((store_ok call.around stored record registry).mp success).2⟩
          · have second := inside j (by simp)
            have found' := List.getElem?_eq_getElem second
            have named' := race.same _ (List.getElem_mem second)
            have waits : (raceStep race.calls ⟨registry, fun _ => .waiting⟩ i).phases j =
                .waiting := raceStep_other again
            have ahead' := ahead_of_free _ found' named' waits (by rw [kept]; exact taken)
            have same' := winner j second (ahead_run ahead' rest)
            exact absurd (same'.trans same.symm) again

theorem exactlyOne_of_storesAlone {race : Race} {registry : Registry}
    (alone : race.StoresAlone registry) : race.ExactlyOne registry := by
  obtain ⟨i, rest, call, stored, order, found, prepared, writable⟩ := alone
  have first : i < race.calls.length := by
    by_contra outside
    rw [List.getElem?_eq_none (by omega)] at found
    cases found
  have named := race.same call (List.mem_of_getElem? found)
  unfold Race.ExactlyOne Race.outcome
  rw [order]
  obtain ⟨kept, phase⟩ := raceStep_waiting ⟨registry, fun _ => .waiting⟩ found rfl
  dsimp only at kept phase
  rw [prepared] at phase
  obtain ⟨registry', stored_phase⟩ := raceStep_ready found phase
  rw [kept] at registry' stored_phase
  rw [(store_ok call.around stored stored registry).mpr ⟨rfl, writable⟩] at stored_phase
  have settled : Settled race.scope (· = i)
      (raceStep race.calls (raceStep race.calls ⟨registry, fun _ => .waiting⟩ i) i) := by
    refine ⟨⟨stored, ?_⟩, fun j other => ?_, fun j same => ?_⟩
    · rw [registry', store_fst, ← prepare_scope named prepared, Dict.get?_set_self]
    · rw [raceStep_other other, raceStep_other other]
      exact .inl rfl
    · subst same
      exact ⟨_, stored_phase⟩
  obtain ⟨final, begun⟩ := settled_run race.same settled rest
  refine ⟨i, first, ⟨stored, raceRun_finished race.calls stored_phase rest⟩, fun j within other => ?_⟩
  have later : j ∈ rest := by
    have two := race.interleaved j
    rw [order, if_pos within, List.count_cons_of_ne (Ne.symm other),
      List.count_cons_of_ne (Ne.symm other)] at two
    exact List.count_pos_iff.mp (by omega)
  rcases final.others j other with waits | beaten
  · exact absurd waits (begun j later within)
  · exact beaten

/-- A registration is atomic exactly if the catalog can be written whenever it gets so far, and
    of the registrations for one id exactly one succeeds, while the others find its source,
    exactly if the first stores its record before another looks for it. -/
theorem register_atomic_iff :
    (∀ around request registry, Atomic around request registry ↔
      ∀ stored, registry.prepare around request = .ok stored →
        Writable around registry (registry.sources.set stored.scope.key stored).values) ∧
    ∀ race registry, Race.ExactlyOne race registry ↔ race.StoresAlone registry := by
  constructor
  · exact atomic_iff
  · intro race registry
    exact ⟨storesAlone_of_exactlyOne, exactlyOne_of_storesAlone⟩

end registry

/-- A registry without sources whose catalog file is a symbolic link. -/
def linked : Registry := ⟨Dict.empty, true, true, none⟩

/-- A registry without sources that keeps no catalog. -/
def unsaved : Registry := ⟨Dict.empty, false, false, none⟩

/-- Every validation succeeds, and every file is written. -/
def calm : Surroundings where
  now := 0
  validateRecord _ := some { status := .ok, message := "Local dataset is reachable.", checkedAt := 0 }
  makesFolder := true
  write _ := .written

/-- Two registrations of one source: both look for it before one stores it. -/
def crossed [UnicodeDatabase] (scope : Scope)
    (named : (Call.register (procurement "acme" "ops")).scope? = some scope) : Race where
  calls := [⟨calm, procurement "acme" "ops"⟩, ⟨calm, procurement "acme" "ops"⟩]
  scope := scope
  same := by simpa using named
  schedule := [0, 1, 0, 1]
  interleaved := by
    intro i
    match i with
    | 0 => rfl
    | 1 => rfl
    | i + 2 => simp

/-- A registration that cannot write its catalog stays in memory, and two at once both
    succeed. -/
theorem registrations_clash :
    let _ := asciiDatabase
    ¬ Atomic calm (procurement "acme" "ops") linked ∧
      ∃ race : Race, (∃ record, (race.outcome unsaved).phases 0 = .finished (.ok record)) ∧
        (∃ record, (race.outcome unsaved).phases 1 = .finished (.ok record)) ∧
        ¬ race.ExactlyOne unsaved := by
  intro _
  constructor
  · intro atomic
    have kept := (atomic _ _ rfl).1
    have there := congrArg (fun sources => Dict.get? sources "acme:ops:procurement") kept
    cases there
  · refine ⟨crossed ⟨"acme", "ops", "procurement"⟩ rfl, ⟨_, rfl⟩, ⟨_, rfl⟩, fun one => ?_⟩
    obtain ⟨i, rest, _, _, order, _⟩ := storesAlone_of_exactlyOne one
    have first := (List.cons.inj order).1
    have second := (List.cons.inj (List.cons.inj order).2).1
    rw [← first] at second
    cases second

end Registry
end DataSources
