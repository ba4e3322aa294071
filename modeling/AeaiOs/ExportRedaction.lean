import AeaiOs.RunExport
import AeaiOs.RunLimits
import AeaiOs.Lib.IsoText

/-!
What an exported archive still gives away. Every free text is redacted on its way out but
the summaries of errors: they leave as they are stored, and the repository stores those of
failed workflow jobs as they were given.
-/
namespace RunArchive
open OrderedDict PyText CivilTime StoreAction Action ExceptLists RunValues RunModels Redaction
open InMemoryRunRepository
open Orchestration (Fixed)

/-- The redaction succeeds, and a second one changes nothing. -/
def Settles {α : Type} (redact : α → Except PyError α) (value : α) : Prop :=
  ∃ value', redact value = .ok value' ∧ redact value' = .ok value'

theorem settles_fixed {α : Type} {redact : α → Except PyError α} {value : α}
    (fixed : redact value = .ok value) : Settles redact value :=
  ⟨value, fixed, fixed⟩

theorem fixed_of_settles {α : Type} {redact : α → Except PyError α} {value value' : α}
    (settles : Settles redact value) (made : redact value = .ok value') :
    redact value' = .ok value' := by
  obtain ⟨other, first, again⟩ := settles
  rw [first, Except.ok.injEq] at made
  exact made ▸ again

/-! Timestamps are no secrets. -/

theorem isoformat_stamp (time : Time) : ∀ c ∈ (isoformat time).toList, stampChar c = true := by
  have digit : ∀ {width : Nat} {n : Int} {c : Char}, c ∈ padded width n → stampChar c = true := by
    intro width n c member
    unfold stampChar
    rw [digit_of_mem_padded member, Bool.true_or]
  intro c member
  rw [isoformat_eq] at member
  simp only [dateText, timeText, fractionText, List.mem_append, List.mem_cons] at member
  rcases member with (year | rfl | month | rfl | day | last) |
    (hour | rfl | minute | rfl | second) | fraction | zone
  · exact digit year
  · decide
  · exact digit month
  · decide
  · exact digit day
  · rcases last with rfl | none
    · decide
    · cases none
  · exact digit hour
  · decide
  · exact digit minute
  · decide
  · exact digit second
  · split at fraction
    · cases fraction
    · rcases List.mem_cons.mp fraction with rfl | micro
      · decide
      · exact digit micro
  · have each : ∀ d ∈ "+00:00".toList, stampChar d = true := by simp [stampChar, BacktrackRegex.oneOf]
    exact each c zone

section redaction
variable [UnicodeDatabase]

theorem isoformat_kept (time : Time) : redactText (isoformat time) = .ok (isoformat time) :=
  redactText_stamp (isoformat_stamp time)

/-! Values all of whose texts settle. -/

mutual

theorem value_settles : ∀ {value : PyValue} (key : Option String),
    ValueAll (Settles redactText) value → Settles (redactValueAt key) value
  | value, key, all => by
    unfold Settles redactValueAt
    split
    · exact ⟨.str redacted, rfl, rfl⟩
    · cases value with
      | dict entries =>
        obtain ⟨entries', first, again⟩ := entries_settle all
        exact ⟨.dict entries', by simp [first, Except.map], by simp [again, Except.map]⟩
      | list items =>
        obtain ⟨items', first, again⟩ := items_settle all
        exact ⟨.list items', by simp [first, Except.map], by simp [again, Except.map]⟩
      | str text =>
        obtain ⟨text', first, again⟩ := all
        exact ⟨.str text', by simp [first, Except.map], by simp [again, Except.map]⟩
      | none => exact ⟨.none, rfl, rfl⟩
      | bool b => exact ⟨.bool b, rfl, rfl⟩
      | int n => exact ⟨.int n, rfl, rfl⟩
      | float q => exact ⟨.float q, rfl, rfl⟩

theorem entries_settle : ∀ {entries : List (String × PyValue)},
    EntriesAll (Settles redactText) entries → Settles redactEntries entries
  | [], _ => ⟨[], rfl, rfl⟩
  | (key, value) :: rest, all => by
    obtain ⟨value', first, again⟩ := value_settles (some key) all.2.1
    obtain ⟨rest', others, later⟩ := entries_settle all.2.2
    refine ⟨(key, value') :: rest', ?_, ?_⟩
    · rw [redactEntries, first, others]
      rfl
    · rw [redactEntries, again, later]
      rfl

theorem items_settle : ∀ {items : List PyValue},
    ItemsAll (Settles redactText) items → Settles redactItems items
  | [], _ => ⟨[], rfl, rfl⟩
  | item :: rest, all => by
    obtain ⟨item', first, again⟩ := value_settles none all.1
    obtain ⟨rest', others, later⟩ := items_settle all.2
    refine ⟨item' :: rest', ?_, ?_⟩
    · rw [redactItems, first, others]
      rfl
    · rw [redactItems, again, later]
      rfl

end

/-! The archive. -/

/-- `redact_uri` of a value that is a text. -/
def redactUriValue : PyValue → Except PyError PyValue
  | .str uri => (redactUri uri).map .str
  | value => .ok value

/-- The record has that field, and redacting it again changes nothing. -/
def FixedAt (redact : PyValue → Except PyError PyValue) (record : PyDict) (key : String) : Prop :=
  ∃ value, lookupEntries record key = some value ∧ redact value = .ok value

/-- The archive has a list of records under the key, and each of them is clean. -/
def RecordsClean (archive : PyDict) (key : String) (clean : PyDict → Prop) : Prop :=
  ∃ records : List PyDict, lookupEntries archive key = some (.list (records.map .dict)) ∧
    ∀ record ∈ records, clean record

/-- Nothing in the archive would still be removed by redacting again. -/
structure ArchiveRedacted (archive : PyDict) : Prop where
  run : ∃ record, lookupEntries archive "run" = some (.dict record) ∧
    FixedAt redactValue record "task" ∧ FixedAt redactValue record "metadata" ∧
    FixedAt redactValue record "error_summary"
  artifacts : RecordsClean archive "artifacts" fun record =>
    FixedAt redactUriValue record "uri" ∧ FixedAt redactValue record "metadata"
  events : RecordsClean archive "events" fun record => FixedAt redactValue record "payload"
  evaluations : RecordsClean archive "evaluations" fun record => FixedAt redactValue record "checks"
  workflowJobs : RecordsClean archive "workflow_jobs" fun record =>
    FixedAt redactValue record "payload" ∧ FixedAt redactValue record "error_summary"
  checkpoint : ∀ record, lookupEntries archive "checkpoint" = some (.dict record) →
    FixedAt redactValue record "state"

theorem dict_fixed {entries : PyDict} (fixed : redactEntries entries = .ok entries) :
    redactValue (.dict entries) = .ok (.dict entries) := by
  unfold redactValue redactValueAt
  simp [fixed, Except.map]

theorem text_fixed {text : String} (fixed : redactText text = .ok text) :
    redactValue (.str text) = .ok (.str text) := by
  unfold redactValue redactValueAt
  simp [fixed, Except.map]

theorem optional_fixed {text : Option String} (fixed : ∀ t ∈ text, redactText t = .ok t) :
    redactValue (.ofOption text) = .ok (.ofOption text) := by
  cases text with
  | none => simp [PyValue.ofOption, redactValue, redactValueAt]
  | some t => exact text_fixed (fixed t rfl)

theorem dicts_fixed {dicts : List PyDict} (fixed : ∀ entries ∈ dicts, redactEntries entries = .ok entries) :
    redactValue (.list (dicts.map .dict)) = .ok (.list (dicts.map .dict)) := by
  have items : redactItems (dicts.map .dict) = .ok (dicts.map .dict) := by
    induction dicts with
    | nil => rfl
    | cons entries rest ih =>
      have first := dict_fixed (fixed entries List.mem_cons_self)
      have others := ih fun d member => fixed d (List.mem_cons_of_mem entries member)
      unfold redactValue at first
      rw [List.map_cons, redactItems, first, others]
      rfl
  unfold redactValue redactValueAt
  simp [items, Except.map]

end redaction

/-! The limits under which exports are clean. -/

section exports
variable [PyRuntime]

/-- Every text and uri settles, and no summary that is stored as it is given would be
    changed by redaction. -/
def exportLimits : Limits where
  time := fun _ => True
  text := Settles redactText
  uri := Settles redactUri
  summary := Fixed

theorem exportLimits_closed : (exportLimits).Closed where
  mark := settles_fixed redactText_redacted
  text := fun settles made => settles_fixed (fixed_of_settles settles made)
  plain := fun plain => settles_fixed (redactText_plain plain)
  single := fun c => settles_fixed (redactText_short (by simp))
  stamp := fun time => settles_fixed (isoformat_kept time)
  logged := by
    apply settles_fixed
    apply redactText_sentence
    · exact fun c member => by simpa using (List.all_eq_true.mp (show
        "Evaluation result logged.".toList.all (fun c => !(BacktrackRegex.foldChar ':' c ||
          BacktrackRegex.oneOf ":=" c)) = true by decide +kernel) c member)
    · decide +kernel
  timeout := fun n => settles_fixed (RepositoryAgreement.timeoutSummary_kept n)
  summary := fun settles made => fixed_of_settles settles made
  timeoutSummary := RepositoryAgreement.timeoutSummary_kept
  uri := fun settles made => settles_fixed (fixed_of_settles settles made)

/-! The encoders. -/

theorem run_clean {run : RunRecord} (within : RunWithin exportLimits run) {record : PyDict}
    (made : runToArchive run = .ok record) :
    FixedAt redactValue record "task" ∧ FixedAt redactValue record "metadata" ∧
      FixedAt redactValue record "error_summary" := by
  simp only [runToArchive, bind_eq_ok, pure_eq_ok] at made
  obtain ⟨task, first, metadata, second, rfl⟩ := made
  have taskFixed := fixed_of_settles within.task first
  have metadataFixed := fixed_of_settles (entries_settle within.metadata) second
  exact ⟨⟨_, rfl, text_fixed taskFixed⟩, ⟨_, rfl, dict_fixed metadataFixed⟩,
    ⟨_, rfl, optional_fixed within.summary⟩⟩

theorem artifact_clean {artifact : ArtifactRecord} (within : ArtifactWithin exportLimits artifact)
    {record : PyDict} (made : artifactToArchive artifact = .ok record) :
    FixedAt redactUriValue record "uri" ∧ FixedAt redactValue record "metadata" := by
  simp only [artifactToArchive, bind_eq_ok, pure_eq_ok] at made
  obtain ⟨uri, first, metadata, second, storageKey, -, rfl⟩ := made
  have uriFixed := fixed_of_settles within.uri first
  have metadataFixed := fixed_of_settles (entries_settle within.metadata) second
  have uriValue : redactUriValue (.str uri) = .ok (.str uri) := by
    simp [redactUriValue, uriFixed, Except.map]
  exact ⟨⟨_, rfl, uriValue⟩, ⟨_, rfl, dict_fixed metadataFixed⟩⟩

theorem event_clean {event : AgentEventRecord} (within : EventWithin exportLimits event)
    {record : PyDict} (made : eventToArchive event = .ok record) :
    FixedAt redactValue record "payload" := by
  simp only [eventToArchive, bind_eq_ok, pure_eq_ok] at made
  obtain ⟨payload, first, rfl⟩ := made
  exact ⟨_, rfl, dict_fixed (fixed_of_settles (entries_settle within.payload) first)⟩

/-- Redacted lists of dictionaries, each of which settles, are fixed one by one. -/
theorem checks_fixed {checks checks' : List PyDict}
    (all : ∀ check ∈ checks, EntriesAll (Settles redactText) check)
    (made : checks.mapM redactEntries = .ok checks') :
    ∀ check ∈ checks', redactEntries check = .ok check := by
  intro check member
  obtain ⟨source, inside, redacted⟩ := mapM_source made check member
  exact fixed_of_settles (entries_settle (all source inside)) redacted

theorem evaluation_clean {evaluation : EvaluationResultRecord}
    (within : EvaluationWithin exportLimits evaluation) {record : PyDict}
    (made : evaluationToArchive evaluation = .ok record) : FixedAt redactValue record "checks" := by
  unfold evaluationToArchive at made
  split at made
  · cases made
  · simp only [bind_eq_ok, pure_eq_ok] at made
    obtain ⟨checks, first, rfl⟩ := made
    exact ⟨_, rfl, dicts_fixed (checks_fixed within.checks first)⟩

theorem job_clean {job : WorkflowJobRecord} (within : JobWithin exportLimits job) {record : PyDict}
    (made : workflowJobToArchive job = .ok record) :
    FixedAt redactValue record "payload" ∧ FixedAt redactValue record "error_summary" := by
  simp only [workflowJobToArchive, bind_eq_ok, pure_eq_ok] at made
  obtain ⟨payload, first, rfl⟩ := made
  have payloadFixed := fixed_of_settles (entries_settle within.payload) first
  exact ⟨⟨_, rfl, dict_fixed payloadFixed⟩, ⟨_, rfl, optional_fixed within.summary⟩⟩

theorem checkpoint_clean {checkpoint : CheckpointRecord}
    (within : CheckpointWithin exportLimits checkpoint) {record : PyDict}
    (made : checkpointToArchive checkpoint = .ok record) : FixedAt redactValue record "state" := by
  simp only [checkpointToArchive, bind_eq_ok, pure_eq_ok] at made
  obtain ⟨state, first, rfl⟩ := made
  exact ⟨_, rfl, dict_fixed (fixed_of_settles (entries_settle within.state) first)⟩

omit [PyRuntime] in
/-- Records encoded one by one. -/
theorem mapM_clean {α : Type} {encode : α → Except PyError PyDict} {within : α → Prop}
    {clean : PyDict → Prop} (each : ∀ {item}, within item → ∀ {record}, encode item = .ok record → clean record)
    {items : List α} (all : ∀ item ∈ items, within item) {records : List PyDict}
    (made : items.mapM encode = .ok records) : ∀ record ∈ records, clean record := by
  intro record member
  obtain ⟨item, inside, encoded⟩ := mapM_source made record member
  exact each (all item inside) encoded

omit [PyRuntime] in
theorem contentsOf_within {l : Limits} {store : RunStore} (within : StoreWithin l store)
    {runId : String} {run : RunRecord} (stored : store.repo.runs.get? runId = some run) :
    ContentsWithin l (store.contentsOf run runId) := by
  have listed : ∀ {α : Type} {p : α → Prop} {table : Dict String (List α)},
      table.All (fun _ items => ∀ item ∈ items, p item) →
      ∀ item ∈ (table.get? runId).getD [], p item := by
    intro α p table all item member
    cases found : table.get? runId with
    | none => simp [found] at member
    | some items =>
      rw [found] at member
      exact all runId items found item member
  have repo := within.repo
  constructor
  · exact (repo.runs runId run stored).2
  · exact listed repo.artifacts
  · exact listed repo.graphNodes
  · exact listed repo.events
  · exact listed repo.evaluations
  · intro job member
    have inOrder := (List.mem_filter.mp member).1
    obtain ⟨jobId, -, found⟩ := List.mem_filterMap.mp inOrder
    exact (repo.workflowJobs jobId job found).2

theorem archive_clean {contents : RunContents} (within : ContentsWithin exportLimits contents)
    {checkpoint : Option CheckpointRecord}
    (checkpointIn : ∀ record ∈ checkpoint, CheckpointWithin exportLimits record)
    {records : ArchiveRecords} (made : recordsToArchive contents checkpoint = .ok records)
    (exportedAt : Time) : ArchiveRedacted (records.archive exportedAt) := by
  simp only [recordsToArchive, bind_eq_ok, pure_eq_ok] at made
  obtain ⟨run, first, artifacts, second, events, third, evaluations, fourth, jobs, fifth,
    state, sixth, rfl⟩ := made
  constructor
  · exact ⟨run, rfl, run_clean within.run first⟩
  · exact ⟨artifacts, rfl, mapM_clean artifact_clean within.artifacts second⟩
  · exact ⟨events, rfl, mapM_clean event_clean within.events third⟩
  · exact ⟨evaluations, rfl, mapM_clean evaluation_clean within.evaluations fourth⟩
  · exact ⟨jobs, rfl, mapM_clean job_clean within.workflowJobs fifth⟩
  · intro record found
    cases checkpoint with
    | none =>
      simp only [checkpointOf, Except.ok.injEq] at sixth
      rw [← sixth] at found
      have absent : some PyValue.none = some (.dict record) := found
      cases absent
    | some checkpoint =>
      obtain ⟨entries, encoded, rfl⟩ := except_map_ok sixth
      have same : some (PyValue.dict entries) = some (.dict record) := found
      simp only [Option.some.injEq, PyValue.dict.injEq] at same
      exact same ▸ checkpoint_clean (checkpointIn checkpoint rfl) encoded

/-- Every archive is clean that is exported after operations which bring in texts and uris
    that settle, and summaries stored as given that redaction would not change. -/
theorem exported_is_redacted {store : RunStore}
    (reached : Reached (Operation.Within exportLimits) store) {runId : String} {exportedAt : Time}
    {archive : PyDict} {store' : RunStore}
    (exported : exportRunArchive runId exportedAt store = (.ok archive, store')) :
    ArchiveRedacted archive := by
  have within := reached_within exportLimits_closed reached
  cases stored : store.repo.runs.get? runId with
  | none =>
    simp [exportRunArchive, bind_run, getRun_run, stored] at exported
  | some run =>
    rw [exportRunArchive_run stored] at exported
    obtain ⟨records, made, rfl⟩ := except_map_ok (Prod.mk.inj exported).1
    have checkpointIn : ∀ record ∈ store.checkpoints.get? runId,
        CheckpointWithin exportLimits record :=
      fun record found => within.checkpoints runId record found
    exact archive_clean (contentsOf_within within stored) checkpointIn made exportedAt

/-! A run whose only job fails. -/

def failingRun (errorSummary : String) : List Operation :=
  [ .createRun "Analyse" [] none "a" "t" 0,
    .enqueueWorkflowJob "run_a" "dynamic_analysis" [] 3 (some "job_j") .queued "f" 0,
    .claimWorkflowJob "job_j" "w1" none 0 0,
    .failWorkflowJob "job_j" errorSummary true (some "w1") 0]

def performAll (operations : List Operation) : RunStore :=
  operations.foldl (fun store operation => operation.perform store) .init

theorem performAll_reached {admitted : Operation → Prop} {operations : List Operation}
    (allowed : ∀ operation ∈ operations, admitted operation) :
    Reached admitted (performAll operations) := by
  have walk : ∀ {store : RunStore}, Reached admitted store → Reached admitted
      (operations.foldl (fun store operation => operation.perform store) store) := by
    induction operations with
    | nil => exact fun reached => reached
    | cons operation rest ih =>
      intro store reached
      have first := allowed operation List.mem_cons_self
      exact ih (fun other member => allowed other (List.mem_cons_of_mem operation member))
        (.step reached first)
  exact walk .init

/-- The error summaries of the jobs in an archive. -/
def jobSummaries (archive : PyDict) : List String :=
  match lookupEntries archive "workflow_jobs" with
  | some (.list records) => records.filterMap fun record =>
      match record with
      | .dict fields =>
          match lookupEntries fields "error_summary" with
          | some (.str summary) => some summary
          | _ => none
      | _ => none
  | _ => []

theorem failingRun_within {l : Limits} (closed : l.Closed) (always : ∀ time, l.time time)
    {errorSummary : String} (text : l.text errorSummary) (summary : l.summary errorSummary) :
    ∀ operation ∈ failingRun errorSummary, operation.Within l := by
  have plain : ∀ {text : String}, text.toList.all plainChar = true → l.text text :=
    fun all => closed.plain (List.all_eq_true.mp all)
  have worker : l.text "w1" := plain (by decide)
  intro operation member
  simp only [failingRun, List.mem_cons, List.not_mem_nil, or_false] at member
  rcases member with rfl | rfl | rfl | rfl
  · exact ⟨plain (by decide), True.intro, plain (by decide), plain (by decide), always 0⟩
  · exact ⟨True.intro, always 0⟩
  · exact ⟨worker, always 0, always 0⟩
  · exact ⟨text, summary, fun other member => Option.mem_some.mp member ▸ worker, always 0⟩

omit [PyRuntime] in
theorem failing_export_is_redacted :
    let _ := plainRuntime
    ∃ archive, (exportRunArchive "run_a" 0 (performAll (failingRun "out_of_memory"))).1 =
      .ok archive ∧ ArchiveRedacted archive := by
  intro _
  have exports : (exportRunArchive "run_a" 0
      (performAll (failingRun "out_of_memory"))).1.toOption.isSome = true := by decide +kernel
  have fixed : redactText "out_of_memory" = .ok "out_of_memory" :=
    redactText_plain (List.all_eq_true.mp (by decide))
  have allowed := failingRun_within exportLimits_closed (fun _ => True.intro)
    (settles_fixed fixed) fixed
  cases exported : exportRunArchive "run_a" 0 (performAll (failingRun "out_of_memory")) with
  | mk answer store' =>
    rw [exported] at exports
    cases answer with
    | error e => simp [Except.toOption] at exports
    | ok archive => exact ⟨archive, rfl, exported_is_redacted (performAll_reached allowed) exported⟩

/-- The operations whose texts and uris settle, whatever summaries they store. -/
def settledLimits : Limits := { exportLimits with summary := fun _ => True }

omit [PyRuntime] in
/-- A secret in the error summary of a failed job is exported. -/
theorem failed_job_leaks :
    let _ := plainRuntime
    ∃ store, Reached (Operation.Within settledLimits) store ∧
      ∃ archive, (exportRunArchive "run_a" 0 store).1 = .ok archive ∧ ¬ ArchiveRedacted archive := by
  intro _
  have leaks : (exportRunArchive "run_a" 0 (performAll (failingRun "token=abc"))).1.toOption.map
      jobSummaries = some ["token=abc"] := by decide +kernel
  have settles : Settles redactText "token=abc" :=
    ⟨"token=[REDACTED]", by decide +kernel, by decide +kernel⟩
  have closed : (settledLimits).Closed :=
    { exportLimits_closed with
      summary := fun _ _ => True.intro
      timeoutSummary := fun _ => True.intro }
  have allowed := failingRun_within closed (fun _ => True.intro) settles True.intro
  refine ⟨_, performAll_reached allowed, ?_⟩
  cases answer : (exportRunArchive "run_a" 0 (performAll (failingRun "token=abc"))).1 with
  | error e => simp [answer, Except.toOption] at leaks
  | ok archive =>
    refine ⟨archive, rfl, ?_⟩
    intro clean
    obtain ⟨records, listed, each⟩ := clean.workflowJobs
    have summaries : "token=abc" ∈ jobSummaries archive := by
      simp only [answer, Except.toOption, Option.map_some, Option.some.injEq] at leaks
      simp [leaks]
    simp only [jobSummaries, listed, List.mem_filterMap, List.mem_map] at summaries
    obtain ⟨value, ⟨record, member, rfl⟩, found⟩ := summaries
    obtain ⟨summary, filed, fixed⟩ := (each record member).2
    simp only [filed] at found
    split at found
    · rename_i text filedText
      rw [Option.some.inj filedText, Option.some.inj found] at fixed
      have changed : redactText "token=abc" = .ok "token=[REDACTED]" := by decide +kernel
      simp [redactValue, redactValueAt, changed, Except.map] at fixed
    · cases found

end exports
end RunArchive
