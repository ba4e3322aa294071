import AeaiOs.AiReview
import AeaiOs.MonitorSchedule
import AeaiOs.RunModels

/-!
The execution of a claimed monitor: a deterministic check of its source, the alerts that the
check raises, and the optional review of the alerts by a model.
-/
namespace MonitorEngine
open OrderedDict CivilTime StoreAction Action RunValues RunModels AiReview
open MonitorStore (Monitor MonitorRun MonitoringAlert Claimed Store Finish DispatchStatus)

structure Source where
  id : String
  name : String
  datasetUri : String
  sourceType : String
  datasetMetadata : PyDict

/-- What the engine calls: the registry of data sources, the files, the run repository with the
    workflow, the artifact store, the clock, and the identifiers that are drawn. -/
structure Engine (W : Type) where
  downloadS3Snapshot : String → Action W PyException Source
  validateForExecution : String → String → String → Action W PyException Source
  fingerprintSource : Source → Action W PyException String
  createRun : String → PyDict → Action W PyException String
  addArtifact : String → Source → Action W PyException Unit
  executeFn : String → Action W PyException Unit
  getRunStatus : String → Action W PyException RunStatus
  listArtifacts : String → Action W PyException (List ArtifactRecord)
  readJson : String → Action W PyException PyValue
  utcnow : W → Time × W
  uuid4 : W → String × W
  /-- `round(number, digits)` -/
  round : Rat → Nat → Rat

/-- The review's settings and surroundings as the world has them, and the world after it. -/
structure Ai (W : Type) where
  host : W → Host
  after : W → W

/-! Metrics and thresholds. -/

abbrev Metrics := List (String × Rat)

/-- `_num`: a truth value is no number. -/
def num : PyValue → Option Rat
  | .int n => some n
  | .float q => some q
  | _ => none

def metricNames : List String :=
  ["total_spend", "anomaly_count", "high_risk_count", "row_count", "outlier_count", "completeness",
    "estimated_savings", "duplicate_row_count"]

def numAt (entries : PyDict) (key : String) : Option Rat := (lookupEntries entries key).bind num

def completenessOf (round : Rat → Nat → Rat) (quality : PyDict) : Option Rat := do
  let rows ← numAt quality "row_count"
  let columns ← numAt quality "column_count"
  let missing ← numAt quality "missing_cells"
  let cells := rows * columns
  if 0 < cells ∧ 0 ≤ missing ∧ missing ≤ cells then some (round (1 - missing / cells) 5) else none

def extractMetrics (round : Rat → Nat → Rat) (analysis : PyValue) (quality : Option PyValue) :
    Except PyException Metrics :=
  match analysis with
  | .dict entries =>
      match (lookupEntries entries "kpis").getD (.dict []) with
      | .dict kpis =>
          let result := metricNames.filterMap fun key =>
            (numAt kpis key).map fun value => (key, round value 5)
          if (lookupEntries result "completeness").isSome then .ok result
          else
            match quality with
            | some quality =>
                if quality.truthy then
                  match quality with
                  | .dict entries =>
                      match completenessOf round entries with
                      | some value => .ok (result ++ [("completeness", value)])
                      | none => .ok result
                  | _ => .error .attributeError
                else .ok result
            | none => .ok result
      | _ => .ok []
  | _ => .error .attributeError

structure AlertDraft where
  rule : String
  severity : String
  title : String
  description : String
  evidence : PyDict

def anomalyAlert (monitor : Monitor) (anomalies : Rat) : AlertDraft where
  rule := "anomalies"
  severity := if (monitor.anomalyLimit * 3 : Int) ≤ anomalies then "high" else "medium"
  title := "Transactions need review"
  description := "The saved analysis flagged transactions for manual verification."
  evidence := [("anomaly_count", .float anomalies), ("threshold", .int monitor.anomalyLimit)]

def completenessAlert (monitor : Monitor) (completeness : Rat) : AlertDraft where
  rule := "completeness"
  severity := "medium"
  title := "Dataset quality below target"
  description := "The calculated data completeness is below the configured threshold."
  evidence :=
    [("completeness", .float completeness), ("threshold", .float monitor.minimumCompleteness)]

def spendAlert (monitor : Monitor) (old new pct : Rat) : AlertDraft where
  rule := "spend_change"
  severity := if 50 ≤ |pct| then "high" else "medium"
  title := "Spending changed significantly"
  description := "Compare the two completed analyses to verify the change and its cause."
  evidence := [("previous_total", .float old), ("current_total", .float new),
    ("change_pct", .float pct), ("threshold_pct", .float monitor.spendChangePct)]

/-- `evaluate_thresholds`; `previous` are the metrics of the last completed dispatch. -/
def evaluateThresholds (round : Rat → Nat → Rat) (monitor : Monitor) (current : Metrics)
    (previous : Option PyDict) : List AlertDraft :=
  let anomalies :=
    match lookupEntries current "anomaly_count" with
    | some count => if (monitor.anomalyLimit : Rat) ≤ count then [anomalyAlert monitor count] else []
    | none => []
  let completeness :=
    match lookupEntries current "completeness" with
    | some part =>
        if part < monitor.minimumCompleteness then [completenessAlert monitor part] else []
    | none => []
  let spend :=
    match previous.bind (numAt · "total_spend"), lookupEntries current "total_spend" with
    | some old, some new =>
        if 0 < old then
          let pct := round (100 * (new - old) / old) 2
          if monitor.spendChangePct ≤ |pct| then [spendAlert monitor old new pct] else []
        else []
    | _, _ => []
  anomalies ++ completeness ++ spend

/-! The claim. -/

/-- The stores, and the local variables that the handler of an exception reads. -/
structure Progress (W : Type) where
  store : Store
  world : W
  runId : Option String := none
  fingerprint : Option String := none

section engine
variable {W : Type} (engine : Engine W)

abbrev EngineM (W : Type) := Action (Progress W) PyException

def outside {α : Type} (action : Action W PyException α) : EngineM W α := fun p =>
  let (result, world) := action p.world
  (result, { p with world })

def clipped (text : String) (length : Nat) : String := String.ofList (text.toList.take length)

/-- `create_alert`: the second alert of a rule for a dispatch is ignored. -/
def createAlert (claim : Claimed) (runId : Option String) (draft : AlertDraft) : EngineM W Unit :=
  fun p =>
    let (now, world) := engine.utcnow p.world
    let (uuid, world) := engine.uuid4 world
    let row : MonitoringAlert := {
      id := "alert_" ++ uuid
      monitorId := claim.monitor.id
      organizationId := claim.monitor.organizationId
      workspaceId := claim.monitor.workspaceId
      dispatchId := claim.dispatchId
      runId := runId
      rule := draft.rule
      severity := draft.severity
      title := clipped draft.title 160
      description := clipped draft.description 400
      evidence := draft.evidence
      createdAt := isoformat now
      updatedAt := isoformat now }
    let known := p.store.alerts.any fun alert =>
      alert.monitorId = row.monitorId && alert.dispatchId = row.dispatchId && alert.rule = row.rule
    let alerts := if known then p.store.alerts else p.store.alerts ++ [row]
    (.ok (), { p with store := { p.store with alerts }, world })

def createAlerts (claim : Claimed) (runId : Option String) : List AlertDraft → EngineM W Unit
  | [] => return ()
  | draft :: rest => do
      createAlert engine claim runId draft
      createAlerts claim runId rest

/-- `store.finish(monitor, ...)` -/
def finishClaim (claim : Claimed) (status : DispatchStatus) (fingerprint runId : Option String)
    (metrics : Metrics) (aiReview : PyDict) (error : Option String) : EngineM W Unit := fun p =>
  let (now, world) := engine.utcnow p.world
  let finish : Finish := {
    now, monitorId := claim.monitor.id, dispatchId := claim.dispatchId, status, fingerprint, runId
    metrics := metrics.map fun entry => (entry.1, .float entry.2)
    aiReview, error }
  (.ok (), { p with
    store := MonitorStore.finishMonitor finish (MonitorStore.finishRun finish p.store), world })

/-- The last artifact of a type that an agent has written as JSON. -/
def jsonArtifact (type : ArtifactType) (source : String) (artifacts : List ArtifactRecord) :
    Option ArtifactRecord :=
  artifacts.reverse.find? fun artifact =>
    artifact.type = type &&
      (match lookupEntries artifact.metadata "source" with
        | some (.str text) => text = source
        | _ => false) &&
      (match lookupEntries artifact.metadata "format" with
        | some (.str text) => text = "json"
        | _ => false)

def runMetadata (claim : Claimed) (source : Source) : PyDict :=
  [("organization_id", .str claim.monitor.organizationId),
    ("workspace_id", .str claim.monitor.workspaceId), ("monitor_id", .str claim.monitor.id),
    ("scheduled", .bool true), ("data_source_id", .str source.id),
    ("data_source_name", .str source.name), ("data_source_type", .str source.sourceType)]

/-- The quality report, where the run has one. -/
def readQuality (artifacts : List ArtifactRecord) : EngineM W (Option PyValue) :=
  match jsonArtifact .qualityReport "data_retrieval_agent" artifacts with
  | some artifact => some <$> outside (engine.readJson artifact.uri)
  | none => return none

/-- The completed investigation's metrics. -/
def investigate (runId : String) : EngineM W Metrics := do
  let status ← outside (engine.getRunStatus runId)
  if status ≠ .completed then raise (.other "RuntimeError")
  else
    let artifacts ← outside (engine.listArtifacts runId)
    match jsonArtifact .kpiTable "analytics_code_agent" artifacts with
    | none => raise (.other "RuntimeError")
    | some sourceArtifact =>
        let analysis ← outside (engine.readJson sourceArtifact.uri)
        let artifacts ← outside (engine.listArtifacts runId)
        let quality ← readQuality engine artifacts
        let metrics ← ofExcept (extractMetrics engine.round analysis quality)
        if metrics.isEmpty then raise (.other "RuntimeError") else return metrics

def resolveSource (monitor : Monitor) : EngineM W Source :=
  if monitor.sourceId.startsWith "s3://" then outside (engine.downloadS3Snapshot monitor.sourceId)
  else outside (engine.validateForExecution monitor.sourceId monitor.organizationId
    monitor.workspaceId)

/-- `execute_claim` up to the alerts of its check; `none` is an unchanged source. -/
def assess (claim : Claimed) : EngineM W (Option (String × String × Metrics × List AlertDraft)) := do
  let source ← resolveSource engine claim.monitor
  let fingerprint ← outside (engine.fingerprintSource source)
  change fun p => { p with fingerprint := some fingerprint }
  if claim.monitor.onlyOnChange && !claim.monitor.forceOnce &&
      claim.monitor.lastFingerprint = some fingerprint then
    return none
  else
    let p ← read
    let previous := MonitorStore.lastCompleted claim.monitor.id p.store
    let runId ← outside (engine.createRun claim.monitor.task (runMetadata claim source))
    change fun p => { p with runId := some runId }
    outside (engine.addArtifact runId source)
    outside (engine.executeFn runId)
    let metrics ← investigate engine runId
    let alerts :=
      evaluateThresholds engine.round claim.monitor metrics (previous.map MonitorRun.metrics)
    createAlerts engine claim (some runId) alerts
    return some (fingerprint, runId, metrics, alerts)

def failureAlert (error : String) : AlertDraft where
  rule := "execution_failure"
  severity := "high"
  title := "Scheduled investigation could not complete"
  description := "Check the monitoring worker logs and the registered data source."
  evidence := [("error_type", .str error)]

/-! What a dispatch records. -/

structure RecordedAlert where
  rule : String
  severity : String
  title : String
  description : String
  evidence : PyDict
  runId : Option String

structure RecordedRun where
  status : DispatchStatus
  runId : Option String
  metrics : PyDict
  fingerprint : Option String

def recordedRun (run : MonitorRun) : RecordedRun :=
  ⟨run.status, run.runId, run.metrics, run.fingerprint⟩

def recordedAlert (alert : MonitoringAlert) : RecordedAlert :=
  ⟨alert.rule, alert.severity, alert.title, alert.description, alert.evidence, alert.runId⟩

/-- The status, run id, metrics and fingerprint of the dispatch, and its alerts. -/
def recorded (dispatchId : String) (store : Store) : List RecordedRun × List RecordedAlert :=
  ((store.monitorRuns.filter fun run => run.id = dispatchId).map recordedRun,
    (store.alerts.filter fun alert => alert.dispatchId = dispatchId).map recordedAlert)

/-- The same claim with AI escalation off. -/
def silent (claim : Claimed) : Claimed :=
  { claim with monitor := { claim.monitor with aiEscalation := false } }

theorem finishClaim_silent (claim : Claimed) :
    finishClaim engine (silent claim) = finishClaim engine claim := rfl

theorem createAlert_silent (claim : Claimed) :
    createAlert engine (silent claim) = createAlert engine claim := rfl

theorem createAlerts_silent (claim : Claimed) (runId : Option String) (drafts : List AlertDraft) :
    createAlerts engine (silent claim) runId drafts = createAlerts engine claim runId drafts := by
  induction drafts with
  | nil => rfl
  | cons draft rest ih => unfold createAlerts; rw [createAlert_silent, ih]

theorem runMetadata_silent (claim : Claimed) : runMetadata (silent claim) = runMetadata claim := rfl

theorem resolveSource_silent (claim : Claimed) :
    resolveSource engine (silent claim).monitor = resolveSource engine claim.monitor := rfl

theorem evaluateThresholds_silent (round : Rat → Nat → Rat) (claim : Claimed) (current : Metrics)
    (previous : Option PyDict) :
    evaluateThresholds round (silent claim).monitor current previous =
      evaluateThresholds round claim.monitor current previous := rfl

/-- The check does not look at the escalation. -/
theorem assess_silent (claim : Claimed) : assess engine (silent claim) = assess engine claim := by
  unfold assess
  simp only [resolveSource_silent, runMetadata_silent, evaluateThresholds_silent,
    createAlerts_silent]
  rfl

def SameRuns (p q : Progress W) : Prop := q.store.monitorRuns = p.store.monitorRuns

theorem sameRuns_refl (p : Progress W) : SameRuns p p := rfl

theorem sameRuns_trans (p q r : Progress W) (first : SameRuns p q) (second : SameRuns q r) :
    SameRuns p r := second.trans first

theorem outside_keeps {α : Type} (action : Action W PyException α) :
    Keeps SameRuns (outside action) := fun _ => rfl

theorem createAlerts_keeps (claim : Claimed) (runId : Option String) (drafts : List AlertDraft) :
    Keeps SameRuns (createAlerts engine claim runId drafts) := by
  induction drafts with
  | nil => exact keeps_pure sameRuns_refl ()
  | cons draft rest ih => exact keeps_bind sameRuns_trans (fun _ => rfl) fun _ => ih

theorem readQuality_keeps (artifacts : List ArtifactRecord) :
    Keeps SameRuns (readQuality engine artifacts) := by
  unfold readQuality
  split
  · exact keeps_bind sameRuns_trans (outside_keeps _) fun _ => keeps_pure sameRuns_refl _
  · exact keeps_pure sameRuns_refl _

theorem investigate_keeps (runId : String) : Keeps SameRuns (investigate engine runId) := by
  unfold investigate
  refine keeps_bind sameRuns_trans (outside_keeps _) fun status => ?_
  split
  · exact keeps_raise sameRuns_refl _
  refine keeps_bind sameRuns_trans (outside_keeps _) fun artifacts => ?_
  split
  · exact keeps_raise sameRuns_refl _
  refine keeps_bind sameRuns_trans (outside_keeps _) fun analysis => ?_
  refine keeps_bind sameRuns_trans (outside_keeps _) fun artifacts => ?_
  refine keeps_bind sameRuns_trans (readQuality_keeps engine artifacts) fun quality => ?_
  refine keeps_bind sameRuns_trans (keeps_ofExcept sameRuns_refl _) fun metrics => ?_
  split
  · exact keeps_raise sameRuns_refl _
  · exact keeps_pure sameRuns_refl _

theorem resolveSource_keeps (monitor : Monitor) : Keeps SameRuns (resolveSource engine monitor) := by
  unfold resolveSource
  split <;> exact outside_keeps _

/-- The check writes alerts only. -/
theorem assess_keeps (claim : Claimed) : Keeps SameRuns (assess engine claim) := by
  unfold assess
  refine keeps_bind sameRuns_trans (resolveSource_keeps engine _) fun source => ?_
  refine keeps_bind sameRuns_trans (outside_keeps _) fun fingerprint => ?_
  refine keeps_bind sameRuns_trans (fun _ => rfl) fun _ => ?_
  split
  · exact keeps_pure sameRuns_refl _
  refine keeps_bind sameRuns_trans (keeps_read sameRuns_refl) fun p => ?_
  refine keeps_bind sameRuns_trans (outside_keeps _) fun runId => ?_
  refine keeps_bind sameRuns_trans (fun _ => rfl) fun _ => ?_
  refine keeps_bind sameRuns_trans (outside_keeps _) fun _ => ?_
  refine keeps_bind sameRuns_trans (outside_keeps _) fun _ => ?_
  refine keeps_bind sameRuns_trans (investigate_keeps engine _) fun metrics => ?_
  refine keeps_bind sameRuns_trans (createAlerts_keeps engine claim _ _) fun _ => ?_
  exact keeps_pure sameRuns_refl _

/-! The end of the dispatch. -/

/-- What a dispatch records of its end: nothing of the clock, the review or the error. -/
def closedAs (status : DispatchStatus) (fingerprint runId : Option String) (metrics : Metrics)
    (run : MonitorRun) : RecordedRun :=
  if run.status = .running then
    ⟨status, runId, metrics.map fun entry => (entry.1, .float entry.2), fingerprint⟩
  else recordedRun run

def runsOf (dispatchId : String) (store : Store) : List MonitorRun :=
  store.monitorRuns.filter fun run => run.id = dispatchId

theorem runsOf_finish {dispatchId : String} {finish : Finish} (own : finish.dispatchId = dispatchId)
    (store : Store) :
    runsOf dispatchId (MonitorStore.finishMonitor finish (MonitorStore.finishRun finish store)) =
      (runsOf dispatchId store).map fun run =>
        if run.status = .running then finish.close run else run := by
  unfold runsOf MonitorStore.finishMonitor MonitorStore.finishRun MonitorStore.updateRows
  simp only [List.filter_map]
  have sameRows : ((fun run : MonitorRun => decide (run.id = dispatchId)) ∘ fun run =>
      if MonitorStore.selectsDispatch finish run then finish.close run else run) =
      fun run => decide (run.id = dispatchId) := by
    funext run
    simp only [Function.comp_apply]
    split
    · rfl
    · rfl
  rw [sameRows]
  apply List.map_congr_left
  intro run member
  have ownRun := of_decide_eq_true (List.mem_filter.mp member).2
  simp only [MonitorStore.selectsDispatch, ownRun, own, decide_true, Bool.true_and,
    decide_eq_true_eq]

theorem recordedRuns_finishClaim (claim : Claimed) (status : DispatchStatus)
    (fingerprint runId : Option String) (metrics : Metrics) (review : PyDict)
    (error : Option String) (p : Progress W) :
    (recorded claim.dispatchId
        (finishClaim engine claim status fingerprint runId metrics review error p).2.store).1 =
      (runsOf claim.dispatchId p.store).map (closedAs status fingerprint runId metrics) := by
  have closed : ∀ finish : Finish, finish.dispatchId = claim.dispatchId → _ :=
    fun finish own => runsOf_finish own p.store
  change (runsOf _ _).map recordedRun = _
  unfold finishClaim
  dsimp only
  rw [closed _ rfl, List.map_map]
  apply List.map_congr_left
  intro run _
  simp only [Function.comp_apply, closedAs]
  split
  · rfl
  · rfl

theorem recordedAlerts_finishClaim (claim : Claimed) (status : DispatchStatus)
    (fingerprint runId : Option String) (metrics : Metrics) (review : PyDict)
    (error : Option String) (p : Progress W) :
    (recorded claim.dispatchId
        (finishClaim engine claim status fingerprint runId metrics review error p).2.store).2 =
      (recorded claim.dispatchId p.store).2 := rfl

/-- The records of a dispatch after its end depend on neither the review nor the clock. -/
theorem recorded_finishClaim (claim : Claimed) (status : DispatchStatus)
    (fingerprint runId : Option String) (metrics : Metrics) (first second : PyDict)
    (error : Option String) {p q : Progress W} (same : p.store = q.store) :
    recorded claim.dispatchId
        (finishClaim engine claim status fingerprint runId metrics first error p).2.store =
      recorded claim.dispatchId
        (finishClaim engine claim status fingerprint runId metrics second error q).2.store := by
  apply Prod.ext
  · rw [recordedRuns_finishClaim, recordedRuns_finishClaim, same]
  · rw [recordedAlerts_finishClaim, recordedAlerts_finishClaim, same]

theorem recordedRuns_createAlert (claim : Claimed) (runId : Option String) (draft : AlertDraft)
    (p : Progress W) :
    (recorded claim.dispatchId (createAlert engine claim runId draft p).2.store).1 =
      (recorded claim.dispatchId p.store).1 := rfl

theorem completed_ne_failed {first second : DispatchStatus} (differ : first ≠ second)
    {fingerprint runId fingerprint' runId' : Option String} {metrics metrics' : Metrics}
    {dispatchId : String} {store : Store}
    (claimed : ∃ run ∈ store.monitorRuns, run.id = dispatchId ∧ run.status = .running) :
    (runsOf dispatchId store).map (closedAs first fingerprint runId metrics) ≠
      (runsOf dispatchId store).map (closedAs second fingerprint' runId' metrics') := by
  intro same
  obtain ⟨run, stored, own, running⟩ := claimed
  have member : run ∈ runsOf dispatchId store := List.mem_filter.mpr ⟨stored, decide_eq_true own⟩
  have here := List.map_inj_left.mp same run member
  unfold closedAs at here
  rw [if_pos running, if_pos running] at here
  exact differ (congrArg RecordedRun.status here)

end engine

section review
variable {W : Type} [JsonRuntime] [PyText.UnicodeDatabase] (engine : Engine W) (ai : Ai W)

/-- `optional_ai_review` in the world that it is called in. -/
def reviewAlerts (claim : Claimed) (alerts : List AlertDraft) : EngineM W PyDict := fun p =>
  let asked := !alerts.isEmpty && claim.monitor.aiEscalation
  (optionalAiReview (ai.host p.world) (!alerts.isEmpty) claim.monitor.aiEscalation,
    if asked then { p with world := ai.after p.world } else p)

def attempt (claim : Claimed) : EngineM W Unit := do
  match ← assess engine claim with
  | none =>
      let p ← read
      finishClaim engine claim .skipped p.fingerprint none [] [] none
  | some (fingerprint, runId, metrics, alerts) =>
      let aiReview ← reviewAlerts ai claim alerts
      finishClaim engine claim .completed (some fingerprint) (some runId) metrics aiReview none

def executeClaim (claim : Claimed) (p : Progress W) : Progress W :=
  match attempt engine ai claim p with
  | (.ok _, p) => p
  | (.error e, p) =>
      let failed : EngineM W Unit := do
        finishClaim engine claim .failed p.fingerprint p.runId [] []
          (some s!"Scheduled check failed ({e.typeName}). Review backend logs.")
        createAlert engine claim p.runId (failureAlert e.typeName)
      (failed p).2

/-! The review of a claim. -/

/-- The check of this claim ends in alerts whose review raises. -/
def ReviewEscapes (claim : Claimed) (p : Progress W) : Prop :=
  ∃ fingerprint runId metrics alerts q,
    assess engine claim p = (.ok (some (fingerprint, runId, metrics, alerts)), q) ∧
      alerts ≠ [] ∧ claim.monitor.aiEscalation = true ∧ Escapes (ai.host q.world)

theorem optionalAiReview_off (host : Host) (anyAlerts : Bool) :
    optionalAiReview host anyAlerts false = .ok [] := by
  unfold optionalAiReview
  rw [Bool.and_false]
  rfl

theorem reviewAlerts_store (claim : Claimed) (alerts : List AlertDraft) (p : Progress W) :
    (reviewAlerts ai claim alerts p).2.store = p.store := by
  unfold reviewAlerts
  dsimp only
  split <;> rfl

/-- A check that raises or finds nothing new ends without a review. -/
theorem executeClaim_unreviewed {claim : Claimed} {p : Progress W}
    (unreviewed : ∀ found, (assess engine claim p).1 ≠ .ok (some found)) :
    executeClaim engine ai (silent claim) p = executeClaim engine ai claim p := by
  have attempted : attempt engine ai (silent claim) p = attempt engine ai claim p := by
    unfold attempt
    rw [assess_silent, bind_run, bind_run]
    rcases result : assess engine claim p with ⟨answer, q⟩
    rw [result] at unreviewed
    rcases answer with e | found
    · rfl
    cases found with
    | none => simp only [finishClaim_silent]
    | some found => exact absurd rfl (unreviewed found)
  unfold executeClaim
  rw [attempted]
  simp only [finishClaim_silent, createAlert_silent]

section reviewed
variable {claim : Claimed} {p q : Progress W} {fingerprint runId : String} {metrics : Metrics}
  {alerts : List AlertDraft}
  (found : assess engine claim p = (.ok (some (fingerprint, runId, metrics, alerts)), q))
include found

theorem attempt_reviewed {review : PyDict}
    (answered : optionalAiReview (ai.host q.world) (!alerts.isEmpty) claim.monitor.aiEscalation =
      .ok review) :
    ∃ q', q'.store = q.store ∧ executeClaim engine ai claim p =
      (finishClaim engine claim .completed (some fingerprint) (some runId) metrics review none
        q').2 := by
  refine ⟨(reviewAlerts ai claim alerts q).2, reviewAlerts_store ai claim alerts q, ?_⟩
  have reviewed : reviewAlerts ai claim alerts q = (.ok review, (reviewAlerts ai claim alerts q).2) :=
    Prod.ext answered rfl
  have attempted : attempt engine ai claim p =
      finishClaim engine claim .completed (some fingerprint) (some runId) metrics review none
        (reviewAlerts ai claim alerts q).2 :=
    (bind_of_ok found).trans (bind_of_ok reviewed)
  unfold executeClaim
  rw [attempted]
  rfl

theorem attempt_escaped {e : PyException}
    (raised : optionalAiReview (ai.host q.world) (!alerts.isEmpty) claim.monitor.aiEscalation =
      .error e) :
    ∃ q', q'.store = q.store ∧ ∃ fingerprint runId error,
      (recorded claim.dispatchId (executeClaim engine ai claim p).store).1 =
        (recorded claim.dispatchId
          (finishClaim engine claim .failed fingerprint runId [] [] error q').2.store).1 := by
  obtain ⟨q', after⟩ : ∃ q', (reviewAlerts ai claim alerts q).2 = q' := ⟨_, rfl⟩
  have reviewed : reviewAlerts ai claim alerts q = (.error e, q') := Prod.ext raised after
  have attempted : attempt engine ai claim p = (.error e, q') :=
    (bind_of_ok found).trans (bind_of_error reviewed)
  have same : q'.store = q.store := by
    rw [← after]
    exact reviewAlerts_store ai claim alerts q
  refine ⟨q', same, q'.fingerprint, q'.runId,
    some s!"Scheduled check failed ({e.typeName}). Review backend logs.", ?_⟩
  unfold executeClaim
  rw [attempted]
  exact recordedRuns_createAlert engine claim _ _ _

/-- Without escalation the dispatch is completed. -/
theorem executeClaim_silent :
    executeClaim engine ai (silent claim) p =
      (finishClaim engine claim .completed (some fingerprint) (some runId) metrics [] none q).2 := by
  have off : (silent claim).monitor.aiEscalation = false := rfl
  have reviewed : reviewAlerts ai (silent claim) alerts q = (.ok [], q) := by
    unfold reviewAlerts
    rw [off, optionalAiReview_off, Bool.and_false]
    rfl
  have attempted : attempt engine ai (silent claim) p =
      finishClaim engine (silent claim) .completed (some fingerprint) (some runId) metrics [] none q :=
    (bind_of_ok (by rw [assess_silent]; exact found)).trans (bind_of_ok reviewed)
  unfold executeClaim
  rw [attempted, finishClaim_silent]
  rfl

end reviewed

end review

/-! A dispatch whose review is refused its budget. -/

section budget

def auditMonitor : Monitor where
  id := "mon_1"
  organizationId := "acme"
  workspaceId := "default"
  name := "Daily audit"
  task := "Audit the ledger"
  sourceId := "ledger"
  interval := "daily"
  aiEscalation := true
  nextDueAt := ""
  createdAt := ""
  updatedAt := ""

def auditClaim : Claimed := ⟨auditMonitor, "dispatch_1"⟩

/-- The claim has just been made. -/
def audit : Progress Unit where
  store := { monitorRuns := [{
    id := "dispatch_1", monitorId := "mon_1", organizationId := "acme", workspaceId := "default",
    startedAt := "" }] }
  world := ()

def auditAnalysis : ArtifactRecord where
  id := "artifact_1"
  runId := "run_1"
  type := .kpiTable
  uri := "analysis.json"
  metadata := [("source", .str "analytics_code_agent"), ("format", .str "json")]
  sourceArtifactIds := []
  createdAt := 0

/-- An investigation that finds three anomalies. -/
def auditEngine : Engine Unit where
  downloadS3Snapshot _ := raise .valueError
  validateForExecution id _ _ := return ⟨id, "Ledger", "ledger.csv", "local_file", []⟩
  fingerprintSource _ := return "f1"
  createRun _ _ := return "run_1"
  addArtifact _ _ := return ()
  executeFn _ := return ()
  getRunStatus _ := return .completed
  listArtifacts _ := return [auditAnalysis]
  readJson _ := return .dict [("kpis", .dict [("anomaly_count", .int 3)])]
  utcnow _ := (0, ())
  uuid4 _ := ("1", ())
  round q _ := q

/-- Settings with no money for the month. -/
def unfundedSettings : Settings where
  llmApiKey := "key"
  llmProvider := "huggingface"
  llmModel := "model"
  llmWorkflowBudgetUsd := 1 / 20
  llmMonthlyBudgetUsd := 0
  llmMaxCallsPerRun := 4
  llmMaxOutputTokens := 800
  llmInputUsdPerMillion := 1
  llmOutputUsdPerMillion := 1
  llmUsageLedgerPath := "ledger.jsonl"

def unfundedAi : Ai Unit where
  host _ := {
    escalationEnabled := some "true"
    settings := .ok unfundedSettings
    gateway := fun settings => .ok settings.llmModel
    estimate := fun _ => .ok (1 / 1000)
    month := "2026-01"
    ledger := .ok []
    exceeds := fun total estimate cap => cap < total + estimate
    append := .ok ()
    generate := .error .llmError
    ledgerLater := .ok []
    estimatedCost := .none }
  after w := w

/-- JSON texts that do not parse. -/
abbrev noJson : JsonRuntime where
  loads _ := .error .valueError
  toFloat _ := .error .typeError
  isDigit c := c.isDigit

end budget
end MonitorEngine
