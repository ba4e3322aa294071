import AeaiOs.Lib.HalfEven
import AeaiOs.RunRepository

/-! The metrics page in the exposition format of Prometheus. -/
namespace Metrics
open OrderedDict PyText CivilTime HalfEven RunModels InMemoryRunRepository

/-- The value of a sample: a count, or a number with six places. -/
inductive Value where
  | count (n : Int)
  | fixed (x : Rat)
  deriving DecidableEq, Repr

inductive Line where
  | help (name text : String)
  | type (name kind : String)
  | sample (name : String) (labels : List (String × String)) (value : Value)
  deriving DecidableEq, Repr

/-! The text of a line. -/

/-- `f"{x:.6f}"` -/
def sixPlaces (x : Rat) : String :=
  let units := halfEven (|x| * 1000000)
  let sign := if x < 0 then "-" else ""
  let whole := units / 1000000
  let rest := String.ofList (padded 6 (units % 1000000))
  s!"{sign}{whole}.{rest}"

def Value.text : Value → String
  | .count n => toString n
  | .fixed x => sixPlaces x

def escapeLabel (value : String) : String :=
  String.ofList
    (replace (replace (replace value.toList ['\\'] ['\\', '\\']) ['"'] ['\\', '"'])
      ['\n'] ['\\', 'n'])

def labelText (label : String × String) : String := label.1 ++ "=\"" ++ escapeLabel label.2 ++ "\""

def labelSuffix (labels : List (String × String)) : String :=
  if labels = [] then "" else "\x7b" ++ ",".intercalate (labels.map labelText) ++ "\x7d"

def Line.text : Line → String
  | .help name text => s!"# HELP {name} {text}"
  | .type name kind => s!"# TYPE {name} {kind}"
  | .sample name labels value => name ++ labelSuffix labels ++ " " ++ value.text

/-! Durations and histograms. -/

/-- `_duration_seconds` of two instants. -/
def durationSeconds (start stop : Time) : Rat := max (((stop - start : Int) : Rat) / 1000000) 0

def runDurationSeconds (run : RunRecord) : Rat := durationSeconds run.createdAt run.updatedAt

def workflowJobDurationSeconds (job : WorkflowJobRecord) : Rat :=
  durationSeconds (job.startedAt.getD job.createdAt) (job.finishedAt.getD job.updatedAt)

def nodeDurationSeconds (node : GraphNodeRecord) : Option Rat :=
  node.startedAt.map fun start => durationSeconds start (node.finishedAt.getD node.updatedAt)

def runDurationBuckets : List Rat := [1, 5, 15, 30, 60, 120, 300, 600, 1800]
def workflowJobDurationBuckets : List Rat := [1, 5, 15, 30, 60, 120, 300, 600]
def agentNodeDurationBuckets : List Rat := [1 / 10, 1 / 2, 1, 5 / 2, 5, 10, 30, 60, 120]

/-- `_format_number` of a number with at most one place. -/
def formatNumber (value : Rat) : String :=
  let tenths := (value * 10).floor
  if value.den = 1 then toString value.num
  else s!"{tenths / 10}.{tenths % 10}"

/-- `sum(1 for value in observations if value <= bucket)` -/
def countUpTo (observations : List Rat) (bucket : Rat) : Int :=
  (observations.filter (· ≤ bucket)).length

def bucketLine (name : String) (labels : List (String × String)) (le : String) (count : Int) : Line :=
  .sample (name ++ "_bucket") ((labels ++ [("le", le)]).mergeSort fun a b => decide (a.1 ≤ b.1))
    (.count count)

def bucketLines (name : String) (buckets : List Rat) (observations : List Rat)
    (labels : List (String × String)) : List Line :=
  (buckets.mergeSort fun a b => decide (a ≤ b)).map fun bucket =>
    bucketLine name labels (formatNumber bucket) (countUpTo observations bucket)

def histogramLines (name helpText : String) (buckets : List Rat) (observations : List Rat)
    (labels : List (String × String) := []) (includeHelp : Bool := true) : List Line :=
  (if includeHelp then [.help name helpText, .type name "histogram"] else []) ++
    bucketLines name buckets observations labels ++
    [bucketLine name labels "+Inf" observations.length,
      .sample (name ++ "_sum") labels (.fixed observations.sum),
      .sample (name ++ "_count") labels (.count observations.length)]

/-! The page. -/

section repository
variable (repo : Repo)

/-- `list_runs` -/
def listRuns : List RunRecord :=
  repo.runs.values.mergeSort fun a b => decide (a.createdAt ≤ b.createdAt)

def allArtifacts : List ArtifactRecord :=
  (listRuns repo).flatMap fun run => (repo.artifacts.get? run.id).getD []

def allEvaluations : List EvaluationResultRecord :=
  (listRuns repo).flatMap fun run => (repo.evaluations.get? run.id).getD []

def allEvents : List AgentEventRecord :=
  (listRuns repo).flatMap fun run => (repo.events.get? run.id).getD []

def allNodes : List GraphNodeRecord := (listRuns repo).flatMap fun run => repo.nodesOf run.id

def allJobs : List WorkflowJobRecord :=
  (listRuns repo).flatMap fun run => repo.jobsInOrder.filter fun job => job.runId = run.id

/-- The durations that `if duration := ...` keeps. -/
def nodeDurations (agentType : String) : List Rat :=
  (((allNodes repo).filter fun node => node.agentType = agentType).filterMap
    nodeDurationSeconds).filter (· ≠ 0)

def workflowJobDurations (workflowName : String) : List Rat :=
  (((allJobs repo).filter fun job => job.workflowName = workflowName).map
    workflowJobDurationSeconds).filter (· ≠ 0)

/-- The agents with durations, sorted. -/
def timedAgents : List String :=
  (((allNodes repo).map GraphNodeRecord.agentType).filter fun agent =>
    nodeDurations repo agent ≠ []).dedup.mergeSort fun a b => decide (a ≤ b)

def timedWorkflows : List String :=
  (((allJobs repo).map WorkflowJobRecord.workflowName).filter fun name =>
    workflowJobDurations repo name ≠ []).dedup.mergeSort fun a b => decide (a ≤ b)

def sortedPairs (pairs : List (String × String)) : List (String × String) :=
  pairs.dedup.mergeSort fun a b => decide (a.1 < b.1 ∨ a.1 = b.1 ∧ a.2 ≤ b.2)

def nodePair (node : GraphNodeRecord) : String × String := (node.agentType, node.status.value)

def jobPair (job : WorkflowJobRecord) : String × String := (job.workflowName, job.status.value)

def countPair {α : Type} (pairOf : α → String × String) (records : List α) (pair : String × String) :
    Int :=
  (records.filter fun record => pairOf record = pair).length

/-- `_workflow_label_pairs` -/
def workflowLabelPairs : List (String × String) :=
  sortedPairs ((allJobs repo).map jobPair ++
    WorkflowJobStatus.all.map fun status => ("procurement", status.value))

/-- `sum(scores) / len(scores) if scores else 0.0` -/
def averageScore (scores : List Rat) : Rat := if scores = [] then 0 else scores.sum / scores.length

def runLines : List Line :=
  [.help "aeai_runs_total" "Total number of runs tracked by the service.",
    .type "aeai_runs_total" "gauge",
    .sample "aeai_runs_total" [] (.count (listRuns repo).length),
    .help "aeai_runs_by_status" "Number of runs by lifecycle status.",
    .type "aeai_runs_by_status" "gauge"] ++
  RunStatus.all.map fun status =>
    .sample "aeai_runs_by_status" [("status", status.value)]
      (.count ((listRuns repo).filter fun run => run.status = status).length)

def artifactLines : List Line :=
  [.help "aeai_run_errors_total" "Failed runs plus explicit agent error events.",
    .type "aeai_run_errors_total" "counter",
    .sample "aeai_run_errors_total" []
      (.count (((listRuns repo).filter fun run => run.status = .failed).length +
        ((allEvents repo).filter fun event => event.eventType = "error").length)),
    .help "aeai_artifacts_total" "Total artifacts produced or attached to runs.",
    .type "aeai_artifacts_total" "gauge",
    .sample "aeai_artifacts_total" [] (.count (allArtifacts repo).length),
    .help "aeai_artifacts_by_type" "Artifacts produced or attached by artifact type.",
    .type "aeai_artifacts_by_type" "gauge"] ++
  ArtifactType.all.map fun artifactType =>
    .sample "aeai_artifacts_by_type" [("type", artifactType.value)]
      (.count ((allArtifacts repo).filter fun artifact => artifact.type = artifactType).length)

def evaluationLines : List Line :=
  let evaluations := allEvaluations repo
  let scores := evaluations.map EvaluationResultRecord.score
  [.help "aeai_evaluations_total" "Total evaluation records stored for runs.",
    .type "aeai_evaluations_total" "gauge",
    .sample "aeai_evaluations_total" [] (.count evaluations.length),
    .help "aeai_evaluations_by_result" "Evaluation records by pass/fail result.",
    .type "aeai_evaluations_by_result" "gauge",
    .sample "aeai_evaluations_by_result" [("result", "passed")]
      (.count (evaluations.filter fun evaluation => evaluation.passed).length),
    .sample "aeai_evaluations_by_result" [("result", "failed")]
      (.count (evaluations.filter fun evaluation => !evaluation.passed).length),
    .help "aeai_evaluation_score_average" "Average score across stored evaluations.",
    .type "aeai_evaluation_score_average" "gauge",
    .sample "aeai_evaluation_score_average" [] (.fixed (averageScore scores)),
    .help "aeai_evaluation_score" "Observed evaluation scores.",
    .type "aeai_evaluation_score" "gauge",
    .sample "aeai_evaluation_score" [] (.fixed (scores.getLast?.getD 0))]

/-- The retries, and the sum and the count of the durations of the runs as counters of their
    own. -/
def counterLines : List Line :=
  let runDurations := (listRuns repo).map runDurationSeconds
  [.help "aeai_node_retries_total" "Total graph node retry attempts.",
    .type "aeai_node_retries_total" "counter",
    .sample "aeai_node_retries_total" []
      (.count (((allNodes repo).map GraphNodeRecord.retryCount).sum : Nat)),
    .help "aeai_run_duration_seconds_sum" "Sum of observed run lifecycle durations.",
    .type "aeai_run_duration_seconds_sum" "counter",
    .sample "aeai_run_duration_seconds_sum" [] (.fixed runDurations.sum),
    .help "aeai_run_duration_seconds_count" "Number of run durations observed.",
    .type "aeai_run_duration_seconds_count" "counter",
    .sample "aeai_run_duration_seconds_count" [] (.count (listRuns repo).length),
    .help "aeai_agent_node_executions_total" "Graph nodes by agent and current status.",
    .type "aeai_agent_node_executions_total" "gauge"]

def executionLines : List Line :=
  (sortedPairs ((allNodes repo).map nodePair)).map fun pair =>
    .sample "aeai_agent_node_executions_total" [("agent", pair.1), ("status", pair.2)]
      (.count (countPair nodePair (allNodes repo) pair))

def runHistogram : List Line :=
  histogramLines "aeai_run_duration_seconds" "Observed run lifecycle durations."
    runDurationBuckets ((listRuns repo).map runDurationSeconds)

def workflowLines : List Line :=
  [.help "aeai_workflow_jobs_total" "Workflow jobs by workflow and status.",
    .type "aeai_workflow_jobs_total" "gauge"] ++
  ((workflowLabelPairs repo).map fun pair =>
    .sample "aeai_workflow_jobs_total" [("workflow", pair.1), ("status", pair.2)]
      (.count (countPair jobPair (allJobs repo) pair))) ++
  [.help "aeai_workflow_job_attempts_total" "Total workflow job attempts.",
    .type "aeai_workflow_job_attempts_total" "counter",
    .sample "aeai_workflow_job_attempts_total" []
      (.count ((allJobs repo).map WorkflowJobRecord.attemptCount).sum)]

def workflowHistograms : List Line :=
  (timedWorkflows repo).flatMap fun workflowName =>
    histogramLines "aeai_workflow_job_duration_seconds" "Observed workflow job processing durations."
      workflowJobDurationBuckets (workflowJobDurations repo workflowName)
      [("workflow", workflowName)] ((timedWorkflows repo).head? = some workflowName)

def agentHistograms : List Line :=
  (timedAgents repo).flatMap fun agentType =>
    histogramLines "aeai_agent_node_duration_seconds"
      "Observed graph node execution durations by agent."
      agentNodeDurationBuckets (nodeDurations repo agentType)
      [("agent", agentType)] ((timedAgents repo).head? = some agentType)

def pageLines : List Line :=
  runLines repo ++ artifactLines repo ++ evaluationLines repo ++ counterLines repo ++
    executionLines repo ++ runHistogram repo ++ workflowLines repo ++ workflowHistograms repo ++
    agentHistograms repo

/-- `render_prometheus_metrics` -/
def renderPrometheusMetrics : String :=
  "\n".intercalate ((pageLines repo).map Line.text) ++ "\n"

end repository
/-! The buckets of one histogram. -/

theorem countUpTo_mono (observations : List Rat) {a b : Rat} (le : a ≤ b) :
    countUpTo observations a ≤ countUpTo observations b := by
  unfold countUpTo
  induction observations with
  | nil => simp
  | cons x observations ih =>
    rw [List.filter_cons, List.filter_cons]
    by_cases low : x ≤ a
    · have high : x ≤ b := le_trans low le
      simp only [low, high, decide_true, if_true, List.length_cons]
      omega
    · by_cases high : x ≤ b
      · simp only [low, high, decide_true, decide_false, Bool.false_eq_true, if_true, if_false,
          List.length_cons]
        omega
      · simp only [low, high, decide_false, Bool.false_eq_true, if_false]
        exact ih

theorem countUpTo_le (observations : List Rat) (bucket : Rat) :
    countUpTo observations bucket ≤ observations.length := by
  have short := List.length_filter_le (fun x => decide (x ≤ bucket)) observations
  unfold countUpTo
  omega

def Line.count : Line → Option Int
  | .sample _ _ (.count n) => some n
  | _ => none

/-- The buckets of a histogram do not decrease, up to the number of its observations. -/
theorem buckets_cumulative (name : String) (buckets observations : List Rat)
    (labels : List (String × String)) :
    (((bucketLines name buckets observations labels).filterMap Line.count) ++
      [(observations.length : Int)]).Pairwise (· ≤ ·) := by
  have counts : (bucketLines name buckets observations labels).filterMap Line.count =
      (buckets.mergeSort fun a b => decide (a ≤ b)).map (countUpTo observations) := by
    unfold bucketLines
    rw [List.filterMap_map]
    exact congrFun List.filterMap_eq_map _
  have sorted : (buckets.mergeSort fun a b => decide (a ≤ b)).Pairwise
      fun a b => decide (a ≤ b) = true := by
    apply List.pairwise_mergeSort
    · intro a b c first second
      exact decide_eq_true (le_trans (of_decide_eq_true first) (of_decide_eq_true second))
    · intro a b
      simpa using le_total a b
  rw [counts, List.pairwise_append]
  refine ⟨?_, List.pairwise_singleton _ _, ?_⟩
  · rw [List.pairwise_map]
    exact sorted.imp fun le => countUpTo_mono observations (of_decide_eq_true le)
  · intro count member total last
    obtain ⟨bucket, _, rfl⟩ := List.mem_map.mp member
    rw [List.mem_singleton.mp last]
    exact countUpTo_le observations bucket

/-! What a page should be. -/

/-- The name and the labels of a sample. -/
def Line.key : Line → Option (String × List (String × String))
  | .sample name labels _ => some (name, labels)
  | _ => none

def Line.typed : Line → Option (String × String)
  | .type name kind => some (name, kind)
  | _ => none

def sampleKeys (lines : List Line) : List (String × List (String × String)) :=
  lines.filterMap Line.key

/-- The counts of the buckets of a histogram, in their order on the page. -/
def bucketCounts (lines : List Line) (name : String) (labels : List (String × String)) : List Int :=
  (lines.filter fun line =>
    (line.key.map fun key => (key.1, key.2.filter fun label => label.1 ≠ "le")) =
      some (name ++ "_bucket", labels)).filterMap Line.count

def startedNodes (repo : Repo) (agentType : String) : List GraphNodeRecord :=
  (allNodes repo).filter fun node => node.agentType = agentType ∧ node.startedAt.isSome

def jobsOf (repo : Repo) (workflowName : String) : List WorkflowJobRecord :=
  (allJobs repo).filter fun job => job.workflowName = workflowName

structure ValidPage (repo : Repo) (lines : List Line) : Prop where
  samples : (sampleKeys lines).Nodup
  types : (lines.filterMap Line.typed).Nodup
  histograms : ∀ name labels, bucketCounts lines name labels ≠ [] →
    (bucketCounts lines name labels).Pairwise (· ≤ ·) ∧
      ∀ total ∈ (bucketCounts lines name labels).getLast?,
        .sample (name ++ "_count") labels (.count total) ∈ lines
  runs : .sample "aeai_run_duration_seconds_count" [] (.count (listRuns repo).length) ∈ lines
  jobs : ∀ workflowName, jobsOf repo workflowName ≠ [] →
    .sample "aeai_workflow_job_duration_seconds_count" [("workflow", workflowName)]
      (.count (jobsOf repo workflowName).length) ∈ lines
  nodes : ∀ agentType, startedNodes repo agentType ≠ [] →
    .sample "aeai_agent_node_duration_seconds_count" [("agent", agentType)]
      (.count (startedNodes repo agentType).length) ∈ lines

theorem counterLines_sum (repo : Repo) :
    ("aeai_run_duration_seconds_sum", []) ∈ sampleKeys (counterLines repo) := by
  unfold sampleKeys counterLines
  simp [Line.key]

theorem runHistogram_sum (repo : Repo) :
    ("aeai_run_duration_seconds_sum", []) ∈ sampleKeys (runHistogram repo) := by
  unfold sampleKeys
  apply List.mem_filterMap.mpr
  refine ⟨.sample ("aeai_run_duration_seconds" ++ "_sum") []
    (.fixed ((listRuns repo).map runDurationSeconds).sum), ?_, rfl⟩
  unfold runHistogram histogramLines
  simp

/-- The sum of the durations of the runs stands on every page twice, as a counter and in the
    histogram. -/
theorem sum_twice (repo : Repo) : ¬ (sampleKeys (pageLines repo)).Nodup := by
  intro samples
  have split : ∃ before between after, sampleKeys (pageLines repo) =
      before ++ (sampleKeys (counterLines repo) ++ (between ++
        (sampleKeys (runHistogram repo) ++ after))) := by
    unfold pageLines sampleKeys
    simp only [List.filterMap_append, List.append_assoc]
    rw [← List.append_assoc, ← List.append_assoc]
    exact ⟨_, _, _, rfl⟩
  obtain ⟨before, between, after, same⟩ := split
  rw [same] at samples
  have later := (List.nodup_append.mp samples).2.1
  have apart := (List.nodup_append.mp later).2.2
  exact apart _ (counterLines_sum repo) _
    (List.mem_append_right _ (List.mem_append_left _ (runHistogram_sum repo))) rfl

/-- No page is valid. -/
theorem page_invalid (repo : Repo) : ¬ ValidPage repo (pageLines repo) :=
  fun valid => sum_twice repo valid.samples

theorem empty_page_invalid : ¬ ValidPage Repo.init (pageLines Repo.init) :=
  fun valid => sum_twice Repo.init valid.samples

end Metrics
