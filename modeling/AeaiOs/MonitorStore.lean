import AeaiOs.Values
import AeaiOs.Lib.IsoText
import AeaiOs.Lib.StoreAction

/-!
The SQLite store of the monitors. Each statement that runs outside a transaction commits by
itself; a claim is one transaction.
-/
namespace MonitorStore
open OrderedDict CivilTime StoreAction Action RunValues

/-- The names of the intervals and their seconds. -/
def intervals : List (String × Int) := [("hourly", 3600), ("daily", 86400), ("weekly", 604800)]

def alertStates : List String := ["open", "acknowledged", "resolved"]

structure Monitor where
  id : String
  organizationId : String
  workspaceId : String
  name : String
  task : String
  sourceId : String
  interval : String
  enabled : Bool := false
  onlyOnChange : Bool := true
  aiEscalation : Bool := false
  anomalyLimit : Int := 1
  spendChangePct : Rat := 20
  minimumCompleteness : Rat := 95 / 100
  lastFingerprint : Option String := none
  lastCheckedAt : Option String := none
  lastRunId : Option String := none
  nextDueAt : String
  forceOnce : Bool := false
  createdAt : String
  updatedAt : String

inductive DispatchStatus where
  | running
  | completed
  | skipped
  | failed
  deriving DecidableEq, Repr

structure MonitorRun where
  id : String
  monitorId : String
  organizationId : String
  workspaceId : String
  startedAt : String
  finishedAt : Option String := none
  status : DispatchStatus := .running
  fingerprint : Option String := none
  runId : Option String := none
  metrics : PyDict := []
  aiReview : PyDict := []
  error : Option String := none

structure MonitoringAlert where
  id : String
  monitorId : String
  organizationId : String
  workspaceId : String
  dispatchId : String
  runId : Option String
  rule : String
  severity : String
  title : String
  description : String
  evidence : PyDict
  status : String := "open"
  createdAt : String
  updatedAt : String

/-- The rows of the tables, in the order in which they were inserted. -/
structure Store where
  monitors : List Monitor := []
  monitorRuns : List MonitorRun := []
  alerts : List MonitoringAlert := []

abbrev StoreM := Action Store PyError

/-- Every row that a condition selects is replaced. -/
def updateRows {α : Type} (selects : α → Bool) (change : α → α) (rows : List α) : List α :=
  rows.map fun row => if selects row then change row else row

/-- A row of the tenant with an id. -/
def selectsTenant (monitorId org workspace : String) (monitor : Monitor) : Bool :=
  monitor.id = monitorId && monitor.organizationId = org && monitor.workspaceId = workspace

structure NewMonitor where
  organizationId : String
  workspaceId : String
  name : String
  task : String
  sourceId : String
  interval : String
  onlyOnChange : Bool := true
  aiEscalation : Bool := false
  anomalyLimit : Int := 1
  spendChangePct : Rat := 20
  minimumCompleteness : Rat := 95 / 100

def create (now : Time) (uuid : String) (request : NewMonitor) : StoreM String := do
  if (lookupEntries intervals request.interval).isNone then
    raise (.valueError "Unsupported monitoring interval.")
  else
    let monitorId := "mon_" ++ uuid
    let store ← read
    let count := store.monitors.countP fun monitor =>
      monitor.organizationId = request.organizationId && monitor.workspaceId = request.workspaceId
    if 40 ≤ count then raise (.valueError "Workspace monitoring limit (40) reached.")
    else if store.monitors.any fun monitor => monitor.id = monitorId then raise .integrityError
    else
      let stamp := isoformat now
      let row : Monitor := {
        id := monitorId
        organizationId := request.organizationId
        workspaceId := request.workspaceId
        name := request.name
        task := request.task
        sourceId := request.sourceId
        interval := request.interval
        onlyOnChange := request.onlyOnChange
        aiEscalation := request.aiEscalation
        anomalyLimit := request.anomalyLimit
        spendChangePct := request.spendChangePct
        minimumCompleteness := request.minimumCompleteness
        nextDueAt := stamp
        createdAt := stamp
        updatedAt := stamp }
      change fun store => { store with monitors := store.monitors ++ [row] }
      return monitorId

def setEnabled (now : Time) (monitorId org workspace : String) (enabled : Bool) : StoreM Bool := do
  let store ← read
  change fun store => { store with
    monitors := updateRows (selectsTenant monitorId org workspace)
      (fun monitor => { monitor with enabled, updatedAt := isoformat now }) store.monitors }
  return store.monitors.any (selectsTenant monitorId org workspace)

def selectsTrigger (monitorId org workspace : String) (monitor : Monitor) : Bool :=
  selectsTenant monitorId org workspace monitor && monitor.enabled

/-- `trigger` reads the clock twice. -/
def trigger (now later : Time) (monitorId org workspace : String) : StoreM Bool := do
  let store ← read
  change fun store => { store with
    monitors := updateRows (selectsTrigger monitorId org workspace)
      (fun monitor => { monitor with
        nextDueAt := isoformat now, forceOnce := true, updatedAt := isoformat later })
      store.monitors }
  return store.monitors.any (selectsTrigger monitorId org workspace)

/-! Claims. -/

/-- `enabled=1 AND next_due_at<=?`, where texts are compared by their code points. -/
def eligible (now : String) (monitor : Monitor) : Bool :=
  monitor.enabled && !decide (now < monitor.nextDueAt)

/-- `ORDER BY next_due_at LIMIT ?` -/
def dueMonitors (now : String) (limit : Int) (monitors : List Monitor) : List Monitor :=
  let rows := (monitors.filter (eligible now)).mergeSort fun a b => !decide (b.nextDueAt < a.nextDueAt)
  rows.take (max 1 (min limit 5)).toNat

/-- `(_dt(now) + timedelta(seconds=INTERVALS[interval])).isoformat()` -/
def nextDue (now interval : String) : Except PyError String :=
  match fromisoformat now, lookupEntries intervals interval with
  | none, _ => .error (.valueError "Invalid isoformat string")
  | some _, none => .error (.keyError interval)
  | some instant, some seconds =>
      let due := instant + seconds * microsecondsPerSecond
      if due ≤ latest then .ok (isoformat due) else .error .overflowError

/-- A record of `claim`: the row as it was selected, with the id of its dispatch. -/
structure Claimed where
  monitor : Monitor
  dispatchId : String

/-- What a claim writes to the monitor. -/
def Monitor.advance (due now : String) (monitor : Monitor) : Monitor :=
  { monitor with nextDueAt := due, forceOnce := false, updatedAt := now }

def claimRow (now : String) (uuid : String) (monitor : Monitor) : StoreM Claimed := do
  let due ← ofExcept (nextDue now monitor.interval)
  let dispatchId := "dispatch_" ++ uuid
  change fun store => { store with
    monitors := updateRows (fun row => row.id = monitor.id) (Monitor.advance due now)
      store.monitors }
  let store ← read
  if store.monitorRuns.any fun run => run.id = dispatchId then raise .integrityError
  else
    let run : MonitorRun := {
      id := dispatchId
      monitorId := monitor.id
      organizationId := monitor.organizationId
      workspaceId := monitor.workspaceId
      startedAt := now }
    change fun store => { store with monitorRuns := store.monitorRuns ++ [run] }
    return { monitor, dispatchId }

def claimRows (now : String) : List (Monitor × String) → StoreM (List Claimed)
  | [] => return []
  | (monitor, uuid) :: rest => do
      let record ← claimRow now uuid monitor
      let records ← claimRows now rest
      return record :: records

/-- The transaction of `claim`: an exception rolls it back. `uuids` are the identifiers that
    `uuid4` draws. -/
def claim (limit : Int) (now : String) (uuids : Nat → String) : StoreM (List Claimed) := fun store =>
  let rows := dueMonitors now limit store.monitors
  match claimRows now (rows.zip ((List.range rows.length).map uuids)) store with
  | (.ok claimed, after) => (.ok claimed, after)
  | (.error e, _) => (.error e, store)

/-! The end of a dispatch. -/

/-- The arguments of one call of `finish`, with its reading of the clock. -/
structure Finish where
  now : Time
  monitorId : String
  dispatchId : String
  status : DispatchStatus
  fingerprint : Option String := none
  runId : Option String := none
  metrics : PyDict := []
  aiReview : PyDict := []
  error : Option String := none

/-- `str(error or "")[:300] or None` -/
def clippedError : Option String → Option String
  | none => none
  | some text => if text = "" then none else some (String.ofList (text.toList.take 300))

def selectsDispatch (finish : Finish) (run : MonitorRun) : Bool :=
  run.id = finish.dispatchId && run.status = .running

/-- What `finish` writes to the run of the dispatch. -/
def Finish.close (finish : Finish) (run : MonitorRun) : MonitorRun :=
  { run with
    finishedAt := some (isoformat finish.now)
    status := finish.status
    fingerprint := finish.fingerprint
    runId := finish.runId
    metrics := finish.metrics
    aiReview := finish.aiReview
    error := clippedError finish.error }

/-- What it writes to the monitor. -/
def Finish.note (finish : Finish) (monitor : Monitor) : Monitor :=
  { monitor with
    lastCheckedAt := some (isoformat finish.now)
    lastRunId := finish.runId.or monitor.lastRunId
    lastFingerprint :=
      if finish.status = .completed then finish.fingerprint else monitor.lastFingerprint
    updatedAt := isoformat finish.now }

/-- The first statement of `finish`. -/
def finishRun (finish : Finish) (store : Store) : Store :=
  { store with
    monitorRuns := updateRows (selectsDispatch finish) finish.close store.monitorRuns }

/-- The second statement of `finish`, which asks for the monitor only. -/
def finishMonitor (finish : Finish) (store : Store) : Store :=
  { store with
    monitors := updateRows (fun monitor => monitor.id = finish.monitorId) finish.note store.monitors }

def finish (finish : Finish) : StoreM Unit :=
  if finish.status = .running then raise (.valueError "Invalid monitor dispatch status")
  else change fun store => finishMonitor finish (finishRun finish store)

def isCompletedOf (monitorId : String) (run : MonitorRun) : Bool :=
  run.monitorId = monitorId && run.status = .completed

/-- `NULL` comes before every text. -/
def finishedBefore (a b : MonitorRun) : Bool :=
  match a.finishedAt, b.finishedAt with
  | none, none => false
  | none, some _ => true
  | some _, none => false
  | some x, some y => x < y

/-- `ORDER BY finished_at DESC LIMIT 1` -/
def lastCompleted (monitorId : String) (store : Store) : Option MonitorRun :=
  ((store.monitorRuns.filter (isCompletedOf monitorId)).mergeSort fun a b =>
    !finishedBefore a b).head?

end MonitorStore
