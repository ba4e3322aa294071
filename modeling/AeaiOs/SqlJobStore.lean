import AeaiOs.Lib.RowTransactions
import AeaiOs.RunRepository

/-!
The job methods of the SQL repository. Each is a transaction that reads, and
then commits the columns it has changed. Claims and recoveries read their rows
`FOR UPDATE`; heartbeats, completions and failures read them without a lock.
-/
namespace SqlJobStore
open OrderedDict CivilTime RunValues RunModels Redaction RowTransactions
open InMemoryRunRepository (ensureJobOwnedByWorker ensureJobOwnedByWorker_ok claimedJob failedAttempt appendWorkflowFailure
  cutoffTime timeoutSummary normalizedWorkflow)

inductive JobMethod where
  | claimNext (workerId : String) (workflowName : Option String)
  | claim (jobId workerId : String)
  | heartbeat (jobId workerId : String)
  | complete (jobId workerId : String)
  | fail (jobId errorSummary : String) (retry : Bool) (workerId : String)
  | recover (timeoutSeconds : Int) (workflowName : Option String)
  deriving DecidableEq

namespace JobMethod

/-- The job that a worker says it holds, and that worker. -/
def holder : JobMethod → Option (String × String)
  | heartbeat jobId workerId => some (jobId, workerId)
  | complete jobId workerId => some (jobId, workerId)
  | fail jobId _ _ workerId => some (jobId, workerId)
  | _ => none

/-- Its commit ends the lease of the jobs it writes. -/
def endsLease : JobMethod → Bool
  | complete _ _ => true
  | fail _ _ _ _ => true
  | recover _ _ => true
  | _ => false

end JobMethod

abbrev JobTxn := Txn String WorkflowJobRecord JobMethod
abbrev JobStore := Store String WorkflowJobRecord JobMethod

/-- A column that is written only if its value has changed since it was read. -/
def column [DecidableEq α] (old new current : α) : α := if new = old then current else new

/-- The `UPDATE` of a row: the columns in which `new` differs from the row that was
    read. The payload is written whenever it has been assigned. -/
def updateRow (old new : WorkflowJobRecord) (payload : Option PyDict)
    (current : WorkflowJobRecord) : WorkflowJobRecord :=
  { current with
    status := column old.status new.status current.status
    payload := payload.getD current.payload
    attemptCount := column old.attemptCount new.attemptCount current.attemptCount
    updatedAt := column old.updatedAt new.updatedAt current.updatedAt
    workerId := column old.workerId new.workerId current.workerId
    errorSummary := column old.errorSummary new.errorSummary current.errorSummary
    startedAt := column old.startedAt new.startedAt current.startedAt
    finishedAt := column old.finishedAt new.finishedAt current.finishedAt
    heartbeatAt := column old.heartbeatAt new.heartbeatAt current.heartbeatAt }

/-- What the read step of a method does: it waits for a lock, answers without a
    write, raises, or leaves a transaction open. -/
inductive ReadResult where
  | waits
  | answered
  | raised (error : PyError)
  | opens (txn : JobTxn)

section methods
variable [PyRuntime]

/-- A transaction that writes one row it has read. -/
def writing (method : JobMethod) (locked : Bool) (jobId : String) (old new : WorkflowJobRecord)
    (payload : Option PyDict) : JobTxn where
  purpose := method
  seen := [(jobId, old)]
  locked := if locked then [jobId] else []
  writes := [⟨jobId, updateRow old new payload⟩]
  readAt := 0

/-- The rows that `FOR UPDATE SKIP LOCKED` returns, by creation time. -/
def rowsForUpdate (s : JobStore) (tid : Nat) (wanted : WorkflowJobRecord → Bool) :
    List (String × WorkflowJobRecord) :=
  (s.rows.entries.filter fun entry => wanted entry.2 && !s.lockedByOther tid entry.1).mergeSort
    fun a b => decide (a.2.createdAt ≤ b.2.createdAt)

def inWorkflow (workflow : Option String) (job : WorkflowJobRecord) : Bool :=
  workflow.all fun name => job.workflowName = name

def readClaimNext (s : JobStore) (tid : Nat) (workerId : String) (workflowName : Option String)
    (now : Time) : ReadResult :=
  let rows := rowsForUpdate s tid fun job =>
    decide (job.status = .queued) && inWorkflow (normalizedWorkflow workflowName) job
  match rows with
  | [] => .answered
  | (jobId, job) :: _ =>
      .opens
        { writing (.claimNext workerId workflowName) true jobId job
            (claimedJob job workerId now) none with
          seen := rows
          locked := rows.map Prod.fst }

def readClaim (s : JobStore) (tid : Nat) (jobId workerId : String) (now : Time) : ReadResult :=
  match s.rows.get? jobId with
  | none => .raised (.workflowJobNotFound jobId)
  | some job =>
      if s.lockedByOther tid jobId then .waits
      else if job.status ≠ .queued then .answered
      else .opens (writing (.claim jobId workerId) true jobId job (claimedJob job workerId now) none)

def readHeartbeat (s : JobStore) (jobId workerId : String) (now : Time) : ReadResult :=
  match s.rows.get? jobId with
  | none => .raised (.workflowJobNotFound jobId)
  | some job =>
      match ensureJobOwnedByWorker job workerId with
      | .error e => .raised e
      | .ok _ =>
          .opens <| writing (.heartbeat jobId workerId) false jobId job
            { job with heartbeatAt := some now, updatedAt := now } none

def readComplete (s : JobStore) (jobId workerId : String) (now : Time) : ReadResult :=
  match s.rows.get? jobId with
  | none => .raised (.workflowJobNotFound jobId)
  | some job =>
      if job.status = .completed then .answered
      else
        match ensureJobOwnedByWorker job workerId with
        | .error e => .raised e
        | .ok _ =>
            .opens <| writing (.complete jobId workerId) false jobId job
              { job with status := .completed, updatedAt := now, finishedAt := some now } none

/-- The row that a failure or a recovery leaves. Here the error summary is stored
    redacted. -/
def failedRow (job : WorkflowJobRecord) (shouldRetry : Bool) (errorSummary : String)
    (workerId : Option String) (reason : String) (now : Time) :
    Except PyError WorkflowJobRecord := do
  let summary ← redactText errorSummary
  let payload ← appendWorkflowFailure job.payload job.attemptCount
    (if shouldRetry then .queued else .deadLetter) summary now workerId reason
  return failedAttempt job shouldRetry payload summary now

def readFail (s : JobStore) (jobId errorSummary : String) (retry : Bool) (workerId : String)
    (now : Time) : ReadResult :=
  match s.rows.get? jobId with
  | none => .raised (.workflowJobNotFound jobId)
  | some job =>
      match ensureJobOwnedByWorker job workerId with
      | .error e => .raised e
      | .ok _ =>
          let blamed := if workerId = "" then job.workerId else some workerId
          match failedRow job (retry && decide (job.attemptCount < job.maxAttempts)) errorSummary
            blamed "worker_failure" now with
          | .error e => .raised e
          | .ok failed =>
              .opens <| writing (.fail jobId errorSummary retry workerId) false jobId job failed
                (some failed.payload)

/-- The writes of a recovery, one for each row whose heartbeat is old. -/
def recoveryWrites (timeoutSeconds : Int) (referenceTime cutoff : Time) :
    List (String × WorkflowJobRecord) → Except PyError (List (Write String WorkflowJobRecord))
  | [] => .ok []
  | (jobId, job) :: rest =>
      if cutoff < job.heartbeatAt.getD job.updatedAt then
        recoveryWrites timeoutSeconds referenceTime cutoff rest
      else do
        let failed ← failedRow job (decide (job.attemptCount < job.maxAttempts))
          (timeoutSummary timeoutSeconds) job.workerId "heartbeat_timeout" referenceTime
        let writes ← recoveryWrites timeoutSeconds referenceTime cutoff rest
        return ⟨jobId, updateRow job failed (some failed.payload)⟩ :: writes

def readRecover (s : JobStore) (tid : Nat) (timeoutSeconds : Int) (workflowName : Option String)
    (now : Time) : ReadResult :=
  if timeoutSeconds < 1 then
    .raised (.valueError "Workflow job timeout must be at least 1 second.")
  else
    let rows := rowsForUpdate s tid fun job =>
      decide (job.status = .running) && inWorkflow (normalizedWorkflow workflowName) job
    match (do
      let cutoff ← cutoffTime now timeoutSeconds
      recoveryWrites timeoutSeconds now cutoff rows) with
    | .error e => .raised e
    | .ok writes =>
        .opens
          { purpose := .recover timeoutSeconds workflowName
            seen := rows
            locked := rows.map Prod.fst
            writes
            readAt := 0 }

def readStep (s : JobStore) (tid : Nat) (now : Time) : JobMethod → ReadResult
  | .claimNext workerId workflowName => readClaimNext s tid workerId workflowName now
  | .claim jobId workerId => readClaim s tid jobId workerId now
  | .heartbeat jobId workerId => readHeartbeat s jobId workerId now
  | .complete jobId workerId => readComplete s jobId workerId now
  | .fail jobId errorSummary retry workerId => readFail s jobId errorSummary retry workerId now
  | .recover timeoutSeconds workflowName => readRecover s tid timeoutSeconds workflowName now

/-- A call numbered `tid` begins, or the one numbered `tid` commits. -/
inductive JobStep where
  | read (tid : Nat) (method : JobMethod) (now : Time)
  | commit (tid : Nat)

def jobStep (s : JobStore) : JobStep → JobStore
  | .read tid method now =>
      if (s.live.get? tid).isSome then s
      else match readStep s tid now method with
        | .opens txn => s.opened tid txn
        | _ => s
  | .commit tid => s.commit tid

def runSteps (start : JobStore) (steps : List JobStep) : JobStore := steps.foldl jobStep start

end methods

/-! What a write does to the lease of its row. -/

/-- A write of the transaction: it patches a row that was read, takes a lease only
    under a lock, and ends one exactly if its method does. -/
inductive WriteShape (txn : JobTxn) (write : Write String WorkflowJobRecord) : Prop where
  | keeps (old new : WorkflowJobRecord) (payload : Option PyDict)
      (patch : write.patch = updateRow old new payload) (quiet : txn.purpose.endsLease = false)
      (status : new.status = old.status) (owner : new.workerId = old.workerId)
      (attempts : new.attemptCount = old.attemptCount)
  | ends (old new : WorkflowJobRecord) (payload : Option PyDict)
      (patch : write.patch = updateRow old new payload) (loud : txn.purpose.endsLease = true)
      (was : old.status = .running) (done : new.status ≠ .running)
      (attempts : new.attemptCount = old.attemptCount)
  | begins (old new : WorkflowJobRecord) (payload : Option PyDict)
      (patch : write.patch = updateRow old new payload) (quiet : txn.purpose.endsLease = false)
      (seen : (write.key, old) ∈ txn.seen) (locked : write.key ∈ txn.locked)
      (was : old.status = .queued) (counted : new.attemptCount = old.attemptCount + 1)

/-- What the read step of every method leaves open. -/
structure Shaped (txn : JobTxn) : Prop where
  writes : ∀ write ∈ txn.writes, WriteShape txn write
  held : ∀ jobId workerId, txn.purpose.holder = some (jobId, workerId) →
    ∃ old, txn.seen = [(jobId, old)] ∧ old.status = .running ∧ old.workerId = some workerId

theorem column_same [DecidableEq α] (old current : α) : column old old current = current := by
  simp [column]

theorem column_changed [DecidableEq α] {old new : α} (h : new ≠ old) (current : α) :
    column old new current = new := by
  simp [column, h]

theorem mem_rowsForUpdate {s : JobStore} {tid : Nat} {wanted : WorkflowJobRecord → Bool}
    {key : String} {row : WorkflowJobRecord} (h : (key, row) ∈ rowsForUpdate s tid wanted) :
    s.rows.get? key = some row ∧ wanted row = true ∧ s.lockedByOther tid key = false := by
  simp only [rowsForUpdate, List.mem_mergeSort, List.mem_filter, Bool.and_eq_true,
    Bool.not_eq_true'] at h
  exact ⟨Dict.get?_of_mem_entries h.1, h.2.1, h.2.2⟩

theorem rowsForUpdate_nodup (s : JobStore) (tid : Nat) (wanted : WorkflowJobRecord → Bool) :
    ((rowsForUpdate s tid wanted).map Prod.fst).Nodup := by
  have sorted := (List.mergeSort_perm
    (s.rows.entries.filter fun entry => wanted entry.2 && !s.lockedByOther tid entry.1)
    fun a b => decide (a.2.createdAt ≤ b.2.createdAt)).map Prod.fst
  exact sorted.nodup_iff.mpr (s.rows.keys_nodup.sublist (List.filter_sublist.map Prod.fst))

theorem failedAttempt_over (job : WorkflowJobRecord) (retry : Bool) (payload : PyDict)
    (summary : String) (now : Time) :
    (failedAttempt job retry payload summary now).status ≠ .running := by
  simp only [failedAttempt]
  split <;> simp

section reads
variable [PyRuntime]

theorem failedRow_ok {job failed : WorkflowJobRecord} {retry : Bool} {errorSummary : String}
    {workerId : Option String} {reason : String} {now : Time}
    (h : failedRow job retry errorSummary workerId reason now = .ok failed) :
    failed.status ≠ .running ∧ failed.attemptCount = job.attemptCount := by
  simp only [failedRow, bind, Except.bind] at h
  cases summary : redactText errorSummary with
  | error e => simp [summary] at h
  | ok text =>
    simp only [summary] at h
    split at h
    · simp at h
    · simp only [pure, Except.pure, Except.ok.injEq] at h
      subst h
      exact ⟨failedAttempt_over _ _ _ _ _, rfl⟩

theorem recoveryWrites_ok {timeoutSeconds : Int} {referenceTime cutoff : Time}
    {rows : List (String × WorkflowJobRecord)} {writes : List (Write String WorkflowJobRecord)}
    (h : recoveryWrites timeoutSeconds referenceTime cutoff rows = .ok writes) :
    (writes.map Write.key).Sublist (rows.map Prod.fst) ∧
      ∀ write ∈ writes, ∃ job failed, (write.key, job) ∈ rows ∧
        write.patch = updateRow job failed (some failed.payload) ∧
        failed.status ≠ .running ∧ failed.attemptCount = job.attemptCount := by
  induction rows generalizing writes with
  | nil =>
    simp only [recoveryWrites, Except.ok.injEq] at h
    subst h
    simp
  | cons entry rest ih =>
    obtain ⟨jobId, job⟩ := entry
    simp only [recoveryWrites] at h
    split at h
    · obtain ⟨keys, each⟩ := ih h
      refine ⟨keys.cons _, ?_⟩
      intro write member
      obtain ⟨old, failed, inside, facts⟩ := each write member
      exact ⟨old, failed, List.mem_cons_of_mem _ inside, facts⟩
    · simp only [bind, Except.bind] at h
      split at h
      · simp at h
      · rename_i failed hfailed
        split at h
        · simp at h
        · rename_i later hlater
          simp only [pure, Except.pure, Except.ok.injEq] at h
          subst h
          obtain ⟨keys, each⟩ := ih hlater
          refine ⟨keys.cons_cons _, ?_⟩
          intro write member
          rcases List.mem_cons.mp member with same | old
          · subst same
            exact ⟨job, failed, by simp, rfl, failedRow_ok hfailed⟩
          · obtain ⟨row, failed', inside, facts⟩ := each write old
            exact ⟨row, failed', List.mem_cons_of_mem _ inside, facts⟩

omit [PyRuntime] in
/-- A heartbeat, a completion or a failure opens with the one row it holds. -/
theorem writing_can_open {s : JobStore} {tid : Nat} (unused : s.live.get? tid = none)
    {method : JobMethod} {locked : Bool} {jobId : String} {old new : WorkflowJobRecord}
    {payload : Option PyDict} (stored : s.rows.get? jobId = some old)
    (free : locked = true → s.lockedByOther tid jobId = false) :
    s.CanOpen tid (writing method locked jobId old new payload) := by
  constructor
  · exact unused
  · intro key row member
    simp only [writing, List.mem_singleton, Prod.mk.injEq] at member
    obtain ⟨rfl, rfl⟩ := member
    exact stored
  · intro key member
    simp only [writing] at member
    split at member
    · simp only [List.mem_singleton] at member
      subst member
      exact free ‹_›
    · simp at member
  · simp [writing]

theorem readStep_opens {s : JobStore} {tid : Nat} {now : Time} {method : JobMethod} {txn : JobTxn}
    (unused : s.live.get? tid = none) (h : readStep s tid now method = .opens txn) :
    s.CanOpen tid txn ∧ Shaped txn := by
  cases method with
  | claimNext workerId workflowName =>
    simp only [readStep, readClaimNext] at h
    split at h
    · simp at h
    · rename_i jobId job rest hrows
      simp only [ReadResult.opens.injEq] at h
      subst h
      have rows := fun key row (h : (key, row) ∈ rowsForUpdate s tid fun job =>
        decide (job.status = .queued) && inWorkflow (normalizedWorkflow workflowName) job) =>
          mem_rowsForUpdate h
      have front := rows jobId job (by rw [hrows]; simp)
      simp only [Bool.and_eq_true, decide_eq_true_eq] at front
      refine ⟨⟨unused, ?_, ?_, by simp [writing]⟩, ?_, by simp [writing, JobMethod.holder]⟩
      · intro key row member
        exact (rows key row member).1
      · intro key member
        obtain ⟨entry, inside, same⟩ := List.mem_map.mp member
        exact same ▸ (rows entry.1 entry.2 inside).2.2
      · intro write member
        simp only [writing, List.mem_singleton] at member
        subst member
        exact .begins job _ none rfl rfl (by rw [hrows]; simp) (by rw [hrows]; simp)
          front.2.1.1 rfl
  | claim jobId workerId =>
    simp only [readStep, readClaim] at h
    split at h
    · simp at h
    · rename_i job stored
      split_ifs at h with busy queued
      simp only [ReadResult.opens.injEq] at h
      subst h
      simp only [ne_eq, Decidable.not_not] at queued
      refine ⟨writing_can_open unused stored fun _ => by simpa using busy, ?_,
        by simp [writing, JobMethod.holder]⟩
      intro write member
      simp only [writing, List.mem_singleton] at member
      subst member
      exact .begins job _ none rfl rfl (by simp [writing]) (by simp [writing]) queued rfl
  | heartbeat jobId workerId =>
    simp only [readStep, readHeartbeat] at h
    split at h
    · simp at h
    · rename_i job stored
      split at h
      · simp at h
      · rename_i owned
        simp only [ReadResult.opens.injEq] at h
        subst h
        obtain ⟨running, mine⟩ := ensureJobOwnedByWorker_ok.mp owned
        refine ⟨writing_can_open unused stored (by simp), ?_, ?_⟩
        · intro write member
          simp only [writing, List.mem_singleton] at member
          subst member
          exact .keeps job _ none rfl rfl rfl rfl rfl
        · intro k w holder
          simp only [writing, JobMethod.holder, Option.some.injEq, Prod.mk.injEq] at holder
          obtain ⟨rfl, rfl⟩ := holder
          exact ⟨job, rfl, running, mine⟩
  | complete jobId workerId =>
    simp only [readStep, readComplete] at h
    split at h
    · simp at h
    · rename_i job stored
      split at h
      · simp at h
      · split at h
        · simp at h
        · rename_i owned
          simp only [ReadResult.opens.injEq] at h
          subst h
          obtain ⟨running, mine⟩ := ensureJobOwnedByWorker_ok.mp owned
          refine ⟨writing_can_open unused stored (by simp), ?_, ?_⟩
          · intro write member
            simp only [writing, List.mem_singleton] at member
            subst member
            exact .ends job _ none rfl rfl running (by simp) rfl
          · intro k w holder
            simp only [writing, JobMethod.holder, Option.some.injEq, Prod.mk.injEq] at holder
            obtain ⟨rfl, rfl⟩ := holder
            exact ⟨job, rfl, running, mine⟩
  | fail jobId errorSummary retry workerId =>
    simp only [readStep, readFail] at h
    split at h
    · simp at h
    · rename_i job stored
      split at h
      · simp at h
      · rename_i owned
        split at h
        · simp at h
        · rename_i failed hfailed
          simp only [ReadResult.opens.injEq] at h
          subst h
          obtain ⟨running, mine⟩ := ensureJobOwnedByWorker_ok.mp owned
          obtain ⟨done, attempts⟩ := failedRow_ok hfailed
          refine ⟨writing_can_open unused stored (by simp), ?_, ?_⟩
          · intro write member
            simp only [writing, List.mem_singleton] at member
            subst member
            exact .ends job failed (some failed.payload) rfl rfl running done attempts
          · intro k w holder
            simp only [writing, JobMethod.holder, Option.some.injEq, Prod.mk.injEq] at holder
            obtain ⟨rfl, rfl⟩ := holder
            exact ⟨job, rfl, running, mine⟩
  | recover timeoutSeconds workflowName =>
    simp only [readStep, readRecover] at h
    split at h
    · simp at h
    · split at h
      · simp at h
      · rename_i writes hwrites
        simp only [ReadResult.opens.injEq] at h
        subst h
        simp only [bind, Except.bind] at hwrites
        split at hwrites
        · simp at hwrites
        · obtain ⟨keys, each⟩ := recoveryWrites_ok hwrites
          have rows := fun key row (h : (key, row) ∈ rowsForUpdate s tid fun job =>
            decide (job.status = .running) && inWorkflow (normalizedWorkflow workflowName) job) =>
              mem_rowsForUpdate h
          refine ⟨⟨unused, ?_, ?_, keys.nodup (rowsForUpdate_nodup _ _ _)⟩, ?_,
            by simp [JobMethod.holder]⟩
          · intro key row member
            exact (rows key row member).1
          · intro key member
            obtain ⟨entry, inside, same⟩ := List.mem_map.mp member
            exact same ▸ (rows entry.1 entry.2 inside).2.2
          · intro write member
            obtain ⟨job, failed, inside, patch, done, attempts⟩ := each write member
            have wanted := (rows _ job inside).2.1
            simp only [Bool.and_eq_true, decide_eq_true_eq] at wanted
            exact .ends job failed _ patch rfl wanted.1 done attempts

end reads

/-! Fencing: what a commit finds, against what its transaction has read. -/

/-- Since the transaction has read, a completion, a failure or a recovery has been
    committed that writes the job. -/
def EndedSince (s : JobStore) (txn : JobTxn) (jobId : String) : Prop :=
  ∃ other ∈ s.committed.drop txn.readAt,
    other.purpose.endsLease = true ∧ jobId ∈ other.writes.map Write.key

/-- The job is still running under the claim that the transaction has read: same
    worker, same attempt. -/
def Fenced (s : JobStore) (txn : JobTxn) (jobId workerId : String) : Prop :=
  ∃ old row, (jobId, old) ∈ txn.seen ∧ s.rows.get? jobId = some row ∧ row.status = .running ∧
    row.workerId = some workerId ∧ row.attemptCount = old.attemptCount

/-- The lease that a transaction has read, as it stands: untouched, or over for
    good, since the attempts of a job only grow. -/
structure LeaseTracked (s : JobStore) (txn : JobTxn) (jobId workerId : String)
    (old row : WorkflowJobRecord) : Prop where
  seen : txn.seen = [(jobId, old)]
  stored : s.rows.get? jobId = some row
  grows : old.attemptCount ≤ row.attemptCount
  kept : ¬ EndedSince s txn jobId →
    row.status = .running ∧ row.workerId = some workerId ∧ row.attemptCount = old.attemptCount
  done : EndedSince s txn jobId → row.attemptCount = old.attemptCount → row.status ≠ .running

structure Inv (s : JobStore) : Prop where
  isolated : s.Isolated
  shaped : ∀ tid txn, s.live.get? tid = some txn → Shaped txn
  read_before : ∀ tid txn, s.live.get? tid = some txn → txn.readAt ≤ s.committed.length
  tracked : ∀ tid txn jobId workerId, s.live.get? tid = some txn →
    txn.purpose.holder = some (jobId, workerId) →
    ∃ old row, LeaseTracked s txn jobId workerId old row

theorem opened_inv {s : JobStore} (inv : Inv s) {tid : Nat} {txn : JobTxn}
    (can : s.CanOpen tid txn) (shaped : Shaped txn) : Inv (s.opened tid txn) := by
  refine ⟨Store.opened_isolated inv.isolated can, ?_, ?_, ?_⟩
  · intro a txnA live
    simp only [Store.opened, Dict.get?_set] at live
    split at live
    · simp only [Option.some.injEq] at live
      subst live
      exact ⟨fun write member => by
        cases shaped.writes write member with
        | keeps old new payload patch quiet status owner attempts =>
          exact .keeps old new payload patch quiet status owner attempts
        | ends old new payload patch loud was done attempts =>
          exact .ends old new payload patch loud was done attempts
        | begins old new payload patch quiet seen locked was counted =>
          exact .begins old new payload patch quiet seen locked was counted, shaped.held⟩
    · exact inv.shaped a txnA live
  · intro a txnA live
    simp only [Store.opened, Dict.get?_set] at live
    split at live
    · simp only [Option.some.injEq] at live
      subst live
      exact Nat.le_refl _
    · exact inv.read_before a txnA live
  · intro a txnA jobId workerId live holder
    simp only [Store.opened, Dict.get?_set] at live
    split at live
    · simp only [Option.some.injEq] at live
      subst live
      obtain ⟨old, seen, running, mine⟩ := shaped.held jobId workerId holder
      have stored := can.current jobId old (by simp [seen])
      refine ⟨old, old, seen, stored, Int.le_refl _, fun _ => ⟨running, mine, rfl⟩, ?_⟩
      intro ended
      obtain ⟨other, member, -⟩ := ended
      simp [Store.opened] at member
    · obtain ⟨old, row, t⟩ := inv.tracked a txnA jobId workerId live holder
      exact ⟨old, row, t.seen, t.stored, t.grows, t.kept, t.done⟩

/-- One write of a commit, seen by another transaction that has read the lease. -/
theorem tracked_after_write {s : JobStore} {u : JobTxn} {write : Write String WorkflowJobRecord}
    (shape : WriteShape u write)
    (lockedRow : ∀ old, (write.key, old) ∈ u.seen → write.key ∈ u.locked →
      s.rows.get? write.key = some old)
    {old row : WorkflowJobRecord} {workerId : String} {ended : Prop}
    (stored : s.rows.get? write.key = some row) (grows : old.attemptCount ≤ row.attemptCount)
    (kept : ¬ ended →
      row.status = .running ∧ row.workerId = some workerId ∧ row.attemptCount = old.attemptCount)
    (done : ended → row.attemptCount = old.attemptCount → row.status ≠ .running) :
    old.attemptCount ≤ (write.patch row).attemptCount ∧
      (¬ ended → u.purpose.endsLease = false →
        (write.patch row).status = .running ∧ (write.patch row).workerId = some workerId ∧
          (write.patch row).attemptCount = old.attemptCount) ∧
      (ended ∨ u.purpose.endsLease = true →
        (write.patch row).attemptCount = old.attemptCount →
          (write.patch row).status ≠ .running) := by
  cases shape with
  | keeps before after payload patch quiet status owner attempts =>
    simp only [patch, updateRow, status, owner, attempts, column_same]
    refine ⟨grows, fun open_ _ => kept open_, ?_⟩
    rintro (h | loud)
    · exact done h
    · simp [quiet] at loud
  | ends before after payload patch loud was finished attempts =>
    have changed : after.status ≠ before.status := by
      rw [was]
      exact finished
    simp only [patch, updateRow, attempts, column_same, column_changed changed]
    refine ⟨grows, fun _ quiet => by simp [loud] at quiet, fun _ _ => finished⟩
  | begins before after payload patch quiet seen locked was counted =>
    have same := lockedRow before seen locked
    rw [stored] at same
    simp only [Option.some.injEq] at same
    subst same
    have changed : after.attemptCount ≠ row.attemptCount := by omega
    simp only [patch, updateRow, column_changed changed]
    refine ⟨by omega, ?_, ?_⟩
    · intro open_ _
      have running := (kept open_).1
      rw [was] at running
      simp at running
    · intro _ same
      omega

theorem committing_inv {s : JobStore} (inv : Inv s) {tid : Nat} {u : JobTxn}
    (live : s.live.get? tid = some u) (can : s.canCommit tid u = true) :
    Inv (s.committing tid u) := by
  refine ⟨Store.committing_isolated inv.isolated can, ?_, ?_, ?_⟩
  · intro a txnA liveA
    simp only [Store.committing, Dict.get?_erase] at liveA
    split at liveA
    · simp at liveA
    · exact inv.shaped a txnA liveA
  · intro a txnA liveA
    simp only [Store.committing, Dict.get?_erase] at liveA
    split at liveA
    · simp at liveA
    · have := inv.read_before a txnA liveA
      simp only [Store.committing, List.length_append, List.length_cons, List.length_nil]
      omega
  · intro a txnA jobId workerId liveA holder
    simp only [Store.committing, Dict.get?_erase] at liveA
    split at liveA
    · simp at liveA
    · obtain ⟨old, row, t⟩ := inv.tracked a txnA jobId workerId liveA holder
      have before := inv.read_before a txnA liveA
      have endedIff : EndedSince (s.committing tid u) txnA jobId ↔
          EndedSince s txnA jobId ∨
            (u.purpose.endsLease = true ∧ jobId ∈ u.writes.map Write.key) := by
        simp only [EndedSince, Store.committing, List.drop_append_of_le_length before,
          List.mem_append, List.mem_singleton]
        constructor
        · rintro ⟨other, earlier | rfl, facts⟩
          · exact .inl ⟨other, earlier, facts⟩
          · exact .inr facts
        · rintro (⟨other, earlier, facts⟩ | facts)
          · exact ⟨other, .inl earlier, facts⟩
          · exact ⟨u, .inr rfl, facts⟩
      by_cases written : jobId ∈ u.writes.map Write.key
      · obtain ⟨write, member, key⟩ := List.mem_map.mp written
        subst key
        obtain ⟨grows, kept, done⟩ := tracked_after_write ((inv.shaped tid u live).writes write member)
          (fun row seen locked => inv.isolated.stable tid u live _ row seen locked)
          t.stored t.grows t.kept t.done
        refine ⟨old, write.patch row, t.seen, ?_, grows, ?_, ?_⟩
        · exact applyWrites_written (inv.isolated.one_write tid u live) member t.stored
        · intro untouched
          rw [endedIff, not_or] at untouched
          have quiet : u.purpose.endsLease = false := by
            by_contra loud
            exact untouched.2 ⟨by simpa using loud, written⟩
          exact kept untouched.1 quiet
        · intro ended
          rw [endedIff] at ended
          exact done (ended.imp_right And.left)
      · refine ⟨old, row, t.seen, (applyWrites_other written).trans t.stored, t.grows, ?_, ?_⟩
        · intro untouched
          rw [endedIff, not_or] at untouched
          exact t.kept untouched.1
        · intro ended
          rw [endedIff] at ended
          rcases ended with h | ⟨-, h⟩
          · exact t.done h
          · exact absurd h written

section runs
variable [PyRuntime]

theorem jobStep_inv {s : JobStore} (inv : Inv s) (step : JobStep) : Inv (jobStep s step) := by
  cases step with
  | read tid method now =>
    simp only [jobStep]
    split
    · exact inv
    · rename_i unused
      simp only [Bool.not_eq_true, Option.isSome_eq_false_iff, Option.isNone_iff_eq_none] at unused
      split
      · rename_i txn opens
        obtain ⟨can, shaped⟩ := readStep_opens unused opens
        exact opened_inv inv can shaped
      · exact inv
  | commit tid =>
    simp only [jobStep, Store.commit]
    split
    · rename_i txn live
      split
      · exact committing_inv inv live ‹_›
      · exact inv
    · exact inv

theorem runSteps_inv {start : JobStore} (idle : start.live = .empty) (steps : List JobStep) :
    Inv (runSteps start steps) := by
  have first : Inv start := by
    constructor
    · constructor <;> simp [idle]
    all_goals simp [idle]
  have walk : ∀ (steps : List JobStep) (s : JobStore), Inv s → Inv (steps.foldl jobStep s) := by
    intro steps
    induction steps with
    | nil => exact fun s inv => inv
    | cons step rest ih => exact fun s inv => ih _ (jobStep_inv inv step)
  exact walk steps start first

/-- In every run, whenever a heartbeat, a completion or a failure is open, its
    commit would be fenced exactly if nothing has ended the lease since its read. -/
theorem commit_fenced_iff (start : JobStore) (idle : start.live = .empty) (steps : List JobStep)
    (tid : Nat) (txn : JobTxn) (live : (runSteps start steps).live.get? tid = some txn)
    (jobId workerId : String) (holder : txn.purpose.holder = some (jobId, workerId)) :
    Fenced (runSteps start steps) txn jobId workerId ↔
      ¬ EndedSince (runSteps start steps) txn jobId := by
  obtain ⟨old, row, t⟩ := (runSteps_inv idle steps).tracked tid txn jobId workerId live holder
  constructor
  · rintro ⟨old', row', seen, stored, running, -, attempts⟩ ended
    rw [t.seen, List.mem_singleton, Prod.mk.injEq] at seen
    rw [t.stored, Option.some.injEq] at stored
    obtain ⟨-, rfl⟩ := seen
    subst stored
    exact t.done ended attempts running
  · intro untouched
    obtain ⟨running, mine, attempts⟩ := t.kept untouched
    exact ⟨old, row, by simp [t.seen], t.stored, running, mine, attempts⟩

end runs

/-! A completion that was read before a recovery and a second claim. -/

def queuedJob : WorkflowJobRecord where
  id := "job_j"
  runId := "run_a"
  workflowName := "procurement"
  status := .queued
  payload := []
  attemptCount := 0
  maxAttempts := 3
  createdAt := 1000000
  updatedAt := 1000000

def oneJobStore : JobStore := ⟨Dict.empty.set "job_j" queuedJob, .empty, []⟩

/-- `w1` claims and reads for its completion; the job times out and goes to `w2`. -/
def lateCompletion : List JobStep :=
  [.read 1 (.claim "job_j" "w1") 2000000, .commit 1, .read 2 (.complete "job_j" "w1") 3000000,
    .read 3 (.recover 5 none) 9000000, .commit 3, .read 4 (.claim "job_j" "w2") 9000001,
    .commit 4]

/-- Before the recovery the same completion would be fenced. -/
theorem prompt_completion_fenced :
    let _ := plainRuntime
    let s := runSteps oneJobStore (lateCompletion.take 3)
    ∃ txn, s.live.get? 2 = some txn ∧
      (Fenced s txn "job_j" "w1" ↔ ¬ EndedSince s txn "job_j") := by
  intro _ s
  have holder : (s.live.get? 2).map (fun txn => txn.purpose.holder) =
      some (some ("job_j", "w1")) := by decide
  obtain ⟨txn, live, purpose⟩ := Option.map_eq_some_iff.mp holder
  exact ⟨txn, live, commit_fenced_iff oneJobStore rfl (lateCompletion.take 3) 2 txn live "job_j"
    "w1" purpose⟩

theorem late_completion_takes_the_job :
    let _ := plainRuntime
    let before := runSteps oneJobStore lateCompletion
    let after := jobStep before (.commit 2)
    (before.rows.get? "job_j").map (fun job => (job.status, job.workerId)) =
        some (.running, some "w2") ∧
      (after.rows.get? "job_j").map (fun job => (job.status, job.workerId)) =
        some (.completed, some "w2") ∧
      (after.committed.getLast?).map (fun txn => txn.purpose) =
        some (.complete "job_j" "w1") := by
  decide +kernel

end SqlJobStore
