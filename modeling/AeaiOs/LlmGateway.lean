import AeaiOs.UsageTracker

/-!
One request of the chat gateway: what it reserves, what it makes of the provider's answer, and
its settlement.
-/
namespace UsageLedger
open OrderedDict RunValues AiReview

/-- What the opener gives: a body, as its size and what `json.loads` makes of it, or an
    exception. The errors of the connection are `OSError`s. -/
inductive Sent where
  | body (size : Nat) (json : Except PyException PyValue)
  | httpError (code : Nat)
  | raised (e : PyException)

/-- One call of `generate`. The request's body depends on the cap of its output; it is written
    as text, and the text is encoded. -/
structure Request where
  model : String
  schemaName : String
  maxOutputTokens : Int
  body : Int → Except PyException (Except PyException Nat)
  requestId : String
  month : String
  time : String
  sent : Sent
  finishTime : String

def purposeOf (schemaName : String) : String :=
  if schemaName = "enterprise_analysis_recommendation" then "planner"
  else if schemaName = "enterprise_investigation_checks" then "investigation"
  else if schemaName = "enterprise_investigation_followup" then "investigation_followup"
  else if schemaName = "enterprise_evidence_review" then "evidence_review"
  else if schemaName = "enterprise_run_question_answer" then "run_question"
  else "briefing"

def outputCap (request : Request) (tracker : Option UsageTracker) : Int :=
  let cap := min (max request.maxOutputTokens 200) 2400
  match tracker with
  | some tracker => min cap tracker.policy.maxOutputTokens
  | none => cap

/-- `_MAX_BODY_BYTES` -/
def maxBodyBytes : Nat := 524288

section operations
variable [JsonUsage]

/-- The result and the usage in an envelope. -/
def readReply : PyValue → Except PyException (PyDict × PyValue)
  | .dict reply =>
      match lookupEntries reply "choices" with
      | some (.list [.dict choice]) =>
          let finishReason := (lookupEntries choice "finish_reason").getD .none
          let content :=
            match lookupEntries choice "message" with
            | some (.dict message) => (lookupEntries message "content").getD .none
            | _ => .none
          match finishReason with
          | .none | .str "stop" =>
              match content with
              | .str text => do
                  match ← JsonRuntime.loads text with
                  | .dict result => return (result, (lookupEntries reply "usage").getD .none)
                  | _ => .error .llmError
              | _ => .error .llmError
          | _ => .error .llmError
      -- `get` of a choice that is no object
      | some (.list [_]) => .error .attributeError
      | _ => .error .llmError
  | _ => .error .llmError

/-- `except (ValueError, KeyError, TypeError, AttributeError)` -/
def PyException.unstructured : PyException → Bool
  | .valueError | .keyError | .typeError | .attributeError => true
  | _ => false

/-- The body of the outer `try`. -/
def answerOf : Sent → Except PyException (PyDict × PyValue)
  | .httpError _ => .error .llmError
  | .raised e => .error (if e = .osError then .llmError else e)
  | .body size json =>
      if maxBodyBytes < size then .error .llmError
      else
        match json >>= readReply with
        | .ok answer => .ok answer
        | .error e => .error (if PyException.unstructured e then .llmError else e)

/-- What a request does to the tracker. -/
inductive TrackerEvent where
  | obtained (reservation : RequestReservation)
  | refused (e : PyException)
  | finished (reservation : RequestReservation) (usage : PyValue) (succeeded : Bool)

/-- What is left of a request: the tracker, the ledger, the calls of the tracker and the
    result. -/
structure Generated where
  tracker : Option UsageTracker
  file : LedgerFile
  events : List TrackerEvent
  result : Except PyException PyDict

/-- The `try` and its `finally`. -/
def requestReserved (tracker : UsageTracker) (file : LedgerFile) (request : Request)
    (reservation : RequestReservation) : Generated :=
  let answer := answerOf request.sent
  let usage :=
    match answer with
    | .ok (_, usage) => usage
    | .error _ => .none
  let succeeded := answer.isOk
  match tracker.finish file reservation usage succeeded request.finishTime with
  | .ok (tracker, file) =>
      { tracker := some tracker
        file := file
        events := [.obtained reservation, .finished reservation usage succeeded]
        result := answer.map Prod.fst }
  | .error e =>
      { tracker := some tracker
        file := file
        events := [.obtained reservation, .finished reservation usage succeeded]
        result := .error e }

/-- `_generate_with_usage`. The body is written and encoded once for `begin` and once for the
    request, which lies outside of the `try`. -/
def generateWithUsage (tracker : Option UsageTracker) (file : LedgerFile) (request : Request) :
    Generated :=
  match request.body (outputCap request tracker) with
  | .error e => { tracker := tracker, file := file, events := [], result := .error e }
  | .ok encoded =>
      match tracker with
      | none =>
          { tracker := none
            file := file
            events := []
            result := do
              let _ ← encoded
              let answer ← answerOf request.sent
              return answer.1 }
      | some tracker =>
          match tracker.begin file
            { purpose := purposeOf request.schemaName
              model := request.model
              body := encoded
              maxOutputTokens := outputCap request (some tracker)
              requestId := request.requestId
              month := request.month
              time := request.time } with
          | (tracker, file, .error e) =>
              { tracker := some tracker, file := file, events := [.refused e], result := .error e }
          | (tracker, file, .ok reservation) =>
              match encoded with
              | .error e =>
                  { tracker := some tracker
                    file := file
                    events := [.obtained reservation]
                    result := .error e }
              | .ok _ => requestReserved tracker file request reservation

/-! Every reservation is finished. -/

theorem pyInt_error {value : PyValue} {e : PyException} (failed : pyInt value = .error e) :
    PyException.uncounted e = true := by
  unfold pyInt at failed
  split at failed
  · cases failed
  · cases failed
  · cases failed
  · split at failed <;> cases failed
    rfl
  · cases failed
    rfl
  · cases failed
    rfl
  · cases failed
    rfl

theorem countsOf_error {usage : PyDict} {e : PyException} (failed : countsOf usage = .error e) :
    PyException.uncounted e = true := by
  unfold countsOf at failed
  obtain input | ⟨input, _, failed⟩ := bind_error.mp failed
  · exact pyInt_error input
  obtain output | ⟨output, _, failed⟩ := bind_error.mp failed
  · exact pyInt_error output
  split at failed
  · cases failed
    rfl
  · cases failed

/-- Usage that cannot be read is charged as it was reserved. -/
theorem chargeOf_ok (policy : BudgetPolicy) (reservation : RequestReservation) (usage : PyValue) :
    ∃ charge, chargeOf policy reservation usage = .ok charge := by
  unfold chargeOf
  split
  · rename_i usage
    cases counted : countsOf usage with
    | ok counts => exact ⟨_, rfl⟩
    | error e => exact ⟨_, if_pos (countsOf_error counted)⟩
  · exact ⟨_, rfl⟩

theorem finish_ok (tracker : UsageTracker) (file : LedgerFile) (reservation : RequestReservation)
    (usage : PyValue) (succeeded : Bool) (time : String) :
    ∃ charge file', chargeOf tracker.policy reservation usage = .ok charge ∧
      tracker.finish file reservation usage succeeded time =
        .ok (tracker.book reservation charge succeeded, file') := by
  obtain ⟨charge, charged⟩ := chargeOf_ok tracker.policy reservation usage
  have finished : tracker.finish file reservation usage succeeded time =
      .ok (tracker.book reservation charge succeeded,
        settle file
          { requestId := reservation.requestId
            month := reservation.month
            cost := charge.cost
            source := charge.source
            time := time }) := by
    unfold UsageTracker.finish
    rw [charged]
    rfl
  exact ⟨charge, _, charged, finished⟩

/-- No reservation, or one and its settlement. -/
def FinishesOnce (events : List TrackerEvent) : Prop :=
  events = [] ∨ (∃ e, events = [.refused e]) ∨
    ∃ reservation usage succeeded,
      events = [.obtained reservation, .finished reservation usage succeeded]

theorem requestReserved_events (tracker : UsageTracker) (file : LedgerFile) (request : Request)
    (reservation : RequestReservation) :
    FinishesOnce (requestReserved tracker file request reservation).events := by
  right
  right
  unfold requestReserved
  dsimp only
  split
  · exact ⟨_, _, _, rfl⟩
  · exact ⟨_, _, _, rfl⟩

/-- A body that `begin` accepted is encoded again without an exception. -/
theorem generate_finishes (tracker : Option UsageTracker) (file : LedgerFile)
    (request : Request) : FinishesOnce (generateWithUsage tracker file request).events := by
  unfold generateWithUsage
  split
  · exact .inl rfl
  · split
    · exact .inl rfl
    · split
      · exact .inr (.inl ⟨_, rfl⟩)
      · rename_i begun
        obtain ⟨_, ⟨bytes, encoded, _⟩, _⟩ := begin_accepted begun
        dsimp only at encoded
        subst encoded
        exact requestReserved_events _ _ _ _

/-- The request is a run of the tracker which leaves the open reservations as they were. -/
theorem generate_run (tracker : UsageTracker) (file : LedgerFile) (request : Request)
    (opened : List RequestReservation) (settled : List (RequestReservation × Rat)) :
    ∃ tracker' settled', (generateWithUsage (some tracker) file request).tracker = some tracker' ∧
      Reaches ⟨tracker, file, opened, settled⟩
        ⟨tracker', (generateWithUsage (some tracker) file request).file, opened, settled'⟩ := by
  unfold generateWithUsage
  split
  · exact ⟨tracker, settled, rfl, .refl⟩
  · dsimp only
    split
    · rename_i begun
      exact ⟨_, settled, rfl, .single (.refused _ _ _ _ begun)⟩
    · rename_i tracker' file' reservation begun
      obtain ⟨_, ⟨bytes, encoded, _⟩, _⟩ := begin_accepted begun
      dsimp only at encoded
      subst encoded
      have reserved : Step ⟨tracker, file, opened, settled⟩
          ⟨tracker', file', reservation :: opened, settled⟩ := .accepted _ _ _ _ begun
      dsimp only
      unfold requestReserved
      dsimp only
      obtain ⟨charge, file'', charged, finished⟩ := finish_ok tracker' file' reservation
        (match answerOf request.sent with
          | .ok (_, usage) => usage
          | .error _ => .none) (answerOf request.sent).isOk request.finishTime
      rw [finished]
      have settles : Step ⟨tracker', file', reservation :: opened, settled⟩ _ :=
        .finished reservation _ _ _ charge _ file'' List.mem_cons_self charged finished
      rw [List.erase_cons_head] at settles
      exact ⟨_, _, rfl, .tail (.single reserved) settles⟩

/-- The accounts of one workflow, over every run of its tracker: what is reserved is what is
    settled and what is open, the requests are those allowed, a refusal changes nothing, the
    costs are within the budget if each is within its reservation, and the gateway finishes what
    it reserves. -/
theorem usage_accounted (policy : BudgetPolicy) (accepted : policy.Accepted) (runId : String)
    (file : LedgerFile) :
    (∀ account, Reaches (.start runId policy file) account →
      account.tracker.reservedRunUsd = account.settledUsd + account.openUsd ∧
      account.tracker.requests = account.opened.length + account.settled.length ∧
      account.tracker.requests ≤ policy.maxCalls ∧
      (∀ call tracker' file' e,
        account.tracker.begin account.file call = (tracker', file', .error e) →
          file' = account.file ∧ tracker'.requests = account.tracker.requests ∧
            tracker'.reservedRunUsd = account.tracker.reservedRunUsd) ∧
      ((∀ pair ∈ account.settled, pair.2 ≤ pair.1.reservedUsd) →
        account.settledUsd ≤ policy.workflowUsd + slack)) ∧
    ∀ tracker file request, FinishesOnce (generateWithUsage tracker file request).events := by
  constructor
  · intro account run
    have balanced := balanced_run accepted (balanced_start accepted runId file) run
    refine ⟨balanced.reserved, balanced.requests, balanced.calls, ?_, ?_⟩
    · intro call tracker' file' e begun
      obtain ⟨sameFile, sameRequests, sameReserved, _⟩ := begin_refused begun
      exact ⟨sameFile, sameRequests, sameReserved⟩
    · intro costs
      exact (settled_le_reserved balanced).trans (balanced.within costs)
  · exact generate_finishes

end operations

abbrev usageJson : JsonUsage where
  toJsonLines := ledgerJson
  intText _ := none

/-- The policy of the default settings. -/
def defaultPolicy : BudgetPolicy where
  workflowUsd := 1 / 20
  monthlyUsd := 9 / 2
  maxCalls := 3
  maxOutputTokens := 1800
  inputUsdPerMillion := 2 / 25
  outputUsdPerMillion := 1 / 4
  ledgerPath := "artifacts/llm_usage.jsonl"

theorem defaultPolicy_accepted : defaultPolicy.Accepted := by decide +kernel

def plannerCall : Call where
  purpose := "planner"
  model := "Qwen/Qwen3-32B"
  body := .ok 300
  maxOutputTokens := 1800
  requestId := "llm_2"
  month := "2026-01"
  time := "2026-01-05T00:00:00+00:00"

theorem first_request_accounted :
    let _ := usageJson
    ∃ account, Reaches (.start "run-1" defaultPolicy ⟨[], none⟩) account ∧
      account.opened.length = 1 ∧
      account.tracker.reservedRunUsd = account.settledUsd + account.openUsd := by
  intro _
  have admitted := (begin_accepts_iff (.new "run-1" defaultPolicy) ⟨[], none⟩ plannerCall).mpr
    ⟨by decide, 300, 0, _, rfl, rfl, by decide +kernel, rfl, by decide +kernel⟩
  obtain ⟨tracker, file, reservation, begun⟩ := admitted
  have run : Reaches (.start "run-1" defaultPolicy ⟨[], none⟩) ⟨tracker, file, [reservation], []⟩ :=
    .single (.accepted plannerCall tracker file reservation begun)
  have books := usage_accounted defaultPolicy defaultPolicy_accepted "run-1" ⟨[], none⟩
  exact ⟨_, run, rfl, (books.1 _ run).1⟩

end UsageLedger
