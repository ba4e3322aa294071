import AeaiOs.Values
import Mathlib.Algebra.Order.Ring.Rat
import Mathlib.Tactic.Linarith

/-!
The optional model call of a monitor's alerts: its settings, its budget policy, the ledger of
its costs, and which exceptions of it reach the caller.
-/
namespace AiReview
open OrderedDict RunValues

/-- Exceptions by their class. `llmBudgetExceeded` is an `LLMError`. -/
inductive PyException where
  | llmError
  | llmBudgetExceeded
  | valueError
  | osError
  | typeError
  | keyError
  | attributeError
  | overflowError
  | other (name : String)
  deriving DecidableEq, Repr

/-- `type(exc).__name__` -/
def PyException.typeName : PyException → String
  | .llmError => "LLMError"
  | .llmBudgetExceeded => "LLMBudgetExceeded"
  | .valueError => "ValueError"
  | .osError => "OSError"
  | .typeError => "TypeError"
  | .keyError => "KeyError"
  | .attributeError => "AttributeError"
  | .overflowError => "OverflowError"
  | .other name => name

/-- `except (LLMError, ValueError, OSError)` -/
def PyException.unavailable : PyException → Bool
  | .llmError | .llmBudgetExceeded | .valueError | .osError => true
  | _ => false

/-- What the standard library makes of JSON texts and numbers: `json.loads`, and `float`, whose
    result is `none` when it is not finite. -/
class JsonRuntime where
  loads : String → Except PyException PyValue
  toFloat : PyValue → Except PyException (Option Rat)
  isDigit : Char → Bool

/-! Budgets. -/

structure Settings where
  llmApiKey : String
  llmProvider : String
  llmModel : String
  llmWorkflowBudgetUsd : Rat
  llmMonthlyBudgetUsd : Rat
  llmMaxCallsPerRun : Int
  llmMaxOutputTokens : Int
  llmInputUsdPerMillion : Rat
  llmOutputUsdPerMillion : Rat
  llmUsageLedgerPath : String

structure BudgetPolicy where
  workflowUsd : Rat
  monthlyUsd : Rat
  maxCalls : Int
  maxOutputTokens : Int
  inputUsdPerMillion : Rat
  outputUsdPerMillion : Rat
  ledgerPath : String

namespace BudgetPolicy

/-- The checks of `__post_init__`; each of them raises a `ValueError`. -/
def Accepted (policy : BudgetPolicy) : Prop :=
  (0 < policy.workflowUsd ∧ policy.workflowUsd ≤ 1000) ∧
    (0 < policy.monthlyUsd ∧ policy.monthlyUsd ≤ 10000) ∧
    (1 ≤ policy.maxCalls ∧ policy.maxCalls ≤ 100) ∧
    (200 ≤ policy.maxOutputTokens ∧ policy.maxOutputTokens ≤ 2400) ∧
    (0 < policy.inputUsdPerMillion ∧ policy.inputUsdPerMillion ≤ 100) ∧
    (0 < policy.outputUsdPerMillion ∧ policy.outputUsdPerMillion ≤ 100) ∧
    PyText.strip policy.ledgerPath ≠ ""

instance (policy : BudgetPolicy) : Decidable policy.Accepted :=
  inferInstanceAs (Decidable (_ ∧ _))

def checked (policy : BudgetPolicy) : Except PyException BudgetPolicy :=
  if policy.Accepted then .ok policy else .error .valueError

def ofSettings (settings : Settings) : BudgetPolicy where
  workflowUsd := settings.llmWorkflowBudgetUsd
  monthlyUsd := settings.llmMonthlyBudgetUsd
  maxCalls := settings.llmMaxCallsPerRun
  maxOutputTokens := settings.llmMaxOutputTokens
  inputUsdPerMillion := settings.llmInputUsdPerMillion
  outputUsdPerMillion := settings.llmOutputUsdPerMillion
  ledgerPath := settings.llmUsageLedgerPath

def fromSettings (settings : Settings) : Except PyException BudgetPolicy :=
  (ofSettings settings).checked

/-- The policy of one alert review: `replace` checks the new policy again. -/
def forReview (settings : Settings) : Except PyException BudgetPolicy := do
  let policy ← fromSettings settings
  checked { policy with
    workflowUsd := min (1 / 100) settings.llmWorkflowBudgetUsd
    maxCalls := 1
    maxOutputTokens := min 500 settings.llmMaxOutputTokens }

end BudgetPolicy

/-! The ledger. -/

section ledger
variable [JsonRuntime]

/-- A line of the ledger, booked. `entry.get` of anything but an object is an
    `AttributeError`. -/
def bookLine (month line : String) (costs : Dict String Rat) :
    Except PyException (Dict String Rat) := do
  match ← JsonRuntime.loads line with
  | .dict entry =>
      match lookupEntries entry "month" with
      | some (.str text) =>
          if text = month then
            match lookupEntries entry "action" with
            -- the test for membership hashes the action
            | some (.list _) => .error .typeError
            | some (.dict _) => .error .typeError
            | some (.str action) =>
                if action = "reserve" ∨ action = "settle" then
                  match lookupEntries entry "request_id", lookupEntries entry "cost_usd" with
                  | none, _ => .error .keyError
                  | some _, none => .error .keyError
                  | some requestId, some cost =>
                      match ← JsonRuntime.toFloat cost, requestId with
                      | some amount, .str id =>
                          if 0 ≤ amount ∧ amount ≤ 10000 then return costs.set id amount
                          else return costs
                      | _, _ => return costs
                else return costs
            | _ => return costs
          else return costs
      | _ => return costs
  | _ => .error .attributeError

/-- `except (ValueError, TypeError, KeyError)` of the loop body: the ledger is corrupt. -/
def PyException.corrupt : PyException → Bool
  | .valueError | .typeError | .keyError => true
  | _ => false

def bookLines (month : String) : List String → Dict String Rat → Except PyException (Dict String Rat)
  | [], costs => .ok costs
  | line :: lines, costs =>
      match bookLine month line costs with
      | .ok costs => bookLines month lines costs
      | .error e => .error (if e.corrupt then .llmBudgetExceeded else e)

def monthlyReserved (month : String) (lines : List String) : Except PyException Rat := do
  let costs ← bookLines month lines Dict.empty
  return costs.values.foldl (· + ·) 0

/-- What one review meets outside of the program: the environment and the settings, the
    ledger's file at the reservation and at the snapshot, the sums in floating point, and the
    provider. -/
structure Host where
  escalationEnabled : Option String
  settings : Except PyException Settings
  /-- `HuggingFaceChatGateway(...)` -/
  gateway : Settings → Except PyException String
  /-- `UsageTracker.begin` before it asks the ledger -/
  estimate : BudgetPolicy → Except PyException Rat
  month : String
  ledger : Except PyException (List String)
  /-- `total + estimate > cap + 1e-12` -/
  exceeds : Rat → Rat → Rat → Bool
  append : Except PyException Unit
  /-- The request, its answer as an object, and `UsageTracker.finish`. -/
  generate : Except PyException PyDict
  ledgerLater : Except PyException (List String)
  estimatedCost : PyValue

/-- `except OSError` -/
def catchOsError {α : Type} (handler : Except PyException α) :
    Except PyException α → Except PyException α
  | .error .osError => handler
  | result => result

/-- `UsageLedger.reserve`; an `OSError` of the file is a refusal. -/
def reserve (host : Host) (policy : BudgetPolicy) (estimate : Rat) : Except PyException Unit :=
  catchOsError (.error .llmBudgetExceeded) do
    let lines ← host.ledger
    let total ← monthlyReserved host.month lines
    if host.exceeds total estimate policy.monthlyUsd then .error .llmBudgetExceeded
    else host.append

/-- `UsageLedger.month_total` -/
def monthTotal (host : Host) : Except PyException Rat :=
  catchOsError (.ok 0) do
    let lines ← host.ledgerLater
    monthlyReserved host.month lines

/-- The cost that `UsageTracker.snapshot` names, which also asks for the total of the month. -/
def snapshot (host : Host) : Except PyException PyValue := do
  let _ ← monthTotal host
  return host.estimatedCost

def acceptableText : PyValue → Bool
  | .str text =>
      decide (8 ≤ text.length) && decide (text.length ≤ 400) &&
        !text.toList.any JsonRuntime.isDigit
  | _ => false

/-- The body of the `try`. -/
def review (host : Host) (settings : Settings) (policy : BudgetPolicy) :
    Except PyException PyDict := do
  let model ← host.gateway settings
  let estimate ← host.estimate policy
  reserve host policy estimate
  let data ← host.generate
  let interpretation := (lookupEntries data "interpretation").getD .none
  let nextStep := (lookupEntries data "recommended_next_step").getD .none
  if acceptableText interpretation && acceptableText nextStep then
    let cost ← snapshot host
    return [("status", .str "created"), ("interpretation", interpretation),
      ("recommended_next_step", nextStep), ("model", .str model), ("estimated_cost_usd", cost)]
  else .error .valueError

def unavailableReview : PyDict :=
  [("status", .str "unavailable"),
    ("reason", .str "AI review could not be validated; deterministic alert remains")]

/-- `os.getenv(...).strip().lower()` is one of the affirmative words. -/
def affirmative [PyText.UnicodeDatabase] (setting : Option String) : Bool :=
  let text := PyText.UnicodeDatabase.lower (PyText.strip (setting.getD "")).toList
  text = "true".toList || text = "1".toList || text = "yes".toList

def configured (settings : Settings) : Bool :=
  settings.llmApiKey ≠ "" && (settings.llmProvider = "huggingface" || settings.llmProvider = "hf")

/-- `optional_ai_review` of a monitor with or without escalation, after its alerts. -/
def optionalAiReview [PyText.UnicodeDatabase] (host : Host) (anyAlerts escalation : Bool) :
    Except PyException PyDict :=
  if anyAlerts && escalation then
    if affirmative host.escalationEnabled then do
      let settings ← host.settings
      if configured settings then
        -- outside of the `try`
        let policy ← BudgetPolicy.forReview settings
        match review host settings policy with
        | .error e => if e.unavailable then return unavailableReview else .error e
        | result => result
      else
        return [("status", .str "skipped"), ("reason", .str "HF token/provider not configured")]
    else return []
  else return []

/-! What escapes. -/

/-- A line of the ledger that is not merely corrupt: booking it raises an exception that the
    loop does not catch, such as the `AttributeError` of JSON that is not an object. -/
def FatalLine (month : String) (lines : List String) (e : PyException) : Prop :=
  ∃ before line rest costs, lines = before ++ line :: rest ∧
    bookLines month before Dict.empty = .ok costs ∧ bookLine month line costs = .error e ∧
    e.corrupt = false

/-- Everything in the `try` that can raise, in the order in which it is met. -/
inductive Raises (host : Host) (settings : Settings) (policy : BudgetPolicy) (e : PyException) :
    Prop where
  | gateway (raised : host.gateway settings = .error e)
  | estimate (model : String) (built : host.gateway settings = .ok model)
      (raised : host.estimate policy = .error e)
  | ledger (model : String) (estimate : Rat) (built : host.gateway settings = .ok model)
      (estimated : host.estimate policy = .ok estimate)
      (raised : host.ledger = .error e ∨
        ∃ lines, host.ledger = .ok lines ∧ FatalLine host.month lines e)
  | append (model : String) (estimate total : Rat) (lines : List String)
      (built : host.gateway settings = .ok model)
      (estimated : host.estimate policy = .ok estimate) (read : host.ledger = .ok lines)
      (booked : monthlyReserved host.month lines = .ok total)
      (within : host.exceeds total estimate policy.monthlyUsd = false)
      (raised : host.append = .error e)
  | generate (model : String) (estimate : Rat) (built : host.gateway settings = .ok model)
      (estimated : host.estimate policy = .ok estimate)
      (reserved : reserve host policy estimate = .ok ()) (raised : host.generate = .error e)
  | snapshot (model : String) (estimate : Rat) (data : PyDict)
      (built : host.gateway settings = .ok model)
      (estimated : host.estimate policy = .ok estimate)
      (reserved : reserve host policy estimate = .ok ()) (answered : host.generate = .ok data)
      (accepted : (acceptableText ((lookupEntries data "interpretation").getD .none) &&
        acceptableText ((lookupEntries data "recommended_next_step").getD .none)) = true)
      (raised : host.ledgerLater = .error e ∨
        ∃ lines, host.ledgerLater = .ok lines ∧ FatalLine host.month lines e)

/-- The settings and the host with which the review of an alert raises, when it is asked for:
    settings that cannot be read, a budget that is out of bounds, or an exception in the `try`
    that is neither an `LLMError` nor a `ValueError` nor an `OSError`. -/
def Escapes [PyText.UnicodeDatabase] (host : Host) : Prop :=
  affirmative host.escalationEnabled = true ∧
    ((∃ e, host.settings = .error e) ∨ ∃ settings, host.settings = .ok settings ∧
      configured settings = true ∧ (¬ (BudgetPolicy.ofSettings settings).Accepted ∨
        ∃ policy e, BudgetPolicy.forReview settings = .ok policy ∧ e.unavailable = false ∧
          Raises host settings policy e))

omit [JsonRuntime] in
theorem review_accepted {settings : Settings}
    (accepted : (BudgetPolicy.ofSettings settings).Accepted) :
    ({ BudgetPolicy.ofSettings settings with
      workflowUsd := min (1 / 100) settings.llmWorkflowBudgetUsd
      maxCalls := 1
      maxOutputTokens := min 500 settings.llmMaxOutputTokens } : BudgetPolicy).Accepted := by
  obtain ⟨⟨positive, -⟩, monthly, -, ⟨tokens, -⟩, rest⟩ := accepted
  have workflow : 0 < min (1 / 100) settings.llmWorkflowBudgetUsd ∧
      min (1 / 100) settings.llmWorkflowBudgetUsd ≤ 1000 := by
    have small : min (1 / 100) settings.llmWorkflowBudgetUsd ≤ 1 / 100 := min_le_left _ _
    exact ⟨lt_min (by norm_num) positive, small.trans (by norm_num)⟩
  have output : 200 ≤ min 500 settings.llmMaxOutputTokens ∧
      min 500 settings.llmMaxOutputTokens ≤ 2400 := by
    have wide : 200 ≤ settings.llmMaxOutputTokens := tokens
    omega
  exact ⟨workflow, monthly, ⟨by norm_num, by norm_num⟩, output, rest⟩

omit [JsonRuntime] in
/-- The policy of a review is accepted exactly when that of the settings is. -/
theorem forReview_cases (settings : Settings) :
    ((BudgetPolicy.ofSettings settings).Accepted ∧
        ∃ policy, BudgetPolicy.forReview settings = .ok policy) ∨
      ¬ (BudgetPolicy.ofSettings settings).Accepted ∧
        BudgetPolicy.forReview settings = .error .valueError := by
  unfold BudgetPolicy.forReview BudgetPolicy.fromSettings BudgetPolicy.checked
  by_cases accepted : (BudgetPolicy.ofSettings settings).Accepted
  · rw [if_pos accepted]
    exact .inl ⟨accepted, _, if_pos (review_accepted accepted)⟩
  · rw [if_neg accepted]
    exact .inr ⟨accepted, rfl⟩

theorem bookLines_error {month : String} {lines : List String} {costs : Dict String Rat}
    {e : PyException} (kept : e.unavailable = false) :
    bookLines month lines costs = .error e ↔
      ∃ before line rest costs', lines = before ++ line :: rest ∧
        bookLines month before costs = .ok costs' ∧ bookLine month line costs' = .error e ∧
        e.corrupt = false := by
  constructor
  · intro failed
    induction lines generalizing costs with
    | nil => cases failed
    | cons line lines ih =>
      rw [bookLines] at failed
      cases booked : bookLine month line costs with
      | ok costs' =>
        rw [booked] at failed
        obtain ⟨before, last, rest, costs'', rfl, fine, raised, fatal⟩ := ih failed
        refine ⟨line :: before, last, rest, costs'', rfl, ?_, raised, fatal⟩
        rw [bookLines, booked]
        exact fine
      | error e' =>
        rw [booked] at failed
        have same := Except.error.inj failed
        by_cases corrupt : e'.corrupt = true
        · rw [if_pos corrupt] at same
          rw [← same] at kept
          cases kept
        · rw [if_neg corrupt] at same
          subst same
          exact ⟨[], line, lines, costs, rfl, rfl, booked, by simpa using corrupt⟩
  · rintro ⟨before, line, rest, costs', rfl, fine, raised, fatal⟩
    induction before generalizing costs with
    | nil =>
      cases fine
      rw [List.nil_append, bookLines, raised]
      simp [fatal]
    | cons first before ih =>
      rw [bookLines] at fine
      rw [List.cons_append, bookLines]
      cases booked : bookLine month first costs with
      | ok costs'' =>
        rw [booked] at fine
        exact ih fine
      | error e' =>
        rw [booked] at fine
        cases fine

theorem monthlyReserved_error {month : String} {lines : List String} {e : PyException}
    (kept : e.unavailable = false) :
    monthlyReserved month lines = .error e ↔ FatalLine month lines e := by
  unfold FatalLine
  rw [← bookLines_error kept]
  unfold monthlyReserved
  cases bookLines month lines Dict.empty with
  | ok costs => simp [bind, Except.bind, pure, Except.pure]
  | error e' => simp [bind, Except.bind]

omit [JsonRuntime] in
/-- Handling an `OSError` hides no other exception. -/
theorem catchOsError_error {α : Type} {handler result : Except PyException α} {e : PyException}
    (kept : e.unavailable = false) (other : handler ≠ .error e) :
    catchOsError handler result = .error e ↔ result = .error e := by
  cases result with
  | ok => rfl
  | error e' =>
    cases e' with
    | osError =>
      simp only [catchOsError, other, Except.error.injEq, false_iff]
      rintro rfl
      cases kept
    | _ => rfl

omit [JsonRuntime] in
theorem bind_error {α β : Type} {first : Except PyException α} {next : α → Except PyException β}
    {e : PyException} : first >>= next = .error e ↔
      first = .error e ∨ ∃ value, first = .ok value ∧ next value = .error e := by
  cases first <;> simp [bind, Except.bind]

omit [JsonRuntime] in
theorem pure_error {α : Type} (value : α) (e : PyException) :
    (pure value : Except PyException α) = .error e ↔ False := by
  simp [pure, Except.pure]

theorem reserve_error {host : Host} {policy : BudgetPolicy} {estimate : Rat} {e : PyException}
    (kept : e.unavailable = false) :
    reserve host policy estimate = .error e ↔
      (host.ledger = .error e ∨ ∃ lines, host.ledger = .ok lines ∧ FatalLine host.month lines e) ∨
        ∃ lines total, host.ledger = .ok lines ∧ monthlyReserved host.month lines = .ok total ∧
          host.exceeds total estimate policy.monthlyUsd = false ∧ host.append = .error e := by
  have refusal : PyException.llmBudgetExceeded ≠ e := by
    rintro rfl
    cases kept
  have branch : ∀ total, (if host.exceeds total estimate policy.monthlyUsd = true then
      (.error .llmBudgetExceeded : Except PyException Unit) else host.append) = .error e ↔
      host.exceeds total estimate policy.monthlyUsd = false ∧ host.append = .error e := by
    intro total
    cases host.exceeds total estimate policy.monthlyUsd <;> simp [refusal]
  unfold reserve
  rw [catchOsError_error kept (by simpa using refusal)]
  simp only [bind_error, branch, monthlyReserved_error kept]
  grind

theorem snapshot_error {host : Host} {e : PyException} (kept : e.unavailable = false) :
    snapshot host = .error e ↔ host.ledgerLater = .error e ∨
      ∃ lines, host.ledgerLater = .ok lines ∧ FatalLine host.month lines e := by
  unfold snapshot
  rw [bind_error]
  simp only [pure_error, and_false, exists_false, or_false]
  unfold monthTotal
  rw [catchOsError_error kept (by simp), bind_error]
  simp only [monthlyReserved_error kept]

theorem review_error {host : Host} {settings : Settings} {policy : BudgetPolicy} {e : PyException}
    (kept : e.unavailable = false) :
    review host settings policy = .error e ↔ Raises host settings policy e := by
  have policyError : PyException.valueError ≠ e := by
    rintro rfl
    cases kept
  unfold review
  constructor
  · intro raised
    obtain raised | ⟨model, built, raised⟩ := bind_error.mp raised
    · exact .gateway raised
    obtain raised | ⟨estimate, estimated, raised⟩ := bind_error.mp raised
    · exact .estimate model built raised
    obtain raised | ⟨_, reserved, raised⟩ := bind_error.mp raised
    · rcases (reserve_error kept).mp raised with read | ⟨lines, total, read, booked, within, failed⟩
      · exact .ledger model estimate built estimated read
      · exact .append model estimate total lines built estimated read booked within failed
    obtain raised | ⟨data, answered, raised⟩ := bind_error.mp raised
    · exact .generate model estimate built estimated reserved raised
    dsimp only at raised
    split at raised
    · rename_i accepted
      obtain raised | ⟨_, _, raised⟩ := bind_error.mp raised
      · exact .snapshot model estimate data built estimated reserved answered accepted
          ((snapshot_error kept).mp raised)
      · exact absurd raised (by simp [pure, Except.pure])
    · exact absurd (Except.error.inj raised) policyError
  · intro raises
    cases raises with
    | gateway raised => exact bind_error.mpr (.inl raised)
    | estimate model built raised =>
      exact bind_error.mpr (.inr ⟨model, built, bind_error.mpr (.inl raised)⟩)
    | ledger model estimate built estimated raised =>
      refine bind_error.mpr (.inr ⟨model, built, bind_error.mpr (.inr ⟨estimate, estimated, ?_⟩)⟩)
      exact bind_error.mpr (.inl ((reserve_error kept).mpr (.inl raised)))
    | append model estimate total lines built estimated read booked within raised =>
      refine bind_error.mpr (.inr ⟨model, built, bind_error.mpr (.inr ⟨estimate, estimated, ?_⟩)⟩)
      exact bind_error.mpr (.inl ((reserve_error kept).mpr
        (.inr ⟨lines, total, read, booked, within, raised⟩)))
    | generate model estimate built estimated reserved raised =>
      refine bind_error.mpr (.inr ⟨model, built, bind_error.mpr (.inr ⟨estimate, estimated, ?_⟩)⟩)
      exact bind_error.mpr (.inr ⟨(), reserved, bind_error.mpr (.inl raised)⟩)
    | snapshot model estimate data built estimated reserved answered accepted raised =>
      refine bind_error.mpr (.inr ⟨model, built, bind_error.mpr (.inr ⟨estimate, estimated, ?_⟩)⟩)
      refine bind_error.mpr (.inr ⟨(), reserved, bind_error.mpr (.inr ⟨data, answered, ?_⟩)⟩)
      rw [if_pos accepted]
      exact bind_error.mpr (.inl ((snapshot_error kept).mpr raised))

/-- The review of an alert raises exactly with the hosts described. -/
theorem optionalAiReview_raises [PyText.UnicodeDatabase] (host : Host) (anyAlerts escalation : Bool) :
    (∃ e, optionalAiReview host anyAlerts escalation = .error e) ↔
      anyAlerts = true ∧ escalation = true ∧ Escapes host := by
  unfold optionalAiReview Escapes
  by_cases asked : (anyAlerts && escalation) = true
  swap
  · rw [if_neg asked]
    simp only [Bool.and_eq_true] at asked
    simp only [pure_error, exists_false, false_iff]
    exact fun h => asked ⟨h.1, h.2.1⟩
  rw [if_pos asked]
  rw [Bool.and_eq_true] at asked
  by_cases enabled : affirmative host.escalationEnabled = true
  swap
  · rw [if_neg enabled]
    simp only [pure_error, exists_false, false_iff]
    exact fun h => enabled h.2.2.1
  rw [if_pos enabled]
  simp only [asked.1, asked.2, enabled, true_and]
  cases host.settings with
  | error e => simp [bind, Except.bind]
  | ok settings =>
    simp only [bind_error, reduceCtorEq, false_or, Except.ok.injEq, exists_eq_left', exists_false]
    by_cases set : configured settings = true
    swap
    · rw [if_neg set]
      simp only [pure_error, exists_false, set, Bool.false_eq_true, false_and]
    rw [if_pos set]
    simp only [set, true_and]
    rcases forReview_cases settings with ⟨accepted, policy, forReview⟩ | ⟨refused, forReview⟩
    swap
    · simp [forReview, bind, Except.bind, refused]
    simp only [forReview, bind_error, reduceCtorEq, false_or, Except.ok.injEq, exists_eq_left',
      accepted, not_true_eq_false]
    constructor
    · rintro ⟨e, raised⟩
      cases result : review host settings policy with
      | ok data => simp [result] at raised
      | error e' =>
        simp only [result] at raised
        by_cases kept : e'.unavailable = true
        · simp [kept, pure, Except.pure] at raised
        · have kept' : e'.unavailable = false := by simpa using kept
          exact ⟨policy, e', rfl, kept', (review_error kept').mp result⟩
    · rintro ⟨_, e, rfl, kept, raises⟩
      refine ⟨e, ?_⟩
      rw [(review_error kept).mpr raises]
      simp [kept]

end ledger
end AiReview
