import AeaiOs.UsageLedger
import Mathlib.Logic.Relation
import Mathlib.Algebra.Order.Floor.Ring

/-!
The tracker of one workflow's model calls over the ledger, and the gateway that reserves before
a request and settles behind it.
-/
namespace UsageLedger
open OrderedDict RunValues AiReview HalfEven

/-- `int(text)` -/
class JsonUsage extends JsonLines where
  intText : String → Option Int

structure RequestReservation where
  requestId : String
  month : String
  purpose : String
  model : String
  promptEstimate : Int
  maxOutputTokens : Int
  reservedUsd : Rat
  deriving DecidableEq

structure UsageTracker where
  runId : String
  policy : BudgetPolicy
  requests : Int
  blocked : Int
  completed : Int
  failed : Int
  billedEstimateUsd : Rat
  promptTokens : Int
  completionTokens : Int
  calls : List PyDict
  reservedRunUsd : Rat

def UsageTracker.new (runId : String) (policy : BudgetPolicy) : UsageTracker where
  runId := runId
  policy := policy
  requests := 0
  blocked := 0
  completed := 0
  failed := 0
  billedEstimateUsd := 0
  promptTokens := 0
  completionTokens := 0
  calls := []
  reservedRunUsd := 0

/-- `BudgetPolicy.price` -/
def price (policy : BudgetPolicy) (promptTokens completionTokens : Int) : Rat :=
  ((max 0 promptTokens : Int) * policy.inputUsdPerMillion +
    (max 0 completionTokens : Int) * policy.outputUsdPerMillion) / 1000000

theorem price_nonneg {policy : BudgetPolicy} (accepted : policy.Accepted)
    (promptTokens completionTokens : Int) : 0 ≤ price policy promptTokens completionTokens := by
  obtain ⟨-, -, -, -, ⟨input, -⟩, ⟨output, -⟩, -⟩ := accepted
  have prompt : (0 : Rat) ≤ (max 0 promptTokens : Int) := by exact_mod_cast le_max_left _ _
  have completion : (0 : Rat) ≤ (max 0 completionTokens : Int) := by exact_mod_cast le_max_left _ _
  unfold price
  positivity

/-- `_block` -/
def UsageTracker.block (tracker : UsageTracker) (purpose reason : String) : UsageTracker :=
  { tracker with
    blocked := tracker.blocked + 1
    calls := tracker.calls ++
      [[("purpose", .str purpose), ("status", .str "blocked"), ("reason", .str reason),
        ("estimated_cost_usd", .float 0)]] }

/-- The arguments of `begin`, with `body.encode("utf-8")` as its number of bytes, the name that
    `uuid4` gives the request, and the time. -/
structure Call where
  purpose : String
  model : String
  body : Except PyException Nat
  maxOutputTokens : Int
  requestId : String
  month : String
  time : String

def promptEstimate (bytes : Nat) : Int := max 1 ((bytes + 2) / 3 + 128 : Nat)

section operations
variable [JsonUsage]

/-- `UsageTracker.begin` -/
def UsageTracker.begin (tracker : UsageTracker) (file : LedgerFile) (call : Call) :
    UsageTracker × LedgerFile × Except PyException RequestReservation :=
  if tracker.policy.maxCalls ≤ tracker.requests then
    (tracker.block call.purpose "max_calls", file, .error .llmBudgetExceeded)
  else
    match call.body with
    | .error e => (tracker, file, .error e)
    | .ok bytes =>
        let reserved := price tracker.policy (promptEstimate bytes) call.maxOutputTokens
        if tracker.policy.workflowUsd + slack < tracker.reservedRunUsd + reserved then
          (tracker.block call.purpose "workflow_budget", file, .error .llmBudgetExceeded)
        else
          match reserve file
            { requestId := call.requestId
              runId := tracker.runId
              month := call.month
              estimate := reserved
              cap := tracker.policy.monthlyUsd
              time := call.time } with
          | (file, .error .llmBudgetExceeded) =>
              (tracker.block call.purpose "monthly_budget_or_ledger", file,
                .error .llmBudgetExceeded)
          | (file, .error e) => (tracker, file, .error e)
          | (file, .ok ()) =>
              ({ tracker with
                  requests := tracker.requests + 1
                  reservedRunUsd := tracker.reservedRunUsd + reserved }, file,
                .ok
                  { requestId := call.requestId
                    month := call.month
                    purpose := call.purpose
                    model := call.model
                    promptEstimate := promptEstimate bytes
                    maxOutputTokens := call.maxOutputTokens
                    reservedUsd := reserved })

/-- `int(value)` -/
def pyInt : PyValue → Except PyException Int
  | .bool value => .ok (if value then 1 else 0)
  | .int value => .ok value
  | .float value => .ok (if 0 ≤ value then ⌊value⌋ else ⌈value⌉)
  | .str text =>
      match JsonUsage.intText text with
      | some value => .ok value
      | none => .error .valueError
  | .none | .list _ | .dict _ => .error .typeError

/-- The counts that the provider names, if they are plausible. -/
def countsOf (usage : PyDict) : Except PyException (Int × Int) := do
  let input ← pyInt ((lookupEntries usage "prompt_tokens").getD .none)
  let output ← pyInt ((lookupEntries usage "completion_tokens").getD .none)
  if min input output < 0 ∨ 10000000 < max input output then .error .valueError
  else return (input, output)

/-- What a settlement books. -/
structure Charge where
  source : String
  inputTokens : Int
  outputTokens : Int
  cost : Rat

def reservedCharge (reservation : RequestReservation) : Charge where
  source := "reserved_upper_estimate"
  inputTokens := reservation.promptEstimate
  outputTokens := reservation.maxOutputTokens
  cost := reservation.reservedUsd

/-- `except (ValueError, TypeError, OverflowError)` of the provider's counts. -/
def PyException.uncounted : PyException → Bool
  | .valueError | .typeError | .overflowError => true
  | _ => false

def chargeOf (policy : BudgetPolicy) (reservation : RequestReservation) :
    PyValue → Except PyException Charge
  | .dict usage =>
      match countsOf usage with
      | .ok (input, output) => .ok ⟨"provider", input, output, price policy input output⟩
      | .error e => if PyException.uncounted e then .ok (reservedCharge reservation) else .error e
  | _ => .ok (reservedCharge reservation)

def UsageTracker.book (tracker : UsageTracker) (reservation : RequestReservation)
    (charge : Charge) (succeeded : Bool) : UsageTracker :=
  { tracker with
    billedEstimateUsd := tracker.billedEstimateUsd + charge.cost
    promptTokens := tracker.promptTokens + charge.inputTokens
    completionTokens := tracker.completionTokens + charge.outputTokens
    completed := if succeeded then tracker.completed + 1 else tracker.completed
    failed := if succeeded then tracker.failed else tracker.failed + 1
    reservedRunUsd := tracker.reservedRunUsd + (charge.cost - reservation.reservedUsd)
    calls := tracker.calls ++
      [[("purpose", .str reservation.purpose), ("model", .str reservation.model),
        ("status", .str (if succeeded then "completed" else "provider_error")),
        ("input_units", .int charge.inputTokens), ("output_units", .int charge.outputTokens),
        ("usage_source", .str charge.source),
        ("estimated_cost_usd", .float (roundTo 8 charge.cost))]] }

/-- `UsageTracker.finish` -/
def UsageTracker.finish (tracker : UsageTracker) (file : LedgerFile)
    (reservation : RequestReservation) (usage : PyValue) (succeeded : Bool) (time : String) :
    Except PyException (UsageTracker × LedgerFile) := do
  let charge ← chargeOf tracker.policy reservation usage
  return (tracker.book reservation charge succeeded,
    settle file
      { requestId := reservation.requestId
        month := reservation.month
        cost := charge.cost
        source := charge.source
        time := time })

/-! Runs of one tracker. -/

/-- A tracker and its ledger, with the reservations that are not finished and the finished
    ones, each with its cost. -/
structure Account where
  tracker : UsageTracker
  file : LedgerFile
  opened : List RequestReservation
  settled : List (RequestReservation × Rat)

def Account.settledUsd (account : Account) : Rat := (account.settled.map Prod.snd).sum

def Account.openUsd (account : Account) : Rat :=
  (account.opened.map RequestReservation.reservedUsd).sum

def Account.start (runId : String) (policy : BudgetPolicy) (file : LedgerFile) : Account where
  tracker := .new runId policy
  file := file
  opened := []
  settled := []

/-- A call of the tracker, where only open reservations are finished, or a change of the ledger
    by others. -/
inductive Step (account : Account) : Account → Prop where
  | accepted (call : Call) (tracker : UsageTracker) (file : LedgerFile)
      (reservation : RequestReservation)
      (begun : account.tracker.begin account.file call = (tracker, file, .ok reservation)) :
      Step account
        { account with
          tracker := tracker
          file := file
          opened := reservation :: account.opened }
  | refused (call : Call) (tracker : UsageTracker) (file : LedgerFile) (e : PyException)
      (begun : account.tracker.begin account.file call = (tracker, file, .error e)) :
      Step account { account with tracker := tracker, file := file }
  | finished (reservation : RequestReservation) (usage : PyValue) (succeeded : Bool)
      (time : String) (charge : Charge) (tracker : UsageTracker) (file : LedgerFile)
      (member : reservation ∈ account.opened)
      (charged : chargeOf account.tracker.policy reservation usage = .ok charge)
      (finished : account.tracker.finish account.file reservation usage succeeded time =
        .ok (tracker, file)) :
      Step account
        { tracker := tracker
          file := file
          opened := account.opened.erase reservation
          settled := (reservation, charge.cost) :: account.settled }
  | elsewhere (file : LedgerFile) : Step account { account with file := file }

abbrev Reaches : Account → Account → Prop := Relation.ReflTransGen Step

/-- A refused request leaves the ledger, the requests and what is reserved. -/
theorem begin_refused {tracker tracker' : UsageTracker} {file file' : LedgerFile} {call : Call}
    {e : PyException} (begun : tracker.begin file call = (tracker', file', .error e)) :
    file' = file ∧ tracker'.requests = tracker.requests ∧
      tracker'.reservedRunUsd = tracker.reservedRunUsd ∧ tracker'.policy = tracker.policy ∧
      tracker'.billedEstimateUsd = tracker.billedEstimateUsd := by
  unfold UsageTracker.begin at begun
  split at begun
  · cases begun
    exact ⟨rfl, rfl, rfl, rfl, rfl⟩
  · split at begun
    · cases begun
      exact ⟨rfl, rfl, rfl, rfl, rfl⟩
    · dsimp only at begun
      split at begun
      · cases begun
        exact ⟨rfl, rfl, rfl, rfl, rfl⟩
      · split at begun
        · rename_i file'' refused
          cases begun
          exact ⟨reserve_refused refused, rfl, rfl, rfl, rfl⟩
        · rename_i file'' e' _ refused
          cases begun
          exact ⟨reserve_refused refused, rfl, rfl, rfl, rfl⟩
        · cases begun

/-- An accepted request is one of those allowed, and what it reserves is within the budget. -/
theorem begin_accepted {tracker tracker' : UsageTracker} {file file' : LedgerFile} {call : Call}
    {reservation : RequestReservation}
    (begun : tracker.begin file call = (tracker', file', .ok reservation)) :
    tracker.requests < tracker.policy.maxCalls ∧
      (∃ bytes, call.body = .ok bytes ∧ reservation.reservedUsd =
        price tracker.policy (promptEstimate bytes) call.maxOutputTokens) ∧
      tracker.reservedRunUsd + reservation.reservedUsd ≤ tracker.policy.workflowUsd + slack ∧
      tracker' = { tracker with
        requests := tracker.requests + 1
        reservedRunUsd := tracker.reservedRunUsd + reservation.reservedUsd } := by
  unfold UsageTracker.begin at begun
  split at begun
  · cases begun
  · rename_i allowed
    split at begun
    · cases begun
    · rename_i bytes encoded
      dsimp only at begun
      split at begun
      · cases begun
      · rename_i within
        split at begun
        · cases begun
        · cases begun
        · cases begun
          exact ⟨not_le.mp allowed, ⟨bytes, encoded, rfl⟩, not_lt.mp within, rfl⟩

/-- A request is accepted exactly within the limits of the calls, of the workflow and of the
    month. -/
theorem begin_accepts_iff (tracker : UsageTracker) (file : LedgerFile) (call : Call) :
    (∃ tracker' file' reservation,
        tracker.begin file call = (tracker', file', .ok reservation)) ↔
      tracker.requests < tracker.policy.maxCalls ∧
        ∃ bytes total reserved, call.body = .ok bytes ∧
          price tracker.policy (promptEstimate bytes) call.maxOutputTokens = reserved ∧
          tracker.reservedRunUsd + reserved ≤ tracker.policy.workflowUsd + slack ∧
          readMonth call.month file = .ok total ∧
          total + reserved ≤ tracker.policy.monthlyUsd + slack := by
  unfold UsageTracker.begin
  by_cases allowed : tracker.policy.maxCalls ≤ tracker.requests
  · simp [if_pos allowed, not_lt.mpr allowed]
  rw [if_neg allowed]
  cases encoded : call.body with
  | error e => simp
  | ok bytes =>
    dsimp only
    by_cases within : tracker.policy.workflowUsd + slack < tracker.reservedRunUsd +
        price tracker.policy (promptEstimate bytes) call.maxOutputTokens
    · rw [if_pos within]
      constructor
      · rintro ⟨_, _, _, begun⟩
        cases begun
      · rintro ⟨_, _, _, _, same, rfl, budget, _⟩
        cases same
        exact absurd within (not_lt.mpr budget)
    rw [if_neg within]
    unfold reserve
    cases read : readMonth call.month file with
    | error e =>
      obtain ⟨e', caught, _⟩ := catch_refusal e
      dsimp only
      rw [caught]
      constructor
      · rintro ⟨_, _, _, begun⟩
        cases e' <;> cases begun
      · rintro ⟨_, _, _, _, _, _, _, same, _⟩
        cases same
    | ok total =>
      dsimp only
      by_cases month : tracker.policy.monthlyUsd + slack <
          total + price tracker.policy (promptEstimate bytes) call.maxOutputTokens
      · rw [if_pos month]
        constructor
        · rintro ⟨_, _, _, begun⟩
          cases begun
        · rintro ⟨_, _, _, _, same, rfl, _, found, budget⟩
          cases same
          cases found
          exact absurd month (not_lt.mpr budget)
      · rw [if_neg month]
        constructor
        · intro _
          exact ⟨not_le.mp allowed, bytes, total, _, rfl, rfl, not_lt.mp within, rfl,
            not_lt.mp month⟩
        · intro _
          exact ⟨_, _, _, rfl⟩

omit [JsonUsage] in
theorem sum_erase {opened : List RequestReservation} {reservation : RequestReservation}
    (member : reservation ∈ opened) :
    ((opened.erase reservation).map RequestReservation.reservedUsd).sum + reservation.reservedUsd =
      (opened.map RequestReservation.reservedUsd).sum := by
  have together := (List.perm_cons_erase member).map RequestReservation.reservedUsd
  rw [together.sum_eq, List.map_cons, List.sum_cons, add_comm]

/-- The books of an account: what is reserved for the run is what is settled and what is open,
    and it exceeds the budget only through costs over their reservations. -/
structure Balanced (policy : BudgetPolicy) (account : Account) : Prop where
  samePolicy : account.tracker.policy = policy
  reserved : account.tracker.reservedRunUsd = account.settledUsd + account.openUsd
  billed : account.tracker.billedEstimateUsd = account.settledUsd
  requests : account.tracker.requests = account.opened.length + account.settled.length
  calls : account.tracker.requests ≤ policy.maxCalls
  nonneg : ∀ reservation ∈ account.opened, 0 ≤ reservation.reservedUsd
  within : (∀ pair ∈ account.settled, pair.2 ≤ pair.1.reservedUsd) →
    account.tracker.reservedRunUsd ≤ policy.workflowUsd + slack

omit [JsonUsage] in
theorem balanced_start {policy : BudgetPolicy} (accepted : policy.Accepted) (runId : String)
    (file : LedgerFile) : Balanced policy (Account.start runId policy file) where
  samePolicy := rfl
  reserved := by simp [Account.start, UsageTracker.new, Account.settledUsd, Account.openUsd]
  billed := by simp [Account.start, UsageTracker.new, Account.settledUsd]
  requests := by simp [Account.start, UsageTracker.new]
  calls := by
    obtain ⟨-, -, ⟨least, -⟩, -⟩ := accepted
    have none : (Account.start runId policy file).tracker.requests = 0 := rfl
    omega
  nonneg := by
    intro reservation member
    cases member
  within := by
    intro _
    obtain ⟨⟨positive, -⟩, -⟩ := accepted
    have tolerant : (0 : Rat) < slack := by norm_num [slack]
    have nothing : (Account.start runId policy file).tracker.reservedRunUsd = 0 := rfl
    linarith

theorem finish_charge {tracker tracker' : UsageTracker} {file file' : LedgerFile}
    {reservation : RequestReservation} {usage : PyValue} {succeeded : Bool} {time : String}
    {charge : Charge} (charged : chargeOf tracker.policy reservation usage = .ok charge)
    (finished : tracker.finish file reservation usage succeeded time = .ok (tracker', file')) :
    tracker' = tracker.book reservation charge succeeded := by
  unfold UsageTracker.finish at finished
  rw [charged] at finished
  cases finished
  rfl

theorem balanced_step {policy : BudgetPolicy} (accepted : policy.Accepted)
    {account account' : Account} (balanced : Balanced policy account)
    (step : Step account account') : Balanced policy account' := by
  obtain ⟨samePolicy, reserved, billed, requests, calls, nonneg, within⟩ := balanced
  cases step with
  | accepted call tracker file reservation begun =>
    obtain ⟨allowed, ⟨bytes, _, priced⟩, budget, rfl⟩ := begin_accepted begun
    rw [samePolicy] at allowed priced budget
    have positive : 0 ≤ reservation.reservedUsd := by
      rw [priced]
      exact price_nonneg accepted _ _
    constructor
    · exact samePolicy
    · simp only [Account.settledUsd, Account.openUsd, List.map_cons, List.sum_cons] at reserved ⊢
      linarith
    · exact billed
    · simp only [List.length_cons]
      omega
    · have next : account.tracker.requests + 1 ≤ policy.maxCalls := by omega
      exact next
    · intro other member
      rcases List.mem_cons.mp member with rfl | old
      · exact positive
      · exact nonneg other old
    · intro _
      exact budget
  | refused call tracker file e begun =>
    obtain ⟨_, sameRequests, sameReserved, same, sameBilled⟩ := begin_refused begun
    constructor
    · exact same.trans samePolicy
    · exact sameReserved.trans reserved
    · exact sameBilled.trans billed
    · exact sameRequests.trans requests
    · exact sameRequests.le.trans calls
    · exact nonneg
    · intro costs
      exact sameReserved.le.trans (within costs)
  | finished reservation usage succeeded time charge tracker file member charged finished =>
    have booked := finish_charge charged finished
    subst booked
    have erased := sum_erase member
    have shorter := List.length_erase_of_mem member
    have some := List.length_pos_of_mem member
    constructor
    · exact samePolicy
    · simp only [Account.settledUsd, Account.openUsd, UsageTracker.book, List.map_cons,
        List.sum_cons] at reserved ⊢
      linarith
    · simp only [Account.settledUsd, UsageTracker.book, List.map_cons, List.sum_cons] at billed ⊢
      linarith
    · simp only [UsageTracker.book, List.length_cons]
      omega
    · exact calls
    · intro other left
      exact nonneg other (List.mem_of_mem_erase left)
    · intro costs
      have last := costs (reservation, charge.cost) List.mem_cons_self
      have before := within fun pair old => costs pair (List.mem_cons_of_mem _ old)
      simp only [UsageTracker.book] at last ⊢
      linarith
  | elsewhere file => exact ⟨samePolicy, reserved, billed, requests, calls, nonneg, within⟩

theorem balanced_run {policy : BudgetPolicy} (accepted : policy.Accepted)
    {account account' : Account} (balanced : Balanced policy account)
    (run : Reaches account account') : Balanced policy account' := by
  induction run with
  | refl => exact balanced
  | tail _ step ih => exact balanced_step accepted ih step

omit [JsonUsage] in
/-- Open reservations cost something, so what is settled is within what is reserved. -/
theorem settled_le_reserved {policy : BudgetPolicy} {account : Account}
    (balanced : Balanced policy account) :
    account.settledUsd ≤ account.tracker.reservedRunUsd := by
  have opened : 0 ≤ account.openUsd := by
    apply List.sum_nonneg
    intro usd member
    obtain ⟨reservation, found, rfl⟩ := List.mem_map.mp member
    exact balanced.nonneg reservation found
  have reserved := balanced.reserved
  linarith

end operations
end UsageLedger
