import AeaiOs.UsageTracker
import AeaiOs.Lib.GroupSums
import AeaiOs.Lib.ExceptLists

/-!
Any number of trackers, in any number of processes, over one ledger: what a month has booked,
and how far that can exceed the monthly budget.
-/
namespace UsageLedger
open OrderedDict RunValues AiReview HalfEven

/-! What the lines say. -/

structure Posting where
  month : String
  id : String
  amount : Rat

/-- The last posting of each request counts. -/
def costsFrom (month : String) (costs : Dict String Rat) (log : List Posting) : Dict String Rat :=
  log.foldl (fun costs b => if b.month = month then costs.set b.id b.amount else costs) costs

def costsOf (month : String) (log : List Posting) : Dict String Rat :=
  costsFrom month Dict.empty log

theorem costsOf_append (month : String) (log : List Posting) (b : Posting) :
    costsOf month (log ++ [b]) =
      if b.month = month then (costsOf month log).set b.id b.amount else costsOf month log := by
  unfold costsOf costsFrom
  rw [List.foldl_append]
  rfl

theorem costsOf_other {month : String} (log : List Posting) {b : Posting} {id : String}
    (other : b.id ≠ id) : (costsOf month (log ++ [b])).get? id = (costsOf month log).get? id := by
  rw [costsOf_append]
  split
  · exact Dict.get?_set_other _ _ other
  · rfl

theorem costsOf_booked {month id : String} {log : List Posting} {amount : Rat}
    (found : (costsOf month log).get? id = some amount) : ∃ b ∈ log, b.id = id := by
  induction log using List.reverseRecOn with
  | nil => cases found
  | append_singleton front b ih =>
    by_cases same : b.id = id
    · exact ⟨b, List.mem_append_right front (List.mem_singleton_self b), same⟩
    · rw [costsOf_other front same] at found
      obtain ⟨b', member, named⟩ := ih found
      exact ⟨b', List.mem_append_left [b] member, named⟩

theorem sum_costsOf (month : String) (log : List Posting) (b : Posting) :
    (costsOf month (log ++ [b])).values.sum = (costsOf month log).values.sum +
      if b.month = month then b.amount - ((costsOf month log).get? b.id).getD 0 else 0 := by
  rw [costsOf_append]
  split
  · have stored := GroupSums.sum_storeEntries (costsOf month log).entries b.id
      (b.amount - ((costsOf month log).get? b.id).getD 0)
    unfold Dict.get? at stored ⊢
    rw [add_sub_cancel] at stored
    exact stored
  · rw [add_zero]

section lines
variable [JsonLines]

/-- The line is read as this posting. -/
structure Books (line : String) (b : Posting) : Prop where
  read : ∀ month costs, bookLine month line costs =
    .ok (if b.month = month then costs.set b.id b.amount else costs)
  ended : line.toList.getLast? = some '\n'

structure Holds (file : LedgerFile) (log : List Posting) : Prop where
  whole : file.broken = none
  lines : List.Forall₂ Books file.lines log

/-- JSON keeps what the reader looks up in an entry. -/
def ReadsBack (entry : PyDict) : Prop :=
  ∃ read, JsonRuntime.loads (JsonLines.dumps entry ++ "\n") = .ok (.dict read) ∧
    ∀ key ∈ ["month", "action", "request_id", "cost_usd"],
      lookupEntries read key = lookupEntries entry key

theorem bookLines_holds {lines : List String} {log : List Posting}
    (held : List.Forall₂ Books lines log) (month : String) (costs : Dict String Rat) :
    bookLines month lines costs = .ok (costsFrom month costs log) := by
  induction held generalizing costs with
  | nil => rfl
  | cons books _ ih =>
    rw [bookLines, books.read month costs]
    exact ih _

theorem readMonth_holds {file : LedgerFile} {log : List Posting} (holds : Holds file log)
    (month : String) : readMonth month file = .ok (costsOf month log).values.sum := by
  unfold readMonth monthlyReserved
  rw [bookLines_holds holds.lines, holds.whole]
  dsimp only [bind, Except.bind, pure, Except.pure]
  rw [List.sum_eq_foldl]
  rfl

theorem line_books {lines : List String} {log : List Posting}
    (held : List.Forall₂ Books lines log) {line : String} (member : line ∈ lines) :
    ∃ b, Books line b := by
  induction held with
  | nil => cases member
  | cons books _ ih =>
    rcases List.mem_cons.mp member with rfl | later
    · exact ⟨_, books⟩
    · exact ih later

theorem Holds.append {file : LedgerFile} {log : List Posting} (holds : Holds file log)
    {entry : PyDict} {b : Posting} (books : Books (JsonLines.dumps entry ++ "\n") b) :
    Holds (file.append entry) (log ++ [b]) := by
  have written : file.append entry =
      { file with lines := file.lines ++ [JsonLines.dumps entry ++ "\n"] } := by
    unfold LedgerFile.append LedgerFile.write
    cases ends : file.lines.getLast? with
    | none =>
      rw [List.getLast?_eq_none_iff.mp ends]
      rfl
    | some last =>
      obtain ⟨b', read⟩ := line_books holds.lines (List.mem_of_getLast? ends)
      exact if_pos read.ended
  rw [written]
  exact ⟨holds.whole, List.rel_append holds.lines (List.Forall₂.cons books List.Forall₂.nil)⟩

omit [JsonLines] in
theorem newline_ended (text : String) : (text ++ "\n").toList.getLast? = some '\n' := by
  rw [String.toList_append]
  exact List.getLast?_append_of_ne_nil _ (List.cons_ne_nil _ _)

/-- An entry that JSON keeps is read as it was meant. -/
theorem books_entry {entry : PyDict} (kept : ReadsBack entry) {month id action : String}
    {amount : Rat} (exact_float : ∀ q, JsonRuntime.toFloat (.float q) = .ok (some q))
    (dated : lookupEntries entry "month" = some (.str month))
    (acts : lookupEntries entry "action" = some (.str action))
    (books : action = "reserve" ∨ action = "settle")
    (named : lookupEntries entry "request_id" = some (.str id))
    (priced : lookupEntries entry "cost_usd" = some (.float amount))
    (least : 0 ≤ amount) (most : amount ≤ 10000) :
    Books (JsonLines.dumps entry ++ "\n") ⟨month, id, amount⟩ := by
  obtain ⟨read, loaded, same⟩ := kept
  constructor
  · intro month' costs
    unfold bookLine
    rw [loaded]
    dsimp only [bind, Except.bind]
    rw [same "month" (by simp), dated, same "action" (by simp), acts, same "request_id" (by simp),
      named, same "cost_usd" (by simp), priced]
    dsimp only
    rw [exact_float]
    by_cases own : month = month'
    · rw [if_pos own, if_pos own, if_pos books]
      exact if_pos ⟨least, most⟩
    · rw [if_neg own, if_neg own]
      rfl
  · exact newline_ended _

end lines

/-! Rounded amounts. -/

theorem roundTo_nonneg {places : Nat} {q : Rat} (nonneg : 0 ≤ q) : 0 ≤ roundTo places q := by
  have scaled : (0 : Rat) ≤ q * 10 ^ places := by positivity
  have close := abs_le.mp (halfEven_close (q * 10 ^ places))
  have above : (-1 : Rat) < (halfEven (q * 10 ^ places) : Rat) := by linarith [close.1]
  have whole : (-1 : Int) < halfEven (q * 10 ^ places) := by exact_mod_cast above
  have counted : (0 : Rat) ≤ (halfEven (q * 10 ^ places) : Rat) := by
    exact_mod_cast (by omega : (0 : Int) ≤ halfEven (q * 10 ^ places))
  unfold roundTo
  positivity

/-- A bound that is a whole number survives the rounding, with some slack before it. -/
theorem roundTo_le_bound {q : Rat} (bound : Nat) (below : q ≤ bound + slack) :
    roundTo 9 q ≤ bound := by
  have tolerance : slack * 10 ^ 9 = 1 / 1000 := by norm_num [slack]
  have close := abs_le.mp (halfEven_close (q * 10 ^ 9))
  have scaled : q * 10 ^ 9 ≤ bound * 10 ^ 9 + 1 / 1000 := by
    have more := mul_le_mul_of_nonneg_right below (by norm_num : (0 : Rat) ≤ 10 ^ 9)
    rw [add_mul, tolerance] at more
    exact more
  have under : (halfEven (q * 10 ^ 9) : Rat) < ((bound * 10 ^ 9 + 1 : Nat) : Rat) := by
    have nearest := close.2
    generalize (halfEven (q * 10 ^ 9) : Rat) = n at nearest ⊢
    rw [Nat.cast_add, Nat.cast_mul, Nat.cast_pow, Nat.cast_ofNat, Nat.cast_one]
    linarith
  have whole : halfEven (q * 10 ^ 9) < (bound * 10 ^ 9 + 1 : Nat) := by exact_mod_cast under
  have counted : (halfEven (q * 10 ^ 9) : Rat) ≤ ((bound * 10 ^ 9 : Nat) : Rat) := by
    exact_mod_cast (by omega : halfEven (q * 10 ^ 9) ≤ (bound * 10 ^ 9 : Nat))
  unfold roundTo
  rw [div_le_iff₀ (by positivity)]
  push_cast at counted
  exact counted

theorem roundTo_le_more (q : Rat) : roundTo 9 q ≤ q + 1 / 2 / 10 ^ 9 := by
  have close := abs_le.mp (roundTo_close 9 q)
  linarith [close.2]

/-- The provider's counts are bounded, so what they cost is. -/
theorem price_le {policy : BudgetPolicy} (accepted : policy.Accepted) {input output : Int}
    (most : max input output ≤ 10000000) : price policy input output ≤ 2000 := by
  obtain ⟨-, -, -, -, ⟨-, inputUsd⟩, ⟨-, outputUsd⟩, -⟩ := accepted
  have prompt : ((max 0 input : Int) : Rat) ≤ 10000000 := by
    exact_mod_cast (by omega : max 0 input ≤ 10000000)
  have completion : ((max 0 output : Int) : Rat) ≤ 10000000 := by
    exact_mod_cast (by omega : max 0 output ≤ 10000000)
  have no_prompt : (0 : Rat) ≤ ((max 0 input : Int) : Rat) := by exact_mod_cast le_max_left _ _
  have no_completion : (0 : Rat) ≤ ((max 0 output : Int) : Rat) := by
    exact_mod_cast le_max_left _ _
  unfold price
  rw [div_le_iff₀ (by norm_num)]
  have first : ((max 0 input : Int) : Rat) * policy.inputUsdPerMillion ≤ 10000000 * 100 := by
    calc ((max 0 input : Int) : Rat) * policy.inputUsdPerMillion
        ≤ ((max 0 input : Int) : Rat) * 100 := mul_le_mul_of_nonneg_left inputUsd no_prompt
      _ ≤ 10000000 * 100 := mul_le_mul_of_nonneg_right prompt (by norm_num)
  have second : ((max 0 output : Int) : Rat) * policy.outputUsdPerMillion ≤ 10000000 * 100 := by
    calc ((max 0 output : Int) : Rat) * policy.outputUsdPerMillion
        ≤ ((max 0 output : Int) : Rat) * 100 := mul_le_mul_of_nonneg_left outputUsd no_completion
      _ ≤ 10000000 * 100 := mul_le_mul_of_nonneg_right completion (by norm_num)
  linarith

/-! Trackers over one ledger. -/

/-- What a tracker asks the ledger for. -/
def reserveOf (tracker : UsageTracker) (call : Call) (reservation : RequestReservation) : Reserve where
  requestId := reservation.requestId
  runId := tracker.runId
  month := reservation.month
  estimate := reservation.reservedUsd
  cap := tracker.policy.monthlyUsd
  time := call.time

def settleOf (reservation : RequestReservation) (charge : Charge) (time : String) : Settle where
  requestId := reservation.requestId
  month := reservation.month
  cost := charge.cost
  source := charge.source
  time := time

/-- The trackers, by process and workflow, and their ledger; a finished reservation stands with
    what the ledger has booked for it. -/
structure Office where
  trackers : Nat → UsageTracker
  file : LedgerFile
  opened : List (Nat × RequestReservation)
  settled : List (RequestReservation × Rat)

def Office.ids (o : Office) : List String :=
  o.opened.map (fun pair => pair.2.requestId) ++ o.settled.map (fun pair => pair.1.requestId)

/-- What open requests have reserved in the month and finished ones have cost, as booked. -/
def Office.booked (o : Office) (month : String) : Rat :=
  ((o.opened.filter fun pair => decide (pair.2.month = month)).map
      fun pair => roundTo 9 pair.2.reservedUsd).sum +
    ((o.settled.filter fun pair => decide (pair.1.month = month)).map Prod.snd).sum

/-- By how much finished requests of the month have cost more than they had reserved. -/
def Office.overrun (o : Office) (month : String) : Rat :=
  ((o.settled.filter fun pair => decide (pair.1.month = month)).map
    fun pair => max 0 (pair.2 - roundTo 9 pair.1.reservedUsd)).sum

section office
variable [JsonUsage]

def withTracker (trackers : Nat → UsageTracker) (i : Nat) (tracker : UsageTracker) :
    Nat → UsageTracker :=
  fun j => if j = i then tracker else trackers j

/-- One call of one of the trackers. A settlement that cannot be written is passed over. -/
inductive Office.Step (o : Office) : Office → Prop where
  | accepted (i : Nat) (call : Call) (tracker : UsageTracker) (file : LedgerFile)
      (reservation : RequestReservation)
      (begun : (o.trackers i).begin o.file call = (tracker, file, .ok reservation))
      (fresh : call.requestId ∉ o.ids)
      (kept : ReadsBack (reserveOf (o.trackers i) call reservation).entry) :
      Office.Step o
        { o with
          trackers := withTracker o.trackers i tracker
          file := file
          opened := (i, reservation) :: o.opened }
  | refused (i : Nat) (call : Call) (tracker : UsageTracker) (file : LedgerFile)
      (e : PyException) (begun : (o.trackers i).begin o.file call = (tracker, file, .error e)) :
      Office.Step o { o with trackers := withTracker o.trackers i tracker, file := file }
  | finished (i : Nat) (reservation : RequestReservation) (usage : PyValue) (succeeded : Bool)
      (time : String) (charge : Charge) (tracker : UsageTracker) (file : LedgerFile)
      (member : (i, reservation) ∈ o.opened)
      (charged : chargeOf (o.trackers i).policy reservation usage = .ok charge)
      (finished : (o.trackers i).finish o.file reservation usage succeeded time =
        .ok (tracker, file))
      (kept : ReadsBack (settleOf reservation charge time).entry) :
      Office.Step o
        { trackers := withTracker o.trackers i tracker
          file := file
          opened := o.opened.erase (i, reservation)
          settled := (reservation, roundTo 9 charge.cost) :: o.settled }
  | unwritten (i : Nat) (reservation : RequestReservation) (usage : PyValue) (succeeded : Bool)
      (time : String) (tracker : UsageTracker) (file : LedgerFile)
      (member : (i, reservation) ∈ o.opened)
      (finished : (o.trackers i).finish o.file reservation usage succeeded time =
        .ok (tracker, file)) :
      Office.Step o
        { trackers := withTracker o.trackers i tracker
          file := o.file
          opened := o.opened.erase (i, reservation)
          settled := (reservation, roundTo 9 reservation.reservedUsd) :: o.settled }

def Office.start (trackers : Nat → UsageTracker) : Office := ⟨trackers, ⟨[], none⟩, [], []⟩

theorem begin_reserves {tracker tracker' : UsageTracker} {file file' : LedgerFile} {call : Call}
    {reservation : RequestReservation}
    (begun : tracker.begin file call = (tracker', file', .ok reservation)) :
    reservation.requestId = call.requestId ∧ reservation.month = call.month ∧
      tracker'.policy = tracker.policy ∧
      file' = file.append (reserveOf tracker call reservation).entry ∧
      ∃ total, readMonth reservation.month file = .ok total ∧
        total + reservation.reservedUsd ≤ tracker.policy.monthlyUsd + slack := by
  unfold UsageTracker.begin at begun
  split at begun
  · cases begun
  · split at begun
    · cases begun
    · dsimp only at begun
      split at begun
      · cases begun
      · split at begun
        · cases begun
        · cases begun
        · rename_i file'' reserved
          cases begun
          refine ⟨rfl, rfl, rfl, ?_⟩
          unfold reserve at reserved
          split at reserved
          · rename_i total read
            split at reserved
            · cases reserved
            · rename_i within
              cases reserved
              exact ⟨rfl, total, read, not_lt.mp within⟩
          · rename_i e read
            obtain ⟨e', caught, -⟩ := catch_refusal e
            rw [caught] at reserved
            cases reserved

theorem finish_settles {tracker tracker' : UsageTracker} {file file' : LedgerFile}
    {reservation : RequestReservation} {usage : PyValue} {succeeded : Bool} {time : String}
    {charge : Charge} (charged : chargeOf tracker.policy reservation usage = .ok charge)
    (finished : tracker.finish file reservation usage succeeded time = .ok (tracker', file')) :
    tracker'.policy = tracker.policy ∧
      file' = file.append (settleOf reservation charge time).entry := by
  unfold UsageTracker.finish at finished
  rw [charged] at finished
  cases finished
  exact ⟨rfl, rfl⟩

theorem finish_policy {tracker tracker' : UsageTracker} {file file' : LedgerFile}
    {reservation : RequestReservation} {usage : PyValue} {succeeded : Bool} {time : String}
    (finished : tracker.finish file reservation usage succeeded time = .ok (tracker', file')) :
    tracker'.policy = tracker.policy := by
  unfold UsageTracker.finish at finished
  cases charged : chargeOf tracker.policy reservation usage with
  | error e =>
    rw [charged] at finished
    cases finished
  | ok charge =>
    rw [charged] at finished
    cases finished
    rfl

/-- What is charged is what was reserved, or the price of bounded counts. -/
theorem charge_bounds {policy : BudgetPolicy} (accepted : policy.Accepted)
    {reservation : RequestReservation} {usage : PyValue} {charge : Charge}
    (charged : chargeOf policy reservation usage = .ok charge) :
    charge.cost = reservation.reservedUsd ∨ 0 ≤ charge.cost ∧ charge.cost ≤ 2000 := by
  unfold chargeOf at charged
  split at charged
  · split at charged
    · rename_i input output counted
      cases charged
      right
      refine ⟨price_nonneg accepted _ _, price_le accepted ?_⟩
      unfold countsOf at counted
      obtain ⟨first, -, counted⟩ := ExceptLists.bind_eq_ok.mp counted
      obtain ⟨second, -, counted⟩ := ExceptLists.bind_eq_ok.mp counted
      split at counted
      · cases counted
      · rename_i counted
        cases counted
        omega
    · split at charged
      · cases charged
        exact Or.inl rfl
      · cases charged
  · cases charged
    exact Or.inl rfl

/-- The ledger against the trackers, for one monthly budget. -/
structure Audited (cap : Rat) (o : Office) : Prop where
  policies : ∀ i, (o.trackers i).policy.Accepted ∧ (o.trackers i).policy.monthlyUsd = cap
  distinct : o.ids.Nodup
  reserved : ∀ pair ∈ o.opened, 0 ≤ pair.2.reservedUsd ∧ pair.2.reservedUsd ≤ cap + slack
  paid : ∀ pair ∈ o.settled, 0 ≤ pair.2
  log : ∃ log, Holds o.file log ∧ (∀ b ∈ log, b.id ∈ o.ids) ∧
    (∀ pair ∈ o.opened, (costsOf pair.2.month log).get? pair.2.requestId =
      some (roundTo 9 pair.2.reservedUsd)) ∧
    ∀ month, (costsOf month log).values.sum = o.booked month

omit [JsonUsage] in
theorem withTracker_policy {trackers : Nat → UsageTracker} {P : BudgetPolicy → Prop}
    (before : ∀ i, P (trackers i).policy) {i : Nat} {tracker : UsageTracker}
    (same : tracker.policy = (trackers i).policy) :
    ∀ j, P (withTracker trackers i tracker j).policy := by
  intro j
  unfold withTracker
  split
  · rw [same]
    exact before i
  · exact before j

/-- A month can always be read, and has booked what its requests have. -/
theorem Audited.read {cap : Rat} {o : Office} (audited : Audited cap o) (month : String) :
    readMonth month o.file = .ok (o.booked month) := by
  obtain ⟨log, holds, -, -, total⟩ := audited.log
  rw [readMonth_holds holds, total]

theorem audited_start {cap : Rat} {trackers : Nat → UsageTracker}
    (policies : ∀ i, (trackers i).policy.Accepted ∧ (trackers i).policy.monthlyUsd = cap) :
    Audited cap (Office.start trackers) := by
  refine ⟨policies, List.nodup_nil, ?_, ?_, [], ⟨rfl, List.Forall₂.nil⟩, ?_, ?_, ?_⟩
  · intro pair member
    cases member
  · intro pair member
    cases member
  · intro b member
    cases member
  · intro pair member
    cases member
  · intro month
    exact (add_zero (0 : Rat)).symm

/-! Sums over a part of a list. -/

omit [JsonUsage] in
theorem sum_part_cons {α : Type} (p : α → Bool) (f : α → Rat) (x : α) (xs : List α) :
    (((x :: xs).filter p).map f).sum = (if p x then f x else 0) + ((xs.filter p).map f).sum := by
  cases here : p x with
  | true => simp [here]
  | false => simp [here]

omit [JsonUsage] in
theorem sum_part_erase {α : Type} [BEq α] [LawfulBEq α] (p : α → Bool) (f : α → Rat) {x : α}
    {xs : List α} (member : x ∈ xs) :
    (((xs.erase x).filter p).map f).sum =
      ((xs.filter p).map f).sum - if p x then f x else 0 := by
  have together := ((List.perm_cons_erase member).filter p).map f
  rw [together.sum_eq, sum_part_cons]
  ring

omit [JsonUsage] in
theorem booked_opened (o : Office) (trackers : Nat → UsageTracker) (file : LedgerFile) (i : Nat)
    (reservation : RequestReservation) (month : String) :
    Office.booked ⟨trackers, file, (i, reservation) :: o.opened, o.settled⟩ month =
      o.booked month +
        if reservation.month = month then roundTo 9 reservation.reservedUsd else 0 := by
  unfold Office.booked
  dsimp only
  rw [sum_part_cons]
  simp only [decide_eq_true_eq]
  ring

omit [JsonUsage] in
theorem booked_finished {o : Office} {i : Nat} {reservation : RequestReservation}
    (member : (i, reservation) ∈ o.opened) (trackers : Nat → UsageTracker) (file : LedgerFile)
    (amount : Rat) (month : String) :
    Office.booked ⟨trackers, file, o.opened.erase (i, reservation),
        (reservation, amount) :: o.settled⟩ month =
      o.booked month + if reservation.month = month
        then amount - roundTo 9 reservation.reservedUsd else 0 := by
  unfold Office.booked
  dsimp only
  rw [sum_part_cons, sum_part_erase _ _ member]
  simp only [decide_eq_true_eq]
  split <;> ring

omit [JsonUsage] in
theorem ids_finished {o : Office} {i : Nat} {reservation : RequestReservation}
    (member : (i, reservation) ∈ o.opened) (trackers : Nat → UsageTracker) (file : LedgerFile)
    (amount : Rat) :
    (Office.ids ⟨trackers, file, o.opened.erase (i, reservation),
      (reservation, amount) :: o.settled⟩).Perm o.ids := by
  have together := (List.perm_cons_erase member).map fun pair => pair.2.requestId
  unfold Office.ids
  dsimp only
  rw [List.map_cons]
  exact List.perm_middle.trans (together.symm.append_right _)

/-- Different open reservations are different requests. -/
theorem Audited.apart {cap : Rat} {o : Office} (audited : Audited cap o)
    {pair other : Nat × RequestReservation} (member : pair ∈ o.opened) (inside : other ∈ o.opened)
    (same : pair.2.requestId = other.2.requestId) : pair = other := by
  have nodup : (o.opened.map fun pair => pair.2.requestId).Nodup :=
    (List.nodup_append.mp audited.distinct).1
  exact List.inj_on_of_nodup_map nodup member inside same

theorem Audited.booked_nonneg {cap : Rat} {o : Office} (audited : Audited cap o) (month : String) :
    0 ≤ o.booked month := by
  unfold Office.booked
  apply add_nonneg
  · apply List.sum_nonneg
    intro usd inside
    obtain ⟨pair, member, rfl⟩ := List.mem_map.mp inside
    exact roundTo_nonneg (audited.reserved pair (List.mem_filter.mp member).1).1
  · apply List.sum_nonneg
    intro usd inside
    obtain ⟨pair, member, rfl⟩ := List.mem_map.mp inside
    exact audited.paid pair (List.mem_filter.mp member).1

theorem Audited.accepted {cap : Rat} {o : Office} (audited : Audited cap o)
    (exact_float : ∀ q, JsonRuntime.toFloat (.float q) = .ok (some q)) {i : Nat} {call : Call}
    {tracker : UsageTracker} {file : LedgerFile} {reservation : RequestReservation}
    (begun : (o.trackers i).begin o.file call = (tracker, file, .ok reservation))
    (fresh : call.requestId ∉ o.ids)
    (kept : ReadsBack (reserveOf (o.trackers i) call reservation).entry) :
    Audited cap ⟨withTracker o.trackers i tracker, file, (i, reservation) :: o.opened,
      o.settled⟩ := by
  obtain ⟨named, dated, policy, rfl, total, read, within⟩ := begin_reserves begun
  obtain ⟨-, ⟨bytes, -, priced⟩, -, -⟩ := begin_accepted begun
  obtain ⟨accepted, monthly⟩ := audited.policies i
  have nonneg : 0 ≤ reservation.reservedUsd := by
    rw [priced]
    exact price_nonneg accepted _ _
  have before := audited.booked_nonneg reservation.month
  rw [audited.read] at read
  cases read
  rw [monthly] at within
  have limit : reservation.reservedUsd ≤ cap + slack := by linarith
  have largest : cap ≤ (10000 : Nat) := by
    obtain ⟨-, ⟨-, most⟩, -⟩ := accepted
    rw [monthly] at most
    exact_mod_cast most
  have most : roundTo 9 reservation.reservedUsd ≤ 10000 := by
    have bound := roundTo_le_bound (q := reservation.reservedUsd) 10000 (by linarith)
    exact_mod_cast bound
  rw [← named] at fresh
  obtain ⟨log, holds, ids, held, totals⟩ := audited.log
  have unbooked : ∀ month, (costsOf month log).get? reservation.requestId = none := by
    intro month
    cases found : (costsOf month log).get? reservation.requestId with
    | none => rfl
    | some amount =>
      obtain ⟨b, member, same⟩ := costsOf_booked found
      exact absurd (same ▸ ids b member) fresh
  constructor
  · exact withTracker_policy (P := fun policy => policy.Accepted ∧ policy.monthlyUsd = cap)
      audited.policies policy
  · exact List.nodup_cons.mpr ⟨fresh, audited.distinct⟩
  · intro pair member
    rcases List.mem_cons.mp member with rfl | old
    · exact ⟨nonneg, limit⟩
    · exact audited.reserved pair old
  · exact audited.paid
  · refine ⟨log ++ [⟨reservation.month, reservation.requestId,
      roundTo 9 reservation.reservedUsd⟩], ?_, ?_, ?_, ?_⟩
    · exact holds.append (books_entry kept exact_float rfl rfl (Or.inl rfl) rfl rfl
        (roundTo_nonneg nonneg) most)
    · intro b member
      rcases List.mem_append.mp member with old | new
      · exact List.mem_cons_of_mem _ (ids b old)
      · rw [List.mem_singleton.mp new]
        exact List.mem_cons_self
    · intro pair member
      rcases List.mem_cons.mp member with rfl | old
      · rw [costsOf_append, if_pos rfl, Dict.get?_set, if_pos rfl]
      · have other : reservation.requestId ≠ pair.2.requestId := by
          intro same
          apply fresh
          rw [same]
          exact List.mem_append_left _ (List.mem_map_of_mem old)
        rw [costsOf_other log other]
        exact held pair old
    · intro month
      rw [sum_costsOf, booked_opened, totals, unbooked]
      simp only [Option.getD_none, sub_zero]

/-- A finished reservation is booked with what it has cost. -/
theorem Audited.finished {cap : Rat} {o : Office} (audited : Audited cap o)
    (exact_float : ∀ q, JsonRuntime.toFloat (.float q) = .ok (some q)) {i : Nat}
    {reservation : RequestReservation} {usage : PyValue} {succeeded : Bool} {time : String}
    {charge : Charge} {tracker : UsageTracker} {file : LedgerFile}
    (member : (i, reservation) ∈ o.opened)
    (charged : chargeOf (o.trackers i).policy reservation usage = .ok charge)
    (finished : (o.trackers i).finish o.file reservation usage succeeded time =
      .ok (tracker, file))
    (kept : ReadsBack (settleOf reservation charge time).entry) :
    Audited cap ⟨withTracker o.trackers i tracker, file, o.opened.erase (i, reservation),
      (reservation, roundTo 9 charge.cost) :: o.settled⟩ := by
  obtain ⟨policy, rfl⟩ := finish_settles charged finished
  obtain ⟨accepted, monthly⟩ := audited.policies i
  obtain ⟨reserved_nonneg, reserved_most⟩ := audited.reserved (i, reservation) member
  have largest : cap ≤ (10000 : Nat) := by
    obtain ⟨-, ⟨-, most⟩, -⟩ := accepted
    rw [monthly] at most
    exact_mod_cast most
  have tolerant : (0 : Rat) < slack := by norm_num [slack]
  have bounds : 0 ≤ charge.cost ∧ charge.cost ≤ (10000 : Nat) + slack := by
    rcases charge_bounds accepted charged with same | ⟨least, most⟩
    · rw [same]
      exact ⟨reserved_nonneg, by linarith⟩
    · refine ⟨least, ?_⟩
      push_cast
      linarith
  have most : roundTo 9 charge.cost ≤ 10000 := by
    exact_mod_cast roundTo_le_bound 10000 bounds.2
  obtain ⟨log, holds, ids, held, totals⟩ := audited.log
  have same_ids := ids_finished member (withTracker o.trackers i tracker)
    (o.file.append (settleOf reservation charge time).entry) (roundTo 9 charge.cost)
  constructor
  · exact withTracker_policy (P := fun policy => policy.Accepted ∧ policy.monthlyUsd = cap)
      audited.policies policy
  · exact same_ids.nodup_iff.mpr audited.distinct
  · intro pair inside
    exact audited.reserved pair (List.mem_of_mem_erase inside)
  · intro pair inside
    rcases List.mem_cons.mp inside with rfl | old
    · exact roundTo_nonneg bounds.1
    · exact audited.paid pair old
  · refine ⟨log ++ [⟨reservation.month, reservation.requestId, roundTo 9 charge.cost⟩],
      ?_, ?_, ?_, ?_⟩
    · exact holds.append (books_entry kept exact_float rfl rfl (Or.inr rfl) rfl rfl
        (roundTo_nonneg bounds.1) most)
    · intro b inside
      apply same_ids.mem_iff.mpr
      rcases List.mem_append.mp inside with old | new
      · exact ids b old
      · rw [List.mem_singleton.mp new]
        exact List.mem_append_left _ (List.mem_map_of_mem (f := fun pair => pair.2.requestId) member)
    · intro pair inside
      have old := List.mem_of_mem_erase inside
      have other : reservation.requestId ≠ pair.2.requestId := by
        intro same
        have equal := audited.apart member old same
        have nodup : o.opened.Nodup := by
          have ids_nodup := (List.nodup_append.mp audited.distinct).1
          exact List.Nodup.of_map _ ids_nodup
        rw [← equal] at inside
        exact (List.Nodup.mem_erase_iff nodup).mp inside |>.1 rfl
      rw [costsOf_other log other]
      exact held pair old
    · intro month
      rw [sum_costsOf, booked_finished member, totals]
      by_cases own : reservation.month = month
      · rw [if_pos own, if_pos own, ← own, held (i, reservation) member]
        rfl
      · rw [if_neg own, if_neg own]

/-- A settlement that is passed over leaves the reservation booked. -/
theorem Audited.unwritten {cap : Rat} {o : Office} (audited : Audited cap o) {i : Nat}
    {reservation : RequestReservation} {tracker : UsageTracker}
    (member : (i, reservation) ∈ o.opened)
    (policy : tracker.policy = (o.trackers i).policy) :
    Audited cap ⟨withTracker o.trackers i tracker, o.file, o.opened.erase (i, reservation),
      (reservation, roundTo 9 reservation.reservedUsd) :: o.settled⟩ := by
  obtain ⟨log, holds, ids, held, totals⟩ := audited.log
  have same_ids := ids_finished member (withTracker o.trackers i tracker) o.file
    (roundTo 9 reservation.reservedUsd)
  constructor
  · exact withTracker_policy (P := fun policy => policy.Accepted ∧ policy.monthlyUsd = cap)
      audited.policies policy
  · exact same_ids.nodup_iff.mpr audited.distinct
  · intro pair inside
    exact audited.reserved pair (List.mem_of_mem_erase inside)
  · intro pair inside
    rcases List.mem_cons.mp inside with rfl | old
    · exact roundTo_nonneg (audited.reserved (i, reservation) member).1
    · exact audited.paid pair old
  · refine ⟨log, holds, ?_, ?_, ?_⟩
    · intro b inside
      exact same_ids.mem_iff.mpr (ids b inside)
    · intro pair inside
      exact held pair (List.mem_of_mem_erase inside)
    · intro month
      rw [booked_finished member, totals, sub_self, ite_self, add_zero]

theorem Audited.step {cap : Rat} {o o' : Office} (audited : Audited cap o)
    (exact_float : ∀ q, JsonRuntime.toFloat (.float q) = .ok (some q)) (step : o.Step o') :
    Audited cap o' := by
  cases step with
  | accepted i call tracker file reservation begun fresh kept =>
    exact audited.accepted exact_float begun fresh kept
  | refused i call tracker file e begun =>
    obtain ⟨rfl, -, -, policy, -⟩ := begin_refused begun
    obtain ⟨policies, distinct, reserved, paid, log⟩ := audited
    refine ⟨?_, distinct, reserved, paid, log⟩
    exact withTracker_policy (P := fun policy => policy.Accepted ∧ policy.monthlyUsd = cap)
      policies policy
  | finished i reservation usage succeeded time charge tracker file member charged finished kept =>
    exact audited.finished exact_float member charged finished kept
  | unwritten i reservation usage succeeded time tracker file member finished =>
    exact audited.unwritten member (finish_policy finished)

theorem Audited.run {cap : Rat} {o o' : Office} (audited : Audited cap o)
    (exact_float : ∀ q, JsonRuntime.toFloat (.float q) = .ok (some q))
    (run : Relation.ReflTransGen Office.Step o o') : Audited cap o' := by
  induction run with
  | refl => exact audited
  | tail _ step ih => exact ih.step exact_float step

omit [JsonUsage] in
theorem overrun_nonneg (o : Office) (month : String) : 0 ≤ o.overrun month := by
  unfold Office.overrun
  apply List.sum_nonneg
  intro usd inside
  obtain ⟨pair, -, rfl⟩ := List.mem_map.mp inside
  exact le_max_left _ _

omit [JsonUsage] in
theorem overrun_finished (o : Office) (trackers : Nat → UsageTracker) (file : LedgerFile)
    (opened : List (Nat × RequestReservation)) (reservation : RequestReservation) (amount : Rat)
    (month : String) :
    Office.overrun ⟨trackers, file, opened, (reservation, amount) :: o.settled⟩ month =
      (if reservation.month = month
        then max 0 (amount - roundTo 9 reservation.reservedUsd) else 0) + o.overrun month := by
  unfold Office.overrun
  dsimp only
  rw [sum_part_cons]
  simp only [decide_eq_true_eq]

/-- A month is over its budget by no more than the rounding of one entry and what finished
    requests have cost beyond their reservations. -/
def Capped (cap : Rat) (o : Office) : Prop :=
  ∀ month, o.booked month ≤ cap + slack + 1 / 2 / 10 ^ 9 + o.overrun month

omit [JsonUsage] in
theorem capped_finished {cap : Rat} {o : Office} (capped : Capped cap o) {i : Nat}
    {reservation : RequestReservation} (member : (i, reservation) ∈ o.opened)
    (trackers : Nat → UsageTracker) (file : LedgerFile) (amount : Rat) :
    Capped cap ⟨trackers, file, o.opened.erase (i, reservation),
      (reservation, amount) :: o.settled⟩ := by
  intro month
  rw [booked_finished member, overrun_finished]
  have before := capped month
  split
  · have beyond := le_max_right 0 (amount - roundTo 9 reservation.reservedUsd)
    linarith
  · linarith

theorem capped_step {cap : Rat} {o o' : Office} (audited : Audited cap o) (capped : Capped cap o)
    (step : o.Step o') : Capped cap o' := by
  cases step with
  | accepted i call tracker file reservation begun fresh kept =>
    obtain ⟨-, -, -, -, total, read, within⟩ := begin_reserves begun
    rw [audited.read] at read
    cases read
    rw [(audited.policies i).2] at within
    intro month
    rw [booked_opened]
    have same : Office.overrun ⟨withTracker o.trackers i tracker, file,
      (i, reservation) :: o.opened, o.settled⟩ month = o.overrun month := rfl
    rw [same]
    by_cases own : reservation.month = month
    · rw [if_pos own, ← own]
      have rounded := roundTo_le_more reservation.reservedUsd
      have spent := overrun_nonneg o reservation.month
      linarith
    · rw [if_neg own, add_zero]
      exact capped month
  | refused i call tracker file e begun => exact capped
  | finished i reservation usage succeeded time charge tracker file member charged finished kept =>
    exact capped_finished capped member _ _ _
  | unwritten i reservation usage succeeded time tracker file member finished =>
    exact capped_finished capped member _ _ _

theorem capped_run {cap : Rat} {o o' : Office} (audited : Audited cap o)
    (exact_float : ∀ q, JsonRuntime.toFloat (.float q) = .ok (some q)) (capped : Capped cap o)
    (run : Relation.ReflTransGen Office.Step o o') : Capped cap o' := by
  induction run with
  | refl => exact capped
  | tail front step ih => exact capped_step (audited.run exact_float front) ih step

/-- Whatever the trackers do, in any order, what the ledger reports for a month is exactly what
    its open requests have reserved and its finished ones have cost. -/
theorem month_booked {cap : Rat} {trackers : Nat → UsageTracker}
    (policies : ∀ i, (trackers i).policy.Accepted ∧ (trackers i).policy.monthlyUsd = cap)
    (exact_float : ∀ q, JsonRuntime.toFloat (.float q) = .ok (some q)) {o : Office}
    (run : Relation.ReflTransGen Office.Step (Office.start trackers) o) (month : String) :
    readMonth month o.file = .ok (o.booked month) :=
  ((audited_start policies).run exact_float run).read month

/-- And it exceeds the monthly budget by at most the tolerance of the test, the rounding of one
    entry, and what finished requests have cost beyond their reservations. -/
theorem month_capped {cap : Rat} {trackers : Nat → UsageTracker}
    (policies : ∀ i, (trackers i).policy.Accepted ∧ (trackers i).policy.monthlyUsd = cap)
    (exact_float : ∀ q, JsonRuntime.toFloat (.float q) = .ok (some q)) {o : Office}
    (run : Relation.ReflTransGen Office.Step (Office.start trackers) o) (month : String) :
    ∃ total, readMonth month o.file = .ok total ∧
      total ≤ cap + 1 / 1000000000000 + 1 / 2 / 10 ^ 9 + o.overrun month := by
  have audited := audited_start policies
  have start : Capped cap (Office.start trackers) := by
    intro month
    obtain ⟨accepted, monthly⟩ := policies 0
    obtain ⟨-, ⟨positive, -⟩, -⟩ := accepted
    rw [monthly] at positive
    have tolerant : (0 : Rat) < slack := by norm_num [slack]
    have nothing : (Office.start trackers).booked month = 0 := add_zero (0 : Rat)
    have nothing_over : (Office.start trackers).overrun month = 0 := rfl
    rw [nothing, nothing_over]
    positivity
  exact ⟨o.booked month, (audited.run exact_float run).read month,
    capped_run audited exact_float start run month⟩

end office
/-! Two workflows: one has finished its request, the other has not. -/

def officeCall (id : String) : Call where
  purpose := "planner"
  model := "Qwen/Qwen3-32B"
  body := .ok 300
  maxOutputTokens := 1800
  requestId := id
  month := "2026-01"
  time := "2026-01-05T00:00:00+00:00"

def officeReservation (id : String) : RequestReservation where
  requestId := id
  month := "2026-01"
  purpose := "planner"
  model := "Qwen/Qwen3-32B"
  promptEstimate := 228
  maxOutputTokens := 1800
  reservedUsd := 46824 / 100000000

def officePolicy : BudgetPolicy where
  workflowUsd := 1 / 20
  monthlyUsd := 9 / 2
  maxCalls := 3
  maxOutputTokens := 1800
  inputUsdPerMillion := 2 / 25
  outputUsdPerMillion := 1 / 4
  ledgerPath := "artifacts/llm_usage.jsonl"

def officeTrackers (i : Nat) : UsageTracker :=
  .new (if i = 0 then "run-1" else "run-2") officePolicy

def officeUsage : PyDict := [("prompt_tokens", .int 200), ("completion_tokens", .int 100)]

def officeCharge : Charge := ⟨"provider", 200, 100, 41 / 1000000⟩

def reserveLine (id run : String) : String :=
  "\x7b\"action\":\"reserve\",\"at\":\"2026-01-05T00:00:00+00:00\",\"cost_usd\":0.00046824," ++
    "\"month\":\"2026-01\",\"request_id\":\"" ++ id ++ "\",\"run_id\":\"" ++ run ++ "\"\x7d"

def settleLine : String :=
  "\x7b\"action\":\"settle\",\"at\":\"2026-01-05T00:01:00+00:00\",\"cost_usd\":4.1e-05," ++
    "\"month\":\"2026-01\",\"request_id\":\"llm_1\",\"usage_source\":\"provider\"\x7d"

def officeReserve (id : String) (i : Nat) : PyDict :=
  (reserveOf (officeTrackers i) (officeCall id) (officeReservation id)).entry

def officeSettle : PyDict :=
  (settleOf (officeReservation "llm_1") officeCharge "2026-01-05T00:01:00+00:00").entry

/-- JSON as far as the lines below need it. -/
abbrev officeJson : JsonUsage where
  loads line :=
    if line = reserveLine "llm_1" "run-1" ++ "\n" then .ok (.dict (officeReserve "llm_1" 0))
    else if line = reserveLine "llm_2" "run-2" ++ "\n" then .ok (.dict (officeReserve "llm_2" 1))
    else if line = settleLine ++ "\n" then .ok (.dict officeSettle)
    else .error .valueError
  toFloat
    | .int n => .ok (some n)
    | .float q => .ok (some q)
    | _ => .error .typeError
  isDigit c := c.isDigit
  dumps entry :=
    match lookupEntries entry "action", lookupEntries entry "request_id" with
    | some (.str "settle"), _ => settleLine
    | _, some (.str "llm_1") => reserveLine "llm_1" "run-1"
    | _, _ => reserveLine "llm_2" "run-2"
  intText _ := none

theorem officeTrackers_policies : ∀ i, (officeTrackers i).policy.Accepted ∧
    (officeTrackers i).policy.monthlyUsd = 9 / 2 := by
  intro i
  have accepted : officePolicy.Accepted := by decide +kernel
  exact ⟨accepted, rfl⟩

/-- The office after an accepted request of a tracker. -/
def officeBegun (i : Nat) (id : String) (o : Office) : Office :=
  let _ := officeJson
  { o with
    trackers := withTracker o.trackers i ((o.trackers i).begin o.file (officeCall id)).1
    file := ((o.trackers i).begin o.file (officeCall id)).2.1
    opened := (i, officeReservation id) :: o.opened }

def officeOne : Office := officeBegun 0 "llm_1" (Office.start officeTrackers)

def officeTwo : Office := officeBegun 1 "llm_2" officeOne

def officeLedger : LedgerFile :=
  let _ := officeJson
  officeTwo.file.append officeSettle

def officeThree : Office where
  trackers := withTracker officeTwo.trackers 0
    ((officeTwo.trackers 0).book (officeReservation "llm_1") officeCharge true)
  file := officeLedger
  opened := officeTwo.opened.erase (0, officeReservation "llm_1")
  settled := (officeReservation "llm_1", roundTo 9 officeCharge.cost) :: officeTwo.settled

theorem office_run : let _ := officeJson
    Relation.ReflTransGen Office.Step (Office.start officeTrackers) officeThree := by
  intro _
  have answered : (((Office.start officeTrackers).trackers 0).begin
      (Office.start officeTrackers).file (officeCall "llm_1")).2.2 =
        .ok (officeReservation "llm_1") := by
    decide +kernel
  have begun : ((Office.start officeTrackers).trackers 0).begin
      (Office.start officeTrackers).file (officeCall "llm_1") =
        (officeOne.trackers 0, officeOne.file, .ok (officeReservation "llm_1")) :=
    Prod.ext rfl (Prod.ext rfl answered)
  have first : Office.Step (Office.start officeTrackers) officeOne :=
    .accepted 0 (officeCall "llm_1") _ _ (officeReservation "llm_1") begun (by decide)
      ⟨officeReserve "llm_1" 0, rfl, fun _ _ => rfl⟩
  have second : Office.Step officeOne officeTwo := by
    have begun : ((officeOne.trackers 1).begin officeOne.file (officeCall "llm_2")).2.2 =
        .ok (officeReservation "llm_2") := by
      decide +kernel
    exact .accepted 1 (officeCall "llm_2") _ _ (officeReservation "llm_2")
      (Prod.ext rfl (Prod.ext rfl begun)) (by decide) ⟨officeReserve "llm_2" 1, rfl, fun _ _ => rfl⟩
  have third : Office.Step officeTwo officeThree := by
    have cost : price officePolicy 200 100 = 41 / 1000000 := by decide +kernel
    have policy : (officeTwo.trackers 0).policy = officePolicy := (begin_reserves begun).2.2.1
    have charged : chargeOf (officeTwo.trackers 0).policy (officeReservation "llm_1")
        (.dict officeUsage) = .ok officeCharge := by
      unfold officeCharge
      rw [policy, ← cost]
      rfl
    have finished : (officeTwo.trackers 0).finish officeTwo.file (officeReservation "llm_1")
        (.dict officeUsage) true "2026-01-05T00:01:00+00:00" =
          .ok ((officeTwo.trackers 0).book (officeReservation "llm_1") officeCharge true,
            officeLedger) := by
      unfold UsageTracker.finish
      rw [charged]
      rfl
    have kept : ReadsBack officeSettle := by
      have one : settleLine ++ "\n" ≠ reserveLine "llm_1" "run-1" ++ "\n" := by decide +kernel
      have two : settleLine ++ "\n" ≠ reserveLine "llm_2" "run-2" ++ "\n" := by decide +kernel
      exact ⟨officeSettle, (if_neg one).trans ((if_neg two).trans (if_pos rfl)), fun _ _ => rfl⟩
    exact .finished 0 (officeReservation "llm_1") (.dict officeUsage) true
      "2026-01-05T00:01:00+00:00" officeCharge _ _ (List.mem_cons_of_mem _ List.mem_cons_self)
      charged finished kept
  exact ((Relation.ReflTransGen.single first).tail second).tail third

theorem office_booked : let _ := officeJson
    readMonth "2026-01" officeThree.file = .ok (officeThree.booked "2026-01") := by
  intro _
  exact month_booked officeTrackers_policies (fun _ => rfl) office_run "2026-01"

theorem office_capped : let _ := officeJson
    ∃ total, readMonth "2026-01" officeThree.file = .ok total ∧
      total ≤ 9 / 2 + 1 / 1000000000000 + 1 / 2 / 10 ^ 9 + officeThree.overrun "2026-01" := by
  intro _
  exact month_capped officeTrackers_policies (fun _ => rfl) office_run "2026-01"

end UsageLedger
