import AeaiOs.HonestAnalysis
import AeaiOs.StreamedSummary

/-!
When the totals of the streamed overview are the exact sums of the cells.
-/
namespace Analytics
open PyText OrderedDict RiskScan HalfEven GroupSums

section totals
variable [MonthReader]

def payments (layout : StreamLayout) (records : List (List String)) : List Payment :=
  records.filterMap (paymentOf layout)

end totals

def Payment.byMonth (payment : Payment) : Option (String × Rat) :=
  monthPair payment.month payment.value

def supplierPairs (found : List Payment) : List (String × Rat) :=
  found.map fun payment => payment.bySupplier

def categoryPairs (found : List Payment) : List (String × Rat) :=
  found.map fun payment => payment.byCategory

def monthPairs (found : List Payment) : List (String × Rat) := found.filterMap Payment.byMonth

def totalPaid (found : List Payment) : Rat := (found.map fun payment => payment.value).sum

/-- The total and the totals of the groups are the exact sums. -/
structure StreamScan.TotalsExact (scan : StreamScan) (found : List Payment) : Prop where
  total : scan.amountTotal = totalPaid found
  suppliers : scan.suppliers = groupSums (supplierPairs found)
  categories : scan.categories = groupSums (categoryPairs found)
  months : scan.months = groupSums (monthPairs found)

theorem StreamScan.totalsExact_empty : ({} : StreamScan).TotalsExact [] := ⟨rfl, rfl, rfl, rfl⟩

/-- The sums that a payment joins are not rounded. -/
structure JoinsExactly (context : DecimalContext) (earlier : List Payment) (next : Payment) :
    Prop where
  total : context (totalPaid (earlier ++ [next])) = .ok (totalPaid (earlier ++ [next]))
  supplier : context (sumOf (supplierPairs (earlier ++ [next])) next.supplier) =
    .ok (sumOf (supplierPairs (earlier ++ [next])) next.supplier)
  category : context (sumOf (categoryPairs (earlier ++ [next])) next.category) =
    .ok (sumOf (categoryPairs (earlier ++ [next])) next.category)
  month : ∀ pair, next.byMonth = some pair →
    context (sumOf (monthPairs (earlier ++ [next])) pair.1) =
      .ok (sumOf (monthPairs (earlier ++ [next])) pair.1)

/-- No sum of the scan is rounded. -/
def NeverRounded (context : DecimalContext) (found : List Payment) : Prop :=
  ∀ earlier next, earlier ++ [next] <+: found → JoinsExactly context earlier next

/-- Room in the tables of the groups. -/
structure GroupsFit (limits : ScanLimits) (found : List Payment) : Prop where
  suppliers : (groupSums (supplierPairs found)).entries.length ≤ limits.groupLimit
  categories : (groupSums (categoryPairs found)).entries.length ≤ limits.groupLimit
  months : (groupSums (monthPairs found)).entries.length ≤ 2400

theorem totalPaid_snoc (earlier : List Payment) (next : Payment) :
    totalPaid (earlier ++ [next]) = totalPaid earlier + next.value := by
  simp [totalPaid]

theorem supplierPairs_snoc (earlier : List Payment) (next : Payment) :
    supplierPairs (earlier ++ [next]) = supplierPairs earlier ++ [next.bySupplier] := by
  simp [supplierPairs]

theorem categoryPairs_snoc (earlier : List Payment) (next : Payment) :
    categoryPairs (earlier ++ [next]) = categoryPairs earlier ++ [next.byCategory] := by
  simp [categoryPairs]

theorem monthPairs_snoc (earlier : List Payment) (next : Payment) :
    monthPairs (earlier ++ [next]) = monthPairs earlier ++ next.byMonth.toList := by
  unfold monthPairs
  rw [List.filterMap_append]
  cases month : next.byMonth <;> simp [month]

/-- The tables grow with the payments. -/
theorem groups_grow (pairs more : List (String × Rat)) :
    (groupSums pairs).entries.length ≤ (groupSums (pairs ++ more)).entries.length := by
  have inside : (groupSums pairs).keys ⊆ (groupSums (pairs ++ more)).keys := by
    intro key member
    rw [mem_keys_groupSums] at member ⊢
    rw [List.map_append]
    exact List.mem_append_left _ member
  have subperm := List.subperm_of_subset (groupSums pairs).keys_nodup inside
  have length := subperm.length_le
  simpa [Dict.keys] using length

/-- A full table has no room for a new group, so a group that is added to it is an old one. -/
theorem fits_of_room {limit : Nat} {pairs : List (String × Rat)} {next : String × Rat}
    (room : (groupSums (pairs ++ [next])).entries.length ≤ limit) :
    fits limit (groupSums pairs) next.1 = true := by
  unfold fits
  cases stored : (groupSums pairs).get? next.1 with
  | some sum => rfl
  | none =>
    have grown : (groupSums (pairs ++ [next])).keys = (groupSums pairs).keys ++ [next.1] := by
      rw [groupSums_append pairs next.1 next.2, addTo]
      exact Dict.keys_set_of_fresh _ stored
    have length := congrArg List.length grown
    simp only [Dict.keys, List.length_map, List.length_append, List.length_singleton] at length
    rw [Bool.or_eq_true, decide_eq_true_eq]
    omega

/-! One payment. -/

theorem byMonth_none {next : Payment} (untimed : next.month = none ∨ next.month = some "") :
    next.byMonth = none := by
  unfold Payment.byMonth monthPair
  rcases untimed with none | blank
  · rw [none]
    rfl
  · rw [blank]
    rfl

theorem byMonth_some {next : Payment} {month : String} (dated : next.month = some month)
    (named : month ≠ "") : next.byMonth = some (month, next.value) := by
  unfold Payment.byMonth monthPair
  rw [dated]
  simp [named]

theorem addMonth_exact {context : DecimalContext} {scan : StreamScan} {found : List Payment}
    {next : Payment} (months : scan.months = groupSums (monthPairs found))
    (joins : ∀ pair, next.byMonth = some pair →
      context (sumOf (monthPairs (found ++ [next])) pair.1) =
        .ok (sumOf (monthPairs (found ++ [next])) pair.1))
    (room : (groupSums (monthPairs (found ++ [next]))).entries.length ≤ 2400) :
    ∃ datedRows, addMonth context scan next.month next.value =
      .ok { scan with months := groupSums (monthPairs (found ++ [next])), datedRows } := by
  unfold addMonth
  rw [monthPairs_snoc] at joins room ⊢
  cases dated : next.month with
  | none =>
    rw [byMonth_none (.inl dated), Option.toList_none, List.append_nil, ← months]
    exact ⟨_, rfl⟩
  | some month =>
    by_cases blank : month = ""
    · rw [byMonth_none (.inr (blank ▸ dated)), Option.toList_none, List.append_nil, ← months]
      exact ⟨_, if_pos blank⟩
    · have pair := byMonth_some dated blank
      rw [pair, Option.toList_some] at joins room ⊢
      have added : addIn context scan.months month next.value =
          .ok (groupSums (monthPairs found ++ [(month, next.value)])) := by
        rw [months]
        exact addIn_groupSums.mpr (joins _ rfl)
      simp only [if_neg blank, added, if_neg (not_lt.mpr room), bind, Except.bind, pure, Except.pure]
      exact ⟨_, rfl⟩

theorem addPayment_exact {context : DecimalContext} {limits : ScanLimits} {scan : StreamScan}
    {found : List Payment} {next : Payment} (totals : scan.TotalsExact found)
    (joins : JoinsExactly context found next) (room : GroupsFit limits (found ++ [next])) :
    ∃ after, addPayment context limits scan next = .ok after ∧
      after.TotalsExact (found ++ [next]) ∧ after.rowCount = scan.rowCount := by
  have total : context (scan.amountTotal + next.value) = .ok (totalPaid (found ++ [next])) := by
    rw [totals.total, ← totalPaid_snoc]
    exact joins.total
  have supplier_fits : fits limits.groupLimit scan.suppliers next.supplier = true := by
    rw [totals.suppliers]
    exact @fits_of_room _ _ next.bySupplier (supplierPairs_snoc found next ▸ room.suppliers)
  have category_fits : fits limits.groupLimit scan.categories next.category = true := by
    rw [totals.categories]
    exact @fits_of_room _ _ next.byCategory (categoryPairs_snoc found next ▸ room.categories)
  have suppliers : addIn context scan.suppliers next.supplier next.value =
      .ok (groupSums (supplierPairs (found ++ [next]))) := by
    rw [totals.suppliers, supplierPairs_snoc]
    exact (@addIn_groupSums _ _ _ _ _ _ _ next.bySupplier).mpr
      (supplierPairs_snoc found next ▸ joins.supplier)
  have categories : addIn context scan.categories next.category next.value =
      .ok (groupSums (categoryPairs (found ++ [next]))) := by
    rw [totals.categories, categoryPairs_snoc]
    exact (@addIn_groupSums _ _ _ _ _ _ _ next.byCategory).mpr
      (categoryPairs_snoc found next ▸ joins.category)
  unfold addPayment
  simp only [total, supplier_fits, category_fits, suppliers, categories, bind, Except.bind,
    Bool.true_eq_false, if_false]
  obtain ⟨datedRows, added⟩ := @addMonth_exact context
    { scan with
      validAmounts := scan.validAmounts + 1
      amountTotal := totalPaid (found ++ [next])
      suppliers := groupSums (supplierPairs (found ++ [next]))
      categories := groupSums (categoryPairs (found ++ [next]))
      supplierCounts := addTo scan.supplierCounts next.supplier 1
      categoryCounts := addTo scan.categoryCounts next.category 1 }
    found next totals.months joins.month room.months
  exact ⟨_, added, ⟨rfl, rfl, rfl, rfl⟩, rfl⟩

/-- What an added month leaves of the scan. -/
theorem addMonth_cases {context : DecimalContext} {scan after : StreamScan}
    {month : Option String} {value : Rat} (added : addMonth context scan month value = .ok after) :
    after = { scan with months := after.months, datedRows := after.datedRows } ∧
      (monthPair month value = none → after.months = scan.months) ∧
        ∀ pair, monthPair month value = some pair →
          addIn context scan.months pair.1 pair.2 = .ok after.months := by
  unfold addMonth at added
  cases month with
  | none =>
    cases added
    exact ⟨rfl, fun _ => rfl, fun pair is_pair => by cases is_pair⟩
  | some text =>
    simp only at added
    split at added
    · rename_i blank
      cases added
      refine ⟨rfl, fun _ => rfl, ?_⟩
      intro pair is_pair
      simp [monthPair, blank] at is_pair
    · rename_i named
      have is_pair : monthPair (some text) value = some (text, value) := by
        simp [monthPair, named]
      cases summed : addIn context scan.months text value with
      | error e =>
        rw [summed] at added
        cases added
      | ok months =>
        rw [summed] at added
        simp only [bind, Except.bind] at added
        split at added
        · cases added
        · cases added
          rw [is_pair]
          refine ⟨rfl, fun absent => (by cases absent), ?_⟩
          intro pair same
          cases same
          exact summed

/-- What an added payment leaves of the scan. -/
structure PaymentAdded (context : DecimalContext) (scan after : StreamScan) (next : Payment) :
    Prop where
  rowCount : after.rowCount = scan.rowCount
  validAmounts : after.validAmounts = scan.validAmounts + 1
  invalidAmounts : after.invalidAmounts = scan.invalidAmounts
  total : context (scan.amountTotal + next.value) = .ok after.amountTotal
  suppliers : addIn context scan.suppliers next.supplier next.value = .ok after.suppliers
  categories : addIn context scan.categories next.category next.value = .ok after.categories
  undated : next.byMonth = none → after.months = scan.months
  dated : ∀ pair, next.byMonth = some pair →
    addIn context scan.months pair.1 pair.2 = .ok after.months

theorem addPayment_cases {context : DecimalContext} {limits : ScanLimits} {scan after : StreamScan}
    {next : Payment} (added : addPayment context limits scan next = .ok after) :
    PaymentAdded context scan after next := by
  unfold addPayment at added
  simp only [bind, Except.bind] at added
  split at added
  · cases added
  rename_i total summed
  split at added
  · cases added
  split at added
  · cases added
  split at added
  · cases added
  rename_i suppliers supplied
  split at added
  · cases added
  rename_i categories categorized
  obtain ⟨shape, undated, dated⟩ := addMonth_cases added
  constructor
  · rw [shape]
  · rw [shape]
  · rw [shape]
  · rw [shape]
    exact summed
  · rw [shape]
    exact supplied
  · rw [shape]
    exact categorized
  · exact undated
  · exact dated

/-- Where the totals are still exact after a payment, none of its sums was rounded. -/
theorem joins_of_exact {context : DecimalContext} {limits : ScanLimits} {scan after : StreamScan}
    {found : List Payment} {next : Payment} (totals : scan.TotalsExact found)
    (added : addPayment context limits scan next = .ok after)
    (still : after.TotalsExact (found ++ [next])) : JoinsExactly context found next := by
  have cases := addPayment_cases added
  have total := cases.total
  have suppliers := cases.suppliers
  have categories := cases.categories
  rw [totals.total, ← totalPaid_snoc, still.total] at total
  rw [totals.suppliers, still.suppliers, supplierPairs_snoc] at suppliers
  rw [totals.categories, still.categories, categoryPairs_snoc] at categories
  constructor
  · exact total
  · rw [supplierPairs_snoc]
    exact (@addIn_groupSums _ _ _ _ _ _ _ next.bySupplier).mp suppliers
  · rw [categoryPairs_snoc]
    exact (@addIn_groupSums _ _ _ _ _ _ _ next.byCategory).mp categories
  · intro pair is_pair
    have month := cases.dated pair is_pair
    rw [totals.months, still.months, monthPairs_snoc, is_pair, Option.toList_some] at month
    rw [monthPairs_snoc, is_pair, Option.toList_some]
    exact addIn_groupSums.mp month

/-! The scan. -/

section scan
variable [MonthReader]

structure WithinLimits (limits : ScanLimits) (late : Nat → Bool) (layout : StreamLayout)
    (records : List (List String)) : Prop where
  rows : records.length ≤ limits.maxRows
  time : ∀ row, row % 10000 = 0 → 1 ≤ row → row ≤ records.length → late row = false
  groups : GroupsFit limits (payments layout records)

theorem payments_snoc (layout : StreamLayout) (earlier : List (List String))
    (record : List String) : payments layout (earlier ++ [record]) =
      payments layout earlier ++ (paymentOf layout record).toList := by
  unfold payments
  rw [List.filterMap_append]
  cases payment : paymentOf layout record <;> simp [payment]

theorem payments_append (layout : StreamLayout) (earlier later : List (List String)) :
    payments layout (earlier ++ later) = payments layout earlier ++ payments layout later :=
  List.filterMap_append

omit [MonthReader] in
theorem GroupsFit.of_prefix {limits : ScanLimits} {earlier later : List Payment}
    (room : GroupsFit limits (earlier ++ later)) : GroupsFit limits earlier := by
  obtain ⟨suppliers, categories, months⟩ := room
  unfold supplierPairs at suppliers
  unfold categoryPairs at categories
  unfold monthPairs at months
  rw [List.map_append] at suppliers categories
  rw [List.filterMap_append] at months
  exact ⟨(groups_grow _ _).trans suppliers, (groups_grow _ _).trans categories,
    (groups_grow _ _).trans months⟩

theorem scanRecords_snoc (context : DecimalContext) (limits : ScanLimits) (late : Nat → Bool)
    (layout : StreamLayout) (scan : StreamScan) (earlier : List (List String))
    (record : List String) :
    scanRecords context limits late layout scan (earlier ++ [record]) =
      (scanRecords context limits late layout scan earlier).bind fun before =>
        scanRecord context limits late layout before record := by
  induction earlier generalizing scan with
  | nil =>
    simp only [List.nil_append, scanRecords, bind, Except.bind]
    cases scanRecord context limits late layout scan record <;> rfl
  | cons first rest ih =>
    simp only [List.cons_append, scanRecords, bind, Except.bind]
    cases scanRecord context limits late layout scan first with
    | error e => rfl
    | ok next => exact ih next

/-- One row: the totals stay exact if and only if no sum that it joins is rounded. -/
theorem scanRecord_exact {context : DecimalContext} {limits : ScanLimits} {late : Nat → Bool}
    {layout : StreamLayout} {scan : StreamScan} {found : List Payment} {record : List String}
    (totals : scan.TotalsExact found)
    (row : scan.rowCount + 1 ≤ limits.maxRows)
    (time : (scan.rowCount + 1) % 10000 = 0 → late (scan.rowCount + 1) = false)
    (room : GroupsFit limits (found ++ (paymentOf layout record).toList)) :
    (∃ after, scanRecord context limits late layout scan record = .ok after ∧
        after.TotalsExact (found ++ (paymentOf layout record).toList) ∧
        after.rowCount = scan.rowCount + 1) ↔
      ∀ next, paymentOf layout record = some next → JoinsExactly context found next := by
  have timely : ¬ ((scan.rowCount + 1) % 10000 = 0 ∧ late (scan.rowCount + 1) = true) := by
    rintro ⟨whole, up⟩
    rw [time whole] at up
    cases up
  unfold scanRecord
  rw [if_neg (by omega), if_neg timely]
  cases payment : paymentOf layout record with
  | none =>
    rw [Option.toList_none, List.append_nil]
    constructor
    · intro _ next is_next
      cases is_next
    · intro _
      exact ⟨_, rfl, ⟨totals.total, totals.suppliers, totals.categories, totals.months⟩, rfl⟩
  | some next =>
    rw [payment, Option.toList_some] at room
    rw [Option.toList_some]
    have counted : ({ scan with
        rowCount := scan.rowCount + 1
        missingCells := scan.missingCells + missingCellsOf layout.headers record } :
          StreamScan).TotalsExact found :=
      ⟨totals.total, totals.suppliers, totals.categories, totals.months⟩
    constructor
    · rintro ⟨after, added, still, -⟩ other same
      cases same
      exact joins_of_exact counted added still
    · intro joins
      exact addPayment_exact counted (joins next rfl) room

theorem scanRecord_rowCount {context : DecimalContext} {limits : ScanLimits} {late : Nat → Bool}
    {layout : StreamLayout} {scan after : StreamScan} {record : List String}
    (scanned : scanRecord context limits late layout scan record = .ok after) :
    after.rowCount = scan.rowCount + 1 := by
  unfold scanRecord at scanned
  split at scanned
  · cases scanned
  split at scanned
  · cases scanned
  cases payment : paymentOf layout record with
  | none =>
    rw [payment] at scanned
    cases scanned
    rfl
  | some next =>
    rw [payment] at scanned
    exact (addPayment_cases scanned).rowCount

theorem scanRecords_rowCount {context : DecimalContext} {limits : ScanLimits} {late : Nat → Bool}
    {layout : StreamLayout} {scan after : StreamScan} {records : List (List String)}
    (scanned : scanRecords context limits late layout scan records = .ok after) :
    after.rowCount = scan.rowCount + records.length := by
  induction records generalizing scan with
  | nil =>
    cases scanned
    rfl
  | cons record rest ih =>
    simp only [scanRecords, bind, Except.bind] at scanned
    split at scanned
    · cases scanned
    rename_i next first
    have later := ih scanned
    have counted := scanRecord_rowCount first
    rw [List.length_cons]
    omega

/-- After every row the total and the totals of the groups are the exact sums so far. -/
def TotalsStayExact (context : DecimalContext) (limits : ScanLimits) (late : Nat → Bool)
    (layout : StreamLayout) (records : List (List String)) : Prop :=
  ∀ earlier, earlier <+: records → ∃ scan,
    scanRecords context limits late layout {} earlier = .ok scan ∧
      scan.TotalsExact (payments layout earlier)

omit [MonthReader] in
theorem neverRounded_snoc {context : DecimalContext} {found : List Payment}
    {last : Option Payment} :
    NeverRounded context (found ++ last.toList) ↔
      NeverRounded context found ∧ ∀ next, last = some next → JoinsExactly context found next := by
  cases last with
  | none => simp
  | some next =>
    rw [Option.toList_some]
    constructor
    · intro exactly
      constructor
      · exact fun earlier other inside => exactly earlier other (inside.trans (List.prefix_append _ _))
      · intro other same
        cases same
        exact exactly found next List.prefix_rfl
    · rintro ⟨before, joins⟩ earlier other inside
      rw [List.prefix_concat_iff] at inside
      rcases inside with whole | inside
      · obtain ⟨rfl, rfl⟩ := List.append_inj' whole rfl |>.imp_right List.singleton_inj.mp
        exact joins _ rfl
      · exact before earlier other inside

theorem totals_stay_exact_iff {context : DecimalContext} {limits : ScanLimits} {late : Nat → Bool}
    {layout : StreamLayout} {records : List (List String)}
    (within : WithinLimits limits late layout records) :
    TotalsStayExact context limits late layout records ↔
      NeverRounded context (payments layout records) := by
  induction records using List.reverseRecOn with
  | nil =>
    constructor
    · intro _ earlier next inside
      have length := inside.length_le
      simp [payments] at length
    · intro _ earlier inside
      rw [List.prefix_nil] at inside
      subst inside
      exact ⟨{}, rfl, StreamScan.totalsExact_empty⟩
  | append_singleton records record ih =>
    obtain ⟨rows, time, groups⟩ := within
    rw [List.length_append, List.length_singleton] at rows time
    have before : WithinLimits limits late layout records := by
      refine ⟨by omega, fun row whole low high => time row whole low (by omega), ?_⟩
      rw [payments_append] at groups
      exact groups.of_prefix
    rw [payments_snoc] at groups ⊢
    rw [neverRounded_snoc, ← ih before]
    constructor
    · intro exactly
      have earlier : TotalsStayExact context limits late layout records :=
        fun front inside => exactly front (inside.trans (List.prefix_append _ _))
      refine ⟨earlier, ?_⟩
      obtain ⟨scan, scanned, totals⟩ := earlier records List.prefix_rfl
      obtain ⟨after, all, still⟩ := exactly _ List.prefix_rfl
      have counted := scanRecords_rowCount scanned
      rw [scanRecords_snoc, scanned] at all
      rw [payments_snoc] at still
      apply (scanRecord_exact totals _ _ groups).mp ⟨after, all, still, scanRecord_rowCount all⟩
      · simp at counted
        omega
      · intro whole
        apply time _ whole
        · omega
        · simp at counted
          omega
    · rintro ⟨earlier, joins⟩ front inside
      rw [List.prefix_concat_iff] at inside
      rcases inside with rfl | inside
      · obtain ⟨scan, scanned, totals⟩ := earlier records List.prefix_rfl
        have counted := scanRecords_rowCount scanned
        obtain ⟨after, next, still, -⟩ := (scanRecord_exact totals (by simp at counted; omega)
          (fun whole => time _ whole (by omega) (by simp at counted; omega)) groups).mpr joins
        refine ⟨after, ?_, ?_⟩
        · rw [scanRecords_snoc, scanned]
          exact next
        · rw [payments_snoc]
          exact still
      · exact earlier front inside

/-- The exact sums of the groups, added in the order in which the groups came, make up the
    total. -/
def GroupsAddUp (context : DecimalContext) (found : List Payment) : Prop :=
  sumIn context (groupSums (supplierPairs found)).values = .ok (totalPaid found) ∧
    sumIn context (groupSums (categoryPairs found)).values = .ok (totalPaid found)

omit [MonthReader] in
theorem groupsReconcile_iff {context : DecimalContext} {scan : StreamScan} {found : List Payment}
    (totals : scan.TotalsExact found) :
    groupsReconcile context scan = .ok true ↔ GroupsAddUp context found := by
  unfold groupsReconcile GroupsAddUp
  rw [totals.suppliers, totals.categories, totals.total]
  cases sumIn context (groupSums (supplierPairs found)).values with
  | error e => simp [bind, Except.bind]
  | ok suppliers =>
    by_cases same : suppliers = totalPaid found
    · cases sumIn context (groupSums (categoryPairs found)).values with
      | error e => simp [same, bind, Except.bind]
      | ok categories => simp [same, bind, Except.bind, pure, Except.pure]
    · simp [same, bind, Except.bind, pure, Except.pure]

/-- The file passes the comparison of the groups with the total. -/
def NeverRejected (context : DecimalContext) (limits : ScanLimits) (late : Nat → Bool)
    (layout : StreamLayout) (records : List (List String)) : Prop :=
  ∃ scan, scanRecords context limits late layout {} records = .ok scan ∧
    groupsReconcile context scan = .ok true

/-- The totals are exact, and the file is not rejected, if and only if no sum is rounded and the
    groups add up. -/
theorem streamed_totals_exact_iff {limits : ScanLimits} {late : Nat → Bool}
    {layout : StreamLayout} {records : List (List String)}
    (within : WithinLimits limits late layout records) :
    (TotalsStayExact defaultContext limits late layout records ∧
        NeverRejected defaultContext limits late layout records) ↔
      NeverRounded defaultContext (payments layout records) ∧
        GroupsAddUp defaultContext (payments layout records) := by
  rw [← totals_stay_exact_iff within]
  apply and_congr_right
  intro exactly
  obtain ⟨scan, scanned, totals⟩ := exactly records List.prefix_rfl
  rw [← groupsReconcile_iff totals]
  constructor
  · rintro ⟨other, again, reconciled⟩
    rw [scanned, Except.ok.injEq] at again
    rw [again]
    exact reconciled
  · intro reconciled
    exact ⟨scan, scanned, reconciled⟩

end scan

/-! Payments of many digits. -/

def scanLimits : ScanLimits := ⟨1000000, 512, 50000⟩

def purchaseLayout : StreamLayout :=
  ⟨⟨["supplier", "category", "amount"], "amount", "supplier", "category"⟩, none⟩

theorem small_payments_exact :
    let _ := noMonths
    TotalsStayExact defaultContext scanLimits (fun _ => false) purchaseLayout
        [["Acme", "IT", "40"]] ∧
      NeverRejected defaultContext scanLimits (fun _ => false) purchaseLayout
        [["Acme", "IT", "40"]] := by
  intro _
  have found : payments purchaseLayout [["Acme", "IT", "40"]] = [⟨⟨"Acme", "IT", 40⟩, none⟩] := by
    decide +kernel
  have forty : defaultContext 40 = .ok 40 := by decide +kernel
  have within : WithinLimits scanLimits (fun _ => false) purchaseLayout [["Acme", "IT", "40"]] := by
    refine ⟨by decide, fun _ _ _ _ => rfl, ?_⟩
    rw [found]
    constructor <;> decide
  apply (streamed_totals_exact_iff within).mpr
  rw [found]
  constructor
  · intro earlier next inside
    obtain ⟨rfl, rfl⟩ := only_prefix inside
    constructor
    · simpa [totalPaid] using forty
    · simpa [supplierPairs, Spending.bySupplier, sumOf] using forty
    · simpa [categoryPairs, Spending.byCategory, sumOf] using forty
    · intro pair month
      cases month
  · constructor <;> decide +kernel

/-- Two payments of four after one of twenty-nine digits are lost in the total, but not in the sum
    of their supplier. -/
theorem large_payments_rejected :
    let _ := noMonths
    ¬ ∀ limits late layout records, WithinLimits limits late layout records →
      TotalsStayExact defaultContext limits late layout records ∧
        NeverRejected defaultContext limits late layout records := by
  intro _ exactly
  have within : WithinLimits scanLimits (fun _ => false) purchaseLayout
      [["Acme", "IT", "10000000000000000000000000000"], ["Bolt", "IT", "4"], ["Bolt", "IT", "4"]] := by
    refine ⟨by decide, fun _ _ _ _ => rfl, ?_⟩
    constructor <;> decide
  obtain ⟨-, scan, scanned, reconciled⟩ := exactly _ _ _ _ within
  have evaluated : ((scanRecords defaultContext scanLimits (fun _ => false) purchaseLayout {}
      [["Acme", "IT", "10000000000000000000000000000"], ["Bolt", "IT", "4"],
        ["Bolt", "IT", "4"]]).bind (groupsReconcile defaultContext)) = .ok false := by
    decide +kernel
  rw [scanned] at evaluated
  exact absurd (reconciled.symm.trans evaluated) (by decide)

end Analytics
