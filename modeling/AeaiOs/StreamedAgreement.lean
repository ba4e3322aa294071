import AeaiOs.StreamedTotals

/-!
The streamed overview and the in-memory analysis of one file, in exact arithmetic.
-/
namespace Analytics
open PyText OrderedDict RiskScan ExceptLists HalfEven GroupSums

/-! Tables sorted by month. -/

theorem monthlySpend_perm (months : Dict String Rat) :
    (monthlySpend months).Perm (months.entries.map fun entry => (entry.1, roundTo 4 entry.2)) :=
  (List.mergeSort_perm _ _).map _

theorem mem_monthlySpend {months : Dict String Rat} {entry : String × Rat} :
    entry ∈ monthlySpend months ↔ (months.get? entry.1).map (roundTo 4) = some entry.2 := by
  rw [(monthlySpend_perm months).mem_iff, List.mem_map, Option.map_eq_some_iff]
  constructor
  · rintro ⟨⟨month, sum⟩, inside, rfl⟩
    exact ⟨sum, Dict.get?_of_mem_entries inside, rfl⟩
  · rintro ⟨sum, stored, rounded⟩
    exact ⟨(entry.1, sum), Dict.mem_entries_of_get? stored, by rw [rounded]⟩

theorem monthlySpend_sorted (months : Dict String Rat) :
    (monthlySpend months).Pairwise fun a b => a.1 ≤ b.1 := by
  have sorted := @List.pairwise_mergeSort _ (fun a b : String × Rat => decide (a.1 ≤ b.1))
    (fun a b c first second => by
      simp only [decide_eq_true_eq] at first second ⊢
      exact le_trans first second)
    (fun a b => by
      simp only [Bool.or_eq_true, decide_eq_true_eq]
      exact le_total _ _) months.entries
  unfold monthlySpend
  rw [List.pairwise_map]
  exact sorted.imp fun smaller => by simpa using smaller

/-- Two tables are reported alike if and only if their months have the same rounded sums. -/
theorem monthlySpend_eq_iff {months others : Dict String Rat} :
    monthlySpend months = monthlySpend others ↔
      ∀ month, (months.get? month).map (roundTo 4) = (others.get? month).map (roundTo 4) := by
  constructor
  · intro same month
    apply Option.ext
    intro sum
    have there := @mem_monthlySpend months (month, sum)
    rw [same, mem_monthlySpend] at there
    exact there.symm
  · intro same
    have distinct : ∀ table : Dict String Rat, (monthlySpend table).Nodup := by
      intro table
      apply List.Nodup.of_map Prod.fst
      apply ((monthlySpend_perm table).map Prod.fst).nodup_iff.mpr
      rw [List.map_map]
      exact table.keys_nodup
    have perm : (monthlySpend months).Perm (monthlySpend others) := by
      apply (List.perm_ext_iff_of_nodup (distinct _) (distinct _)).mpr
      intro entry
      rw [mem_monthlySpend, mem_monthlySpend, same]
    apply perm.eq_of_pairwise _ (monthlySpend_sorted _) (monthlySpend_sorted _)
    intro a b first second low high
    have key := le_antisymm low high
    rw [mem_monthlySpend] at first second
    rw [key, same, second] at first
    exact Prod.ext key (Option.some.inj first).symm

/-! The streamed scan in exact arithmetic. -/

structure StreamScan.Sums (scan : StreamScan) (found : List Payment) (rowCount : Nat) : Prop where
  totals : scan.TotalsExact found
  rows : scan.rowCount = rowCount
  valid : scan.validAmounts = found.length
  invalid : scan.invalidAmounts + found.length = rowCount

section scan
variable [MonthReader]

omit [MonthReader] in
theorem PaymentAdded.sums {scan after : StreamScan} {found : List Payment}
    {next : Payment} (added : PaymentAdded exactContext scan after next)
    (totals : scan.TotalsExact found) : after.TotalsExact (found ++ [next]) := by
  obtain ⟨-, -, -, total, suppliers, categories, undated, dated⟩ := added
  constructor
  · rw [totalPaid_snoc, ← totals.total]
    exact (Except.ok.inj total).symm
  · rw [supplierPairs_snoc]
    rw [totals.suppliers] at suppliers
    exact Except.ok.inj (suppliers.symm.trans
      ((@addIn_groupSums _ _ _ _ _ exactContext _ next.bySupplier).mpr rfl))
  · rw [categoryPairs_snoc]
    rw [totals.categories] at categories
    exact Except.ok.inj (categories.symm.trans
      ((@addIn_groupSums _ _ _ _ _ exactContext _ next.byCategory).mpr rfl))
  · rw [monthPairs_snoc]
    cases month : next.byMonth with
    | none => rw [undated month, totals.months, Option.toList_none, List.append_nil]
    | some pair =>
      have summed := dated pair month
      rw [totals.months] at summed
      rw [Option.toList_some]
      exact Except.ok.inj (summed.symm.trans
        ((@addIn_groupSums _ _ _ _ _ exactContext _ pair).mpr rfl))

theorem scanRecord_sums {limits : ScanLimits} {late : Nat → Bool} {layout : StreamLayout}
    {scan after : StreamScan} {found : List Payment} {rowCount : Nat} {record : List String}
    (sums : scan.Sums found rowCount)
    (scanned : scanRecord exactContext limits late layout scan record = .ok after) :
    after.Sums (found ++ (paymentOf layout record).toList) (rowCount + 1) := by
  obtain ⟨totals, rows, valid, invalid⟩ := sums
  have counted := scanRecord_rowCount scanned
  unfold scanRecord at scanned
  split at scanned
  · cases scanned
  split at scanned
  · cases scanned
  cases payment : paymentOf layout record with
  | none =>
    rw [payment] at scanned
    cases scanned
    rw [Option.toList_none, List.append_nil]
    exact ⟨⟨totals.total, totals.suppliers, totals.categories, totals.months⟩, by simp [rows], valid,
      by simp only; omega⟩
  | some next =>
    rw [payment] at scanned
    have added := addPayment_cases scanned
    have before : ({ scan with
        rowCount := scan.rowCount + 1
        missingCells := scan.missingCells + missingCellsOf layout.headers record } :
          StreamScan).TotalsExact found :=
      ⟨totals.total, totals.suppliers, totals.categories, totals.months⟩
    have more := added.validAmounts
    have same := added.invalidAmounts
    simp only at more same
    rw [Option.toList_some]
    refine ⟨added.sums before, by omega, ?_, ?_⟩
    · rw [List.length_append, List.length_singleton]
      omega
    · rw [List.length_append, List.length_singleton]
      omega

theorem scanRecords_sums {limits : ScanLimits} {late : Nat → Bool} {layout : StreamLayout}
    {scan after : StreamScan} {found : List Payment} {rowCount : Nat}
    {records : List (List String)} (sums : scan.Sums found rowCount)
    (scanned : scanRecords exactContext limits late layout scan records = .ok after) :
    after.Sums (found ++ payments layout records) (rowCount + records.length) := by
  induction records generalizing scan found rowCount with
  | nil =>
    cases scanned
    simpa [payments] using sums
  | cons record rest ih =>
    simp only [scanRecords, bind, Except.bind] at scanned
    split at scanned
    · cases scanned
    rename_i next first
    have later := ih (scanRecord_sums sums first) scanned
    have split : payments layout (record :: rest) =
        (paymentOf layout record).toList ++ payments layout rest := by
      unfold payments
      rw [List.filterMap_cons]
      cases paymentOf layout record <;> rfl
    rw [split, List.length_cons, ← List.append_assoc, Nat.add_comm rest.length, ← Nat.add_assoc]
    exact later

end scan

/-! The columns. -/

theorem zip_strip (headers : List String) :
    (headers.map strip).zip headers = headers.map fun raw => (strip raw, raw) := by
  induction headers with
  | nil => rfl
  | cons raw rest ih => rw [List.map_cons, List.zip_cons_cons, ih, List.map_cons]

theorem rawName_some [MonthReader] {headers : List String} {role : Role} {raw : String}
    (found : rawName headers role = some raw) :
    raw ∈ headers ∧ resolveColumn (headers.map strip) role = some (strip raw) := by
  unfold rawName at found
  obtain ⟨column, resolved, there⟩ := Option.bind_eq_some_iff.mp found
  have member := mem_of_lookupEntries there
  rw [zip_strip] at member
  obtain ⟨other, inside, same⟩ := List.mem_map.mp member
  obtain ⟨stripped, rfl⟩ := Prod.mk.inj same
  exact ⟨inside, stripped ▸ resolved⟩

theorem rawName_none [MonthReader] {headers : List String} {role : Role}
    (absent : rawName headers role = none) :
    resolveColumn (headers.map strip) role = none := by
  unfold rawName at absent
  cases resolved : resolveColumn (headers.map strip) role with
  | none => rfl
  | some column =>
    rw [resolved, Option.bind_some, lookupEntries_none] at absent
    exfalso
    apply absent
    rw [List.map_fst_zip (by simp)]
    exact resolveColumn_mem resolved

theorem streamLayout_reads [MonthReader] {headers : List String} {layout : StreamLayout}
    (distinct : (headers.map strip).Nodup) (columns : streamLayout headers = some layout) :
    layout.headers = headers ∧ layout.Reads (resolveColumn (headers.map strip)) ∧
      layout.date = rawName headers .date := by
  unfold streamLayout at columns
  split at columns
  · rename_i amount supplier category has_amount has_supplier has_category
    cases columns
    obtain ⟨amount_mem, amount_is⟩ := rawName_some has_amount
    obtain ⟨supplier_mem, supplier_is⟩ := rawName_some has_supplier
    obtain ⟨category_mem, category_is⟩ := rawName_some has_category
    exact ⟨rfl, ⟨distinct, amount_mem, supplier_mem, category_mem, amount_is, supplier_is,
      category_is⟩, rfl⟩
  · cases columns

/-! The months. -/

section months
variable [MonthReader]

/-- The month of a date cell that is stripped first, as the adapter does it. -/
def strippedMonth (layout : StreamLayout) (record : List String) : Option String :=
  layout.date.bind fun date =>
    parseMonth (some (strip ((rowGet layout.headers record date).getD "")))

/-- The months of the rows with an amount, with their amounts. -/
def datedAmounts (month : List String → Option String) (layout : StreamLayout)
    (records : List (List String)) : List (String × Rat) :=
  records.filterMap fun record =>
    (spendingOf layout.toLayout record).bind fun spending =>
      monthPair (month record) spending.value

theorem monthPairs_payments (layout : StreamLayout) (records : List (List String)) :
    monthPairs (payments layout records) = datedAmounts (rawMonth layout) layout records := by
  unfold monthPairs payments datedAmounts
  rw [List.filterMap_filterMap]
  congr 1
  funext record
  unfold paymentOf
  cases spendingOf layout.toLayout record <;> rfl

theorem parseMonth_blank : parseMonth (some "") = none := by
  simp [parseMonth, isMissing_empty]

theorem parseMonth_text (text : String) :
    parseMonth (if text = "" then none else some text) = parseMonth (some text) := by
  by_cases blank : text = ""
  · rw [if_pos blank, blank, parseMonth_blank]
    rfl
  · rw [if_neg blank]

theorem parsedOf_month {layout : StreamLayout} {resolved : Role → Option String}
    (reads : layout.Reads resolved) (date : ∀ raw, layout.date = some raw →
      raw ∈ layout.headers ∧ resolved .date = some (strip raw))
    (dateless : layout.date = none → resolved .date = none) {record : List String}
    (alike : AmountAlike (rowGet layout.headers record layout.amount)) (rowNumber : Nat) :
    (parsedOf resolved rowNumber (adapterRow layout.headers record)).bind ParsedRow.byMonth =
      (spendingOf layout.toLayout record).bind fun spending =>
        monthPair (strippedMonth layout record) spending.value := by
  have month : parseMonth (valueOf (adapterRow layout.headers record) (resolved .date)) =
      strippedMonth layout record := by
    unfold strippedMonth
    cases column : layout.date with
    | none =>
      simp [dateless column, valueOf, parseMonth]
    | some raw =>
      obtain ⟨member, is_date⟩ := date raw column
      have value := @valueOf_adapterRow layout.headers record reads.distinct raw member
      simp only at value
      rw [is_date, value, parseMonth_text, Option.bind_some]
  rw [← parsedOf_spending reads alike rowNumber, Option.bind_map]
  unfold parsedOf
  split
  · simp only [Option.bind_some, Function.comp_apply]
    unfold ParsedRow.byMonth
    simp only [parsedRow, ParsedRow.spending, month]
  · rfl

theorem parsedRows_months {layout : StreamLayout} {resolved : Role → Option String}
    (reads : layout.Reads resolved) (date : ∀ raw, layout.date = some raw →
      raw ∈ layout.headers ∧ resolved .date = some (strip raw))
    (dateless : layout.date = none → resolved .date = none) {records : List (List String)}
    (alike : AmountsAlike layout.toLayout records) (rowNumber : Nat) :
    (parsedRows resolved rowNumber (records.map (adapterRow layout.headers))).filterMap
      ParsedRow.byMonth = datedAmounts (strippedMonth layout) layout records := by
  induction records generalizing rowNumber with
  | nil => rfl
  | cons record rest ih =>
    unfold AmountsAlike at alike
    rw [List.forall_mem_cons] at alike
    have first := parsedOf_month reads date dateless alike.1 rowNumber
    have later := ih alike.2 (rowNumber + 1)
    simp only [List.map_cons, parsedRows, List.filterMap_append, later, datedAmounts,
      List.filterMap_cons]
    rw [← first]
    cases parsedOf resolved rowNumber (adapterRow layout.headers record) with
    | none => rfl
    | some row => cases month : row.byMonth <;> simp [month]

/-! The agreement. -/

/-- The figures of the overview are those of the analysis. -/
structure Agrees (summary : FinancialSummary) (analysis : ProcurementAnalysis) : Prop where
  rows : summary.rowsScanned = analysis.rowCount
  valid : summary.validAmountRows = analysis.validAmountRows
  invalid : summary.invalidAmountRows = analysis.invalidAmountRows
  total : summary.totalSpend = analysis.totalSpend
  supplier_count : summary.supplierCount = analysis.supplierCount
  category_count : summary.categoryCount = analysis.categoryCount
  suppliers : ∀ item ∈ summary.suppliers.items, ∃ ranked ∈ analysis.spendBySupplier,
    ranked.name = item.name ∧ ranked.spend = item.spend
  categories : ∀ item ∈ summary.categories.items, ∃ ranked ∈ analysis.spendByCategory,
    ranked.name = item.name ∧ ranked.spend = item.spend
  months : summary.monthlySpend = analysis.spendTrend

/-- The rows whose date cell is a month only without its white space, or only with it, change no
    month: each month has rows in both readings or in neither, and the same sum to four places. -/
def MonthsAlike (layout : StreamLayout) (records : List (List String)) : Prop :=
  ∀ month,
    (month ∈ (datedAmounts (rawMonth layout) layout records).map Prod.fst ↔
      month ∈ (datedAmounts (strippedMonth layout) layout records).map Prod.fst) ∧
    roundTo 4 (sumOf (datedAmounts (rawMonth layout) layout records) month) =
      roundTo 4 (sumOf (datedAmounts (strippedMonth layout) layout records) month)

theorem monthsAlike_iff (layout : StreamLayout) (records : List (List String)) :
    MonthsAlike layout records ↔
      monthlySpend (groupSums (datedAmounts (rawMonth layout) layout records)) =
        monthlySpend (groupSums (datedAmounts (strippedMonth layout) layout records)) := by
  rw [monthlySpend_eq_iff]
  unfold MonthsAlike
  apply forall_congr'
  intro month
  rw [get?_groupSums, get?_groupSums]
  by_cases raw : month ∈ (datedAmounts (rawMonth layout) layout records).map Prod.fst
  · by_cases stripped : month ∈ (datedAmounts (strippedMonth layout) layout records).map Prod.fst
    · simp [raw, stripped]
    · simp [raw, stripped]
  · by_cases stripped : month ∈ (datedAmounts (strippedMonth layout) layout records).map Prod.fst
    · simp [raw, stripped]
    · simp [raw, stripped, sumOf_absent]

omit [MonthReader] in
theorem groupItem_ok {context : DecimalContext} {counts : Dict String Nat} {total : Rat}
    {entry : String × Rat} {item : GroupItem}
    (made : groupItem context counts total entry = .ok item) :
    item.name = entry.1 ∧ item.spend = roundTo 4 entry.2 := by
  unfold groupItem at made
  obtain ⟨share, -, made⟩ := bind_eq_ok.mp made
  cases made
  exact ⟨rfl, rfl⟩

omit [MonthReader] in
/-- Every group that is shown is ranked with the same spend. -/
theorem shown_ranked {context : DecimalContext} {totals : Dict String Rat}
    {counts : Dict String Nat} {total totalSpend : Rat} {groups : TopGroups}
    (made : topGroups context totals counts total = .ok groups) :
    ∀ item ∈ groups.items, ∃ ranked ∈ rankedSpend totals totalSpend,
      ranked.name = item.name ∧ ranked.spend = item.spend := by
  unfold topGroups at made
  obtain ⟨items, shown, made⟩ := bind_eq_ok.mp made
  cases made
  intro item member
  obtain ⟨entry, visible, from_entry⟩ := mapM_source shown item member
  obtain ⟨name, spend⟩ := groupItem_ok from_entry
  have inside : entry ∈ totals.entries := by
    have sorted := List.mem_of_mem_take visible
    unfold visibleGroups at sorted
    rw [(List.mergeSort_perm _ _).mem_iff] at sorted
    exact (List.mem_filter.mp sorted).1
  unfold rankedSpend
  refine ⟨_, List.mem_map_of_mem ((List.mergeSort_perm _ _).mem_iff.mpr inside), ?_⟩
  exact ⟨name.symm, spend.symm⟩

theorem payments_spendings (layout : StreamLayout) (records : List (List String)) :
    (payments layout records).map Payment.toSpending = spendings layout.toLayout records := by
  unfold payments spendings
  rw [List.map_filterMap]
  congr 1
  funext record
  unfold paymentOf
  cases spendingOf layout.toLayout record <;> rfl

/-- What a finished overview reports. -/
theorem finishScan_ok {context : DecimalContext} {source : Source} {headers : List String}
    {scan : StreamScan} {summary : FinancialSummary}
    (finished : finishScan context source false headers scan = .ok summary) :
    topGroups context scan.suppliers scan.supplierCounts scan.amountTotal =
        .ok summary.suppliers ∧
      topGroups context scan.categories scan.categoryCounts scan.amountTotal =
        .ok summary.categories ∧
      summary.rowsScanned = scan.rowCount ∧ summary.validAmountRows = scan.validAmounts ∧
      summary.invalidAmountRows = scan.invalidAmounts ∧
      summary.totalSpend = roundTo 4 scan.amountTotal ∧
      summary.supplierCount = scan.suppliers.entries.length ∧
      summary.categoryCount = scan.categories.entries.length ∧
      summary.monthlySpend = monthlySpend scan.months := by
  unfold finishScan at finished
  split at finished
  · cases finished
  rw [if_neg (by decide)] at finished
  obtain ⟨reconciled, -, finished⟩ := bind_eq_ok.mp finished
  split at finished
  · cases finished
  unfold summarize at finished
  obtain ⟨suppliers, by_supplier, finished⟩ := bind_eq_ok.mp finished
  obtain ⟨categories, by_category, finished⟩ := bind_eq_ok.mp finished
  cases finished
  exact ⟨by_supplier, by_category, rfl, rfl, rfl, rfl, rfl, rfl, rfl⟩

/-- All the figures but those of the months agree, and the months are those of the cells as they
    are and of the cells without their white space. -/
theorem overview_figures {source : Source} {limits : ScanLimits} {late : Nat → Bool}
    {layout : StreamLayout} {summary : FinancialSummary} {adapter : CsvDatasetAdapter}
    {analysis : ProcurementAnalysis} (header : source.csv.headers = .ok layout.headers)
    (columns : streamLayout layout.headers = some layout)
    (alike : AmountsAlike layout.toLayout source.csv.records)
    (streamed : streamFinancialSummary exactContext limits late source false = .ok summary)
    (loaded : fromPath source = .ok adapter)
    (analysed : analyzeProcurementDataset adapter = .ok analysis) :
    (Agrees summary analysis ↔ summary.monthlySpend = analysis.spendTrend) ∧
      summary.monthlySpend =
        monthlySpend (groupSums (datedAmounts (rawMonth layout) layout source.csv.records)) ∧
      analysis.spendTrend =
        monthlySpend (groupSums (datedAmounts (strippedMonth layout) layout source.csv.records)) := by
  obtain ⟨headers, -, -, again, nonempty, named, distinct, complete, adapter_is⟩ :=
    fromPath_ok loaded
  obtain rfl : layout.headers = headers := Except.ok.inj (header.symm.trans again)
  obtain ⟨-, reads, date_is⟩ := streamLayout_reads distinct columns
  have date : ∀ raw, layout.date = some raw →
      raw ∈ layout.headers ∧ resolveColumn (layout.headers.map strip) .date = some (strip raw) :=
    fun raw is_raw => rawName_some (date_is.symm.trans is_raw)
  have dateless : layout.date = none → resolveColumn (layout.headers.map strip) .date = none :=
    fun absent => rawName_none (date_is.symm.trans absent)
  obtain ⟨last, made, sums⟩ := analysis_of_file reads alike adapter_is
  obtain rfl := Except.ok.inj (made.symm.trans analysed)
  have found := parsedRows_spendings reads alike 2
  have dated := parsedRows_months reads date dateless alike 2
  have fields : adapter.fieldnames = layout.headers.map strip := by rw [adapter_is]
  have rows : adapter.rows = source.csv.records.map (adapterRow layout.headers) := by
    rw [adapter_is]
  rw [fields, rows] at sums
  generalize parsedRows (resolveColumn (layout.headers.map strip)) 2
    (source.csv.records.map (adapterRow layout.headers)) = parsed at sums found dated
  unfold streamFinancialSummary at streamed
  split at streamed
  · cases streamed
  split at streamed
  · cases streamed
  rw [header] at streamed
  simp only at streamed
  split at streamed
  · cases streamed
  rw [columns] at streamed
  simp only at streamed
  obtain ⟨scan, scanned, finished⟩ := bind_eq_ok.mp streamed
  have start : ({} : StreamScan).Sums [] 0 := ⟨StreamScan.totalsExact_empty, rfl, rfl, rfl⟩
  obtain ⟨totals, counted, valid, invalid⟩ := scanRecords_sums start scanned
  rw [List.nil_append] at totals valid invalid
  rw [Nat.zero_add] at counted invalid
  rw [List.length_map] at sums
  obtain ⟨by_supplier, by_category, is_rows, is_valid, is_invalid, is_total, is_suppliers,
    is_categories, is_months⟩ := finishScan_ok finished
  have paid : (payments layout source.csv.records).map Payment.toSpending =
      parsed.map ParsedRow.spending := (payments_spendings layout _).trans found.symm
  have suppliers : supplierPairs (payments layout source.csv.records) =
      parsed.map ParsedRow.bySupplier := by
    calc supplierPairs (payments layout source.csv.records)
        = ((payments layout source.csv.records).map Payment.toSpending).map Spending.bySupplier := by
          rw [List.map_map]
          rfl
      _ = (parsed.map ParsedRow.spending).map Spending.bySupplier := by rw [paid]
      _ = parsed.map ParsedRow.bySupplier := List.map_map
  have categories : categoryPairs (payments layout source.csv.records) =
      parsed.map ParsedRow.byCategory := by
    calc categoryPairs (payments layout source.csv.records)
        = ((payments layout source.csv.records).map Payment.toSpending).map Spending.byCategory := by
          rw [List.map_map]
          rfl
      _ = (parsed.map ParsedRow.spending).map Spending.byCategory := by rw [paid]
      _ = parsed.map ParsedRow.byCategory := List.map_map
  have amounts : (payments layout source.csv.records).map (fun payment => payment.value) =
      parsed.map ParsedRow.amount := by
    calc (payments layout source.csv.records).map (fun payment => payment.value)
        = ((payments layout source.csv.records).map Payment.toSpending).map Spending.value :=
          List.map_map.symm
      _ = (parsed.map ParsedRow.spending).map Spending.value := by rw [paid]
      _ = parsed.map ParsedRow.amount := List.map_map
  have length : (payments layout source.csv.records).length = parsed.length := by
    simpa using congrArg List.length amounts
  have stream_months : summary.monthlySpend =
      monthlySpend (groupSums (datedAmounts (rawMonth layout) layout source.csv.records)) := by
    rw [is_months, totals.months, monthPairs_payments]
  have memory_months : (figures adapter (resolveColumn adapter.fieldnames) last).spendTrend =
      monthlySpend (groupSums (datedAmounts (strippedMonth layout) layout source.csv.records)) := by
    rw [← dated, ← sums.months]
    rfl
  refine ⟨?_, stream_months, memory_months⟩
  constructor
  · exact Agrees.months
  · intro months
    rw [totals.suppliers, suppliers, ← sums.suppliers] at by_supplier is_suppliers
    rw [totals.categories, categories, ← sums.categories] at by_category is_categories
    have memory_rows := congrArg List.length sums.rows
    have all := sums.invalid
    constructor
    · rw [is_rows, counted]
      change _ = adapter.rows.length
      rw [rows, List.length_map]
    · rw [is_valid, valid, length]
      exact memory_rows.symm
    · rw [is_invalid]
      change _ = last.invalidAmountRows
      omega
    · rw [is_total, totals.total]
      change roundTo 4 ((payments layout source.csv.records).map fun payment => payment.value).sum =
        roundTo 4 (last.parsedRows.map ParsedRow.amount).sum
      rw [amounts, sums.rows]
    · exact is_suppliers
    · exact is_categories
    · exact shown_ranked by_supplier
    · exact shown_ranked by_category
    · exact months

/-- In exact arithmetic the overview agrees with the analysis if and only if the white space of the
    date cells changes no month. -/
theorem overview_agrees_iff {source : Source} {limits : ScanLimits} {late : Nat → Bool}
    {layout : StreamLayout} {summary : FinancialSummary} {adapter : CsvDatasetAdapter}
    {analysis : ProcurementAnalysis} (header : source.csv.headers = .ok layout.headers)
    (columns : streamLayout layout.headers = some layout)
    (alike : AmountsAlike layout.toLayout source.csv.records)
    (streamed : streamFinancialSummary exactContext limits late source false = .ok summary)
    (loaded : fromPath source = .ok adapter)
    (analysed : analyzeProcurementDataset adapter = .ok analysis) :
    Agrees summary analysis ↔ MonthsAlike layout source.csv.records := by
  obtain ⟨others, raw, stripped⟩ :=
    overview_figures header columns alike streamed loaded analysed
  rw [others, raw, stripped, monthsAlike_iff]

/-! Files that are summarized. -/

omit [MonthReader] in
theorem sumIn_exact (values : List Rat) : sumIn exactContext values = .ok values.sum := by
  have walk : ∀ start : Rat, values.foldlM (fun total value => exactContext (total + value)) start =
      .ok (start + values.sum) := by
    induction values with
    | nil => intro start; simp [pure, Except.pure]
    | cons value rest ih =>
      intro start
      rw [List.foldlM_cons, List.sum_cons, ← add_assoc]
      exact ih (start + value)
  unfold sumIn
  rw [walk, zero_add]

omit [MonthReader] in
theorem groupsReconcile_exact {scan : StreamScan} {found : List Payment}
    (totals : scan.TotalsExact found) : groupsReconcile exactContext scan = .ok true := by
  apply (groupsReconcile_iff totals).mpr
  have suppliers : ((supplierPairs found).map Prod.snd).sum = totalPaid found := by
    unfold supplierPairs totalPaid
    rw [List.map_map]
    rfl
  have categories : ((categoryPairs found).map Prod.snd).sum = totalPaid found := by
    unfold categoryPairs totalPaid
    rw [List.map_map]
    rfl
  constructor
  · rw [sumIn_exact, sum_values_groupSums, suppliers]
  · rw [sumIn_exact, sum_values_groupSums, categories]

omit [MonthReader] in
theorem topGroups_exact (totals : Dict String Rat) (counts : Dict String Nat) (total : Rat) :
    ∃ groups, topGroups exactContext totals counts total = .ok groups := by
  have item : ∀ entry, ∃ made, groupItem exactContext counts total entry = .ok made := by
    intro entry
    unfold groupItem shareOf
    split
    · exact ⟨_, rfl⟩
    · exact ⟨_, rfl⟩
  have items : ∀ entries : List (String × Rat), ∃ made, entries.mapM (groupItem exactContext counts total) = .ok made := by
    intro entries
    induction entries with
    | nil => exact ⟨[], rfl⟩
    | cons entry rest ih =>
      obtain ⟨first, made⟩ := item entry
      obtain ⟨later, mades⟩ := ih
      exact ⟨first :: later, by simp [List.mapM_cons, made, mades, bind, Except.bind, pure, Except.pure]⟩
  obtain ⟨made, mapped⟩ := items ((visibleGroups totals counts).take 20)
  unfold topGroups
  simp only [mapped, bind, Except.bind]
  exact ⟨_, rfl⟩

/-- In exact arithmetic every file within the limits is summarized. -/
theorem overview_made {source : Source} {limits : ScanLimits} {late : Nat → Bool}
    {layout : StreamLayout} {adapter : CsvDatasetAdapter} (loaded : fromPath source = .ok adapter)
    (is_file : source.isFile = true) (size : source.sizeBytes ≤ limits.maxMib * 1024 * 1024)
    (header : source.csv.headers = .ok layout.headers)
    (columns : streamLayout layout.headers = some layout)
    (within : WithinLimits limits late layout source.csv.records) :
    ∃ summary, streamFinancialSummary exactContext limits late source false = .ok summary := by
  obtain ⟨headers, csv, -, again, nonempty, named, distinct, complete, -⟩ := fromPath_ok loaded
  obtain rfl : layout.headers = headers := Except.ok.inj (header.symm.trans again)
  have never : NeverRounded exactContext (payments layout source.csv.records) :=
    fun _ _ _ => ⟨rfl, rfl, rfl, fun _ _ => rfl⟩
  obtain ⟨scan, scanned, totals⟩ := (totals_stay_exact_iff within).mpr never _ List.prefix_rfl
  obtain ⟨suppliers, by_supplier⟩ :=
    topGroups_exact scan.suppliers scan.supplierCounts scan.amountTotal
  obtain ⟨categories, by_category⟩ :=
    topGroups_exact scan.categories scan.categoryCounts scan.amountTotal
  unfold streamFinancialSummary
  rw [if_neg (by simp [csv, is_file]), if_neg (by omega), header]
  simp only
  rw [if_neg (by simp [nonempty, named, distinct]), columns]
  simp only [scanned, finishScan, complete, groupsReconcile_exact totals, summarize, by_supplier,
    by_category, bind, Except.bind]
  exact ⟨_, rfl⟩

end months
/-! A purchase with a date. -/

/-- `fromisoformat` of a date alone. -/
def isoDateMonth (text : String) : Option String :=
  match text.toList with
  | [a, b, c, d, '-', e, f, '-', g, h] =>
      if [a, b, c, d, e, f, g, h].all Char.isDigit then some (String.ofList [a, b, c, d, '-', e, f])
      else none
  | _ => none

/-- Dates in the ISO format; the slashes and the month's names are in none of the files below. -/
abbrev isoDates : MonthReader where
  toUnicodeDatabase := asciiDatabase
  isoMonth := isoDateMonth
  formattedMonth _ _ := none

def datedPurchase (date : String) : Source where
  path := "spend.csv"
  suffix := ".csv"
  fileExists := true
  isFile := true
  sizeBytes := 60
  modifiedNs := 0
  csv := { headers := .ok ["supplier", "category", "amount", "date"]
           records := [["Acme", "IT", "40", date]], failure := none }

def datedLayout : StreamLayout :=
  ⟨⟨["supplier", "category", "amount", "date"], "amount", "supplier", "category"⟩, some "date"⟩

def loadedDate (date : String) : CsvDatasetAdapter where
  fieldnames := ["supplier", "category", "amount", "date"]
  rows := [[("supplier", "Acme"), ("category", "IT"), ("amount", "40"), ("date", date)]]

theorem dated_alike (date : String) :
    let _ := isoDates
    AmountsAlike datedLayout.toLayout (datedPurchase date).csv.records := by
  intro _ record member
  obtain rfl := List.mem_singleton.mp member
  change AmountAlike (some "40")
  unfold AmountAlike
  decide +kernel

theorem clean_date_agrees :
    let _ := isoDates
    ∃ summary analysis,
      streamFinancialSummary exactContext scanLimits (fun _ => false) (datedPurchase "2024-01-05")
        false = .ok summary ∧
      analyzeProcurementDataset (loadedDate "2024-01-05") = .ok analysis ∧
      Agrees summary analysis := by
  intro _
  have loaded : fromPath (datedPurchase "2024-01-05") = .ok (loadedDate "2024-01-05") := by
    decide
  have columns : streamLayout datedLayout.headers = some datedLayout := by decide
  have within : WithinLimits scanLimits (fun _ => false) datedLayout
      (datedPurchase "2024-01-05").csv.records :=
    ⟨by decide, fun _ _ _ _ => rfl, by constructor <;> decide⟩
  obtain ⟨-, reads, -⟩ := streamLayout_reads (by decide) columns
  obtain ⟨summary, streamed⟩ := overview_made loaded rfl (by decide) rfl columns within
  obtain ⟨last, analysed, -⟩ := @analysis_of_file _ _ (datedPurchase "2024-01-05").csv.records reads
    (dated_alike _) (loadedDate "2024-01-05") (by decide)
  refine ⟨summary, _, streamed, analysed, ?_⟩
  apply (overview_agrees_iff rfl columns (dated_alike _) streamed loaded analysed).mpr
  have same : datedAmounts (rawMonth datedLayout) datedLayout
      (datedPurchase "2024-01-05").csv.records = datedAmounts (strippedMonth datedLayout)
        datedLayout (datedPurchase "2024-01-05").csv.records := by decide +kernel
  intro month
  rw [same]
  exact ⟨Iff.rfl, rfl⟩

/-- A date with a blank before it is a month of the analysis only. -/
theorem padded_date_is_lost :
    let _ := isoDates
    ¬ ∀ source limits late layout summary adapter analysis,
      source.csv.headers = .ok layout.headers → streamLayout layout.headers = some layout →
      AmountsAlike layout.toLayout source.csv.records →
      streamFinancialSummary exactContext limits late source false = .ok summary →
      fromPath source = .ok adapter → analyzeProcurementDataset adapter = .ok analysis →
        Agrees summary analysis := by
  intro _ agree
  have loaded : fromPath (datedPurchase " 2024-01-05") = .ok (loadedDate "2024-01-05") := by
    decide
  have columns : streamLayout datedLayout.headers = some datedLayout := by decide
  have within : WithinLimits scanLimits (fun _ => false) datedLayout
      (datedPurchase " 2024-01-05").csv.records :=
    ⟨by decide, fun _ _ _ _ => rfl, by constructor <;> decide⟩
  obtain ⟨-, reads, -⟩ := streamLayout_reads (by decide) columns
  obtain ⟨summary, streamed⟩ := overview_made loaded rfl (by decide) rfl columns within
  obtain ⟨last, analysed, -⟩ := @analysis_of_file _ _ (datedPurchase " 2024-01-05").csv.records reads
    (dated_alike _) (loadedDate "2024-01-05") (by decide)
  have agrees := agree _ _ _ _ _ _ _ rfl columns (dated_alike _) streamed loaded analysed
  obtain ⟨-, raw, stripped⟩ := overview_figures rfl columns (dated_alike _) streamed loaded analysed
  have months := agrees.months
  rw [raw, stripped, ← monthsAlike_iff] at months
  have there := (months "2024-01").1.mpr (by decide)
  exact absurd there (by decide)

end Analytics
