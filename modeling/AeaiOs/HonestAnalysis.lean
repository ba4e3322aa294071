import AeaiOs.AnalysisRuns
import AeaiOs.VerifiedVerdict

/-!
In exact arithmetic, the saved analysis of a file that has not changed is verified.
-/
namespace Analytics
open PyText OrderedDict RiskScan ExceptLists HalfEven GroupSums

/-! The saved analysis. -/

def roleKey : Role → String
  | .supplier => "supplier"
  | .category => "category"
  | .amount => "amount"
  | .date => "date"
  | .invoiceId => "invoice_id"
  | .department => "department"
  | .approver => "approver"

def savedFloat (q : Rat) : Saved := .float (.finite q)

def spendItem (dimension : String) (item : RankedSpend) : Saved :=
  .dict [(dimension, .str item.name), ("spend", savedFloat item.spend),
    ("share", savedFloat item.share)]

def monthItem (entry : String × Rat) : Saved :=
  .dict [("month", .str entry.1), ("spend", savedFloat entry.2)]

/-- The columns of the roles that are resolved. -/
def ProcurementAnalysis.savedColumns (analysis : ProcurementAnalysis) : SavedDict :=
  [Role.supplier, .category, .amount, .date, .invoiceId, .department, .approver].filterMap
    fun role => (analysis.resolvedColumns role).map fun column => (roleKey role, .str column)

def ProcurementAnalysis.savedDataset (analysis : ProcurementAnalysis) : SavedDict :=
  [("row_count", .int analysis.rowCount), ("valid_amount_rows", .int analysis.validAmountRows),
    ("invalid_amount_rows", .int analysis.invalidAmountRows),
    ("resolved_columns", .dict analysis.savedColumns), ("currency", .str analysis.currency),
    ("currency_symbol", .str analysis.currencySymbol)]

def ProcurementAnalysis.savedKpis (analysis : ProcurementAnalysis) : SavedDict :=
  [("total_spend", savedFloat analysis.totalSpend), ("supplier_count", .int analysis.supplierCount),
    ("category_count", .int analysis.categoryCount),
    ("average_transaction_value", savedFloat analysis.averageTransactionValue)]

/-- `ProcurementAnalysisResult.payload`, as far as the figures go. -/
def ProcurementAnalysis.payload (analysis : ProcurementAnalysis) : SavedDict :=
  [("dataset", .dict analysis.savedDataset), ("kpis", .dict analysis.savedKpis),
    ("spend_by_supplier", .list (analysis.spendBySupplier.map (spendItem "supplier"))),
    ("spend_by_category", .list (analysis.spendByCategory.map (spendItem "category"))),
    ("spend_trend", .list (analysis.spendTrend.map monthItem))]

theorem listed_list (items : List Saved) : listed (.list items) = some items := by
  cases items <;> rfl

theorem equalsCount_int (count : Nat) : Saved.equalsCount count (.int count) = true := by
  simp [Saved.equalsCount, Saved.key?]

theorem resolvedName_of {analysis : ProcurementAnalysis} {role : Role} {column : String}
    (resolved : analysis.resolvedColumns role = some column) (named : column ≠ "") :
    resolvedName analysis.savedColumns (roleKey role) = some column := by
  have keys : ∀ roles : List Role, role ∈ roles → lookupEntries (roles.filterMap fun role =>
      (analysis.resolvedColumns role).map fun column => (roleKey role, Saved.str column))
        (roleKey role) = some (.str column) := by
    intro roles
    induction roles with
    | nil => simp
    | cons first rest ih =>
      intro member
      by_cases same : first = role
      · rw [same]
        simp [resolved, lookupEntries]
      · have later := ih (by simpa [Ne.symm same] using member)
        have other : roleKey first ≠ roleKey role := by
          revert same
          cases first <;> cases role <;> decide
        cases found : analysis.resolvedColumns first with
        | none => simpa [found] using later
        | some name => simpa [found, lookupEntries, other] using later
  unfold resolvedName Saved.get ProcurementAnalysis.savedColumns
  rw [keys _ (by cases role <;> decide)]
  simp [named]

/-! The breakdowns. -/

theorem reportedBy_spendItems (field : String) (items : List RankedSpend)
    (plain : field ≠ "spend") :
    reportedBy field (items.map (spendItem field)) =
      .ok (Dict.ofPairs (items.map fun item => (.str item.name, savedFloat item.spend))) := by
  have dicts : (items.map (spendItem field)).filterMap dictItem = items.map fun item =>
      [(field, .str item.name), ("spend", savedFloat item.spend),
        ("share", savedFloat item.share)] := by
    rw [List.filterMap_map, ← List.filterMap_eq_map]
    rfl
  unfold reportedBy
  rw [dicts]
  have made : (items.map fun item => [(field, Saved.str item.name),
      ("spend", savedFloat item.spend), ("share", savedFloat item.share)]).mapM (namedSpend field) =
        .ok (items.map fun item => (.str item.name, savedFloat item.spend)) := by
    rw [mapM_ok_iff, List.forall₂_map_left_iff, List.forall₂_map_right_iff, List.forall₂_same]
    intro item _
    simp [namedSpend, Saved.get, lookupEntries, Saved.key?, Except.map, plain]
  rw [made]
  rfl

section honest
variable [UnicodeDatabase]

theorem close_rounded (actual : Rat) :
    close exactContext actual (savedFloat (roundTo 4 actual)) = .ok true := by
  apply (close_iff (fun _ _ _ _ => rfl)).mpr
  refine ⟨roundTo 4 actual, rfl, le_max_of_le_left ?_⟩
  have near := roundTo_close 4 actual
  rw [abs_sub_comm] at near
  apply near.trans
  norm_num

/-- The ranked totals are reported as they are. -/
theorem breakdown_honest {field : String} (plain : field ≠ "spend") (totals : Dict String Rat)
    (totalSpend : Rat) :
    breakdownCheck exactContext field totals
      (.list ((rankedSpend totals totalSpend).map (spendItem field))) = .ok true := by
  have shape : ((rankedSpend totals totalSpend).map fun item =>
      (Saved.Key.str item.name, savedFloat item.spend)).Perm
        (totals.entries.map fun entry => (.str entry.1, savedFloat (roundTo 4 entry.2))) := by
    unfold rankedSpend
    rw [List.map_map]
    exact (List.mergeSort_perm _ _).map _
  have injective : Function.Injective Saved.Key.str := by
    intro a b equal
    cases equal
    rfl
  have distinct : (((rankedSpend totals totalSpend).map fun item =>
      (Saved.Key.str item.name, savedFloat item.spend)).map Prod.fst).Nodup := by
    apply (shape.map Prod.fst).nodup_iff.mpr
    have keys := totals.keys_nodup.map injective
    rw [List.map_map] at keys ⊢
    exact keys
  apply breakdownCheck_iff.mpr
  refine ⟨_, _, listed_list _, reportedBy_spendItems field _ plain, ?_, ?_⟩
  · rw [Dict.entries_ofPairs distinct, shape.length_eq, List.length_map]
  · intro total member
    refine ⟨savedFloat (roundTo 4 total.2), ?_, close_rounded total.2⟩
    rw [Dict.get?_ofPairs_iff distinct]
    apply shape.mem_iff.mpr
    exact List.mem_map_of_mem (f := fun entry : String × Rat =>
      (Saved.Key.str entry.1, savedFloat (roundTo 4 entry.2))) member

end honest

theorem section_dict {entries inner : SavedDict} {name : String}
    (found : Saved.get entries name = .dict inner) :
    Saved.section? entries name = .ok inner := by
  unfold Saved.section?
  rw [found]
  cases inner <;> rfl

theorem columnNames_payload {analysis : ProcurementAnalysis} {amount supplier category : String}
    (has_amount : analysis.resolvedColumns .amount = some amount)
    (has_supplier : analysis.resolvedColumns .supplier = some supplier)
    (has_category : analysis.resolvedColumns .category = some category)
    (named : "" ∉ [amount, supplier, category]) :
    columnNames analysis.payload = .ok (some (amount, supplier, category)) := by
  simp only [List.mem_cons, List.not_mem_nil, or_false, not_or] at named
  have amounts := resolvedName_of has_amount (Ne.symm named.1)
  have suppliers := resolvedName_of has_supplier (Ne.symm named.2.1)
  have categories := resolvedName_of has_category (Ne.symm named.2.2)
  have dataset : Saved.section? analysis.payload "dataset" = .ok analysis.savedDataset :=
    section_dict rfl
  have resolved : Saved.section? analysis.savedDataset "resolved_columns" =
      .ok analysis.savedColumns := section_dict rfl
  simp only [roleKey] at amounts suppliers categories
  simp only [columnNames, dataset, resolved, amounts, suppliers, categories, bind, Except.bind]
  rfl

/-- The figures agree with a scan that finds the parsed rows. -/
theorem honest_checks [MonthReader] (adapter : CsvDatasetAdapter)
    (resolved : Role → Option String) {last : Aggregates} {parsed : List ParsedRow}
    (sums : last.Sums parsed adapter.rows.length) :
    ChecksHold exactContext (Tally.of adapter.rows.length (parsed.map ParsedRow.spending))
      (figures adapter resolved last).payload := by
  have dataset : Saved.section? (figures adapter resolved last).payload "dataset" = .ok _ :=
    section_dict rfl
  have kpis : Saved.section? (figures adapter resolved last).payload "kpis" = .ok _ :=
    section_dict rfl
  have suppliers : (parsed.map ParsedRow.spending).map Spending.bySupplier =
      parsed.map ParsedRow.bySupplier := List.map_map
  have categories : (parsed.map ParsedRow.spending).map Spending.byCategory =
      parsed.map ParsedRow.byCategory := List.map_map
  have total : totalSpending (parsed.map ParsedRow.spending) = totalOf parsed := by
    unfold totalSpending totalOf
    rw [List.map_map]
    rfl
  constructor
  · exact ⟨_, dataset, equalsCount_int _⟩
  · refine ⟨_, dataset, ?_⟩
    change Saved.equalsCount (parsed.map ParsedRow.spending).length
      (.int (last.parsedRows.length : Nat)) = true
    rw [sums.rows, List.length_map]
    exact equalsCount_int _
  · refine ⟨_, kpis, ?_⟩
    change close exactContext (totalSpending (parsed.map ParsedRow.spending))
      (savedFloat (roundTo 4 (totalOf last.parsedRows))) = .ok true
    rw [sums.rows, total]
    exact close_rounded _
  · refine ⟨_, kpis, ?_⟩
    change Saved.equalsCount
      (groupSums ((parsed.map ParsedRow.spending).map Spending.bySupplier)).entries.length
        (.int (last.supplierTotals.entries.length : Nat)) = true
    rw [sums.suppliers, suppliers]
    exact equalsCount_int _
  · refine ⟨_, kpis, ?_⟩
    change Saved.equalsCount
      (groupSums ((parsed.map ParsedRow.spending).map Spending.byCategory)).entries.length
        (.int (last.categoryTotals.entries.length : Nat)) = true
    rw [sums.categories, categories]
    exact equalsCount_int _
  · change breakdownCheck exactContext "supplier"
      (groupSums ((parsed.map ParsedRow.spending).map Spending.bySupplier))
      (.list ((rankedSpend last.supplierTotals _).map (spendItem "supplier"))) = .ok true
    rw [sums.suppliers, suppliers]
    exact breakdown_honest (by decide) _ _
  · change breakdownCheck exactContext "category"
      (groupSums ((parsed.map ParsedRow.spending).map Spending.byCategory))
      (.list ((rankedSpend last.categoryTotals _).map (spendItem "category"))) = .ok true
    rw [sums.categories, categories]
    exact breakdown_honest (by decide) _ _

/-- The analysis of a file with amounts that are read alike is verified. -/
theorem honest_analysis_verified [MonthReader] {source : Source} {adapter : CsvDatasetAdapter}
    {maxRows : Int} (loaded : fromPath source = .ok adapter) (is_file : source.isFile = true)
    (required : ∀ role ∈ [Role.amount, .category, .supplier],
      (resolveColumn adapter.fieldnames role).isSome)
    (cap : 1 ≤ maxRows ∧ maxRows ≤ 2000000) (few : source.csv.records.length ≤ maxRows)
    (alike : ∀ layout : Layout, source.csv.headers = .ok layout.headers →
      layout.Reads (resolveColumn adapter.fieldnames) → AmountsAlike layout source.csv.records) :
    ∃ analysis summary, analyzeProcurementDataset adapter = .ok analysis ∧
      streamReconcile exactContext source false analysis.payload maxRows = .ok summary ∧
      summary.status = .verified ∧ ∀ check ∈ summary.checks, check.2 = true := by
  obtain ⟨headers, csv, present, header, nonempty, named, distinct, complete, adapter_is⟩ :=
    fromPath_ok loaded
  have fields : adapter.fieldnames = headers.map strip := by rw [adapter_is]
  rw [fields] at required alike
  obtain ⟨layout, rfl, reads⟩ := layout_found distinct required
  have reading := alike layout header reads
  obtain ⟨last, analysed, sums⟩ := analysis_of_file reads reading adapter_is
  have found := parsedRows_spendings reads reading 2
  have rows : adapter.rows = source.csv.records.map (adapterRow layout.headers) := by
    rw [adapter_is]
  have count : adapter.rows.length = source.csv.records.length := by rw [rows, List.length_map]
  have hold := honest_checks adapter (resolveColumn adapter.fieldnames) sums
  rw [fields] at analysed hold
  rw [rows, found, ← rows, count] at hold
  obtain ⟨checks, checked, all⟩ := checks_hold_iff.mpr hold
  have scan := @tallyRows_of _ exactContext layout maxRows.toNat 0 [] source.csv.records
    (sumsExact_exact _) (Nat.zero_le _)
  rw [if_pos (by omega), Nat.zero_add, List.nil_append] at scan
  have blank : "" ∉ [strip layout.amount, strip layout.supplier, strip layout.category] := by
    simp only [List.mem_cons, List.not_mem_nil, or_false, not_or]
    refine ⟨?_, ?_, ?_⟩
    · exact fun empty => named (empty ▸ List.mem_map_of_mem reads.amount_mem)
    · exact fun empty => named (empty ▸ List.mem_map_of_mem reads.supplier_mem)
    · exact fun empty => named (empty ▸ List.mem_map_of_mem reads.category_mem)
  have names := @columnNames_payload
    (figures adapter (resolveColumn (layout.headers.map strip)) last) _ _ _ reads.amount
      reads.supplier reads.category blank
  have columns : layoutFor layout.headers
      (strip layout.amount, strip layout.supplier, strip layout.category) = some layout := by
    simp only [layoutFor, rawField distinct reads.amount_mem, rawField distinct reads.supplier_mem,
      rawField distinct reads.category_mem]
  have start : ({} : Tally) = Tally.of 0 [] := rfl
  have kpis : Saved.section? (figures adapter (resolveColumn (layout.headers.map strip)) last).payload
      "kpis" = .ok _ := section_dict rfl
  have verdict : ∃ summary, streamReconcile exactContext source false
      (figures adapter (resolveColumn (layout.headers.map strip)) last).payload maxRows =
        .ok summary ∧ summary.status = .verified ∧ summary.checks = checks := by
    unfold streamReconcile
    rw [if_neg (not_not.mpr cap), if_neg (by simp [present]), if_neg (by simp [csv, is_file]), names,
      header]
    simp only [columns, scanRows, start, scan, complete, compareTally, checked, kpis, all, bind,
      Except.bind, pure, Except.pure]
    exact ⟨_, rfl, rfl, rfl⟩
  obtain ⟨summary, answered, verified, its_checks⟩ := verdict
  refine ⟨_, summary, analysed, answered, verified, ?_⟩
  rw [its_checks]
  exact List.all_eq_true.mp all

/-! One purchase. -/

/-- The months of a file without dates are never asked for. -/
abbrev noMonths : MonthReader where
  toUnicodeDatabase := asciiDatabase
  isoMonth _ := none
  formattedMonth _ _ := none

def loadedPurchase : CsvDatasetAdapter where
  fieldnames := ["supplier", "category", "amount"]
  rows := [[("supplier", "Acme"), ("category", "IT"), ("amount", "40")]]

theorem onePurchase_verified :
    let _ := noMonths
    ∃ analysis summary, analyzeProcurementDataset loadedPurchase = .ok analysis ∧
      streamReconcile exactContext onePurchase false analysis.payload 10 = .ok summary ∧
      summary.status = .verified ∧ ∀ check ∈ summary.checks, check.2 = true := by
  intro _
  have loaded : fromPath onePurchase = .ok loadedPurchase := by decide
  have column : resolveColumn loadedPurchase.fieldnames .amount = some "amount" := by
    decide
  have alike : AmountAlike (some "40") := by
    unfold AmountAlike
    decide +kernel
  refine honest_analysis_verified loaded rfl (by decide) (by decide) (by decide) ?_
  intro layout header reads record member
  obtain ⟨headers, raw, supplier, category⟩ := layout
  obtain rfl : ["supplier", "category", "amount"] = headers := Except.ok.inj header
  have named := Option.some.inj (reads.amount.symm.trans column)
  have inside := reads.amount_mem
  simp only [List.mem_cons, List.not_mem_nil, or_false] at inside named
  obtain rfl : raw = "amount" := by
    rcases inside with rfl | rfl | rfl
    · exact absurd named (by decide)
    · exact absurd named (by decide)
    · rfl
  obtain rfl : record = ["Acme", "IT", "40"] := List.mem_singleton.mp member
  exact alike

end Analytics
