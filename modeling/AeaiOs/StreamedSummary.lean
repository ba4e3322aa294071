import AeaiOs.AnalysisRuns

/-!
The streamed overview of a file: one pass with `Decimal` sums, for which the context that rounds
them is a parameter.
-/
namespace Analytics
open PyText OrderedDict RiskScan HalfEven GroupSums

/-! The settings. -/

structure ScanLimits where
  maxRows : Nat
  maxMib : Nat
  groupLimit : Nat

/-- The raw headers of the columns that are read. -/
structure StreamLayout extends Layout where
  date : Option String
  deriving DecidableEq

section summary
variable [MonthReader]

/-! A row with an amount. -/

structure Payment extends Spending where
  month : Option String
  deriving DecidableEq

/-- `_parse_month` of the raw cell, where a date column is resolved. -/
def rawMonth (layout : StreamLayout) (record : List String) : Option String :=
  layout.date.bind fun date => parseMonth (some ((rowGet layout.headers record date).getD ""))

def paymentOf (layout : StreamLayout) (record : List String) : Option Payment :=
  (spendingOf layout.toLayout record).map fun spending =>
    { spending with month := rawMonth layout record }

/-! The scan. -/

structure StreamScan where
  rowCount : Nat := 0
  validAmounts : Nat := 0
  invalidAmounts : Nat := 0
  datedRows : Nat := 0
  missingCells : Nat := 0
  amountTotal : Rat := 0
  suppliers : Dict String Rat := .empty
  categories : Dict String Rat := .empty
  supplierCounts : Dict String Nat := .empty
  categoryCounts : Dict String Nat := .empty
  months : Dict String Rat := .empty

def missingCellsOf (headers record : List String) : Nat :=
  headers.countP fun raw => decide (strip ((rowGet headers record raw).getD "") = "")

/-- No group is added to a full table. -/
def fits (limit : Nat) (totals : Dict String Rat) (key : String) : Bool :=
  (totals.get? key).isSome || decide (totals.entries.length < limit)

/-- A truthy month is added up; at most 2400 of them are. -/
def addMonth (context : DecimalContext) (scan : StreamScan) (month : Option String)
    (value : Rat) : Except AnalysisError StreamScan :=
  match month with
  | none => .ok scan
  | some text =>
      if text = "" then .ok scan
      else do
        let months ← addIn context scan.months text value
        if 2400 < months.entries.length then
          throw (.scaling "Unusual date cardinality; scan aborted rather than truncating periods.")
        else return { scan with months, datedRows := scan.datedRows + 1 }

/-- The part of the loop's body for a row with an amount. -/
def addPayment (context : DecimalContext) (limits : ScanLimits) (scan : StreamScan)
    (payment : Payment) : Except AnalysisError StreamScan := do
  let amountTotal ← context (scan.amountTotal + payment.value)
  if fits limits.groupLimit scan.suppliers payment.supplier = false then
    throw (.scaling "Supplier cardinality exceeds safe grouping limit; no partial results saved.")
  else if fits limits.groupLimit scan.categories payment.category = false then
    throw (.scaling "Category cardinality exceeds safe grouping limit; no partial results saved.")
  else
    let suppliers ← addIn context scan.suppliers payment.supplier payment.value
    let categories ← addIn context scan.categories payment.category payment.value
    addMonth context
      { scan with
        validAmounts := scan.validAmounts + 1
        amountTotal, suppliers, categories
        supplierCounts := addTo scan.supplierCounts payment.supplier 1
        categoryCounts := addTo scan.categoryCounts payment.category 1 }
      payment.month payment.value

/-- The body of the loop; `late` tells the rows at which the time is up. -/
def scanRecord (context : DecimalContext) (limits : ScanLimits) (late : Nat → Bool)
    (layout : StreamLayout) (scan : StreamScan) (record : List String) :
    Except AnalysisError StreamScan :=
  if limits.maxRows < scan.rowCount + 1 then
    .error (.scaling ("Row limit reached; no partial totals were saved. Increase " ++
      "AEAI_SCALING_MAX_ROWS only after benchmarking."))
  else if (scan.rowCount + 1) % 10000 = 0 ∧ late (scan.rowCount + 1) = true then
    .error (.scaling "Scan exceeded time limit; no partial totals were saved.")
  else
    let counted := { scan with
      rowCount := scan.rowCount + 1
      missingCells := scan.missingCells + missingCellsOf layout.headers record }
    match paymentOf layout record with
    | none => .ok { counted with invalidAmounts := counted.invalidAmounts + 1 }
    | some payment => addPayment context limits counted payment

def scanRecords (context : DecimalContext) (limits : ScanLimits) (late : Nat → Bool)
    (layout : StreamLayout) : StreamScan → List (List String) → Except AnalysisError StreamScan
  | scan, [] => .ok scan
  | scan, record :: records => do
      let next ← scanRecord context limits late layout scan record
      scanRecords context limits late layout next records

/-! The summary. -/

structure GroupItem where
  name : String
  spend : Rat
  transactions : Nat
  share : Rat
  deriving DecidableEq

structure TopGroups where
  groupsTotal : Nat
  groupsEligible : Nat
  groupsSuppressed : Nat
  groupsShown : Nat
  items : List GroupItem

/-- `value / total if total else 0` -/
def shareOf (context : DecimalContext) (value total : Rat) : Except AnalysisError Rat :=
  if total = 0 then .ok 0 else context (value / total)

def groupItem (context : DecimalContext) (counts : Dict String Nat) (total : Rat)
    (entry : String × Rat) : Except AnalysisError GroupItem := do
  let share ← shareOf context entry.2 total
  return { name := entry.1
           spend := roundTo 4 entry.2
           transactions := (counts.get? entry.1).getD 0
           share := roundTo 6 share }

/-- The groups with at least two rows, largest first. -/
def visibleGroups (totals : Dict String Rat) (counts : Dict String Nat) : List (String × Rat) :=
  (totals.entries.filter fun entry => decide (2 ≤ (counts.get? entry.1).getD 0)).mergeSort
    fun a b => decide (b.2 < a.2) || (decide (a.2 = b.2) && decide (a.1 ≤ b.1))

/-- `_top_groups` -/
def topGroups (context : DecimalContext) (totals : Dict String Rat) (counts : Dict String Nat)
    (total : Rat) : Except AnalysisError TopGroups := do
  let visible := visibleGroups totals counts
  let items ← (visible.take 20).mapM (groupItem context counts total)
  return { groupsTotal := totals.entries.length
           groupsEligible := visible.length
           groupsSuppressed := totals.entries.length - visible.length
           groupsShown := items.length
           items }

structure FinancialSummary where
  columnRoles : Role → Option String
  rowsScanned : Nat
  validAmountRows : Nat
  invalidAmountRows : Nat
  missingCells : Nat
  columnCount : Nat
  totalSpend : Rat
  supplierCount : Nat
  categoryCount : Nat
  datedAmountRows : Nat
  suppliers : TopGroups
  categories : TopGroups
  monthlySpend : List (String × Rat)

/-- `sum(values, Decimal(0))` -/
def sumIn (context : DecimalContext) (values : List Rat) : Except AnalysisError Rat :=
  values.foldlM (fun total value => context (total + value)) 0

/-- The groups of each kind add up to the total. -/
def groupsReconcile (context : DecimalContext) (scan : StreamScan) : Except AnalysisError Bool := do
  let suppliers ← sumIn context scan.suppliers.values
  if suppliers ≠ scan.amountTotal then return false
  else
    let categories ← sumIn context scan.categories.values
    return decide (categories = scan.amountTotal)

def monthlySpend (months : Dict String Rat) : List (String × Rat) :=
  (months.entries.mergeSort fun a b => decide (a.1 ≤ b.1)).map fun entry =>
    (entry.1, roundTo 4 entry.2)

def summarize (context : DecimalContext) (headers : List String) (scan : StreamScan) :
    Except AnalysisError FinancialSummary := do
  let suppliers ← topGroups context scan.suppliers scan.supplierCounts scan.amountTotal
  let categories ← topGroups context scan.categories scan.categoryCounts scan.amountTotal
  return { columnRoles := resolveColumn (headers.map strip)
           rowsScanned := scan.rowCount
           validAmountRows := scan.validAmounts
           invalidAmountRows := scan.invalidAmounts
           missingCells := scan.missingCells
           columnCount := headers.length
           totalSpend := roundTo 4 scan.amountTotal
           supplierCount := scan.suppliers.entries.length
           categoryCount := scan.categories.entries.length
           datedAmountRows := scan.datedRows
           suppliers, categories
           monthlySpend := monthlySpend scan.months }

/-- What follows the loop. -/
def finishScan (context : DecimalContext) (source : Source) (changed : Bool)
    (headers : List String) (scan : StreamScan) : Except AnalysisError FinancialSummary :=
  match source.csv.failure with
  | some message => .error (.reading message)
  | none =>
      if changed then
        .error (.scaling
          "Source file changed during analysis; rerun against a stable snapshot.")
      else do
        let reconciled ← groupsReconcile context scan
        if reconciled = false then
          throw (.scaling "Internal financial reconciliation failed; no results saved.")
        else summarize context headers scan

/-- `raw_names[roles.get(role)]` -/
def rawName (headers : List String) (role : Role) : Option String :=
  (resolveColumn (headers.map strip) role).bind (lookupEntries ((headers.map strip).zip headers))

/-- The columns that the roles stand for; a required one may be missing. -/
def streamLayout (headers : List String) : Option StreamLayout :=
  match rawName headers .amount, rawName headers .supplier, rawName headers .category with
  | some amount, some supplier, some category =>
      some { headers, amount, supplier, category, date := rawName headers .date }
  | _, _, _ => none

/-- `stream_financial_summary`; `changed` says that the file is another one after the scan. -/
def streamFinancialSummary (context : DecimalContext) (limits : ScanLimits) (late : Nat → Bool)
    (source : Source) (changed : Bool) : Except AnalysisError FinancialSummary :=
  if UnicodeDatabase.lower source.suffix.toList ≠ ".csv".toList ∨ source.isFile = false then
    .error (.scaling ("Choose a registered local CSV file; remote/warehouse sources are not " ++
      "supported here."))
  else if limits.maxMib * 1024 * 1024 < source.sizeBytes then
    .error (.scaling "File exceeds AEAI_SCALING_MAX_MIB; do not silently sample it.")
  else
    match source.csv.headers with
    | .error message => .error (.reading message)
    | .ok headers =>
        if headers = [] ∨ "" ∈ headers.map strip ∨ ¬ (headers.map strip).Nodup then
          .error (.scaling "CSV header is empty, duplicated or contains blank column names.")
        else
          match streamLayout headers with
          | none =>
              .error (.scaling
                "Procurement overview needs supplier, category and amount columns.")
          | some layout => do
              let scan ← scanRecords context limits late layout {} source.csv.records
              finishScan context source changed headers scan

end summary
end Analytics
