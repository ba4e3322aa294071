import AeaiOs.ProcurementAnalysis

/-!
The reconciliation of a saved analysis: the CSV file is read once more, row by row and with
`Decimal` amounts, and the saved figures are compared with what is found.
-/
namespace Analytics
open PyText OrderedDict RiskScan HalfEven GroupSums

/-! Decimal arithmetic. -/

/-- How a context rounds the result of an operation; it may raise `Overflow`. -/
abbrev DecimalContext := Rat → Except AnalysisError Rat

def exactContext : DecimalContext := .ok

/-- The default context: 28 digits, rounded half to even. -/
def defaultContext : DecimalContext := fun q =>
  let rounded := roundDigits 28 (-1000026) q
  if 999999 < Int.log 10 |rounded| then .error .decimalOverflow else .ok rounded

/-! Saved values. -/

/-- A value of a saved analysis, as JSON has it. A finite float is the decimal that it is
    printed as. -/
inductive Saved where
  | none
  | bool (value : Bool)
  | int (value : Int)
  | float (value : PyFloat)
  | str (value : String)
  | list (items : List Saved)
  | dict (entries : List (String × Saved))
  deriving Inhabited

abbrev SavedDict := List (String × Saved)

namespace Saved

def truthy : Saved → Bool
  | .none => false
  | .bool b => b
  | .int n => n ≠ 0
  | .float q => q ≠ .finite 0
  | .str s => s ≠ ""
  | .list items => !items.isEmpty
  | .dict entries => !entries.isEmpty

/-- `entries.get(key)` -/
def get (entries : SavedDict) (key : String) : Saved := (lookupEntries entries key).getD .none

/-- `entries.get(key) or {}`, of which the entries are then read. -/
def section? (entries : SavedDict) (key : String) : Except AnalysisError SavedDict :=
  if (get entries key).truthy then
    match get entries key with
    | .dict inner => .ok inner
    | _ => .error .attributeError
  else .ok []

/-- A value as a key of a dictionary: numbers are one key if they are equal. -/
inductive Key where
  | none
  | number (value : PyFloat)
  | str (value : String)
  deriving DecidableEq

def key? : Saved → Except AnalysisError Key
  | .none => .ok .none
  | .bool b => .ok (.number (.finite (if b then 1 else 0)))
  | .int n => .ok (.number (.finite n))
  | .float q => .ok (.number q)
  | .str s => .ok (.str s)
  | .list _ => .error .typeError
  | .dict _ => .error .typeError

/-- `count == value` -/
def equalsCount (count : Nat) (value : Saved) : Bool :=
  match value.key? with
  | .ok (.number q) => decide (q = .finite count)
  | _ => false

end Saved

section reconciliation
variable [UnicodeDatabase]

/-- `Decimal(str(value))` where it is finite. -/
def stated : Saved → Option Rat
  | .int n => if digitCount n ≤ 4300 then some n else none
  | .float (.finite q) => some q
  | .str s => (parseDecimal s.toList).map Decimal.value
  | _ => none

/-- `_close` -/
def close (context : DecimalContext) (actual : Rat) (reported : Saved) :
    Except AnalysisError Bool :=
  match stated reported with
  | none => .ok false
  | some figure => do
      let difference ← context (actual - figure)
      let distance ← context |difference|
      let magnitude ← context |actual|
      let relative ← context (magnitude * (1 / 100000000))
      return decide (distance ≤ max (1 / 100) relative)

/-! The scan. -/

structure Tally where
  rowCount : Nat := 0
  validAmounts : Nat := 0
  exactTotal : Rat := 0
  supplierTotals : Dict String Rat := .empty
  categoryTotals : Dict String Rat := .empty

/-- The raw headers of the columns that are read. -/
structure Layout where
  headers : List String
  amount : String
  supplier : String
  category : String
  deriving DecidableEq

def groupLabel (text : Option String) : String :=
  let label := strip (text.getD "")
  if label = "" then "<missing>" else label

/-- The body of the loop for a row within the limit. -/
def tallyRow (context : DecimalContext) (layout : Layout) (tally : Tally) (record : List String) :
    Except AnalysisError Tally :=
  match amount (rowGet layout.headers record layout.amount) with
  | none => .ok { tally with rowCount := tally.rowCount + 1 }
  | some x => do
      let exactTotal ← context (tally.exactTotal + Decimal.value x)
      let supplierTotals ← addIn context tally.supplierTotals
        (groupLabel (rowGet layout.headers record layout.supplier)) (Decimal.value x)
      let categoryTotals ← addIn context tally.categoryTotals
        (groupLabel (rowGet layout.headers record layout.category)) (Decimal.value x)
      return { rowCount := tally.rowCount + 1, validAmounts := tally.validAmounts + 1, exactTotal
               supplierTotals, categoryTotals }

/-- The loop; it ends without a tally where the limit is reached. -/
def tallyRows (context : DecimalContext) (layout : Layout) (maxRows : Nat) :
    Tally → List (List String) → Except AnalysisError (Option Tally)
  | tally, [] => .ok (some tally)
  | tally, record :: records =>
      if maxRows < tally.rowCount + 1 then .ok none
      else do
        let next ← tallyRow context layout tally record
        tallyRows context layout maxRows next records

/-! The comparison. -/

/-- `analysis.get(key) or []`, where it is a list. -/
def listed (saved : Saved) : Option (List Saved) :=
  if saved.truthy then
    match saved with
    | .list items => some items
    | _ => none
  else some []

def dictItem : Saved → Option SavedDict
  | .dict entries => some entries
  | _ => none

def namedSpend (field : String) (entries : SavedDict) : Except AnalysisError (Saved.Key × Saved) :=
  ((Saved.get entries field).key?).map fun key => (key, Saved.get entries "spend")

/-- The saved spends by the values of a field; what is no dictionary is passed over, and of two
    equal values the last counts. -/
def reportedBy (field : String) (items : List Saved) :
    Except AnalysisError (Dict Saved.Key Saved) :=
  ((items.filterMap dictItem).mapM (namedSpend field)).map Dict.ofPairs

/-- `all(item in reported and _close(amount, reported[item]) for item, amount in totals)` -/
def allClose (context : DecimalContext) (reported : Dict Saved.Key Saved) :
    List (String × Rat) → Except AnalysisError Bool
  | [] => .ok true
  | (name, actual) :: rest =>
      match reported.get? (.str name) with
      | none => .ok false
      | some figure => do
          let near ← close context actual figure
          if near then allClose context reported rest else return false

def breakdownCheck (context : DecimalContext) (field : String) (totals : Dict String Rat)
    (saved : Saved) : Except AnalysisError Bool :=
  match listed saved with
  | none => .ok false
  | some items => do
      let reported ← reportedBy field items
      if reported.entries.length = totals.entries.length then
        allClose context reported totals.entries
      else return false

inductive ReconcileStatus where
  | verified
  | mismatch
  | skipped
  | failed
  deriving DecidableEq, Repr

structure ReconcileSummary where
  status : ReconcileStatus
  reason : Option String := none
  rowsScanned : Option Nat := none
  limit : Option Nat := none
  sourceSizeBytes : Option Nat := none
  validAmountRows : Option Nat := none
  independentlyCalculatedTotal : Option Rat := none
  reportedTotal : Saved := .none
  checks : List (String × Bool) := []

def checksOf (context : DecimalContext) (tally : Tally) (analysis : SavedDict) :
    Except AnalysisError (List (String × Bool)) := do
  let dataset ← Saved.section? analysis "dataset"
  let kpis ← Saved.section? analysis "kpis"
  let totalSpending ← close context tally.exactTotal (Saved.get kpis "total_spend")
  let suppliers ← breakdownCheck context "supplier" tally.supplierTotals
    (Saved.get analysis "spend_by_supplier")
  let categories ← breakdownCheck context "category" tally.categoryTotals
    (Saved.get analysis "spend_by_category")
  return [("row_count", Saved.equalsCount tally.rowCount (Saved.get dataset "row_count")),
    ("valid_amount_rows",
      Saved.equalsCount tally.validAmounts (Saved.get dataset "valid_amount_rows")),
    ("total_spending", totalSpending),
    ("supplier_count", Saved.equalsCount tally.supplierTotals.entries.length
      (Saved.get kpis "supplier_count")),
    ("category_count", Saved.equalsCount tally.categoryTotals.entries.length
      (Saved.get kpis "category_count")),
    ("supplier_breakdown", suppliers), ("category_breakdown", categories)]

/-- The name of a column that the analysis resolved. -/
def resolvedName (resolved : SavedDict) (role : String) : Option String :=
  match Saved.get resolved role with
  | .str name => if name = "" then none else some name
  | _ => none

/-- The names of the columns of the amounts, the suppliers and the categories. -/
def columnNames (analysis : SavedDict) : Except AnalysisError (Option (String × String × String)) :=
  do
    let dataset ← Saved.section? analysis "dataset"
    let resolved ← Saved.section? dataset "resolved_columns"
    match resolvedName resolved "amount", resolvedName resolved "supplier",
        resolvedName resolved "category" with
    | some amount, some supplier, some category => return some (amount, supplier, category)
    | _, _, _ => return none

def layoutFor (headers : List String) (names : String × String × String) : Option Layout :=
  let rawFields := Dict.ofPairs (headers.map fun raw => (strip raw, raw))
  match rawFields.get? names.1, rawFields.get? names.2.1, rawFields.get? names.2.2 with
  | some amount, some supplier, some category => some { headers, amount, supplier, category }
  | _, _, _ => none

/-- What is reported after a scan of all the rows. -/
def compareTally (context : DecimalContext) (source : Source) (changed : Bool)
    (analysis : SavedDict) (tally : Tally) : Except AnalysisError ReconcileSummary :=
  if changed then
    .ok { status := .failed, reason := some "Input CSV changed during verification."
          rowsScanned := some tally.rowCount }
  else do
    let checks ← checksOf context tally analysis
    let kpis ← Saved.section? analysis "kpis"
    return { status := if checks.all Prod.snd then .verified else .mismatch
             rowsScanned := some tally.rowCount
             sourceSizeBytes := some source.sizeBytes
             validAmountRows := some tally.validAmounts
             independentlyCalculatedTotal := some (roundTo 4 tally.exactTotal)
             reportedTotal := Saved.get kpis "total_spend"
             checks }

def scanRows (context : DecimalContext) (source : Source) (changed : Bool) (analysis : SavedDict)
    (maxRows : Nat) (layout : Layout) : Except AnalysisError ReconcileSummary :=
  match tallyRows context layout maxRows {} source.csv.records with
  | .error e => .error e
  | .ok none =>
      .ok { status := .skipped
            reason := some "Audit row limit reached; raise AEAI_AUDIT_MAX_ROWS cautiously."
            rowsScanned := some maxRows, limit := some maxRows }
  | .ok (some tally) =>
      match source.csv.failure with
      | some message => .error (.reading message)
      | none => compareTally context source changed analysis tally

/-- `stream_reconcile`; `changed` says that the file is another one after the scan. -/
def streamReconcile (context : DecimalContext) (source : Source) (changed : Bool)
    (analysis : SavedDict) (maxRows : Int) : Except AnalysisError ReconcileSummary :=
  if ¬ (1 ≤ maxRows ∧ maxRows ≤ 2000000) then
    .error (.valueError "Audit row cap must be between 1 and 2,000,000.")
  else if source.fileExists = false then .error .fileNotFound
  else if UnicodeDatabase.lower source.suffix.toList ≠ ".csv".toList ∨ source.isFile = false then
    .ok { status := .skipped
          reason := some "Only existing local CSV files are independently checked." }
  else
    match columnNames analysis, source.csv.headers with
    | .error e, _ => .error e
    | .ok none, _ =>
        .ok { status := .skipped, reason := some "Saved procurement column mapping is incomplete." }
    | .ok (some _), .error message => .error (.reading message)
    | .ok (some names), .ok headers =>
        match layoutFor headers names with
        | none =>
            .ok { status := .failed
                  reason := some "The CSV header no longer matches the saved analysis." }
        | some layout => scanRows context source changed analysis maxRows.toNat layout

/-! What a scan finds. -/

/-- A row with an amount. -/
structure Spending where
  supplier : String
  category : String
  value : Rat
  deriving DecidableEq

def spendingOf (layout : Layout) (record : List String) : Option Spending :=
  (amount (rowGet layout.headers record layout.amount)).map fun x =>
    { supplier := groupLabel (rowGet layout.headers record layout.supplier)
      category := groupLabel (rowGet layout.headers record layout.category)
      value := Decimal.value x }

def spendings (layout : Layout) (records : List (List String)) : List Spending :=
  records.filterMap (spendingOf layout)

omit [UnicodeDatabase]

def Spending.bySupplier (spending : Spending) : String × Rat := (spending.supplier, spending.value)

def Spending.byCategory (spending : Spending) : String × Rat := (spending.category, spending.value)

def totalSpending (found : List Spending) : Rat := (found.map Spending.value).sum

def Tally.of (rowCount : Nat) (found : List Spending) : Tally where
  rowCount := rowCount
  validAmounts := found.length
  exactTotal := totalSpending found
  supplierTotals := groupSums (found.map Spending.bySupplier)
  categoryTotals := groupSums (found.map Spending.byCategory)

/-- The digits of a context are enough for every sum that the scan comes to. -/
structure SumsExact (context : DecimalContext) (found : List Spending) : Prop where
  total : TotalsKept context (found.map Spending.value)
  suppliers : SumsKept context (found.map Spending.bySupplier)
  categories : SumsKept context (found.map Spending.byCategory)

theorem sumsExact_exact (found : List Spending) : SumsExact exactContext found where
  total _ _ _ := rfl
  suppliers _ _ _ := rfl
  categories _ _ _ := rfl

theorem SumsExact.of_prefix {context : DecimalContext} {found earlier : List Spending}
    (precise : SumsExact context found) (front : earlier <+: found) :
    SumsExact context earlier where
  total := precise.total.of_prefix (front.map _)
  suppliers := precise.suppliers.of_prefix (front.map _)
  categories := precise.categories.of_prefix (front.map _)

theorem SumsExact.last {context : DecimalContext} {found : List Spending} {next : Spending}
    (precise : SumsExact context (found ++ [next])) :
    context (totalSpending found + next.value) = .ok (totalSpending (found ++ [next])) ∧
      addIn context (groupSums (found.map Spending.bySupplier)) next.supplier next.value =
        .ok (groupSums ((found ++ [next]).map Spending.bySupplier)) ∧
      addIn context (groupSums (found.map Spending.byCategory)) next.category next.value =
        .ok (groupSums ((found ++ [next]).map Spending.byCategory)) := by
  obtain ⟨total, suppliers, categories⟩ := precise
  simp only [List.map_append, List.map_singleton] at total suppliers categories ⊢
  refine ⟨?_, addIn_groupSums.mpr (suppliers _ _ List.prefix_rfl),
    addIn_groupSums.mpr (categories _ _ List.prefix_rfl)⟩
  have sum := total _ _ List.prefix_rfl
  simpa [totalSpending] using sum

variable [UnicodeDatabase]

theorem tallyRow_of {context : DecimalContext} {layout : Layout} {rowCount : Nat}
    {found : List Spending} {record : List String}
    (precise : SumsExact context (found ++ (spendingOf layout record).toList)) :
    tallyRow context layout (Tally.of rowCount found) record =
      .ok (Tally.of (rowCount + 1) (found ++ (spendingOf layout record).toList)) := by
  unfold tallyRow
  cases read : amount (rowGet layout.headers record layout.amount) with
  | none =>
    have no : spendingOf layout record = none := by
      rw [spendingOf, read, Option.map_none]
    rw [no, Option.toList_none, List.append_nil]
    rfl
  | some x =>
    have spent : spendingOf layout record = some {
        supplier := groupLabel (rowGet layout.headers record layout.supplier)
        category := groupLabel (rowGet layout.headers record layout.category)
        value := Decimal.value x } := by
      rw [spendingOf, read, Option.map_some]
    rw [spent, Option.toList_some] at precise ⊢
    obtain ⟨total, suppliers, categories⟩ := precise.last
    simp only [Tally.of, total, suppliers, categories, bind, Except.bind, pure, Except.pure]
    simp

/-- The scan of a file within the limit finds the sums of its rows. -/
theorem tallyRows_of {context : DecimalContext} {layout : Layout} {maxRows rowCount : Nat}
    {found : List Spending} {records : List (List String)}
    (precise : SumsExact context (found ++ spendings layout records)) (low : rowCount ≤ maxRows) :
    tallyRows context layout maxRows (Tally.of rowCount found) records =
      .ok (if rowCount + records.length ≤ maxRows then
        some (Tally.of (rowCount + records.length) (found ++ spendings layout records))
      else none) := by
  induction records generalizing rowCount found with
  | nil => simp [tallyRows, spendings, low]
  | cons record records ih =>
    have split : found ++ spendings layout (record :: records) =
        (found ++ (spendingOf layout record).toList) ++ spendings layout records := by
      unfold spendings
      rw [List.filterMap_cons]
      cases spendingOf layout record <;> simp
    rw [split] at precise ⊢
    unfold tallyRows
    by_cases limit : maxRows < (Tally.of rowCount found).rowCount + 1
    · have beyond : ¬ rowCount + (record :: records).length ≤ maxRows := by
        simp only [Tally.of] at limit
        rw [List.length_cons]
        omega
      rw [if_pos limit, if_neg beyond]
    · have room : rowCount + 1 ≤ maxRows := by
        simp only [Tally.of] at limit
        omega
      have first : SumsExact context (found ++ (spendingOf layout record).toList) :=
        precise.of_prefix (List.prefix_append _ _)
      rw [if_neg limit, tallyRow_of first]
      simp only [bind, Except.bind]
      rw [ih precise room, List.length_cons, Nat.add_right_comm, Nat.add_assoc rowCount]

end reconciliation
end Analytics
