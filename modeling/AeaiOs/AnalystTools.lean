import AeaiOs.Lib.LabelledGroups
import AeaiOs.ProcurementAnalysis
import AeaiOs.Values

/-!
The approved analyst tools: what is read from the dataset of a run, the plans that are accepted
and the aggregates that a plan gives, in exact arithmetic.
-/
namespace AnalystTools
open PyText RunValues OrderedDict RiskScan Analytics HalfEven GroupSums LabelledGroups

/-! The tools. -/

inductive Tool where
  | supplierTotals
  | categoryTotals
  | departmentTotals
  | monthlyTrend
  | supplierMonthlyTrend
  | periodComparison
  | supplierCategoryBreakdown
  | categoryMonthlyBreakdown
  | departmentMonthlyBreakdown
  deriving DecidableEq

/-- `TOOLS` -/
def tools : List Tool :=
  [.supplierTotals, .categoryTotals, .departmentTotals, .monthlyTrend, .supplierMonthlyTrend,
    .periodComparison, .supplierCategoryBreakdown, .categoryMonthlyBreakdown,
    .departmentMonthlyBreakdown]

def Tool.name : Tool → String
  | .supplierTotals => "supplier_totals"
  | .categoryTotals => "category_totals"
  | .departmentTotals => "department_totals"
  | .monthlyTrend => "monthly_trend"
  | .supplierMonthlyTrend => "supplier_monthly_trend"
  | .periodComparison => "period_comparison"
  | .supplierCategoryBreakdown => "supplier_category_breakdown"
  | .categoryMonthlyBreakdown => "category_monthly_breakdown"
  | .departmentMonthlyBreakdown => "department_monthly_breakdown"

/-- `TOOL_LABELS` -/
def Tool.toolLabel : Tool → String
  | .supplierTotals => "Spending by supplier"
  | .categoryTotals => "Spending by category"
  | .departmentTotals => "Spending by department"
  | .monthlyTrend => "Monthly spending trend"
  | .supplierMonthlyTrend => "Monthly spending for a supplier"
  | .periodComparison => "Spending comparison between months"
  | .supplierCategoryBreakdown => "Supplier and category comparison"
  | .categoryMonthlyBreakdown => "Category spending across months"
  | .departmentMonthlyBreakdown => "Department spending across months"

/-! The dataset. -/

/-- What the file system says of the path of the dataset. -/
structure LocalCsv where
  suffix : String
  isSymlink : Bool
  isFile : Bool
  /-- under the examples of the project or the artifact root, once it is resolved -/
  isAllowed : Bool
  sizeBytes : Nat
  csv : CsvFile

/-- `text[:n]` -/
def shorten (n : Nat) (text : String) : String := String.ofList (text.toList.take n)

structure Dimensions where
  supplier : String
  category : String
  department : String
  month : Option String
  deriving DecidableEq

def Dimensions.shortened (row : Dimensions) : Dimensions :=
  { row with
    supplier := shorten 90 row.supplier
    category := shorten 90 row.category
    department := shorten 90 row.department }

/-- The summary, whose rows are the dimensions and the amounts. -/
structure Dataset where
  months : List String
  suppliers : List String
  categories : List String
  departments : List String
  rows : List (Dimensions × Rat)
  observedRows : Nat
  deriving DecidableEq

/-- `analysis.get(name) or {}`, of which an entry is asked. -/
def sectionOf (analysis : PyDict) (name : String) : Except AnalysisError PyDict :=
  match lookupEntries analysis name with
  | none => .ok []
  | some value =>
      match value.truthy, value with
      | true, .dict entries => .ok entries
      | true, _ => .error .attributeError
      | false, _ => .ok []

/-- `mapping` -/
def semanticMapping (analysis : PyDict) : Except AnalysisError PyDict := do
  let dataset ← sectionOf analysis "dataset"
  match lookupEntries dataset "resolved_columns" with
  | none => return []
  | some value =>
      match value.truthy, value with
      | true, .dict mapping => return mapping
      | true, _ => .error (.valueError "Dataset semantic mapping is unavailable.")
      | false, _ => return []

/-- `measure` -/
def measureOf (mapping : PyDict) : Except AnalysisError String :=
  match lookupEntries mapping "amount" with
  | some (.str measure) =>
      if measure = "" then
        .error (.valueError "No verified numeric spending column is available.")
      else .ok measure
  | _ => .error (.valueError "No verified numeric spending column is available.")

/-- The role is mapped to something that is no column. -/
def columnChanged (mapping : PyDict) (columns : List String) (role : String) : Bool :=
  match lookupEntries mapping role with
  | none => false
  | some (.str column) => !columns.contains column
  | some _ => true

/-- `mapping.get(role, "")` -/
def columnOf (mapping : PyDict) (role : String) : String :=
  match lookupEntries mapping role with
  | some (.str column) => column
  | _ => ""

section load
variable [MonthReader]

/-- The dimensions of a row, before their texts are cut. -/
def dimensionsOf (mapping : PyDict) (columns record : List String) : Dimensions :=
  let textOf role := strip ((rowGet columns record (columnOf mapping role)).getD "")
  { supplier := textOf "supplier"
    category := textOf "category"
    department := textOf "department"
    month := parseMonth (rowGet columns record (columnOf mapping "date")) }

/-- The amount of a row, where it is finite. -/
def finiteAmount (measure : String) (columns record : List String) : Option Rat :=
  match parseAmountExactly (rowGet columns record measure) with
  | some (.finite amount) => some amount
  | _ => none

/-- The rows of the file that have an amount, and the number of all its rows. -/
def readTransactions (file : LocalCsv) (analysis : PyDict) :
    Except AnalysisError (List (Dimensions × Rat) × Nat) := do
  if UnicodeDatabase.lower file.suffix.toList ≠ ".csv".toList || file.isSymlink || !file.isFile then
    .error (.valueError "New calculations require an available local CSV dataset.")
  else if !file.isAllowed then
    .error (.valueError "CSV is outside the local example or managed upload directory.")
  else if 5 * 1024 * 1024 < file.sizeBytes then
    .error (.valueError "CSV exceeds the five-megabyte calculation limit.")
  else
    let mapping ← semanticMapping analysis
    let measure ← measureOf mapping
    let columns ← file.csv.headers.mapError .reading
    if columns = [] || 60 < columns.length || !decide columns.Nodup || !columns.contains measure then
      .error (.valueError "CSV schema does not match the verified analysis.")
    else if ["supplier", "category", "department", "date"].any (columnChanged mapping columns) then
      .error (.valueError "CSV columns changed since the workflow was completed.")
    else if 10000 < file.csv.records.length then
      .error (.valueError "Dataset exceeds the ten-thousand-row calculation limit.")
    else
      match file.csv.failure with
      | some message => .error (.reading message)
      | none =>
          return (file.csv.records.filterMap fun record =>
            (finiteAmount measure columns record).map fun amount =>
              (dimensionsOf mapping columns record, amount), file.csv.records.length)

/-- `isinstance(expected_count, int) and expected_count != observed_rows` -/
def countChanged (observedRows : Nat) : Option PyValue → Bool
  | some (.int count) => decide (count ≠ observedRows)
  | some (.bool b) => decide ((if b then 1 else 0) ≠ observedRows)
  | _ => false

/-- `math.isclose(total, expected, rel_tol=1e-7, abs_tol=0.01)` -/
def isClose (total expected : Rat) : Bool :=
  decide (|total - expected| ≤ 1 / 10 ^ 7 * |expected|) ||
    decide (|total - expected| ≤ 1 / 10 ^ 7 * |total|) || decide (|total - expected| ≤ 1 / 100)

/-- The saved total is a number that is not close. -/
def totalChanged (total : Rat) : Option PyValue → Bool
  | some (.int expected) => !isClose total expected
  | some (.float expected) => !isClose total expected
  | some (.bool b) => !isClose total (if b then 1 else 0)
  | _ => false

/-- `sorted` of the set of the texts that are not empty -/
def ordered (texts : List String) : List String :=
  (texts.filter (· ≠ "")).dedup.mergeSort fun a b => decide (a ≤ b)

def summaryOf (rows : List (Dimensions × Rat)) (observedRows : Nat) : Dataset where
  months := ordered (rows.filterMap fun row => row.1.month)
  suppliers := ordered (rows.map fun row => row.1.supplier)
  categories := ordered (rows.map fun row => row.1.category)
  departments := ordered (rows.map fun row => row.1.department)
  rows := rows
  observedRows := observedRows

/-- `load_run_aggregates` -/
def loadRunAggregates (file : LocalCsv) (analysis : PyDict) : Except AnalysisError Dataset := do
  let (transactions, observedRows) ← readTransactions file analysis
  let rows := transactions.map fun row => (row.1.shortened, row.2)
  let original ← sectionOf analysis "dataset"
  if countChanged observedRows (lookupEntries original "row_count") then
    .error (.valueError "CSV row count changed since the workflow completed.")
  else
    let kpis ← sectionOf analysis "kpis"
    if totalChanged (rows.map Prod.snd).sum (lookupEntries kpis "total_spend") then
      .error (.valueError "CSV spending totals changed since the workflow completed.")
    else return summaryOf rows observedRows

end load

/-! The plan. -/

structure Plan where
  tool : Tool
  supplier : Option String
  firstMonth : Option String
  lastMonth : Option String
  rationale : String
  deriving DecidableEq

/-- The text is there and is not empty. -/
def given (text : Option String) : Bool := text.any fun text => decide (text ≠ "")

/-- A filter of the plan: a text or `None`. -/
def filterOf (raw : PyDict) (key : String) : Except AnalysisError (Option String) :=
  match lookupEntries raw key with
  | some (.str text) => .ok (some text)
  | some .none => .ok none
  | _ => .error (.valueError s!"Invalid tool filter: {key}.")

def requiredFields : List String := ["tool", "supplier", "first_month", "last_month", "rationale"]

/-- `_eligible_plan` -/
def eligiblePlan (raw : PyValue) (dataset : Dataset) : Except AnalysisError Plan := do
  let entries ← match raw with
    | .dict entries =>
        if entries.all (fun entry => requiredFields.contains entry.1) &&
            requiredFields.all (fun field => (entries.map Prod.fst).contains field) then
          Except.ok entries
        else .error (.valueError "Model returned unexpected tool planning fields.")
    | _ => .error (.valueError "Model returned unexpected tool planning fields.")
  let tool ← match lookupEntries entries "tool" with
    | some (.str name) =>
        match tools.find? fun tool => decide (tool.name = name) with
        | some tool => Except.ok tool
        | none => .error (.valueError "Tool not approved.")
    | _ => .error (.valueError "Tool not approved.")
  if [Tool.departmentTotals, .departmentMonthlyBreakdown].contains tool && dataset.departments = []
  then .error (.valueError "This dataset has no department dimension.")
  else if [Tool.supplierTotals, .supplierMonthlyTrend, .supplierCategoryBreakdown].contains tool &&
      dataset.suppliers = [] then
    .error (.valueError "This dataset has no supplier dimension.")
  else if [Tool.categoryTotals, .categoryMonthlyBreakdown, .supplierCategoryBreakdown].contains tool
      && dataset.categories = [] then
    .error (.valueError "This dataset has no category dimension.")
  else if [Tool.monthlyTrend, .supplierMonthlyTrend, .periodComparison, .categoryMonthlyBreakdown,
      .departmentMonthlyBreakdown].contains tool && dataset.months = [] then
    .error (.valueError "This dataset has no verified month values.")
  else
    let supplier ← filterOf entries "supplier"
    let firstMonth ← filterOf entries "first_month"
    let lastMonth ← filterOf entries "last_month"
    if given supplier && !dataset.suppliers.contains (supplier.getD "") then
      .error (.valueError "Supplier filter not present in authorized data.")
    else if tool ≠ .supplierMonthlyTrend && tool ≠ .periodComparison && given supplier then
      .error (.valueError "This tool does not accept supplier filtering.")
    else if tool = .supplierMonthlyTrend && !given supplier then
      .error (.valueError "A supplier must be selected for a supplier trend.")
    else if [firstMonth, lastMonth].any fun month =>
        given month && !dataset.months.contains (month.getD "") then
      .error (.valueError "Selected month does not exist in authorized data.")
    else if tool ≠ .periodComparison && (given firstMonth || given lastMonth) then
      .error (.valueError "Month comparison filters not supported by this tool.")
    else
      match lookupEntries entries "rationale" with
      | some (.str rationale) =>
          if 400 < rationale.length then .error (.valueError "Tool rationale invalid.")
          else return { tool, supplier, firstMonth, lastMonth, rationale }
      | _ => .error (.valueError "Tool rationale invalid.")

/-! The calculation. -/

/-- `month or default` -/
def orElse (month : Option String) (default : Option String) : Option String :=
  if given month then month else default

/-- `first` -/
def Plan.first (plan : Plan) (months : List String) : Option String :=
  if months = [] then none else orElse plan.firstMonth months.head?

/-- `last` -/
def Plan.last (plan : Plan) (months : List String) : Option String :=
  if months = [] then none else orElse plan.lastMonth months.getLast?

/-- The key of a row. -/
def keyOf (tool : Tool) (first last : Option String) (row : Dimensions) : Option String :=
  let month := row.month.getD ""
  match tool with
  | .supplierTotals => some row.supplier
  | .categoryTotals => some row.category
  | .departmentTotals => some row.department
  | .monthlyTrend => row.month
  | .supplierMonthlyTrend => row.month
  | .supplierCategoryBreakdown =>
      if row.supplier ≠ "" ∧ row.category ≠ "" then
        some (shorten 38 row.supplier ++ " / " ++ shorten 38 row.category)
      else none
  | .categoryMonthlyBreakdown =>
      if month ≠ "" ∧ row.category ≠ "" then some (month ++ " / " ++ shorten 38 row.category)
      else none
  | .departmentMonthlyBreakdown =>
      if month ≠ "" ∧ row.department ≠ "" then some (month ++ " / " ++ shorten 38 row.department)
      else none
  | .periodComparison => if row.month = first ∨ row.month = last then row.month else none

/-- The rows that pass the filter, under their keys. -/
def keyedRows (plan : Plan) (dataset : Dataset) : List (String × Rat) :=
  dataset.rows.filterMap fun row =>
    if given plan.supplier && decide (some row.1.supplier ≠ plan.supplier) then none
    else
      let key := keyOf plan.tool (plan.first dataset.months) (plan.last dataset.months) row.1
      (key.filter fun key => decide (key ≠ "")).map fun key => (key, row.2)

/-- The order of the groups, each with its sum and the number of its rows. -/
def ranksBefore (tool : Tool) (a b : String × Rat × Nat) : Bool :=
  if [Tool.periodComparison, .monthlyTrend, .supplierMonthlyTrend].contains tool then
    decide (a.1 ≤ b.1)
  else decide (b.2.1 < a.2.1) || decide (a.2.1 = b.2.1) && decide (a.1 ≤ b.1)

/-- `AnalystChartPoint` -/
structure Point where
  label : String
  value : Rat
  transactions : Nat
  deriving DecidableEq

def pointOf (item : String × Rat × Nat) : Point := ⟨item.1, roundPlaces 4 item.2.1, item.2.2⟩

structure Calculation where
  tool : Tool
  toolLabel : String
  chartKind : String
  chartTitle : String
  currency : String
  points : List Point
  verifiedTotal : Rat
  limitations : List String
  deriving DecidableEq

/-- The groups of two rows and more. -/
def eligibleGroups (plan : Plan) (dataset : Dataset) : List (String × Rat × Nat) :=
  (groupSums (weighed (keyedRows plan dataset))).entries.filter fun item => decide (2 ≤ item.2.2)

def selectedGroups (plan : Plan) (dataset : Dataset) : List (String × Rat × Nat) :=
  ((eligibleGroups plan dataset).mergeSort (ranksBefore plan.tool)).take 12

/-- `run_approved_tool`; of sums that are not finite exact arithmetic has none. -/
def runApprovedTool (plan : Plan) (dataset : Dataset) (currency : String) :
    Except AnalysisError Calculation :=
  let first := plan.first dataset.months
  let last := plan.last dataset.months
  if plan.tool = .periodComparison ∧ first = last then
    .error (.valueError "Please compare two different months.")
  else
    let suppressed := (groupSums (weighed (keyedRows plan dataset))).entries.countP fun item =>
      decide (item.2.2 < 2)
    let points := (selectedGroups plan dataset).map pointOf
    if points = [] then
      .error (.valueError
        "No groups with at least two transactions are available for this calculation.")
    else
      .ok {
        tool := plan.tool
        toolLabel := plan.tool.toolLabel
        chartKind :=
          if [Tool.monthlyTrend, .supplierMonthlyTrend].contains plan.tool then "line" else "bar"
        chartTitle := plan.tool.toolLabel ++
          (if given plan.supplier then " — " ++ shorten 60 (plan.supplier.getD "") else "") ++
          (if plan.tool = .periodComparison then
            " (" ++ first.getD "None" ++ " vs " ++ last.getD "None" ++ ")"
          else "")
        currency :=
          if ["USD", "GBP", "EUR", "INR", "JPY"].contains currency then currency else "unknown"
        points
        verifiedTotal := roundPlaces 4 (points.map Point.value).sum
        limitations :=
          ["Each displayed group contains at least two transactions."] ++
            (if suppressed ≠ 0 then ["Single-transaction groups are suppressed for privacy."]
              else []) ++
            (if 12 < (eligibleGroups plan dataset).length then
              ["Only the leading twelve groups are shown."] else []) ++
            ["Figures are aggregates from the run’s authorized local CSV; they do not prove " ++
              "causality."] }

end AnalystTools
