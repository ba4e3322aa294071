import AeaiOs.Lib.GroupSums
import AeaiOs.MoneyParsers
import AeaiOs.RiskScans

/-!
The analysis of a procurement dataset in memory, in exact arithmetic: the rows that the adapter
loads, the loop that aggregates them and the figures that it reports.
-/
namespace Analytics
open PyText OrderedDict RiskScan HalfEven GroupSums

inductive AnalysisError where
  | dataIngestion (message : String)
  | analytics (message : String)
  | scaling (message : String)
  | valueError (message : String)
  | reading (message : String)
  | fileNotFound
  | attributeError
  | typeError
  | decimalOverflow
  /-- An infinity or a NaN, of which exact arithmetic has none. -/
  | notFinite
  deriving DecidableEq

/-- A path and the CSV file that stands there. -/
structure Source where
  path : String
  suffix : String
  fileExists : Bool
  isFile : Bool
  sizeBytes : Nat
  modifiedNs : Nat
  csv : CsvFile

/-- What the loop of an analysis asks of `datetime`: `fromisoformat` and `strptime`, each
    followed by `strftime("%Y-%m")`. -/
class MonthReader extends UnicodeDatabase where
  isoMonth : String → Option String
  formattedMonth : (format text : String) → Option String

/-! The adapter. -/

/-- `row.get(header)` of `csv.DictReader`: of two equal headers the last counts, and a short row
    has `None` in its last columns. -/
def rowGet (headers record : List String) (header : String) : Option String :=
  (headers.zipIdx.reverse.find? fun entry => decide (entry.1 = header)).bind fun entry =>
    record[entry.2]?

abbrev AdapterRow := List (String × String)

structure CsvDatasetAdapter where
  fieldnames : List String
  rows : List AdapterRow
  deriving DecidableEq

def adapterRow (headers record : List String) : AdapterRow :=
  headers.map fun raw => (strip raw, strip ((rowGet headers record raw).getD ""))

/-- `CsvDatasetAdapter.from_path` -/
def fromPath [UnicodeDatabase] (source : Source) : Except AnalysisError CsvDatasetAdapter :=
  if UnicodeDatabase.lower source.suffix.toList ≠ ".csv".toList then
    .error (.dataIngestion ("Unsupported dataset type for CSV adapter: " ++ source.suffix))
  else if source.fileExists = false then
    .error (.dataIngestion ("Dataset file does not exist: " ++ source.path))
  else
    match source.csv.headers with
    | .error message => .error (.reading message)
    | .ok headers =>
        let fieldnames := headers.map strip
        if headers = [] then
          .error (.dataIngestion "CSV dataset must include a header row.")
        else if "" ∈ fieldnames then
          .error (.dataIngestion "CSV dataset contains a blank column name.")
        else if ¬ fieldnames.Nodup then
          .error (.dataIngestion "CSV dataset contains duplicate column names.")
        else
          match source.csv.failure with
          | some message => .error (.reading message)
          | none => .ok { fieldnames, rows := source.csv.records.map (adapterRow headers) }

/-! The analysis. -/

section analysis
variable [MonthReader]

/-- `_value` -/
def valueOf (row : AdapterRow) (column : Option String) : Option String :=
  column.bind fun column =>
    let text := strip ((lookupEntries row column).getD "")
    if text = "" then none else some text

/-- `_parse_month` -/
def parseMonth (text : Option String) : Option String :=
  text.bind fun text =>
    if isMissing text then none
    else
      (MonthReader.isoMonth text).or
        (["%d/%m/%Y", "%m/%d/%Y", "%b-%y"].findSome? fun format =>
          MonthReader.formattedMonth format text)

structure ParsedRow where
  rowNumber : Nat
  supplier : String
  category : String
  amount : Rat
  month : Option String
  date : Option String
  invoiceId : Option String
  department : Option String
  approver : Option String
  deriving DecidableEq

structure Aggregates where
  supplierTotals : Dict String Rat := .empty
  categoryTotals : Dict String Rat := .empty
  monthlyTotals : Dict String Rat := .empty
  parsedRows : List ParsedRow := []
  missingCounts : Dict Role Nat :=
    Dict.ofPairs [(.supplier, 0), (.category, 0), (.amount, 0), (.date, 0)]
  invalidAmountRows : Nat := 0

def missingIn (row : AdapterRow) (resolved : Role → Option String) : List (Role × Nat) :=
  ([Role.supplier, .category, .amount, .date].filter fun role =>
    (valueOf row (resolved role)).all isMissing).map fun role => (role, 1)

def labelled (text : Option String) : String := text.getD "<missing>"

def parsedRow (resolved : Role → Option String) (rowNumber : Nat) (row : AdapterRow)
    (amount : Rat) : ParsedRow where
  rowNumber := rowNumber
  supplier := labelled (valueOf row (resolved .supplier))
  category := labelled (valueOf row (resolved .category))
  amount := amount
  month := parseMonth (valueOf row (resolved .date))
  date := valueOf row (resolved .date)
  invoiceId := valueOf row (resolved .invoiceId)
  department := valueOf row (resolved .department)
  approver := valueOf row (resolved .approver)

def Aggregates.addRow (aggregates : Aggregates) (row : ParsedRow) : Aggregates :=
  { aggregates with
    supplierTotals := addTo aggregates.supplierTotals row.supplier row.amount
    categoryTotals := addTo aggregates.categoryTotals row.category row.amount
    monthlyTotals :=
      match row.month with
      | some month =>
          if month = "" then aggregates.monthlyTotals
          else addTo aggregates.monthlyTotals month row.amount
      | none => aggregates.monthlyTotals
    parsedRows := aggregates.parsedRows ++ [row] }

/-- The body of the loop over the rows. -/
def analyzeRow (resolved : Role → Option String) (aggregates : Aggregates) (rowNumber : Nat)
    (row : AdapterRow) : Except AnalysisError Aggregates :=
  let counted := { aggregates with
    missingCounts := addAll aggregates.missingCounts (missingIn row resolved) }
  match parseAmountExactly (valueOf row (resolved .amount)) with
  | none => .ok { counted with invalidAmountRows := counted.invalidAmountRows + 1 }
  | some (.finite amount) => .ok (counted.addRow (parsedRow resolved rowNumber row amount))
  | some _ => .error .notFinite

def analyzeRows (resolved : Role → Option String) :
    Aggregates → Nat → List AdapterRow → Except AnalysisError Aggregates
  | aggregates, _, [] => .ok aggregates
  | aggregates, rowNumber, row :: rows => do
      let next ← analyzeRow resolved aggregates rowNumber row
      analyzeRows resolved next (rowNumber + 1) rows

/-! The figures. -/

/-- `_detect_currency` -/
def detectCurrency (amountColumn : Option String) (rows : List AdapterRow) : String :=
  let words := splitOn '_' (normalizeColumnName (amountColumn.getD "")).toList
  let named := [("gbp", "GBP"), ("eur", "EUR"), ("inr", "INR"), ("jpy", "JPY"), ("usd", "USD")]
  let signed := [('£', "GBP"), ('€', "EUR"), ('₹', "INR"), ('¥', "JPY"), ('$', "USD")]
  let ofCell (cell : String) : Option String :=
    (signed.find? fun sign => cell.toList.contains sign.1).map Prod.snd
  match named.find? fun marker => words.contains marker.1.toList with
  | some (_, currency) => currency
  | none =>
      ((amountColumn.bind fun column =>
        if column = "" then none
        else rows.findSome? fun row => ofCell ((lookupEntries row column).getD ""))).getD "USD"

def currencySymbol (currency : String) : String :=
  ((lookupEntries [("GBP", "£"), ("EUR", "€"), ("INR", "₹"), ("JPY", "¥"), ("USD", "$")]
    currency)).getD "$"

structure RankedSpend where
  name : String
  spend : Rat
  share : Rat
  deriving DecidableEq

/-- `_ranked_spend` -/
def rankedSpend (totals : Dict String Rat) (totalSpend : Rat) : List RankedSpend :=
  (totals.entries.mergeSort fun a b =>
    decide (b.2 < a.2) || (decide (a.2 = b.2) && decide (a.1 ≤ b.1))).map fun entry =>
      { name := entry.1
        spend := roundTo 4 entry.2
        share := if totalSpend = 0 then 0 else roundTo 4 (entry.2 / totalSpend) }

/-- The part of `ProcurementAnalysisResult.payload` that is read again. -/
structure ProcurementAnalysis where
  rowCount : Nat
  validAmountRows : Nat
  invalidAmountRows : Nat
  resolvedColumns : Role → Option String
  currency : String
  currencySymbol : String
  totalSpend : Rat
  supplierCount : Nat
  categoryCount : Nat
  averageTransactionValue : Rat
  spendBySupplier : List RankedSpend
  spendByCategory : List RankedSpend
  spendTrend : List (String × Rat)

def totalOf (rows : List ParsedRow) : Rat := (rows.map ParsedRow.amount).sum

def figures (adapter : CsvDatasetAdapter) (resolved : Role → Option String)
    (aggregates : Aggregates) : ProcurementAnalysis :=
  let totalSpend := roundTo 4 (totalOf aggregates.parsedRows)
  let currency := detectCurrency (resolved .amount) adapter.rows
  { rowCount := adapter.rows.length
    validAmountRows := aggregates.parsedRows.length
    invalidAmountRows := aggregates.invalidAmountRows
    resolvedColumns := resolved
    currency
    currencySymbol := currencySymbol currency
    totalSpend
    supplierCount := aggregates.supplierTotals.entries.length
    categoryCount := aggregates.categoryTotals.entries.length
    averageTransactionValue :=
      if aggregates.parsedRows = [] then 0
      else roundTo 4 (totalSpend / aggregates.parsedRows.length)
    spendBySupplier := rankedSpend aggregates.supplierTotals totalSpend
    spendByCategory := rankedSpend aggregates.categoryTotals totalSpend
    spendTrend := (aggregates.monthlyTotals.entries.mergeSort fun a b => decide (a.1 ≤ b.1)).map
      fun entry => (entry.1, roundTo 4 entry.2) }

/-- `analyze_procurement_dataset` -/
def analyzeProcurementDataset (adapter : CsvDatasetAdapter) :
    Except AnalysisError ProcurementAnalysis :=
  let resolved := resolveColumn adapter.fieldnames
  let missing := [("amount", Role.amount), ("category", .category), ("supplier", .supplier)].filter
    fun role => (resolved role.2).isNone
  if missing ≠ [] then
    .error (.analytics ("Dataset is missing required procurement columns: " ++
      ", ".intercalate (missing.map Prod.fst)))
  else (analyzeRows resolved {} 2 adapter.rows).map (figures adapter resolved)

end analysis
end Analytics
