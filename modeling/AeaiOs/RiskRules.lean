import AeaiOs.Values
import Mathlib

/-!
The screening rules of a risk scan: the columns of the file, the amount of a row, the rows of the
ledger and the queries that a result is made of.
-/
namespace RiskScan
open PyText OrderedDict RunValues

/-- `_hash` of a value with a salt, and `round(units / 10000, 4)`. -/
class ScanRuntime extends UnicodeDatabase where
  hash : String → String → String
  sourceUnits : Int → PyValue

/-! Columns. -/

inductive Role where
  | supplier
  | category
  | amount
  | date
  | invoiceId
  | department
  | approver
  deriving DecidableEq, Repr

/-- The aliases of `COLUMN_ALIASES`, in the order in which they are tried. -/
def Role.aliases : Role → List String
  | .supplier => ["supplier", "supplier_name", "vendor", "vendor_name"]
  | .category =>
      ["category", "spend_category", "commodity", "procurement_category", "expense_type",
        "expenditure_type"]
  | .amount =>
      ["spend_amount", "amount", "amount_gbp", "invoice_amount", "net_amount", "total_amount",
        "transaction_amount", "cost", "spend"]
  | .date =>
      ["invoice_date", "transaction_date", "purchase_date", "payment_date", "posting_date", "date"]
  | .invoiceId => ["invoice_id", "invoice_number", "invoice_no", "bill_number"]
  | .department => ["department", "business_unit", "cost_center", "team"]
  | .approver => ["approver", "approved_by", "buyer", "requester"]

def isColumnChar (c : Char) : Bool := c.isLower || c.isDigit

/-- `re.sub(r"[^a-z0-9]+", "_", text)` -/
def squeeze : Text → Text
  | [] => []
  | c :: rest =>
      if isColumnChar c then c :: squeeze rest
      else
        match rest with
        | d :: _ => if isColumnChar d then '_' :: squeeze rest else squeeze rest
        | [] => ['_']

def stripUnderscores (s : Text) : Text :=
  ((s.dropWhile (· = '_')).reverse.dropWhile (· = '_')).reverse

def normalizeColumnName [UnicodeDatabase] (value : String) : String :=
  String.ofList (stripUnderscores (squeeze (UnicodeDatabase.lower value.toList)))

/-- `_resolve_columns(columns).get(role)`; of two columns with one normalized name the last is
    taken. -/
def resolveColumn [UnicodeDatabase] (columns : List String) (role : Role) : Option String :=
  role.aliases.findSome? fun name =>
    columns.reverse.find? fun column => normalizeColumnName column = name

/-- The raw headers of the columns that the scan reads. -/
structure Columns where
  supplier : String
  category : String
  amount : String
  date : Option String
  invoiceId : Option String
  deriving DecidableEq

/-- The checks of the header, and `raw[roles[...]]`. -/
def columnsOf [UnicodeDatabase] (headers : List String) : Except String Columns :=
  let fields := headers.map strip
  if fields.isEmpty || fields.any (· = "") || !decide fields.Nodup then
    .error "CSV headers contain duplicates or missing values."
  else
    let raw (role : Role) : Option String :=
      (resolveColumn fields role).bind (lookupEntries (fields.zip headers))
    match raw .supplier, raw .category, raw .amount with
    | some supplier, some category, some amount =>
        .ok { supplier, category, amount, date := raw .date, invoiceId := raw .invoiceId }
    | _, _, _ => .error "Risk screening requires supplier, category and amount columns."

/-- `row.get(header)` of `csv.DictReader`: a short row has `None` in its last columns. -/
def cell (headers record : List String) (header : String) : Option String :=
  (headers.idxOf? header).bind fun i => record[i]?

/-! Amounts. -/

/-- A finite `Decimal`: `coefficient * 10 ** exponent`. -/
structure Decimal where
  coefficient : Int
  exponent : Int
  deriving DecidableEq

def takeDigits [UnicodeDatabase] : Text → List Nat × Text
  | [] => ([], [])
  | c :: rest =>
      match UnicodeDatabase.digitValue c with
      | none => ([], c :: rest)
      | some d =>
          let (digits, after) := takeDigits rest
          (d :: digits, after)

def takeSign : Text → Bool × Text
  | '-' :: rest => (true, rest)
  | '+' :: rest => (false, rest)
  | rest => (false, rest)

def natOf (digits : List Nat) : Nat := digits.foldl (fun n d => 10 * n + d) 0

/-- The part of a literal after its digits: nothing, or `E` with an integer. -/
def exponentOf [UnicodeDatabase] : Text → Option Int
  | [] => some 0
  | c :: rest =>
      if c = 'e' || c = 'E' then
        let (negative, digits) := takeSign rest
        match takeDigits digits with
        | (d :: ds, []) =>
            let magnitude : Int := natOf (d :: ds)
            some (if negative then -magnitude else magnitude)
        | _ => none
      else none

/-- A literal of a number, of whatever exponent. -/
def decimalLiteral [UnicodeDatabase] (s : Text) : Option Decimal :=
  let (negative, s) := takeSign s
  let (whole, s) := takeDigits s
  let (fraction, s) :=
    match s with
    | '.' :: rest => takeDigits rest
    | _ => ([], s)
  if whole.isEmpty && fraction.isEmpty then none
  else
    (exponentOf s).map fun shift =>
      let magnitude : Int := natOf (whole ++ fraction)
      ⟨if negative then -magnitude else magnitude, shift - fraction.length⟩

def digitCount (n : Int) : Nat := (Nat.toDigits 10 n.natAbs).length

/-- The exponents of a `Decimal`. -/
def leastExponent : Int := -1999999999999999997
def greatestExponent : Int := 999999999999999999

def Decimal.representable (x : Decimal) : Bool :=
  decide (leastExponent ≤ x.exponent) &&
    decide (x.exponent + digitCount x.coefficient - 1 ≤ greatestExponent)

/-- `Decimal(text)` where it is finite; underscores are ignored wherever they stand. -/
def parseDecimal [UnicodeDatabase] (s : Text) : Option Decimal :=
  (decimalLiteral ((stripText s).filter (· ≠ '_'))).filter Decimal.representable

/-- `n / d` for a positive `d`, rounded half to even. -/
def divideHalfEven (n : Int) (d : Nat) : Int :=
  let q := n / d
  let r := n % d
  if 2 * r < d then q
  else if d < 2 * r then q + 1
  else if q % 2 = 0 then q else q + 1

/-- The rounding of a result to the 28 digits of the default context. -/
def Decimal.rounded (x : Decimal) : Decimal :=
  let extra := digitCount x.coefficient - 28
  if extra = 0 then x
  else ⟨divideHalfEven x.coefficient (10 ^ extra), x.exponent + extra⟩

/-- `abs(x) > Decimal("10000000")`; `abs` rounds. -/
def Decimal.tooLarge (x : Decimal) : Bool :=
  let y := x.rounded
  let magnitude := y.coefficient.natAbs
  if 0 ≤ y.exponent then
    decide (magnitude ≠ 0) &&
      (decide (7 < y.exponent) || decide (10000000 < magnitude * 10 ^ y.exponent.toNat))
  else decide (10000000 * 10 ^ (-y.exponent).toNat < magnitude)

/-- `int((x * SCALE).quantize(Decimal("1"), rounding=ROUND_HALF_EVEN))` -/
def Decimal.units (x : Decimal) : Int :=
  let y := Decimal.rounded ⟨x.coefficient * 10000, x.exponent⟩
  if 0 ≤ y.exponent then y.coefficient * 10 ^ y.exponent.toNat
  else divideHalfEven y.coefficient (10 ^ (-y.exponent).toNat)

def currencySigns : Text := ['$', '£', '€', '₹', '¥']

/-- `_money` -/
def money [UnicodeDatabase] : Option String → Option Decimal
  | none => none
  | some raw =>
      let text := stripText raw.toList
      let blank := ["", "none", "na", "n/a", "null", "nan"].map String.toList
      if UnicodeDatabase.lower text ∈ blank then none
      else parseDecimal (text.filter fun c => c ≠ ',' && !currencySigns.contains c)

/-- `_amount_units` -/
def amountUnits [UnicodeDatabase] (raw : Option String) : Option Int :=
  (money raw).bind fun amount => if amount.tooLarge then none else some amount.units

/-! The ledger. -/

structure RiskRow where
  scanId : String
  ordinal : Nat
  supplierHash : String
  categoryHash : String
  day : String
  invoiceHash : String
  amountUnits : Int
  deriving DecidableEq

/-- The counters of a scan. -/
structure Tally where
  scanned : Nat := 0
  valid : Nat := 0
  invalid : Nat := 0
  sumUnits : Int := 0
  deriving DecidableEq

section rows
variable [ScanRuntime]

/-- The row of the ledger for the `ordinal`-th record of a file, where its amount is valid. -/
def riskRow (scanId : String) (headers : List String) (columns : Columns) (ordinal : Nat)
    (record : List String) : Option RiskRow :=
  (amountUnits (cell headers record columns.amount)).map fun amount =>
    let text (header : String) := (cell headers record header).getD ""
    { scanId, ordinal
      supplierHash := ScanRuntime.hash (text columns.supplier) scanId
      categoryHash := ScanRuntime.hash (text columns.category) scanId
      day :=
        match columns.date with
        | some header => String.ofList ((stripText (text header).toList).take 10)
        | none => ""
      invoiceHash :=
        match columns.invoiceId with
        | some header =>
            if strip (text header) ≠ "" then ScanRuntime.hash (text header) scanId else ""
        | none => ""
      amountUnits := amount }

/-- The counters after a record. -/
def Tally.count (tally : Tally) : Option RiskRow → Tally
  | none => { tally with scanned := tally.scanned + 1, invalid := tally.invalid + 1 }
  | some row =>
      { scanned := tally.scanned + 1, valid := tally.valid + 1, invalid := tally.invalid
        sumUnits := tally.sumUnits + row.amountUnits }

end rows

/-! The result. -/

/-- The exceptions of `_finalize`. -/
inductive Failure where
  | scaling (message : String)
  | typeError
  deriving DecidableEq, Repr

/-- `ORDER BY amount_units LIMIT 1 OFFSET k`, of which `fetchone` may have no first row. -/
def amountAt (rows : List RiskRow) (k : Nat) : Except Failure Int :=
  match ((rows.map RiskRow.amountUnits).mergeSort fun a b => decide (a ≤ b))[k]? with
  | some amount => .ok amount
  | none => .error .typeError

/-- `_percentile` at `quarters / 4`; its two statements may find different rows. -/
def percentile (first second : List RiskRow) (n quarters : Nat) : Except Failure Int := do
  let position := (n - 1) * quarters
  let a ← amountAt first (position / 4)
  if position % 4 = 0 then return a
  else
    let b ← amountAt second (position / 4 + 1)
    return divideHalfEven (4 * a + (b - a) * (position % 4 : Nat)) 4

/-- `GROUP BY` a key -/
def groupRows {κ : Type} [DecidableEq κ] (key : RiskRow → κ) (rows : List RiskRow) :
    List (List RiskRow) :=
  ((rows.map key).dedup).map fun k => rows.filter fun row => key row = k

/-- `COUNT(*), COALESCE(SUM(n),0)` of the groups. -/
def countGroups (groups : List (List RiskRow)) : Nat × Nat :=
  (groups.length, (groups.map List.length).foldl (· + ·) 0)

def sumUnits (rows : List RiskRow) : Int := (rows.map RiskRow.amountUnits).foldl (· + ·) 0

/-- `HAVING n>=3 AND hi*100<=lo*115 AND total>=?` -/
def isSplit (least : Int) (group : List RiskRow) : Bool :=
  let amounts := group.map RiskRow.amountUnits
  let low := amounts.foldl min (amounts.headD 0)
  let high := amounts.foldl max (amounts.headD 0)
  decide (3 ≤ group.length) && decide (high * 100 ≤ low * 115) && decide (least ≤ sumUnits group)

/-- The signals of a result. -/
structure Signals where
  unusuallyHigh : Nat
  repeatedPatterns : Nat × Nat
  repeatedInvoices : Nat × Nat
  possibleSplits : Nat × Nat
  limit : Option Int
  deriving DecidableEq

/-- The statements of `_finalize` after its first one. -/
inductive Query where
  | firstLow
  | firstHigh
  | thirdLow
  | thirdHigh
  | high
  | duplicate
  | invoice
  | split
  deriving DecidableEq, Repr

def Query.all : List Query :=
  [.firstLow, .firstHigh, .thirdLow, .thirdHigh, .high, .duplicate, .invoice, .split]

/-- `int(q3 + 1.5 * (q3 - q1))` -/
def upperLimit (q1 q3 : Int) : Int := (2 * q3 + 3 * (q3 - q1)).tdiv 2

def quartiles (n : Nat) (view : Query → List RiskRow) : Except Failure (Option (Int × Int)) :=
  if 4 ≤ n then do
    let q1 ← percentile (view .firstLow) (view .firstHigh) n 1
    let q3 ← percentile (view .thirdLow) (view .thirdHigh) n 3
    return some (q1, q3)
  else return none

def dated (rows : List RiskRow) : List RiskRow := rows.filter fun row => decide (row.day ≠ "")

def duplicateGroups (rows : List RiskRow) : List (List RiskRow) :=
  (groupRows (fun row => (row.supplierHash, row.categoryHash, row.day, row.amountUnits))
    (dated rows)).filter fun group => decide (1 < group.length)

def invoiceGroups (rows : List RiskRow) : List (List RiskRow) :=
  (groupRows RiskRow.invoiceHash (rows.filter fun row => decide (row.invoiceHash ≠ ""))).filter
    fun group => decide (1 < group.length)

def splitGroups (least : Int) (rows : List RiskRow) : List (List RiskRow) :=
  (groupRows (fun row => (row.supplierHash, row.categoryHash, row.day))
    ((dated rows).filter fun row => decide (0 < row.amountUnits))).filter (isSplit least)

/-- The queries; `view` is the ledger of the scan as each statement finds it. -/
def screen (n : Nat) (invoiceColumn : Bool) (view : Query → List RiskRow) :
    Except Failure Signals := do
  let q ← quartiles n view
  let limit := q.map fun q => upperLimit q.1 q.2
  let high :=
    match limit with
    | some limit => (view .high).countP fun row => decide (limit < row.amountUnits)
    | none => 0
  let invoice := if invoiceColumn then invoiceGroups (view .invoice) else []
  let least : Int := max 0 (((q.map Prod.snd).getD 0) * 2)
  return {
    unusuallyHigh := high
    repeatedPatterns := countGroups (duplicateGroups (view .duplicate))
    repeatedInvoices := countGroups invoice
    possibleSplits := countGroups (splitGroups least (view .split))
    limit }

/-- The first statement of `_finalize`. -/
def reconciles (tally : Tally) (rows : List RiskRow) : Bool :=
  decide (rows.length = tally.valid) && decide (sumUnits rows = tally.sumUnits)

def resultOf [ScanRuntime] (tally : Tally) (invoiceColumn : Bool) (signals : Signals) : PyDict :=
  let pair (names : String × String) (counts : Nat × Nat) : PyDict :=
    [(names.1, .int counts.1), (names.2, .int counts.2)]
  [("analysis_type", .str "disk_backed_pattern_screening"),
    ("coverage", .str "full_source_rule_based_screening_not_fraud_determination"),
    ("metrics", .dict [
      ("rows_scanned", .int tally.scanned),
      ("valid_amount_rows", .int tally.valid),
      ("invalid_amount_rows", .int tally.invalid),
      ("total_amount_source_units", ScanRuntime.sourceUnits tally.sumUnits)]),
    ("signals", .dict (
      [("unusually_high_amount_transactions", .int signals.unusuallyHigh)] ++
      pair ("repeated_transaction_pattern_groups", "transactions_in_repeated_patterns")
        signals.repeatedPatterns ++
      pair ("repeated_invoice_identifier_groups", "transactions_in_repeated_invoice_groups")
        signals.repeatedInvoices ++
      pair ("possible_split_pattern_groups", "transactions_in_split_patterns")
        signals.possibleSplits)),
    ("thresholds", .dict [("amount_iqr_upper_source_units",
      match signals.limit with
      | some limit => ScanRuntime.sourceUnits limit
      | none => .none)]),
    ("invoice_identifier_available", .bool invoiceColumn),
    ("verification",
      .str "Exact fixed-point amount total and row count reconciled with the SQLite spool."),
    ("limitations", .list [
      .str "Flags are potential patterns, not evidence of fraud or policy violation.",
      .str "Repeated supplier/category/day/amount values do not prove duplicate invoices.",
      .str "The split-purchase signal is heuristic and requires manual investigation.",
      .str "Without a true invoice field, invoice duplication is not assessed.",
      .str "Only the supported read-only CSV screening rules were executed; no AI model was called."]),
    ("hugging_face_requests", .int 0)]

end RiskScan
