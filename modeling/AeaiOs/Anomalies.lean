import AeaiOs.ProcurementAnalysis
import AeaiOs.Values
import AeaiOs.Lib.OrderStatistics

/-!
The explainable anomalies among the rows of a procurement dataset, in exact arithmetic, and the
quality gate that their explanations pass.
-/
namespace Anomalies
open PyText RunValues OrderedDict HalfEven Analytics

structure CalendarDay where
  /-- Monday is zero. -/
  weekday : Nat
  isoText : String

/-- `datetime.fromisoformat` and `datetime.strptime`, with the characters of `str`. -/
class DateReader extends UnicodeDatabase where
  isoDay : String → Option CalendarDay
  formattedDay : (format text : String) → Option CalendarDay

/-! Statistics. -/

def minAnomalyScore : Int := 20

/-- `f"{x:.{places}f}"` -/
def fixedText (places : Nat) (x : Rat) : String :=
  let units := (nearestInteger (|x| * 10 ^ places)).natAbs
  let digits := Nat.toDigits 10 (units % 10 ^ places)
  (if x < 0 then "-" else "") ++ toString (units / 10 ^ places) ++ "." ++
    String.ofList (List.replicate (places - digits.length) '0' ++ digits)

def ascending (amounts : List Rat) : List Rat := amounts.mergeSort fun a b => decide (a ≤ b)

/-- `_percentile` of sorted values at `quarters / 4` -/
def percentile (values : List Rat) (quarters : Nat) : Rat :=
  let position := (values.length - 1) * quarters
  let lower := position / 4
  if position % 4 = 0 then values.getD lower 0
  else
    let weight : Rat := (position % 4 : Nat) / 4
    values.getD lower 0 * (1 - weight) + values.getD (lower + 1) 0 * weight

/-- `statistics.median` -/
def median (amounts : List Rat) : Rat :=
  let values := ascending amounts
  if values.length % 2 = 1 then values.getD (values.length / 2) 0
  else (values.getD (values.length / 2 - 1) 0 + values.getD (values.length / 2) 0) / 2

section detection
variable [DateReader]

/-- `_normalized` -/
def normalized (value : Option String) : String :=
  String.ofList (UnicodeDatabase.lower (strip (value.getD "")).toList)

/-- `str(value or "<missing>")` -/
def labelOf (value : String) : String := if value = "" then "<missing>" else value

/-- `_transaction_fingerprint` -/
def transactionFingerprint (row : ParsedRow) : String × String × String × Rat :=
  (normalized (some row.supplier), normalized (some row.category), normalized row.date,
    roundPlaces 4 row.amount)

/-- `_looks_like_split_purchase` -/
def looksLikeSplitPurchase (rows : List ParsedRow) (upperQuartile : Rat) : Bool :=
  if rows.length < 3 then false
  else
    let amounts := (rows.map ParsedRow.amount).filter fun amount => decide (0 < amount)
    let least := amounts.min?.getD 0
    let greatest := amounts.max?.getD 0
    if amounts.length < 3 || least ≤ 0 then false
    else
      decide (greatest / least ≤ 115 / 100) &&
        decide (max (upperQuartile * 2) (median amounts * 3) ≤ amounts.sum)

/-- `_parse_date` -/
def parseDate (value : Option String) : Option CalendarDay :=
  let text := strip (value.getD "")
  if text = "" then none
  else
    (DateReader.isoDay text).or
      (["%d/%m/%Y", "%m/%d/%Y", "%b-%y"].findSome? fun format =>
        DateReader.formattedDay format text)

/-! What the rows are compared with. -/

def amounts (rows : List ParsedRow) : List Rat := ascending (rows.map ParsedRow.amount)

def lowerQuartile (rows : List ParsedRow) : Rat := percentile (amounts rows) 1

def upperQuartile (rows : List ParsedRow) : Rat := percentile (amounts rows) 3

/-- `amount_threshold`, of which none is the infinity -/
def amountThreshold (rows : List ParsedRow) : Option Rat :=
  if 4 ≤ rows.length then
    some (upperQuartile rows + 3 / 2 * (upperQuartile rows - lowerQuartile rows))
  else none

/-- `invoice_counts[invoice_id]` -/
def invoiceCount (rows : List ParsedRow) (invoiceId : String) : Nat :=
  rows.countP fun row => normalized row.invoiceId = invoiceId

/-- `transaction_counts[_transaction_fingerprint(row)]` -/
def fingerprintCount (rows : List ParsedRow) (row : ParsedRow) : Nat :=
  rows.countP fun other => transactionFingerprint other = transactionFingerprint row

/-- `supplier_amounts[supplier]` -/
def supplierAmounts (rows : List ParsedRow) (supplier : String) : List Rat :=
  (rows.filter fun row => labelOf row.supplier = supplier).map ParsedRow.amount

/-- The key of a row in `split_groups` -/
def splitKey (row : ParsedRow) : String × String × String :=
  (labelOf row.supplier, labelOf row.category, normalized row.date)

def splitGroup (rows : List ParsedRow) (key : String × String × String) : List ParsedRow :=
  (rows.filter fun row => decide (normalized row.date ≠ "")).filter fun row => splitKey row = key

/-- `split_rows` -/
def splitRows (rows : List ParsedRow) : List Nat :=
  let keys := ((rows.filter fun row => decide (normalized row.date ≠ "")).map splitKey).dedup
  keys.flatMap fun key =>
    if looksLikeSplitPurchase (splitGroup rows key) (upperQuartile rows) then
      (splitGroup rows key).map ParsedRow.rowNumber
    else []

/-! Signals. -/

structure Signal where
  code : String
  label : String
  weight : Nat
  evidence : String
  deriving DecidableEq

/-- `_signal`, where the detector fires -/
def signal (fires : Bool) (code label : String) (weight : Nat) (evidence : String) : List Signal :=
  if fires then [⟨code, label, weight, evidence⟩] else []

/-- The amount is more than its threshold; no amount is more than the infinity. -/
def isOutlier (threshold : Option Rat) (amount : Rat) : Bool :=
  threshold.any fun limit => decide (limit < amount)

/-- The signals of a row, in the order of the detectors. -/
def signalsOf (rows : List ParsedRow) (row : ParsedRow) : List Signal :=
  let supplier := labelOf row.supplier
  let invoiceId := normalized row.invoiceId
  let copies := fingerprintCount rows row
  let sameSupplier := supplierAmounts rows supplier
  let baseline := median sameSupplier
  let weekend := (parseDate row.date).filter fun day => decide (5 ≤ day.weekday)
  signal (isOutlier (amountThreshold rows) row.amount)
      "amount_outlier" "Unusual transaction amount" 45
      ("Amount exceeds the robust IQR threshold of " ++
        fixedText 2 ((amountThreshold rows).getD 0) ++ ".") ++
    signal (decide (invoiceId ≠ "") && decide (1 < invoiceCount rows invoiceId))
      "duplicate_invoice" "Duplicate invoice identifier" 60
      s!"Invoice {invoiceId} appears {invoiceCount rows invoiceId} times." ++
    signal (decide (1 < copies) && decide (normalized row.date ≠ ""))
      "duplicate_transaction" "Repeated transaction fingerprint" 45
      s!"The same supplier, category, date, and amount appear {copies} times." ++
    signal (decide (3 ≤ sameSupplier.length) && decide (0 < baseline) &&
        decide (baseline * 3 ≤ row.amount) && decide (upperQuartile rows < row.amount))
      "supplier_amount_spike" "Supplier amount spike" 30
      ("Amount is " ++ fixedText 1 (row.amount / baseline) ++
        "x this supplier's median transaction.") ++
    signal ((splitRows rows).contains row.rowNumber)
      "split_purchase_pattern" "Potential split purchase" 35
      "Three or more similar purchases share a supplier, category, and date." ++
    signal weekend.isSome
      "weekend_activity" "Weekend transaction" 12
      ("Transaction date " ++ (weekend.map CalendarDay.isoText).getD "" ++ " falls on a weekend.") ++
    signal (decide (sameSupplier.length = 1) && decide (upperQuartile rows < row.amount) &&
        decide (4 ≤ rows.length))
      "single_use_high_value_supplier" "High-value single-use supplier" 20
      "Supplier appears once and the transaction is above the dataset's upper quartile."

/-- `remaining_probability` -/
def remainingProbability (signals : List Signal) : Rat :=
  signals.foldl (fun rest signal => rest * (1 - (signal.weight : Rat) / 100)) 1

/-- `_combined_score` -/
def combinedScore (signals : List Signal) : Int :=
  min 100 (nearestInteger ((1 - remainingProbability signals) * 100))

/-- `_severity` -/
def severity (score : Int) : String :=
  if 80 ≤ score then "critical"
  else if 60 ≤ score then "high"
  else if 35 ≤ score then "medium"
  else "low"

/-- `_confidence` -/
def confidence (row : ParsedRow) (rowCount : Nat) (signals : List Signal) : Rat :=
  let populated := [row.invoiceId, row.date, row.department, row.approver].countP fun field =>
    decide (normalized field ≠ "")
  let value : Rat := 52 / 100 + populated * (7 / 100) + (min rowCount 100 : Nat) / 1000 +
    signals.length * (3 / 100)
  roundPlaces 2 (min value (98 / 100))

/-- `_recommended_action` -/
def recommendedAction (score : Int) : String :=
  if 80 ≤ score then "Hold for immediate investigation and verify supporting documents."
  else if 60 ≤ score then "Prioritize for investigator review before approval or payment."
  else if 35 ≤ score then "Review the transaction and compare it with supplier history."
  else "Monitor and include in the next routine procurement review."

/-! Anomalies. -/

structure Anomaly where
  id : String
  /-- the row, with its amount rounded -/
  row : ParsedRow
  riskScore : Int
  severity : String
  confidence : Rat
  signals : List Signal
  reason : String
  recommendedAction : String
  deriving DecidableEq

/-- The entry of a row -/
def anomalyOf (rows : List ParsedRow) (row : ParsedRow) : Anomaly :=
  let signals := signalsOf rows row
  let score := combinedScore signals
  { id := s!"anomaly-row-{row.rowNumber}"
    row := { row with amount := roundPlaces 4 row.amount }
    riskScore := score
    severity := severity score
    confidence := confidence row rows.length signals
    signals
    reason := "; ".intercalate (signals.map Signal.label)
    recommendedAction := recommendedAction score }

/-- `(-risk_score, -amount, row_number)` of the first is not after that of the second. -/
def ranksBefore (a b : Anomaly) : Bool :=
  decide (b.riskScore < a.riskScore) || decide (a.riskScore = b.riskScore) &&
    (decide (b.row.amount < a.row.amount) || decide (a.row.amount = b.row.amount) &&
      decide (a.row.rowNumber ≤ b.row.rowNumber))

structure DetectionResult where
  /-- `amount_outlier_threshold` -/
  threshold : Option Rat
  anomalyCount : Nat
  criticalCount : Nat
  highRiskCount : Nat
  mediumRiskCount : Nat
  riskExposure : Rat
  anomalies : List Anomaly
  deriving DecidableEq

/-- `_result` -/
def resultOf (anomalies : List Anomaly) (threshold : Option Rat) : DetectionResult where
  threshold := threshold.map (roundPlaces 4)
  anomalyCount := anomalies.length
  criticalCount := anomalies.countP fun anomaly => anomaly.severity = "critical"
  highRiskCount := anomalies.countP fun anomaly => anomaly.severity = "high"
  mediumRiskCount := anomalies.countP fun anomaly => anomaly.severity = "medium"
  riskExposure := roundPlaces 4 (anomalies.map fun anomaly => anomaly.row.amount).sum
  anomalies := anomalies

/-- `detect_procurement_anomalies` -/
def detectProcurementAnomalies (rows : List ParsedRow) : DetectionResult :=
  if rows.isEmpty then resultOf [] (some 0)
  else
    let anomalies := (rows.map (anomalyOf rows)).filter fun anomaly =>
      decide (minAnomalyScore ≤ anomaly.riskScore)
    resultOf (anomalies.mergeSort ranksBefore) (amountThreshold rows)

end detection

/-! The result as the gate reads it. -/

def Signal.entries (signal : Signal) : PyDict :=
  [("code", .str signal.code), ("label", .str signal.label), ("weight", .int signal.weight),
    ("evidence", .str signal.evidence)]

def Anomaly.entries (anomaly : Anomaly) : PyDict :=
  [("id", .str anomaly.id),
    ("row_number", .int anomaly.row.rowNumber),
    ("supplier", .str anomaly.row.supplier),
    ("category", .str anomaly.row.category),
    ("amount", .float anomaly.row.amount),
    ("month", .ofOption anomaly.row.month),
    ("date", .ofOption anomaly.row.date),
    ("invoice_id", .ofOption anomaly.row.invoiceId),
    ("department", .ofOption anomaly.row.department),
    ("approver", .ofOption anomaly.row.approver),
    ("risk_score", .int anomaly.riskScore),
    ("severity", .str anomaly.severity),
    ("confidence", .float anomaly.confidence),
    ("signals", .list (anomaly.signals.map fun signal => .dict signal.entries)),
    ("reason", .str anomaly.reason),
    ("recommended_action", .str anomaly.recommendedAction)]

/-! The gate. -/

/-- `float(text)` where it is finite, next to what the detection reads with -/
class GateRuntime extends PyRuntime, DateReader where
  floatOf : String → Option Rat

section gate
variable [GateRuntime]

/-- `_number` -/
def number : PyValue → Rat
  | .int n => n
  | .float q => q
  | .bool b => if b then 1 else 0
  | .str text => (GateRuntime.floatOf text).getD 0
  | _ => 0

def entry (entries : PyDict) (key : String) : PyValue := (lookupEntries entries key).getD .none

def requiredFields : List String :=
  ["id", "risk_score", "severity", "confidence", "signals", "recommended_action"]

/-- `signal.get("code") and signal.get("evidence") and signal.get("weight")` -/
def validSignal : PyValue → Except PyError Bool
  | .dict signal =>
      .ok ((entry signal "code").truthy && (entry signal "evidence").truthy &&
        (entry signal "weight").truthy)
  | _ => .error .attributeError

/-- `all(...)`, which stops at the first invalid signal -/
def allValid : List PyValue → Except PyError Bool
  | [] => .ok true
  | signal :: signals => do
      if ← validSignal signal then allValid signals else return false

/-- `valid_signals` -/
def validSignals (signals : PyValue) : Except PyError Bool :=
  if signals.truthy then do allValid (← signals.toList) else .ok false

/-- The loop over the anomalies: the ids of the malformed ones. -/
def malformed : Nat → Rat → List PyValue → Except PyError (List String)
  | _, _, [] => .ok []
  | index, previous, .dict anomaly :: anomalies => do
      let id := if (entry anomaly "id").truthy then (entry anomaly "id").text
        else s!"index-{index}"
      if requiredFields.any fun field => (lookupEntries anomaly field).isNone then
        return id :: (← malformed (index + 1) previous anomalies)
      else
        let score := number (entry anomaly "risk_score")
        let valid ← validSignals (entry anomaly "signals")
        let rest ← malformed (index + 1) score anomalies
        if !(decide (0 ≤ score) && decide (score ≤ 100)) || !valid || decide (previous < score) then
          return id :: rest
        else return rest
  | _, _, _ :: _ => .error .attributeError

structure Check where
  passed : Bool
  score : Nat
  message : String
  anomalyCount : Nat
  malformedAnomalyIds : List String

/-- `_anomaly_explainability_check` of the value under `anomalies` -/
def anomalyExplainabilityCheck (anomalies : List PyValue) : Except PyError Check := do
  let ids ← malformed 0 101 anomalies
  return {
    passed := ids.isEmpty
    score := if ids.isEmpty then 1 else 0
    message :=
      if ids.isEmpty then "Anomaly scores are ranked and include explainable evidence."
      else "One or more anomaly scores are malformed or lack evidence."
    anomalyCount := anomalies.length
    malformedAnomalyIds := ids }

end gate

end Anomalies
