import AeaiOs.AnalysisRuns
import AeaiOs.Lib.CivilTime
import AeaiOs.Lib.LeastSquares

/-!
The forecast of the monthly spend: a line through the months in the order of the trend, and the
months that the predictions are labelled by.
-/
namespace Analytics
open PyText OrderedDict HalfEven GroupSums CivilTime LeastSquares

/-! Months of the calendar, counted from January of the year 0. -/

/-- `strftime("%Y-%m")` of a month, and the text of `_add_months`. -/
def monthLabel (index : Int) : String :=
  String.ofList (padded 4 (index / 12) ++ '-' :: padded 2 (index % 12 + 1))

/-- A month of a `datetime`. -/
def CalendarMonth (index : Int) : Prop := 12 ≤ index ∧ index < 120000

instance (index : Int) : Decidable (CalendarMonth index) := inferInstanceAs (Decidable (_ ∧ _))

/-- `strftime("%Y-%m")` writes months of the calendar, and `strptime` with the same format reads
    them. -/
class CalendarReader extends MonthReader where
  monthIndex : String → Option Int
  monthIndex_label : ∀ index, CalendarMonth index → monthIndex (monthLabel index) = some index
  isoMonth_label : ∀ text label, isoMonth text = some label →
    ∃ index, CalendarMonth index ∧ label = monthLabel index
  formattedMonth_label : ∀ format text label, formattedMonth format text = some label →
    ∃ index, CalendarMonth index ∧ label = monthLabel index

/-! The line. -/

section line
variable {K : Type} [Field K]

/-- The values with their positions, the first of which is 0. -/
def indexed (values : List K) : List (K × K) :=
  values.zipIdx.map fun entry => ((entry.2 : K), entry.1)

variable [DecidableEq K]

def slope (values : List K) : K :=
  if spread (indexed values) = 0 then 0
  else covariance (indexed values) / spread (indexed values)

def intercept (values : List K) : K :=
  yMean (indexed values) - slope values * xMean (indexed values)

def residuals (values : List K) : List K :=
  (indexed values).map fun point => point.2 - (intercept values + slope values * point.1)

/-- The square of `residual_std`. -/
def residualVariance (values : List K) : K :=
  ((residuals values).map fun residual => residual ^ 2).sum /
    ((max (values.length - 2) 1 : Nat) : K)

/-- `intercept + slope * (len(values) - 1 + offset)` -/
def prediction (values : List K) (offset : Nat) : K :=
  intercept values + slope values * (values.length - 1 + offset)

end line

/-! The forecast. -/

section forecast
variable {K : Type} [Field K] [LinearOrder K]

/-- `uncertainty` -/
def uncertainty (root : K → K) (values : List K) (offset : Nat) : K :=
  root (residualVariance values) * (1 + offset * (15 / 100))

structure ForecastEntry (K : Type) where
  month : String
  predictedSpend : K
  lowerBound : K
  upperBound : K

inductive Direction where
  | increasing | decreasing | stable
  deriving DecidableEq, Repr

structure ForecastReport (K : Type) where
  method : String := "linear_trend"
  observedMonths : Nat
  trendPerMonth : K
  direction : Direction
  confidence : K
  forecast : List (ForecastEntry K)
  limitations : String :=
    "Baseline projection; seasonality and external business drivers are not modeled."

inductive Forecast (K : Type) where
  | insufficientHistory (method : String) (requiredMonths observedMonths : Nat)
  | ready (report : ForecastReport K)

variable [FloorRing K]

def forecastEntry (root : K → K) (values : List K) (lastMonth : Int) (offset : Nat) :
    ForecastEntry K :=
  let point := max 0 (prediction values offset)
  { month := monthLabel (lastMonth + offset)
    predictedSpend := roundPlaces 4 point
    lowerBound := roundPlaces 4 (max 0 (point - uncertainty root values offset))
    upperBound := roundPlaces 4 (point + uncertainty root values offset) }

def normalizedError (root : K → K) (values : List K) : K :=
  if mean values = 0 then 1 else root (residualVariance values) / mean values

def directionOf (slope : K) : Direction :=
  if 0 < slope then .increasing else if slope < 0 then .decreasing else .stable

def forecastReport (root : K → K) (values : List K) (lastMonth : Int) (periods : Nat) :
    ForecastReport K where
  observedMonths := values.length
  trendPerMonth := roundPlaces 4 (slope values)
  direction := directionOf (slope values)
  confidence := roundPlaces 2 (max (2 / 10) (min (95 / 100) (1 - normalizedError root values)))
  forecast := (List.range' 1 periods).map (forecastEntry root values lastMonth)

/-- `forecast_monthly_spend`; the square root is a parameter, and a last month that `strptime`
    does not read raises a `ValueError`. -/
def forecastMonthlySpend [CalendarReader] (root : K → K) (spendTrend : List (String × K))
    (periods : Nat) : Except AnalysisError (Forecast K) :=
  let observations := spendTrend.filter fun item => item.1 ≠ ""
  if observations.length < 3 then
    .ok (.insufficientHistory "linear_trend" 3 observations.length)
  else
    match observations.getLast?.bind fun item => CalendarReader.monthIndex item.1 with
    | none => .error (.valueError "time data does not match format")
    | some lastMonth =>
        .ok (.ready (forecastReport root (observations.map Prod.snd) lastMonth periods))

end forecast
end Analytics
