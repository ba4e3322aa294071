import AeaiOs.CalendarForecast
import Mathlib.Analysis.Real.Sqrt

/-!
The bounds of the forecast around its predictions, and the confidence for series of any sign, in
exact reals.
-/
namespace Analytics
open PyText HalfEven LeastSquares

/-- Predictions stand between bounds that do not fall below zero, the bands do not narrow, and
    the confidence is within its limits, at the lower one if the residuals are as large as the
    mean spend. -/
structure Coherent (values : List ℝ) (report : ForecastReport ℝ) : Prop where
  bounds : ∀ entry ∈ report.forecast, 0 ≤ entry.lowerBound ∧
    entry.lowerBound ≤ entry.predictedSpend ∧ entry.predictedSpend ≤ entry.upperBound
  bands : ∀ offset later, offset ≤ later →
    uncertainty Real.sqrt values offset ≤ uncertainty Real.sqrt values later
  confidence : 2 / 10 ≤ report.confidence ∧ report.confidence ≤ 95 / 100
  unsure : |mean values| ≤ √(residualVariance values) → report.confidence = 2 / 10

theorem uncertainty_mono (values : List ℝ) {offset later : Nat} (le : offset ≤ later) :
    uncertainty Real.sqrt values offset ≤ uncertainty Real.sqrt values later := by
  have root := Real.sqrt_nonneg (residualVariance values)
  have offsets : (offset : ℝ) ≤ later := by exact_mod_cast le
  unfold uncertainty
  apply mul_le_mul_of_nonneg_left _ root
  linarith

theorem uncertainty_nonneg (values : List ℝ) (offset : Nat) :
    0 ≤ uncertainty Real.sqrt values offset := by
  have root := Real.sqrt_nonneg (residualVariance values)
  unfold uncertainty
  positivity

theorem roundPlaces_zero (places : Nat) : roundPlaces places (0 : ℝ) = 0 := by
  have fixed := roundPlaces_decimal (K := ℝ) places 0
  simpa using fixed

theorem forecastEntry_bounds (values : List ℝ) (lastMonth : Int) (offset : Nat) :
    0 ≤ (forecastEntry Real.sqrt values lastMonth offset).lowerBound ∧
      (forecastEntry Real.sqrt values lastMonth offset).lowerBound ≤
        (forecastEntry Real.sqrt values lastMonth offset).predictedSpend ∧
      (forecastEntry Real.sqrt values lastMonth offset).predictedSpend ≤
        (forecastEntry Real.sqrt values lastMonth offset).upperBound := by
  have band := uncertainty_nonneg values offset
  have point : 0 ≤ max 0 (prediction values offset) := le_max_left _ _
  unfold forecastEntry
  dsimp only
  generalize max 0 (prediction values offset) = p at point ⊢
  refine ⟨?_, ?_, ?_⟩
  · have least := roundPlaces_mono 4 (le_max_left 0 (p - uncertainty Real.sqrt values offset))
    rwa [roundPlaces_zero] at least
  · exact roundPlaces_mono 4 (max_le point (by linarith))
  · exact roundPlaces_mono 4 (by linarith)

/-! The confidence. -/

theorem limits_fixed :
    roundPlaces 2 (2 / 10 : ℝ) = 2 / 10 ∧ roundPlaces 2 (95 / 100 : ℝ) = 95 / 100 := by
  have lowest := roundPlaces_decimal (K := ℝ) 2 20
  have highest := roundPlaces_decimal (K := ℝ) 2 95
  norm_num at lowest highest ⊢
  exact ⟨lowest, highest⟩

theorem confidence_limits {x : ℝ} (low : 2 / 10 ≤ x) (high : x ≤ 95 / 100) :
    2 / 10 ≤ roundPlaces 2 x ∧ roundPlaces 2 x ≤ 95 / 100 := by
  have lowest := roundPlaces_mono 2 low
  have highest := roundPlaces_mono 2 high
  rw [limits_fixed.1] at lowest
  rw [limits_fixed.2] at highest
  exact ⟨lowest, highest⟩

/-- With residuals as large as the mean, the confidence is the lowest one unless the mean is
    negative. -/
theorem confidence_lowest_iff {values : List ℝ} (large : |mean values| ≤ √(residualVariance values))
    (lastMonth : Int) (periods : Nat) :
    (forecastReport Real.sqrt values lastMonth periods).confidence = 2 / 10 ↔ 0 ≤ mean values := by
  obtain ⟨fixed, top⟩ := limits_fixed
  unfold forecastReport normalizedError
  dsimp only
  rcases lt_trichotomy (mean values) 0 with negative | zero | positive
  · rw [abs_of_neg negative] at large
    have error : √(residualVariance values) / mean values ≤ -1 := by
      rw [div_le_iff_of_neg negative]
      linarith
    rw [if_neg negative.ne, min_eq_left (by linarith), max_eq_right (by norm_num), top]
    constructor
    · intro same
      norm_num at same
    · intro start
      linarith
  · rw [if_pos zero]
    constructor
    · intro _
      exact zero.ge
    · intro _
      rw [min_eq_right (by norm_num), max_eq_left (by norm_num), fixed]
  · rw [abs_of_pos positive] at large
    have error : 1 ≤ √(residualVariance values) / mean values := by
      rw [le_div_iff₀ positive]
      linarith
    rw [if_neg positive.ne']
    constructor
    · intro _
      exact positive.le
    · intro _
      rw [max_eq_left ((min_le_right _ _).trans (by linarith)), fixed]

theorem coherent_iff {values : List ℝ} (lastMonth : Int) (periods : Nat) :
    Coherent values (forecastReport Real.sqrt values lastMonth periods) ↔
      0 ≤ mean values ∨ √(residualVariance values) < |mean values| := by
  constructor
  · intro coherent
    by_contra neither
    rw [not_or, not_lt] at neither
    exact neither.1 ((confidence_lowest_iff neither.2 lastMonth periods).mp
      (coherent.unsure neither.2))
  · intro either
    constructor
    · intro entry member
      obtain ⟨offset, _, rfl⟩ := List.mem_map.mp member
      exact forecastEntry_bounds values lastMonth offset
    · intro offset later le
      exact uncertainty_mono values le
    · exact confidence_limits (le_max_left _ _)
        (max_le (by norm_num) (min_le_left _ _))
    · intro large
      apply (confidence_lowest_iff large lastMonth periods).mpr
      exact either.resolve_right (not_lt.mpr large)

/-- A forecast of three observations or more is made, and it is coherent exactly if the mean
    spend is not negative or the residuals are smaller than it. -/
theorem forecast_coherent_iff [CalendarReader] {spendTrend : List (String × ℝ)}
    (several : 3 ≤ (spendTrend.filter fun item => item.1 ≠ "").length) {lastMonth : Int}
    (dated : ((spendTrend.filter fun item => item.1 ≠ "").getLast?.bind fun item =>
      CalendarReader.monthIndex item.1) = some lastMonth) (periods : Nat) :
    ∃ report, forecastMonthlySpend Real.sqrt spendTrend periods = .ok (.ready report) ∧
      (Coherent ((spendTrend.filter fun item => item.1 ≠ "").map Prod.snd) report ↔
        0 ≤ mean ((spendTrend.filter fun item => item.1 ≠ "").map Prod.snd) ∨
          √(residualVariance ((spendTrend.filter fun item => item.1 ≠ "").map Prod.snd)) <
            |mean ((spendTrend.filter fun item => item.1 ≠ "").map Prod.snd)|) := by
  refine ⟨_, ?_, coherent_iff lastMonth periods⟩
  unfold forecastMonthlySpend
  dsimp only
  rw [if_neg (by omega), dated]

theorem credits_overconfident : let _ := isoCalendar
    ∃ report, forecastMonthlySpend Real.sqrt [("2026-01", -3), ("2026-02", 0), ("2026-03", 0)] 3 =
        .ok (.ready report) ∧ ¬ Coherent [-3, 0, 0] report := by
  intro _
  have read : CalendarReader.monthIndex "2026-03" = some 24314 := by decide
  have points : indexed [(-3 : ℝ), 0, 0] = [(0, -3), (1, 0), (2, 0)] := by simp [indexed]
  have slopes : slope [(-3 : ℝ), 0, 0] = 3 / 2 := by
    unfold slope
    rw [points]
    norm_num [spread, covariance, xMean, yMean, mean]
  have start : intercept [(-3 : ℝ), 0, 0] = -5 / 2 := by
    unfold intercept
    rw [slopes, points]
    norm_num [xMean, yMean, mean]
  have variance : residualVariance [(-3 : ℝ), 0, 0] = 3 / 2 := by
    unfold residualVariance residuals
    rw [slopes, start, points]
    norm_num
  have average : mean [(-3 : ℝ), 0, 0] = -1 := by
    norm_num [mean]
  refine ⟨forecastReport Real.sqrt [-3, 0, 0] 24314 3, ?_, ?_⟩
  · simp [forecastMonthlySpend, read]
  · rw [coherent_iff, average, variance]
    rintro (start | small)
    · norm_num at start
    · rw [Real.sqrt_lt' (by norm_num)] at small
      norm_num at small

theorem level_spend_coherent : let _ := isoCalendar
    ∃ report, forecastMonthlySpend Real.sqrt [("2026-01", 3), ("2026-02", 3), ("2026-03", 3)] 3 =
        .ok (.ready report) ∧ Coherent [3, 3, 3] report := by
  intro _
  have read : CalendarReader.monthIndex "2026-03" = some 24314 := by decide
  obtain ⟨report, made, coherent⟩ := @forecast_coherent_iff isoCalendar
    [("2026-01", 3), ("2026-02", 3), ("2026-03", 3)] (by simp) 24314 (by simp [read]) 3
  have values : (([("2026-01", 3), ("2026-02", 3), ("2026-03", 3)] : List (String × ℝ)).filter
      fun item => item.1 ≠ "").map Prod.snd = [3, 3, 3] := by simp
  rw [values] at coherent
  refine ⟨report, made, coherent.mpr (.inl ?_)⟩
  norm_num [mean]

end Analytics
