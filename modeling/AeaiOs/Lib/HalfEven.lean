import Mathlib.Algebra.Order.Round
import Mathlib.Data.Int.Log
import Mathlib.Data.Rat.Floor
import Mathlib.Tactic.Linarith
import Mathlib.Tactic.Positivity
import Mathlib.Tactic.FieldSimp

/-!
Rounding half to even: to integers, to decimal places and to the numbers of the binary format
with 53 digits.
-/
namespace HalfEven

/-- The nearest integer, and of two the even one. -/
def halfEven (q : Rat) : Int :=
  let rest := Int.fract q
  if rest < 1 / 2 then ⌊q⌋
  else if 1 / 2 < rest then ⌊q⌋ + 1
  else if ⌊q⌋ % 2 = 0 then ⌊q⌋ else ⌊q⌋ + 1

theorem halfEven_close (q : Rat) : |(halfEven q : Rat) - q| ≤ 1 / 2 := by
  have split := Int.floor_add_fract q
  have low := Int.fract_nonneg q
  have high := Int.fract_lt_one q
  rw [abs_le]
  unfold halfEven
  simp only
  split_ifs
  · constructor <;> linarith
  · push_cast
    constructor <;> linarith
  · constructor <;> linarith
  · push_cast
    constructor <;> linarith

/-- Every other integer is at least as far. -/
theorem halfEven_nearest (q : Rat) (n : Int) : |(halfEven q : Rat) - q| ≤ |(n : Rat) - q| := by
  have close := halfEven_close q
  by_cases same : n = halfEven q
  · rw [same]
  · have apart : (1 : Rat) ≤ |(n : Rat) - halfEven q| := by
      have positive : 1 ≤ |n - halfEven q| := Int.one_le_abs (sub_ne_zero.mpr same)
      exact_mod_cast positive
    have triangle := abs_sub_le (n : Rat) q (halfEven q)
    rw [abs_sub_comm q] at triangle
    linarith

/-- `round(q, places)` -/
def roundTo (places : Nat) (q : Rat) : Rat := halfEven (q * 10 ^ places) / 10 ^ places

theorem roundTo_close (places : Nat) (q : Rat) : |roundTo places q - q| ≤ 1 / 2 / 10 ^ places := by
  have close := halfEven_close (q * 10 ^ places)
  have scale : (0 : Rat) < 10 ^ places := by positivity
  have scaled : roundTo places q - q =
      ((halfEven (q * 10 ^ places) : Rat) - q * 10 ^ places) / 10 ^ places := by
    unfold roundTo
    field_simp
  rw [scaled, abs_div, abs_of_pos scale]
  exact div_le_div_of_nonneg_right close scale.le

/-! Other ordered fields. -/

scoped instance atLeastTwo_two : Nat.AtLeastTwo 2 := ⟨by omega⟩

scoped instance atLeastTwo_ten : Nat.AtLeastTwo 10 := ⟨by omega⟩

section places
variable {K : Type} [Field K] [LinearOrder K] [FloorRing K]

/-- The nearest integer, and of two the even one. -/
def nearestInteger (x : K) : Int :=
  let rest := Int.fract x
  if rest < 1 / 2 then ⌊x⌋
  else if 1 / 2 < rest then ⌊x⌋ + 1
  else if ⌊x⌋ % 2 = 0 then ⌊x⌋ else ⌊x⌋ + 1

/-- `round(x, places)` -/
def roundPlaces (places : Nat) (x : K) : K := nearestInteger (x * 10 ^ places) / 10 ^ places

variable [IsStrictOrderedRing K]

theorem nearestInteger_close (x : K) : |(nearestInteger x : K) - x| ≤ 1 / 2 := by
  have split := Int.floor_add_fract x
  have low := Int.fract_nonneg x
  have high := Int.fract_lt_one x
  rw [abs_le]
  unfold nearestInteger
  simp only
  split_ifs
  · constructor <;> linarith
  · push_cast
    constructor <;> linarith
  · constructor <;> linarith
  · push_cast
    constructor <;> linarith

theorem nearestInteger_cast (n : Int) : nearestInteger (n : K) = n := by
  unfold nearestInteger
  simp

omit [IsStrictOrderedRing K] in
theorem nearestInteger_floor (x : K) : ⌊x⌋ ≤ nearestInteger x ∧ nearestInteger x ≤ ⌊x⌋ + 1 := by
  unfold nearestInteger
  dsimp only
  split_ifs <;> constructor <;> omega

theorem nearestInteger_mono {x y : K} (le : x ≤ y) : nearestInteger x ≤ nearestInteger y := by
  have floors := Int.floor_mono le
  rcases lt_or_eq_of_le floors with apart | same
  · have first := (nearestInteger_floor x).2
    have second := (nearestInteger_floor y).1
    omega
  · have fracts : Int.fract x ≤ Int.fract y := by
      unfold Int.fract
      rw [same]
      linarith
    unfold nearestInteger
    simp only [same]
    split_ifs <;> first | omega | linarith

theorem roundPlaces_mono (places : Nat) {x y : K} (le : x ≤ y) :
    roundPlaces places x ≤ roundPlaces places y := by
  have scale : (0 : K) < 10 ^ places := by positivity
  have integers : nearestInteger (x * 10 ^ places) ≤ nearestInteger (y * 10 ^ places) :=
    nearestInteger_mono (mul_le_mul_of_nonneg_right le scale.le)
  exact div_le_div_of_nonneg_right (by exact_mod_cast integers) scale.le

/-- A number with so few places stays. -/
theorem roundPlaces_decimal (places : Nat) (n : Int) :
    roundPlaces places ((n : K) / 10 ^ places) = n / 10 ^ places := by
  have scale : (0 : K) < 10 ^ places := by positivity
  unfold roundPlaces
  rw [div_mul_cancel₀ _ scale.ne', nearestInteger_cast]

end places

/-- The exponent of the last place of `q` with so many digits, or the least exponent. -/
def decimalPlace (digits : Nat) (least : Int) (q : Rat) : Int :=
  max (Int.log 10 |q| - (digits - 1)) least

def roundDigits (digits : Nat) (least : Int) (q : Rat) : Rat :=
  if q = 0 then 0
  else halfEven (q / 10 ^ decimalPlace digits least q) * 10 ^ decimalPlace digits least q

/-! Doubles. -/

inductive PyFloat where
  | finite (value : Rat)
  | infinite (negative : Bool)
  | nan
  deriving DecidableEq

/-- The exponent of the last binary place of the doubles about `q`. -/
def lastPlace (q : Rat) : Int := max (Int.log 2 |q| - 52) (-1074)

def nearestDouble (q : Rat) : Rat := halfEven (q / 2 ^ lastPlace q) * 2 ^ lastPlace q

/-- The least magnitude that is rounded to an infinity. -/
def overflowLimit : Rat := 2 ^ 1024 - 2 ^ 970

def toDouble (q : Rat) : PyFloat :=
  if overflowLimit ≤ |q| then .infinite (decide (q < 0)) else .finite (nearestDouble q)

theorem nearestDouble_multiple (q : Rat) (n : Int) :
    |nearestDouble q - q| ≤ |n * 2 ^ lastPlace q - q| := by
  have scale : (0 : Rat) < 2 ^ lastPlace q := zpow_pos (by norm_num) _
  have rounded : nearestDouble q - q =
      ((halfEven (q / 2 ^ lastPlace q) : Rat) - q / 2 ^ lastPlace q) * 2 ^ lastPlace q := by
    unfold nearestDouble
    field_simp
  have other : n * 2 ^ lastPlace q - q =
      ((n : Rat) - q / 2 ^ lastPlace q) * 2 ^ lastPlace q := by
    field_simp
  rw [rounded, other, abs_mul, abs_mul]
  exact mul_le_mul_of_nonneg_right (halfEven_nearest _ n) (abs_nonneg _)

theorem nearestDouble_zero : nearestDouble 0 = 0 := by
  simp [nearestDouble, halfEven]

/-- A number of the format, however large. -/
def IsDouble (v : Rat) : Prop :=
  ∃ mantissa exponent : Int, v = mantissa * 2 ^ exponent ∧ |mantissa| ≤ 2 ^ 53 ∧ -1074 ≤ exponent

theorem nearestDouble_isDouble (q : Rat) : IsDouble (nearestDouble q) := by
  refine ⟨halfEven (q / 2 ^ lastPlace q), lastPlace q, rfl, ?_, by unfold lastPlace; omega⟩
  have scale : (0 : Rat) < 2 ^ lastPlace q := zpow_pos (by norm_num) _
  have magnitude : |q / 2 ^ lastPlace q| < 2 ^ 53 := by
    rw [abs_div, abs_of_pos scale, div_lt_iff₀ scale]
    calc |q| < 2 ^ (Int.log 2 |q| + 1) := by
          exact_mod_cast Int.lt_zpow_succ_log_self (by norm_num) |q|
      _ ≤ 2 ^ (53 + lastPlace q) := by
          apply zpow_le_zpow_right₀ (by norm_num)
          unfold lastPlace
          omega
      _ = 2 ^ (53 : Int) * 2 ^ lastPlace q := zpow_add₀ (by norm_num) _ _
      _ = 2 ^ 53 * 2 ^ lastPlace q := by norm_cast
  have close := halfEven_close (q / 2 ^ lastPlace q)
  have triangle := abs_sub_abs_le_abs_sub (halfEven (q / 2 ^ lastPlace q) : Rat)
    (q / 2 ^ lastPlace q)
  have bound : (|halfEven (q / 2 ^ lastPlace q)| : Rat) < ((2 ^ 53 + 1 : Int) : Rat) := by
    push_cast
    linarith
  have below : |halfEven (q / 2 ^ lastPlace q)| < 2 ^ 53 + 1 := by exact_mod_cast bound
  omega

/-- No number of the format is nearer. -/
theorem nearestDouble_nearest (q : Rat) {v : Rat} (double : IsDouble v) :
    |nearestDouble q - q| ≤ |v - q| := by
  obtain ⟨mantissa, exponent, rfl, digits, normal⟩ := double
  rcases eq_or_ne q 0 with zero | nonzero
  · rw [zero, nearestDouble_zero, sub_zero, abs_zero]
    exact abs_nonneg _
  by_cases coarse : lastPlace q ≤ exponent
  · obtain ⟨shift, sum⟩ : ∃ shift : Nat, exponent = shift + lastPlace q :=
      ⟨(exponent - lastPlace q).toNat, by omega⟩
    have multiple : (mantissa : Rat) * 2 ^ exponent =
        ((mantissa * 2 ^ shift : Int) : Rat) * 2 ^ lastPlace q := by
      rw [sum, zpow_add₀ (by norm_num), zpow_natCast]
      push_cast
      ring
    rw [multiple]
    exact nearestDouble_multiple q _
  · -- a number of finer places is no farther from zero than a power of two below `q`
    have place : lastPlace q = Int.log 2 |q| - 52 := by
      unfold lastPlace at coarse ⊢
      omega
    have positive := abs_pos.mpr nonzero
    have power : ((2 ^ 52 : Int) : Rat) * 2 ^ lastPlace q = 2 ^ (lastPlace q + 52) := by
      rw [zpow_add₀ (by norm_num)]
      push_cast
      ring
    have below : (2 : Rat) ^ (lastPlace q + 52) ≤ |q| := by
      rw [place, sub_add_cancel]
      exact_mod_cast Int.zpow_log_le_self (by norm_num) positive
    have finer : |(mantissa : Rat) * 2 ^ exponent| ≤ 2 ^ (lastPlace q + 52) := by
      have scale : (0 : Rat) < 2 ^ exponent := zpow_pos (by norm_num) _
      have bound : |(mantissa : Rat)| ≤ 2 ^ 53 := by exact_mod_cast digits
      calc |(mantissa : Rat) * 2 ^ exponent| = |(mantissa : Rat)| * 2 ^ exponent := by
            rw [abs_mul, abs_of_pos scale]
        _ ≤ 2 ^ (53 : Int) * 2 ^ exponent :=
            mul_le_mul_of_nonneg_right (by exact_mod_cast bound) scale.le
        _ = 2 ^ (53 + exponent) := (zpow_add₀ (by norm_num) _ _).symm
        _ ≤ 2 ^ (lastPlace q + 52) := zpow_le_zpow_right₀ (by norm_num) (by omega)
    have apart : |q| - 2 ^ (lastPlace q + 52) ≤ |(mantissa : Rat) * 2 ^ exponent - q| := by
      have triangle := abs_sub_abs_le_abs_sub q ((mantissa : Rat) * 2 ^ exponent)
      rw [abs_sub_comm] at triangle
      linarith
    have least : |(|q| - 2 ^ (lastPlace q + 52))| = |q| - 2 ^ (lastPlace q + 52) :=
      abs_of_nonneg (sub_nonneg.mpr below)
    apply le_trans _ apart
    rcases lt_or_gt_of_ne nonzero with negative | positive
    · have close := nearestDouble_multiple q (-2 ^ 52)
      have same : ((-2 ^ 52 : Int) : Rat) * 2 ^ lastPlace q - q = |q| - 2 ^ (lastPlace q + 52) := by
        rw [abs_of_neg negative, ← power]
        push_cast
        ring
      rw [same, least] at close
      exact close
    · have close := nearestDouble_multiple q (2 ^ 52)
      have same : ((2 ^ 52 : Int) : Rat) * 2 ^ lastPlace q - q =
          -(|q| - 2 ^ (lastPlace q + 52)) := by
        rw [abs_of_pos positive, ← power]
        ring
      rw [same, abs_neg, least] at close
      exact close

end HalfEven
