import Mathlib.Algebra.BigOperators.Group.List.Basic
import Mathlib.Algebra.Order.Field.Basic
import Mathlib.Data.Nat.Cast.Order.Ring
import Mathlib.Tactic.FieldSimp
import Mathlib.Tactic.Ring
import Mathlib.Tactic.LinearCombination
import Mathlib.Tactic.Linarith
import Mathlib.Tactic.Positivity

/-! The least-squares line through finitely many points, in closed form. -/
namespace LeastSquares
variable {K : Type} [Field K]

def mean (values : List K) : K := values.sum / values.length

structure Line (K : Type) where
  intercept : K
  slope : K

def Line.at (line : Line K) (x : K) : K := line.intercept + line.slope * x

/-- The sum of the squared distances. -/
def Line.error (line : Line K) (points : List (K × K)) : K :=
  (points.map fun p => (p.2 - line.at p.1) ^ 2).sum

section points
variable (points : List (K × K))

def xMean : K := mean (points.map Prod.fst)

def yMean : K := mean (points.map Prod.snd)

def spread : K := (points.map fun p => (p.1 - xMean points) ^ 2).sum

def covariance : K := (points.map fun p => (p.1 - xMean points) * (p.2 - yMean points)).sum

/-- The line through the means with the slope of the covariance. -/
def fit : Line K where
  intercept := yMean points - covariance points / spread points * xMean points
  slope := covariance points / spread points

end points

theorem fit_at (points : List (K × K)) (x : K) :
    (fit points).at x = yMean points + (fit points).slope * (x - xMean points) := by
  unfold fit Line.at
  ring

/-! Sums of a quadratic form in the coordinates are combinations of the moments. -/

theorem sum_quadratic (a b c d e f : K) (points : List (K × K)) :
    (points.map fun p => a + b * p.1 + c * p.2 + d * p.1 ^ 2 + e * (p.1 * p.2) + f * p.2 ^ 2).sum =
      a * points.length + b * (points.map Prod.fst).sum + c * (points.map Prod.snd).sum +
        d * (points.map fun p => p.1 ^ 2).sum + e * (points.map fun p => p.1 * p.2).sum +
        f * (points.map fun p => p.2 ^ 2).sum := by
  induction points with
  | nil => simp
  | cons p points ih =>
    simp only [List.map_cons, List.sum_cons, List.length_cons, Nat.cast_add, Nat.cast_one, ih]
    ring

section moments
variable {points : List (K × K)} (some : (points.length : K) ≠ 0)
include some

theorem sum_fst : (points.map Prod.fst).sum = points.length * xMean points := by
  unfold xMean mean
  rw [List.length_map]
  field_simp

theorem sum_snd : (points.map Prod.snd).sum = points.length * yMean points := by
  unfold yMean mean
  rw [List.length_map]
  field_simp

theorem spread_eq :
    spread points = (points.map fun p => p.1 ^ 2).sum - points.length * xMean points ^ 2 := by
  have form : (fun p : K × K => (p.1 - xMean points) ^ 2) = fun p =>
      xMean points ^ 2 + -2 * xMean points * p.1 + 0 * p.2 + 1 * p.1 ^ 2 + 0 * (p.1 * p.2) +
        0 * p.2 ^ 2 := by
    funext p
    ring
  unfold spread
  rw [form, sum_quadratic, sum_fst some]
  ring

theorem covariance_eq :
    covariance points =
      (points.map fun p => p.1 * p.2).sum - points.length * (xMean points * yMean points) := by
  have form : (fun p : K × K => (p.1 - xMean points) * (p.2 - yMean points)) = fun p =>
      xMean points * yMean points + -yMean points * p.1 + -xMean points * p.2 + 0 * p.1 ^ 2 +
        1 * (p.1 * p.2) + 0 * p.2 ^ 2 := by
    funext p
    ring
  unfold covariance
  rw [form, sum_quadratic, sum_fst some, sum_snd some]
  ring

/-- The mean of one coordinate may be left out of a covariance. -/
theorem covariance_eq_left :
    covariance points = (points.map fun p => (p.1 - xMean points) * p.2).sum := by
  have form : (fun p : K × K => (p.1 - xMean points) * p.2) = fun p =>
      0 + 0 * p.1 + -xMean points * p.2 + 0 * p.1 ^ 2 + 1 * (p.1 * p.2) + 0 * p.2 ^ 2 := by
    funext p
    ring
  rw [covariance_eq some, form, sum_quadratic, sum_snd some]
  ring

theorem error_moments (line : Line K) :
    line.error points = (points.map fun p => p.2 ^ 2).sum - points.length * yMean points ^ 2 +
      points.length * (line.at (xMean points) - yMean points) ^ 2 +
      line.slope ^ 2 * spread points - 2 * line.slope * covariance points := by
  have form : (fun p : K × K => (p.2 - line.at p.1) ^ 2) = fun p =>
      line.intercept ^ 2 + 2 * line.intercept * line.slope * p.1 + -2 * line.intercept * p.2 +
        line.slope ^ 2 * p.1 ^ 2 + -2 * line.slope * (p.1 * p.2) + 1 * p.2 ^ 2 := by
    funext p
    unfold Line.at
    ring
  unfold Line.error
  rw [form, sum_quadratic, sum_fst some, sum_snd some, spread_eq some, covariance_eq some]
  unfold Line.at
  ring

/-- What another line is worse by. -/
theorem error_eq (apart : spread points ≠ 0) (line : Line K) :
    line.error points = (fit points).error points +
      points.length * (line.at (xMean points) - yMean points) ^ 2 +
      spread points * (line.slope - (fit points).slope) ^ 2 := by
  have through : (fit points).at (xMean points) = yMean points := by
    unfold fit Line.at
    ring
  have slope : (fit points).slope = covariance points / spread points := rfl
  rw [error_moments some, error_moments some, through, slope]
  field_simp
  ring

/-! Points that are shifted along the first axis. -/

theorem xMean_shift (c : K) : xMean (points.map fun p => (p.1 + c, p.2)) = xMean points + c := by
  have sum : ((points.map fun p => (p.1 + c, p.2)).map Prod.fst).sum =
      (points.map Prod.fst).sum + points.length * c := by
    rw [List.map_map]
    clear some
    induction points with
    | nil => simp
    | cons p points ih =>
      simp only [List.map_cons, List.sum_cons, List.length_cons, Nat.cast_add, Nat.cast_one, ih,
        Function.comp_apply]
      ring
  unfold xMean mean
  rw [sum, List.length_map, List.length_map, List.length_map]
  field_simp

theorem fit_shift (c x : K) :
    (fit (points.map fun p => (p.1 + c, p.2))).slope = (fit points).slope ∧
      (fit (points.map fun p => (p.1 + c, p.2))).at (x + c) = (fit points).at x := by
  have xs := xMean_shift some c
  have ys : yMean (points.map fun p => (p.1 + c, p.2)) = yMean points := by
    unfold yMean
    rw [List.map_map]
    rfl
  have spreads : spread (points.map fun p => (p.1 + c, p.2)) = spread points := by
    unfold spread
    rw [xs, List.map_map]
    congr 2
    funext p
    simp only [Function.comp_apply]
    ring
  have covariances : covariance (points.map fun p => (p.1 + c, p.2)) = covariance points := by
    unfold covariance
    rw [xs, ys, List.map_map]
    congr 2
    funext p
    simp only [Function.comp_apply]
    ring
  have slopes : (fit (points.map fun p => (p.1 + c, p.2))).slope = (fit points).slope := by
    unfold fit
    rw [spreads, covariances]
  refine ⟨slopes, ?_⟩
  rw [fit_at, fit_at, slopes, xs, ys]
  ring

end moments

/-! The best line. -/

section order
variable [LinearOrder K] [IsStrictOrderedRing K]

/-- No line has a smaller error. -/
def IsFit (points : List (K × K)) (line : Line K) : Prop :=
  ∀ other : Line K, line.error points ≤ other.error points

theorem spread_nonneg (points : List (K × K)) : 0 ≤ spread points := by
  apply List.sum_nonneg
  simp only [List.mem_map]
  rintro _ ⟨p, _, rfl⟩
  positivity

/-- If the points do not stand above each other, the fit is the best line and the only one. -/
theorem isFit_iff {points : List (K × K)} (apart : spread points ≠ 0) (line : Line K) :
    IsFit points line ↔ line = fit points := by
  have positive : 0 < spread points := lt_of_le_of_ne (spread_nonneg points) apart.symm
  have nonempty : points ≠ [] := by
    rintro rfl
    exact apart rfl
  have size : (0 : K) < points.length := by exact_mod_cast List.length_pos_of_ne_nil nonempty
  have worse := error_eq size.ne' apart
  constructor
  · intro best
    have least := best (fit points)
    have more := worse line
    have first : 0 ≤ points.length * (line.at (xMean points) - yMean points) ^ 2 := by positivity
    have second : 0 ≤ spread points * (line.slope - (fit points).slope) ^ 2 := by positivity
    have noSecond : spread points * (line.slope - (fit points).slope) ^ 2 = 0 := by linarith
    have noFirst : points.length * (line.at (xMean points) - yMean points) ^ 2 = 0 := by linarith
    have slopes : line.slope = (fit points).slope :=
      sub_eq_zero.mp (pow_eq_zero_iff two_ne_zero |>.mp
        ((mul_eq_zero.mp noSecond).resolve_left apart))
    have means : line.at (xMean points) = yMean points :=
      sub_eq_zero.mp (pow_eq_zero_iff two_ne_zero |>.mp
        ((mul_eq_zero.mp noFirst).resolve_left size.ne'))
    obtain ⟨intercept, slope⟩ := line
    dsimp only at slopes
    subst slopes
    unfold Line.at at means
    have intercepts : intercept = (fit points).intercept := by
      unfold fit at means ⊢
      dsimp only at means ⊢
      linear_combination means
    rw [intercepts]
  · rintro rfl other
    rw [worse other]
    have first : 0 ≤ points.length * (other.at (xMean points) - yMean points) ^ 2 := by positivity
    have second : 0 ≤ spread points * (other.slope - (fit points).slope) ^ 2 := by positivity
    linarith

theorem spread_pos {points : List (K × K)} {p q : K × K} (first : p ∈ points) (second : q ∈ points)
    (apart : p.1 ≠ q.1) : 0 < spread points := by
  apply lt_of_le_of_ne (spread_nonneg points)
  intro none
  have each : ∀ r ∈ points, r.1 = xMean points := by
    intro r member
    have small : (r.1 - xMean points) ^ 2 ≤ spread points := by
      apply List.single_le_sum
      · simp only [List.mem_map]
        rintro _ ⟨s, _, rfl⟩
        positivity
      · exact List.mem_map_of_mem member
    rw [← none] at small
    have zero := le_antisymm small (by positivity)
    exact sub_eq_zero.mp (pow_eq_zero_iff two_ne_zero |>.mp zero)
  exact apart ((each p first).trans (each q second).symm)

end order
end LeastSquares
