import Mathlib.Algebra.BigOperators.Group.List.Basic
import Mathlib.Algebra.Order.Group.Abs
import Mathlib.Algebra.Order.Ring.Int
import Mathlib.Tactic.Linarith

/-!
Integers of 64 bits as SQLite has them: an operation has a result only where the exact one is in
range.
-/
namespace Checked64

/-- The number is one of 64 bits with a sign. -/
def Fits (n : Int) : Prop := -9223372036854775808 ≤ n ∧ n ≤ 9223372036854775807

instance (n : Int) : Decidable (Fits n) := inferInstanceAs (Decidable (_ ∧ _))

def checked (n : Int) : Option Int := if Fits n then some n else none

/-- `SUM`, which raises as soon as one of its partial sums is out of range. -/
def sum64 (amounts : List Int) : Option Int :=
  amounts.foldlM (fun total amount => checked (total + amount)) 0

theorem fits_of_abs {n : Int} (small : |n| ≤ 9223372036854775807) : Fits n := by
  have bounds := abs_le.mp small
  unfold Fits
  omega

theorem checked_of_abs {n : Int} (small : |n| ≤ 9223372036854775807) : checked n = some n :=
  if_pos (fits_of_abs small)

/-- Every partial sum is bounded by the number of its amounts times the bound of one. -/
theorem foldlM_checked {amounts : List Int} {bound total : Int}
    (each : ∀ amount ∈ amounts, |amount| ≤ bound)
    (small : |total| + bound * amounts.length ≤ 9223372036854775807) :
    amounts.foldlM (fun total amount => checked (total + amount)) total =
      some (total + amounts.sum) := by
  induction amounts generalizing total with
  | nil => simp
  | cons amount amounts ih =>
    have first := each amount List.mem_cons_self
    have step := abs_add_le total amount
    have positive : 0 ≤ bound := (abs_nonneg amount).trans first
    have length : ((amount :: amounts).length : Int) = amounts.length + 1 := by simp
    have rest : 0 ≤ bound * (amounts.length : Int) := mul_nonneg positive (by omega)
    rw [length, mul_add, mul_one] at small
    have next : |total + amount| ≤ 9223372036854775807 := by omega
    rw [List.foldlM_cons, checked_of_abs next, Option.bind_eq_bind, Option.bind_some,
      ih (fun later member => each later (List.mem_cons_of_mem _ member)) (by omega),
      List.sum_cons, add_assoc]

theorem sum64_eq {amounts : List Int} {bound : Int} (each : ∀ amount ∈ amounts, |amount| ≤ bound)
    (small : bound * amounts.length ≤ 9223372036854775807) : sum64 amounts = some amounts.sum := by
  have total : amounts.foldlM (fun total amount => checked (total + amount)) 0 =
      some (0 + amounts.sum) := foldlM_checked each (by simpa using small)
  rw [zero_add] at total
  exact total

theorem abs_sum_le {amounts : List Int} {bound : Int} (each : ∀ amount ∈ amounts, |amount| ≤ bound) :
    |amounts.sum| ≤ bound * amounts.length := by
  induction amounts with
  | nil => simp
  | cons amount amounts ih =>
    have first := each amount List.mem_cons_self
    have rest := ih fun later member => each later (List.mem_cons_of_mem _ member)
    have step := abs_add_le amount amounts.sum
    have length : ((amount :: amounts).length : Int) = amounts.length + 1 := by simp
    rw [List.sum_cons, length, mul_add, mul_one]
    omega

end Checked64
