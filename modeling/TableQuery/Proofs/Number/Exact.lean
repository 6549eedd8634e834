import TableQuery.Value.Equality
import TableQuery.Proofs.Text.Integers
import Mathlib.Algebra.Order.Ring.Rat
import Mathlib.Data.Rat.Cast.CharZero

/-! Exact values of binary numbers. A binary number reads as an integer just when it is one. -/
namespace TableQuery.Binary64
open TableQuery.Text TableQuery.Number

theorem ratioPositive (mantissa : Nat) (exponent : Int) : 0 < (ratio mantissa exponent).2 := by
  unfold ratio
  split
  · exact Nat.one_pos
  · exact twoToPos _

theorem withSignMul (negative : Bool) (m n : Nat) :
    withSign negative (m * n) = withSign negative m * n := by
  cases negative <;> simp [withSign]

theorem valueRatio (negative : Bool) (mantissa : Nat) (exponent : Int) :
    value negative mantissa exponent * (ratio mantissa exponent).2 =
      (withSign negative (ratio mantissa exponent).1 : Rat) := by
  unfold value ratio twoPower
  split
  · rw [withSignMul]
    push_cast
    rw [mul_one]
  · have positive : (twoTo (-exponent).toNat : Rat) ≠ 0 := by
      exact_mod_cast (twoToPos _).ne'
    rw [Rat.mkRat_eq_div, Int.cast_one, mul_assoc, one_div,
      inv_mul_cancel₀ positive, mul_one]

theorem toIntIff (x : Binary64) (n : Int) : x.toInt? = some n ↔ x.extent = .finite n := by
  cases x with
  | nan => simp [toInt?, extent]
  | infinite negative => simp [toInt?, extent]
  | finite negative mantissa exponent =>
    have positive := ratioPositive mantissa exponent
    have whole := valueRatio negative mantissa exponent
    simp only [toInt?, extent, Extent.finite.injEq]
    generalize (ratio mantissa exponent).1 = num at whole
    generalize (ratio mantissa exponent).2 = den at whole positive
    generalize value negative mantissa exponent = q at whole
    have notZero : (den : Rat) ≠ 0 := by exact_mod_cast positive.ne'
    split
    · rename_i divides
      have exact : q = (withSign negative (num / den) : Int) := by
        refine mul_right_cancel₀ notZero ?_
        rw [whole, ← Int.cast_natCast den, ← Int.cast_mul, ← withSignMul,
          Nat.div_mul_cancel (Nat.dvd_of_mod_eq_zero divides)]
      rw [exact, Option.some.injEq, Int.cast_inj]
    · rename_i remains
      refine ⟨fun none => (nomatch none), fun same => absurd ?_ remains⟩
      have product : n * den = withSign negative num := by
        rw [same] at whole
        exact_mod_cast whole
      have size : n.natAbs * den = num := by
        have sizes := congrArg Int.natAbs product
        rwa [Int.natAbs_mul, withSignSize] at sizes
      rw [← size, Nat.mul_mod_left]

end TableQuery.Binary64
