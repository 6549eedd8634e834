import TableQuery.Number.Rounding
import Mathlib.Algebra.Order.Field.Basic
import Mathlib.Algebra.Order.Ring.Rat
import Mathlib.Data.Rat.Cast.Order
import Mathlib.Tactic.FieldSimp
import Mathlib.Tactic.Linarith
import Mathlib.Tactic.Ring

/-! Rounding to the nearest multiple of a decimal place.
What is within half a place of a number is at least as near as every other multiple, and as near as
another one only where it is just half a place away. -/
namespace TableQuery.Number

/-- As many units of the last of some decimal places as come nearest to a size; of two numbers of
units that come equally near, the even one. -/
structure NearestEven (size : ℚ) (places units : ℕ) : Prop where
  nearest : ∀ other : ℤ, |size - units / 10 ^ places| ≤ |size - other / 10 ^ places|
  even : ∀ other : ℤ, other ≠ units →
    |size - units / 10 ^ places| = |size - other / 10 ^ places| → units % 2 = 0

theorem distanceScaled (size units : ℚ) (places : ℕ) :
    |size - units / 10 ^ places| = |size * 10 ^ places - units| / 10 ^ places := by
  have positive : (0 : ℚ) < 10 ^ places := by positivity
  have scaled : size - units / 10 ^ places = (size * 10 ^ places - units) / 10 ^ places := by
    field_simp
  rw [scaled, abs_div, abs_of_pos positive]

theorem apartByOne {units : ℕ} {other : ℤ} (apart : other ≠ units) (size : ℚ) :
    1 ≤ |size - units| + |size - other| := by
  have step : (1 : ℤ) ≤ |other - units| := Int.one_le_abs (sub_ne_zero.mpr apart)
  have stepped : (1 : ℚ) ≤ |(other : ℚ) - units| := by exact_mod_cast step
  have through := abs_sub_le (other : ℚ) size units
  rw [abs_sub_comm (other : ℚ) size] at through
  linarith

theorem nearestEvenOfHalf {size : ℚ} {places units : ℕ}
    (near : |size * 10 ^ places - units| ≤ 1 / 2)
    (half : |size * 10 ^ places - units| = 1 / 2 → units % 2 = 0) :
    NearestEven size places units := by
  have positive : (0 : ℚ) < 10 ^ places := by positivity
  constructor
  · intro other
    rw [distanceScaled, distanceScaled, div_le_div_iff_of_pos_right positive]
    by_cases same : other = units
    · rw [same, Int.cast_natCast]
    · linarith [apartByOne same (size * 10 ^ places)]
  · intro other apart equal
    rw [distanceScaled, distanceScaled, div_left_inj' positive.ne'] at equal
    exact half (by linarith [apartByOne apart (size * 10 ^ places)])

theorem halfEvenTie {num den : ℕ} (positive : 0 < den)
    (tie : 2 * num = (2 * halfEven num den + 1) * den ∨ 2 * halfEven num den * den = 2 * num + den) :
    halfEven num den % 2 = 0 := by
  have whole := Nat.div_add_mod num den
  have small := Nat.mod_lt num positive
  simp only [halfEven] at tie ⊢
  generalize num / den = q at whole tie ⊢
  generalize num % den = r at whole small tie ⊢
  split at tie
  case isTrue below =>
    rw [← whole] at tie
    rcases tie with tie | tie <;> nlinarith
  case isFalse notBelow =>
    split at tie
    case isTrue above =>
      rw [← whole] at tie
      rcases tie with tie | tie <;> nlinarith
    case isFalse notAbove =>
      rw [if_neg notBelow, if_neg notAbove]
      split <;> omega

theorem halfEvenHalf (num : ℕ) {den : ℕ} (positive : 0 < den) :
    |(num : ℚ) / den - halfEven num den| ≤ 1 / 2 ∧
      (|(num : ℚ) / den - halfEven num den| = 1 / 2 → halfEven num den % 2 = 0) := by
  have denPositive : (0 : ℚ) < den := by exact_mod_cast positive
  have above : 2 * (num : ℚ) ≤ (2 * halfEven num den + 1) * den := by
    exact_mod_cast (halfEvenNear num positive).1
  have below : 2 * (halfEven num den : ℚ) * den ≤ 2 * num + den := by
    exact_mod_cast (halfEvenNear num positive).2
  have quotient : (num : ℚ) / den * den = num := div_mul_cancel₀ _ denPositive.ne'
  constructor
  · rw [abs_le]
    constructor <;> refine le_of_mul_le_mul_right ?_ denPositive <;> linarith
  · intro tie
    refine halfEvenTie positive ?_
    rcases (abs_eq (by norm_num)).mp tie with up | down
    · left
      have product : 2 * (num : ℚ) = (2 * halfEven num den + 1) * den := by
        rw [← quotient, eq_add_of_sub_eq up]
        ring
      exact_mod_cast product
    · right
      have product : 2 * (halfEven num den : ℚ) * den = 2 * num + den := by
        rw [← quotient, eq_add_of_sub_eq down]
        ring
      exact_mod_cast product

end TableQuery.Number
