import TableQuery.Number.Power

/-! Rounding a quotient to the nearest integer; a half goes to the even neighbour. -/
namespace TableQuery.Number

def halfEven (num den : Nat) : Nat :=
  let q := num / den
  let r := num % den
  if 2 * r < den then q
  else if den < 2 * r then q + 1
  else if q % 2 = 0 then q
  else q + 1

theorem halfEvenNear (num : Nat) {den : Nat} (pos : 0 < den) :
    2 * num ≤ (2 * halfEven num den + 1) * den ∧ 2 * halfEven num den * den ≤ 2 * num + den := by
  have whole : num / den * den + num % den = num := by
    rw [Nat.mul_comm]; exact Nat.div_add_mod num den
  have small := Nat.mod_lt num pos
  simp only [halfEven]
  generalize num / den = q at whole
  generalize num % den = r at whole small
  have e1 : (2 * q + 1) * den = 2 * (q * den) + den := by rw [Nat.add_mul, Nat.mul_assoc]; omega
  have e2 : (2 * (q + 1) + 1) * den = 2 * (q * den) + 3 * den := by
    rw [Nat.add_mul, Nat.mul_assoc, Nat.add_mul]; omega
  have e3 : 2 * (q + 1) * den = 2 * (q * den) + 2 * den := by
    rw [Nat.mul_assoc, Nat.add_mul]; omega
  have e4 : 2 * q * den = 2 * (q * den) := Nat.mul_assoc ..
  split
  · rw [e1, e4]; omega
  · split
    · rw [e2, e3]; omega
    · split
      · rw [e1, e4]; omega
      · rw [e2, e3]; omega

def tenPower (e : Int) : Rat :=
  if 0 ≤ e then (tenTo e.toNat : Rat) else mkRat 1 (tenTo (-e).toNat)

def twoPower (e : Int) : Rat :=
  if 0 ≤ e then (twoTo e.toNat : Rat) else mkRat 1 (twoTo (-e).toNat)

end TableQuery.Number
