import TableQuery.Number.Fixed
import TableQuery.Proofs.Number.Nearest
import Mathlib.Algebra.Order.Group.Unbundled.Int
import Mathlib.Tactic.Zify

/-! Integers as binary numbers.
An integer is rounded to as many binary digits as a binary number keeps. What comes of it is the
nearest integer that has no more of them, of two equally near ones the even one, and the integer itself
if it has no more. -/
namespace TableQuery.Number

def BinaryInteger (k : ℤ) : Prop :=
  ∃ mantissa zeros : ℕ, mantissa < 2 ^ 53 ∧ k.natAbs = mantissa * 2 ^ zeros

/-- The binary integer that comes nearest to an integer; of two that come equally near, the one that is
an even multiple of what lies between them. -/
structure NearestBinary (n k : ℤ) : Prop where
  binary : BinaryInteger k
  nearest : ∀ other, BinaryInteger other → |n - k| ≤ |n - other|
  even : ∀ other, BinaryInteger other → other ≠ k → |n - k| = |n - other| → 2 * (k - other) ∣ k

theorem NearestBinary.exact {n k : ℤ} (near : NearestBinary n k) : k = n ↔ BinaryInteger n := by
  refine ⟨fun same => same ▸ near.binary, fun binary => ?_⟩
  have distance := near.nearest n binary
  rw [sub_self, abs_zero] at distance
  have none := abs_nonpos_iff.mp distance
  omega

theorem BinaryInteger.neg {k : ℤ} (binary : BinaryInteger k) : BinaryInteger (-k) := by
  rwa [BinaryInteger, Int.natAbs_neg]

theorem NearestBinary.neg {n k : ℤ} (near : NearestBinary n k) : NearestBinary (-n) (-k) := by
  have turned (other : ℤ) : |-n - other| = |n - -other| := by
    rw [← abs_neg]
    ring_nf
  refine ⟨near.binary.neg, fun other binary => ?_, fun other binary apart equal => ?_⟩
  · rw [turned, turned, neg_neg]
    exact near.nearest _ binary.neg
  · rw [turned, turned, neg_neg] at equal
    have divides := near.even _ binary.neg (fun same => apart (by omega)) equal
    rw [dvd_neg, ← neg_dvd]
    have between : -(2 * (-k - other)) = 2 * (k - -other) := by ring
    rwa [between]

def unitZeros (num : ℕ) : ℕ := num.log2 - 52

def unitCount (num : ℕ) : ℕ := halfEven num (2 ^ unitZeros num)

def rounded (num : ℕ) : ℕ := unitCount num * 2 ^ unitZeros num

theorem halfEvenOne (num : ℕ) : halfEven num 1 = num := by
  simp [halfEven, Nat.mod_one]

theorem unitPositive (num : ℕ) : 0 < 2 ^ unitZeros num := Nat.two_pow_pos _

theorem roundedSmall {num : ℕ} (small : num.log2 ≤ 52) : rounded num = num := by
  have none : unitZeros num = 0 := by
    unfold unitZeros
    omega
  rw [rounded, unitCount, none, pow_zero, halfEvenOne, mul_one]

section
variable {num : ℕ} (large : 52 ≤ num.log2)
include large

theorem leastUnits : 2 ^ 52 * 2 ^ unitZeros num ≤ num := by
  have top : 52 + unitZeros num = num.log2 := by
    unfold unitZeros
    omega
  rw [← pow_add, top]
  refine Nat.log2_self_le ?_
  rintro rfl
  simp at large

theorem mostUnits : num < 2 ^ 53 * 2 ^ unitZeros num := by
  have top : 53 + unitZeros num = num.log2 + 1 := by
    unfold unitZeros
    omega
  rw [← pow_add, top]
  exact Nat.lt_log2_self

theorem unitCountLow : 2 ^ 52 ≤ unitCount num := by
  have near := (halfEvenNear num (unitPositive num)).1
  have low := leastUnits large
  have positive := unitPositive num
  change 2 * num ≤ (2 * unitCount num + 1) * 2 ^ unitZeros num at near
  by_contra below
  have step : 2 * unitCount num + 1 < 2 * 2 ^ 52 := by omega
  have := Nat.mul_lt_mul_of_pos_right step positive
  omega

theorem unitCountHigh : unitCount num ≤ 2 ^ 53 := by
  have near := (halfEvenNear num (unitPositive num)).2
  have high := mostUnits large
  have positive := unitPositive num
  change 2 * unitCount num * 2 ^ unitZeros num ≤ 2 * num + 2 ^ unitZeros num at near
  by_contra above
  have step : 2 * 2 ^ 53 + 1 ≤ 2 * unitCount num := by omega
  have := Nat.mul_le_mul_right (2 ^ unitZeros num) step
  rw [Nat.add_mul, Nat.one_mul] at this
  omega

end

def carriedCount (num : ℕ) : ℕ := if unitCount num = 2 ^ 53 then 2 ^ 52 else unitCount num

def carriedZeros (num : ℕ) : ℕ :=
  if unitCount num = 2 ^ 53 then unitZeros num + 1 else unitZeros num

theorem carriedRounded (num : ℕ) : carriedCount num * 2 ^ carriedZeros num = rounded num := by
  unfold carriedCount carriedZeros rounded
  split
  · rename_i carried
    rw [carried]
    ring
  · rfl

theorem gridOrBelow {other : ℤ} (binary : BinaryInteger other) (zeros : ℕ) :
    (∃ count : ℤ, other = count * 2 ^ zeros) ∨ other < 2 ^ 52 * 2 ^ zeros := by
  obtain ⟨mantissa, own, few, size⟩ := binary
  by_cases fine : zeros ≤ own
  · left
    have whole : (2 ^ zeros : ℤ) ∣ other := by
      rw [← Int.natAbs_dvd_natAbs, size]
      simpa using Dvd.dvd.mul_left (pow_dvd_pow 2 fine) mantissa
    obtain ⟨count, same⟩ := whole
    exact ⟨count, by rw [same, mul_comm]⟩
  · right
    have below : other.natAbs < 2 ^ 52 * 2 ^ zeros := by
      rw [size]
      calc mantissa * 2 ^ own < 2 ^ 53 * 2 ^ own := Nat.mul_lt_mul_of_pos_right few (Nat.two_pow_pos _)
        _ = 2 ^ (own + 53) := by rw [← pow_add, Nat.add_comm]
        _ ≤ 2 ^ (zeros + 52) := Nat.pow_le_pow_right (by decide) (by omega)
        _ = 2 ^ 52 * 2 ^ zeros := by rw [← pow_add, Nat.add_comm]
    zify at below
    exact lt_of_le_of_lt (le_abs_self other) below

theorem nearestOnGrid {num unit count : ℤ} (positive : 0 < unit)
    (above : 2 * num ≤ (2 * count + 1) * unit) (below : 2 * count * unit ≤ 2 * num + unit)
    (other : ℤ) :
    |num - count * unit| ≤ |num - other * unit| ∧
      (other * unit ≠ count * unit → |num - count * unit| = |num - other * unit| →
        (2 * num = (2 * count + 1) * unit ∧ other * unit = count * unit + unit) ∨
          (2 * count * unit = 2 * num + unit ∧ other * unit = count * unit - unit)) := by
  have apart : other * unit = count * unit ∨ count * unit + unit ≤ other * unit ∨
      other * unit ≤ count * unit - unit := by
    rcases lt_trichotomy other count with less | same | more
    · have := mul_le_mul_of_nonneg_right (Int.le_sub_one_of_lt less) positive.le
      rw [sub_mul, one_mul] at this
      exact .inr (.inr this)
    · exact .inl (by rw [same])
    · have := mul_le_mul_of_nonneg_right (Int.add_one_le_of_lt more) positive.le
      rw [add_mul, one_mul] at this
      exact .inr (.inl this)
  have halves : (2 * count + 1) * unit = 2 * (count * unit) + unit := by ring
  have doubles : 2 * count * unit = 2 * (count * unit) := by ring
  rw [halves] at above ⊢
  rw [doubles] at below ⊢
  rw [Int.abs_eq_natAbs, Int.abs_eq_natAbs]
  generalize count * unit = this at *
  generalize other * unit = that at *
  omega

theorem NearestBinary.self {n : ℤ} (binary : BinaryInteger n) : NearestBinary n n := by
  refine ⟨binary, fun other _ => by simp, fun other _ apart equal => absurd ?_ apart⟩
  rw [sub_self, abs_zero] at equal
  have none := abs_eq_zero.mp equal.symm
  omega

theorem roundedCount (num : ℕ) : (rounded num : ℤ) = unitCount num * 2 ^ unitZeros num := by
  rw [rounded]
  push_cast
  rfl

theorem roundedOnGrid (num : ℕ) (other : ℤ) :
    |(num : ℤ) - rounded num| ≤ |(num : ℤ) - other * 2 ^ unitZeros num| ∧
      (other * 2 ^ unitZeros num ≠ rounded num →
        |(num : ℤ) - rounded num| = |(num : ℤ) - other * 2 ^ unitZeros num| →
          2 * (rounded num - other * 2 ^ unitZeros num) ∣ (rounded num : ℤ)) := by
  obtain ⟨near, nearBelow⟩ := halfEvenNear num (unitPositive num)
  have above : 2 * (num : ℤ) ≤ (2 * unitCount num + 1) * 2 ^ unitZeros num := by exact_mod_cast near
  have below : 2 * (unitCount num : ℤ) * 2 ^ unitZeros num ≤ 2 * num + 2 ^ unitZeros num := by
    exact_mod_cast nearBelow
  obtain ⟨nearest, tied⟩ := nearestOnGrid (by positivity) above below other
  have even (tie : 2 * (num : ℤ) = (2 * unitCount num + 1) * 2 ^ unitZeros num ∨
      2 * (unitCount num : ℤ) * 2 ^ unitZeros num = 2 * num + 2 ^ unitZeros num) :
      (2 * 2 ^ unitZeros num : ℤ) ∣ unitCount num * 2 ^ unitZeros num := by
    have twice : unitCount num % 2 = 0 := halfEvenTie (unitPositive num) (by exact_mod_cast tie)
    exact mul_dvd_mul_right (by omega) _
  rw [roundedCount]
  refine ⟨nearest, fun apart equal => ?_⟩
  rcases tied apart equal with ⟨tie, next⟩ | ⟨tie, next⟩
  · rw [next, sub_add_cancel_left, mul_neg, neg_dvd]
    exact even (.inl tie)
  · rw [next, sub_sub_cancel]
    exact even (.inr tie)

section
variable {num : ℕ} (large : 52 ≤ num.log2)
include large

theorem roundedBinary : BinaryInteger (rounded num) := by
  refine ⟨carriedCount num, carriedZeros num, ?_, by rw [carriedRounded, Int.natAbs_natCast]⟩
  unfold carriedCount
  split
  · decide
  · exact lt_of_le_of_ne (unitCountHigh large) ‹_›

theorem belowGridFarther {other : ℤ} (below : other < 2 ^ 52 * 2 ^ unitZeros num) :
    |(num : ℤ) - rounded num| < |(num : ℤ) - other| := by
  have low : (2 ^ 52 * 2 ^ unitZeros num : ℤ) ≤ num := by exact_mod_cast leastUnits large
  calc |(num : ℤ) - rounded num|
      ≤ |(num : ℤ) - 2 ^ 52 * 2 ^ unitZeros num| := (roundedOnGrid num (2 ^ 52)).1
    _ = num - 2 ^ 52 * 2 ^ unitZeros num := abs_of_nonneg (sub_nonneg.mpr low)
    _ < num - other := sub_lt_sub_left below _
    _ ≤ |(num : ℤ) - other| := le_abs_self _

end

theorem roundedNearest (num : ℕ) : NearestBinary num (rounded num) := by
  by_cases small : num.log2 ≤ 52
  · rw [roundedSmall small]
    have few : num < 2 ^ 53 :=
      lt_of_lt_of_le Nat.lt_log2_self (Nat.pow_le_pow_right (by decide) (by omega))
    exact .self ⟨num, 0, few, by simp⟩
  · have large : 52 ≤ num.log2 := by omega
    refine ⟨roundedBinary large, fun other binary => ?_, fun other binary apart equal => ?_⟩
    · rcases gridOrBelow binary (unitZeros num) with ⟨count, rfl⟩ | below
      · exact (roundedOnGrid num count).1
      · exact (belowGridFarther large below).le
    · rcases gridOrBelow binary (unitZeros num) with ⟨count, rfl⟩ | below
      · exact (roundedOnGrid num count).2 apart equal
      · exact absurd equal (belowGridFarther large below).ne

theorem roundedPositive {num : ℕ} (positive : 0 < num) : 0 < rounded num := by
  by_cases small : num.log2 ≤ 52
  · rwa [roundedSmall small]
  · have low : 2 ^ 52 ≤ unitCount num := unitCountLow (by omega)
    exact Nat.mul_pos (by omega) (unitPositive num)

section
variable {num last : ℕ} (large : 52 ≤ num.log2)
include large

/- Where the unit of a number is twice a power of two, its count runs over just above the last number
that is nearer to the greatest count than to the one after it. -/
theorem carriedAtLimit (unit : unitZeros num = last + 1) :
    unitCount num = 2 ^ 53 ↔ (2 ^ 54 - 1) * twoTo last ≤ num := by
  have doubled : 2 ^ unitZeros num = 2 * twoTo last := by
    rw [unit, pow_succ, Nat.mul_comm]
    rfl
  obtain ⟨near, nearBelow⟩ := halfEvenNear num (unitPositive num)
  have tie (halfway : 2 * num = (2 * unitCount num + 1) * 2 ^ unitZeros num) :
      unitCount num % 2 = 0 := halfEvenTie (unitPositive num) (.inl halfway)
  have high := unitCountHigh large
  change 2 * num ≤ (2 * unitCount num + 1) * 2 ^ unitZeros num at near
  change 2 * unitCount num * 2 ^ unitZeros num ≤ 2 * num + 2 ^ unitZeros num at nearBelow
  rw [doubled] at near nearBelow tie
  constructor
  · intro carried
    rw [carried] at nearBelow
    omega
  · intro passed
    by_contra short
    have least : unitCount num ≤ 2 ^ 53 - 1 := by omega
    have bound : (2 * unitCount num + 1) * (2 * twoTo last) ≤ (2 ^ 54 - 1) * (2 * twoTo last) :=
      Nat.mul_le_mul_right _ (by omega)
    have even := tie (by omega)
    have less : (2 * unitCount num + 1) * (2 * twoTo last) ≤ (2 ^ 54 - 3) * (2 * twoTo last) :=
      Nat.mul_le_mul_right _ (by omega)
    have positive := twoToPos last
    omega

theorem limitPassed : (2 ^ 54 - 1) * twoTo last ≤ num ↔ last + 1 < carriedZeros num := by
  unfold carriedZeros
  rcases lt_trichotomy (unitZeros num) (last + 1) with before | same | after
  · have few : 2 ^ unitZeros num ≤ twoTo last := Nat.pow_le_pow_right (by decide) (by omega)
    have below := mostUnits large
    have passed : ¬ (2 ^ 54 - 1) * twoTo last ≤ num := by omega
    simp only [passed, false_iff, not_lt]
    split <;> omega
  · rw [← carriedAtLimit large same]
    split <;> simp_all
  · have many : twoTo (last + 2) ≤ 2 ^ unitZeros num := Nat.pow_le_pow_right (by decide) (by omega)
    rw [twoToSucc, twoToSucc] at many
    have above := leastUnits large
    have passed : (2 ^ 54 - 1) * twoTo last ≤ num := by omega
    simp only [passed, true_iff]
    split <;> omega

end

end TableQuery.Number

namespace TableQuery.Binary64
open TableQuery.Number TableQuery.Text

theorem unitExponentWhole {num : ℕ} (positive : 0 < num) :
    unitExponent num 1 = (num.log2 : ℤ) - 52 := by
  have within : twoTo num.log2 ≤ num := Nat.log2_self_le positive.ne'
  have exponent : ¬ (num.log2 : ℤ) - 52 < smallestExponent := by
    unfold smallestExponent
    omega
  have one : Nat.log2 1 = 0 := by decide
  simp [unitExponent, scaled, one, within, exponent]

theorem ofRatioSmall (negative : Bool) {num : ℕ} (positive : 0 < num) (small : num.log2 < 52) :
    ∃ mantissa exponent, ofRatio negative num 1 = finite negative mantissa exponent ∧
      (ratio mantissa exponent).1 = num * (ratio mantissa exponent).2 := by
  have below : ¬ (0 : ℤ) ≤ (num.log2 : ℤ) - 52 := by omega
  have places : (-((num.log2 : ℤ) - 52)).toNat = 52 - num.log2 := by omega
  have few : num * twoTo (52 - num.log2) < twoTo 53 := by
    calc num * twoTo (52 - num.log2) < twoTo (num.log2 + 1) * twoTo (52 - num.log2) :=
          Nat.mul_lt_mul_of_pos_right Nat.lt_log2_self (twoToPos _)
      _ = twoTo 53 := by
        change 2 ^ _ * 2 ^ _ = 2 ^ _
        rw [← pow_add]
        congr 1
        omega
  refine ⟨num * twoTo (52 - num.log2), (num.log2 : ℤ) - 52, ?_, ?_⟩
  · have within : ¬ largestExponent < (num.log2 : ℤ) - 52 := by
      unfold largestExponent
      omega
    simp only [ofRatio, unitExponentWhole positive, scaled, if_neg below, places, halfEvenOne,
      if_neg positive.ne', if_neg few.ne, if_neg within]
  · simp only [ratio, if_neg below, places]

/-- From here on integers are beyond all binary numbers: halfway between the largest of them and what
would be the next one. -/
def wholeLimit : ℕ := (2 ^ 54 - 1) * twoTo 970

theorem wholeLimitPositive : 0 < wholeLimit := Nat.mul_pos (by decide) (twoToPos 970)

theorem twoToAdd (m n : ℕ) : twoTo (m + n) = twoTo m * twoTo n := Nat.pow_add 2 m n

theorem twoToBelowTenTo (n : ℕ) : twoTo n ≤ tenTo n := Nat.pow_le_pow_left (by decide) n

theorem wholeLimitBelow : wholeLimit ≤ tenTo 1024 := by
  calc wholeLimit ≤ twoTo 54 * twoTo 970 := Nat.mul_le_mul_right _ (by decide)
    _ = twoTo 1024 := (twoToAdd 54 970).symm
    _ ≤ tenTo 1024 := twoToBelowTenTo 1024

theorem ofRatioLarge (negative : Bool) {num : ℕ} (large : 52 ≤ num.log2) :
    ofRatio negative num 1 =
      if wholeLimit ≤ num then infinite negative
      else finite negative (carriedCount num) (carriedZeros num) := by
  have present : num ≠ 0 := by
    rintro rfl
    simp at large
  have unit : (num.log2 : ℤ) - 52 = unitZeros num := by
    unfold unitZeros
    omega
  have count : halfEven num (twoTo (unitZeros num)) = unitCount num := rfl
  have limit : wholeLimit ≤ num ↔ largestExponent < carriedZeros num :=
    (limitPassed large).trans (by unfold largestExponent; omega)
  simp only [ofRatio, unitExponentWhole (Nat.pos_of_ne_zero present), scaled, unit, if_neg present,
    Int.natCast_nonneg, if_true, Int.toNat_natCast, one_mul, count, limit]
  unfold carriedCount carriedZeros
  by_cases carried : unitCount num = 2 ^ 53
  · have ran : unitCount num = twoTo 53 := carried
    simp only [if_pos ran, if_pos carried]
    rfl
  · have held : ¬ unitCount num = twoTo 53 := carried
    simp only [if_neg held, if_neg carried]

theorem ratioWhole (mantissa zeros : ℕ) : ratio mantissa zeros = (mantissa * 2 ^ zeros, 1) := by
  rw [ratio, if_pos (Int.natCast_nonneg zeros), Int.toNat_natCast]
  rfl

theorem ofRatioRounded (negative : Bool) {num : ℕ} (positive : 0 < num) :
    (wholeLimit ≤ num → ofRatio negative num 1 = infinite negative) ∧
    (num < wholeLimit → ∃ mantissa exponent,
      ofRatio negative num 1 = finite negative mantissa exponent ∧
        (ratio mantissa exponent).1 = rounded num * (ratio mantissa exponent).2) := by
  by_cases small : num.log2 < 52
  · have below : num < wholeLimit := by
      have few : num < 2 ^ 52 := (Nat.log2_lt positive.ne').mp small
      have := twoToPos 970
      unfold wholeLimit
      omega
    refine ⟨fun beyond => absurd beyond (Nat.not_le.mpr below), fun _ => ?_⟩
    rw [roundedSmall small.le]
    exact ofRatioSmall negative positive small
  · rw [ofRatioLarge negative (Nat.not_lt.mp small)]
    refine ⟨fun beyond => if_pos beyond, fun below => ?_⟩
    refine ⟨carriedCount num, carriedZeros num, if_neg (Nat.not_le.mpr below), ?_⟩
    rw [ratioWhole, carriedRounded, mul_one]

end TableQuery.Binary64
