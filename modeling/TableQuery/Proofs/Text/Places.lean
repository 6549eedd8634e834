import TableQuery.Proofs.Text.Integers
import Mathlib.Tactic.Ring

/-! The places of digits: what digits denote that stand before others, how many a number has, and how
they fall into groups of three. -/
namespace TableQuery.Text
open TableQuery.Number

theorem ofDigitsAppend (xs ys : List Nat) :
    ofDigits (xs ++ ys) = ofDigits xs * tenTo ys.length + ofDigits ys := by
  suffices folded : ∀ a, ys.foldl (fun acc d => acc * 10 + d) a =
      a * tenTo ys.length + ofDigits ys by
    rw [ofDigits, List.foldl_append, folded]
    rfl
  induction ys with
  | nil => simp [ofDigits, tenTo]
  | cons y ys ih =>
    intro a
    have bare := ih (0 * 10 + y)
    rw [ofDigits, List.foldl_cons, List.foldl_cons, ih, bare, List.length_cons, tenToSucc]
    ring

theorem ofDigitsZeros (count : Nat) (ds : List Nat) :
    ofDigits (List.replicate count 0 ++ ds) = ofDigits ds := by
  induction count with
  | zero => rfl
  | succ count ih =>
    rw [List.replicate_succ, List.cons_append, ← ih]
    rfl

theorem digitsPresent (n : Nat) : digits n ≠ [] := by
  rw [digits, digitsReversed]
  split <;> simp

theorem digitsLead {n : Nat} (zero : (digits n).head? = some 0) : digits n = [0] := by
  suffices alone : n = 0 by simp [alone, digits, digitsReversed]
  rw [digits, List.head?_reverse] at zero
  fun_induction digitsReversed n with
  | case1 n small => simpa using zero
  | case2 n large ih =>
    have present := digitsPresent (n / 10)
    rw [digits, ne_eq, List.reverse_eq_nil_iff] at present
    rw [List.getLast?_cons_of_ne_nil present] at zero
    have := ih zero
    omega

theorem digitsShort {n places : Nat} (present : 0 < places) (below : n < tenTo places) :
    (digits n).length ≤ places := by
  rw [digits, List.length_reverse]
  fun_induction digitsReversed n generalizing places with
  | case1 n small => exact present
  | case2 n large ih =>
    obtain ⟨places, rfl⟩ := Nat.exists_eq_add_one.mpr present
    rw [tenToSucc] at below
    have more : 0 < places := by
      refine Nat.pos_of_ne_zero fun none => large ?_
      simpa [none, tenTo] using below
    rw [List.length_cons]
    exact Nat.succ_le_succ (ih more (Nat.div_lt_of_lt_mul (by omega)))

theorem digitsReach (n : Nat) : n < tenTo (digits n).length := by
  have below := ofDigitsBelow (digitsBelow n)
  rwa [ofDigitsDigits] at below

structure Grouped (whole : List Char) (groups : List (List Char)) : Prop where
  joined : groups.flatten = whole
  threes : ∃ first others, groups = first :: others ∧ first ≠ [] ∧ first.length ≤ 3 ∧
    ∀ group ∈ others, group.length = 3

theorem groupsGrouped {whole : List Char} (present : whole ≠ []) :
    Grouped whole (groupsOfThree whole) := by
  induction whole using groupsOfThree.induct with
  | case1 whole short =>
    rw [groupsOfThree, dif_pos short]
    exact ⟨by simp, whole, [], rfl, present, short, by simp⟩
  | case2 whole long ih =>
    rw [groupsOfThree, dif_neg long]
    have front : whole.take (whole.length - 3) ≠ [] := by
      refine List.ne_nil_of_length_pos ?_
      rw [List.length_take]
      omega
    obtain ⟨joined, first, others, same, filled, short, threes⟩ := ih front
    refine ⟨by rw [List.flatten_append, joined]; simp, first,
      others ++ [whole.drop (whole.length - 3)], by rw [same, List.cons_append], filled, short, ?_⟩
    intro group member
    rcases List.mem_append.mp member with inOthers | last
    · exact threes group inOthers
    · rw [List.mem_singleton.mp last, List.length_drop]
      omega

end TableQuery.Text
