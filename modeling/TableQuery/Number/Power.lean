/-! Powers of ten and of two, the places of decimal and of binary numbers. -/
namespace TableQuery.Number

def tenTo (n : Nat) : Nat := Nat.pow 10 n

def twoTo (n : Nat) : Nat := Nat.pow 2 n

theorem tenToSucc (n : Nat) : tenTo (n + 1) = tenTo n * 10 := rfl

theorem twoToSucc (n : Nat) : twoTo (n + 1) = twoTo n * 2 := rfl

theorem tenToPos (n : Nat) : 0 < tenTo n := by
  induction n with
  | zero => decide
  | succ n ih => rw [tenToSucc]; omega

theorem twoToPos (n : Nat) : 0 < twoTo n := by
  induction n with
  | zero => decide
  | succ n ih => rw [twoToSucc]; omega

end TableQuery.Number
