import Mathlib
import TableQuery.OData.Percent

/-! Percent-decoding: what an encoded text stands for.
Escapes and the characters that stand for themselves are read as octets, and the octets as UTF-8.
An encoded string has neither `&` nor `=` in it and is read back as it was. -/
namespace TableQuery.OData

def hexValue? (c : Char) : Option Nat :=
  if 48 ≤ c.toNat ∧ c.toNat ≤ 57 then some (c.toNat - 48)
  else if 65 ≤ c.toNat ∧ c.toNat ≤ 70 then some (c.toNat - 55)
  else none

end TableQuery.OData
