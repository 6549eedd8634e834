import TableQuery.Number.Binary64
import TableQuery.Number.Decimal

/-! Numbers with a fixed count of decimal places, rounded half to even on the exact value, the
integer digits in groups of three. -/
namespace TableQuery.Number
open TableQuery.Text

structure Fixed where
  negative : Bool
  whole : List Char
  fraction : List Char
  deriving DecidableEq, Repr

namespace Fixed

def ofRatio (negative : Bool) (places num den : Nat) : Fixed :=
  let units := halfEven (num * tenTo places) den
  let fraction := (digits (units % tenTo places)).map digitChar
  { negative
    whole := (digits (units / tenTo places)).map digitChar
    fraction :=
      if places = 0 then [] else List.replicate (places - fraction.length) '0' ++ fraction }

def grouped (separator : String) (x : Fixed) : String :=
  Decimal.minus x.negative ++ join separator ((groupsOfThree x.whole).map String.ofList)

end Fixed
end TableQuery.Number

namespace TableQuery
open TableQuery.Number TableQuery.Text

/-- Zero, and what lies far below the last place, is known to leave zeros only. -/
def Decimal.fixed? (places : Nat) : Decimal → Option Fixed
  | finite negative coefficient exponent =>
    some <|
      if coefficient = 0 ∨ (digits coefficient).length + exponent + places < 0 then
        Fixed.ofRatio negative places 0 1
      else if 0 ≤ exponent then Fixed.ofRatio negative places (coefficient * tenTo exponent.toNat) 1
      else Fixed.ofRatio negative places coefficient (tenTo (-exponent).toNat)
  | _ => none

def Binary64.fixed? (places : Nat) : Binary64 → Option Fixed
  | finite negative mantissa exponent =>
    let (n, d) := ratio mantissa exponent
    some (Fixed.ofRatio negative places n d)
  | _ => none

end TableQuery
