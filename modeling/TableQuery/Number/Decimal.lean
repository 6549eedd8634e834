import TableQuery.Number.Numeral
import TableQuery.Number.Rounding

/-! Decimal numbers: a signed coefficient with a decimal exponent, the infinities, and the
not-a-numbers with their payload. Numbers of one value and different exponents are different
decimals that compare equal. -/
namespace TableQuery
open TableQuery.Text TableQuery.Number

inductive Decimal where
  | finite (negative : Bool) (coefficient : Nat) (exponent : Int)
  | infinite (negative : Bool)
  | nan (negative signalling : Bool) (payload : Nat)
  deriving DecidableEq, Repr

namespace Decimal

def largestExponent : Int := 999999999999999999

def smallestExponent : Int := -1999999999999999997

def isNan : Decimal → Bool
  | nan .. => true
  | _ => false

def isSignalling : Decimal → Bool
  | nan _ signalling _ => signalling
  | _ => false

def isZero : Decimal → Bool
  | finite _ 0 _ => true
  | _ => false

def ofInt (n : Int) : Decimal := finite (n < 0) n.natAbs 0

def value (negative : Bool) (coefficient : Nat) (exponent : Int) : Rat :=
  (withSign negative coefficient : Rat) * tenPower exponent

def toRat? : Decimal → Option Rat
  | finite negative coefficient exponent => some (value negative coefficient exponent)
  | _ => none

def minus (negative : Bool) : String := if negative then "-" else ""

def placePoint (ds : List Char) (place : Int) : List Char :=
  if place ≤ 0 then '0' :: '.' :: (List.replicate (-place).toNat '0' ++ ds)
  else if ds.length ≤ place.toNat then ds ++ List.replicate (place.toNat - ds.length) '0'
  else ds.take place.toNat ++ '.' :: ds.drop place.toNat

def exponentText (e : Int) : String := if e < 0 then Text.ofInt e else "+" ++ Text.ofInt e

def toText : Decimal → String
  | finite negative coefficient exponent =>
    let ds := (digits coefficient).map digitChar
    let left := exponent + ds.length
    let place := if exponent ≤ 0 ∧ -6 < left then left else 1
    minus negative ++ String.ofList (placePoint ds place) ++
      if left = place then "" else "E" ++ exponentText (left - place)
  | infinite negative => minus negative ++ "Infinity"
  | nan negative signalling payload =>
    minus negative ++ (if signalling then "sNaN" else "NaN") ++
      if payload = 0 then "" else ofNat payload

def plainChars? : List Char → Option (List Char)
  | [] => some []
  | '_' :: rest => plainChars? rest
  | c :: rest =>
    if 0 < c.toNat ∧ c.toNat < 128 then (plainChars? rest).map (c :: ·)
    else match digit? c with
      | some d => (plainChars? rest).map (digitChar d :: ·)
      | none => none

def payload? (cs : List Char) : Option Nat :=
  let (ds, after) := leadingDigits cs
  if after.isEmpty then some (ofDigits ds) else none

def inRange? (negative : Bool) (n : Numeral) : Option Decimal :=
  let top := n.exponent + (digits n.coefficient).length - 1
  if top ≤ largestExponent ∧ smallestExponent ≤ n.exponent then
    some (finite negative n.coefficient n.exponent)
  else none

def ofUnsigned? (negative : Bool) (cs : List Char) : Option Decimal :=
  if isWord "inf" cs || isWord "infinity" cs then some (infinite negative)
  else if isWord "nan" (cs.take 3) then (payload? (cs.drop 3)).map (nan negative false)
  else if isWord "snan" (cs.take 4) then (payload? (cs.drop 4)).map (nan negative true)
  else (numeral? cs).bind (inRange? negative)

def ofText? (s : String) : Option Decimal := do
  let cs ← plainChars? (trim s.toList)
  let (negative, body) := signed cs
  ofUnsigned? negative body

def toInt? : Decimal → Option Int
  | finite negative coefficient exponent =>
    if 0 ≤ exponent then some (withSign negative (coefficient * tenTo exponent.toNat))
    else if coefficient % tenTo (-exponent).toNat = 0 then
      some (withSign negative (coefficient / tenTo (-exponent).toNat))
    else none
  | _ => none

def truncate? : Decimal → Option Int
  | finite negative coefficient exponent =>
    if 0 ≤ exponent then some (withSign negative (coefficient * tenTo exponent.toNat))
    else some (withSign negative (coefficient / tenTo (-exponent).toNat))
  | _ => none

end Decimal
end TableQuery
