import TableQuery.Number.Numeral
import TableQuery.Number.Rounding

/-! Binary floating point of 64 bits: a signed 53-bit mantissa with a binary exponent, the
infinities, and one not-a-number. All arithmetic is exact arithmetic of natural numbers followed by
one rounding to nearest, a half to even. -/
namespace TableQuery
open TableQuery.Text TableQuery.Number

inductive Binary64 where
  | finite (negative : Bool) (mantissa : Nat) (exponent : Int)
  | infinite (negative : Bool)
  | nan
  deriving DecidableEq, Repr

namespace Binary64

def smallestExponent : Int := -1074

def largestExponent : Int := 971

def isNan : Binary64 → Bool
  | nan => true
  | _ => false

def isZero : Binary64 → Bool
  | finite _ 0 _ => true
  | _ => false

def value (negative : Bool) (mantissa : Nat) (exponent : Int) : Rat :=
  (withSign negative mantissa : Rat) * twoPower exponent

def toRat? : Binary64 → Option Rat
  | finite negative mantissa exponent => some (value negative mantissa exponent)
  | _ => none

def scaled (num den : Nat) (e : Int) : Nat × Nat :=
  if 0 ≤ e then (num, den * twoTo e.toNat) else (num * twoTo (-e).toNat, den)

def unitExponent (num den : Nat) : Int :=
  let k : Int := (Nat.log2 num : Int) - (Nat.log2 den : Int)
  let (n, d) := scaled num den k
  let top := if d ≤ n then k else k - 1
  if top - 52 < smallestExponent then smallestExponent else top - 52

def ofRatio (negative : Bool) (num den : Nat) : Binary64 :=
  if num = 0 then finite negative 0 smallestExponent
  else
    let e := unitExponent num den
    let (n, d) := scaled num den e
    let m := halfEven n d
    let (m, e) := if m = twoTo 53 then (twoTo 52, e + 1) else (m, e)
    if largestExponent < e then infinite negative else finite negative m e

def ofNumeral (negative : Bool) (n : Numeral) : Binary64 :=
  let top := n.exponent + (digits n.coefficient).length
  if n.coefficient = 0 ∨ top < -330 then finite negative 0 smallestExponent
  else if 310 < top then infinite negative
  else if 0 ≤ n.exponent then ofRatio negative (n.coefficient * tenTo n.exponent.toNat) 1
  else ofRatio negative n.coefficient (tenTo (-n.exponent).toNat)

def ofInt? (i : Int) : Option Binary64 :=
  match ofRatio (i < 0) i.natAbs 1 with
  | finite negative m e => some (finite negative m e)
  | _ => none

def ratio (mantissa : Nat) (exponent : Int) : Nat × Nat :=
  if 0 ≤ exponent then (mantissa * twoTo exponent.toNat, 1) else (mantissa, twoTo (-exponent).toNat)

def toInt? : Binary64 → Option Int
  | finite negative mantissa exponent =>
    let (n, d) := ratio mantissa exponent
    if n % d = 0 then some (withSign negative (n / d)) else none
  | _ => none

def truncate? : Binary64 → Option Int
  | finite negative mantissa exponent =>
    let (n, d) := ratio mantissa exponent
    some (withSign negative (n / d))
  | _ => none

def dropSpacing? (before : Bool) : List Char → Option (List Char)
  | [] => some []
  | '_' :: rest =>
    match before, rest with
    | true, c :: _ => if (asciiDigit? c).isSome then dropSpacing? false rest else none
    | _, _ => none
  | c :: rest => (dropSpacing? (asciiDigit? c).isSome rest).map (c :: ·)

def ofUnsigned? (negative : Bool) (cs : List Char) : Option Binary64 :=
  if isWord "inf" cs || isWord "infinity" cs then some (infinite negative)
  else if isWord "nan" cs then some nan
  else (numeral? cs).map (ofNumeral negative)

def ofChars? (cs : List Char) : Option Binary64 := do
  let plain ← dropSpacing? false (trimWhere isWhite cs)
  let (negative, body) := signed plain
  ofUnsigned? negative body

def ofText? (s : String) : Option Binary64 := ofChars? s.toList

def ofAnyDigits? (s : String) : Option Binary64 :=
  ofChars? (s.toList.map fun c => match digit? c with
    | some d => digitChar d
    | none => c)

end Binary64
end TableQuery
