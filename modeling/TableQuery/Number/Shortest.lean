import TableQuery.Number.Binary64
import TableQuery.Number.Decimal

/-! The shortest decimal text that reads back as the same binary number.
On the grids of 1, 2, … 17 significant digits the value's two neighbours are tried; the first grid
with a neighbour that reads back wins, the nearer of two, the even one of two equally near. -/
namespace TableQuery.Binary64
open TableQuery.Text TableQuery.Number

def onGrid (num den : Nat) (e : Int) : Nat × Nat :=
  if 0 ≤ e then (num, den * tenTo e.toNat) else (num * tenTo (-e).toNat, den)

def leadingExponent (num den : Nat) : Int :=
  let guess : Int := ((digits num).length : Int) - ((digits den).length : Int)
  let (n, d) := onGrid num den guess
  if d ≤ n then guess else guess - 1

def gridPoint? (x : Binary64) (num den : Nat) (e : Int) : Option Nat :=
  let (n, d) := onGrid num den e
  let below := n / d
  let near := halfEven n d
  let far := if near = below then below + 1 else below
  let hits := [near, far].filter fun c => ofNumeral false ⟨c, e⟩ == x
  hits.head?

def firstGrid? (x : Binary64) (num den : Nat) (top : Int) : Nat → Nat → Option Numeral
  | 0, _ => none
  | fuel + 1, places =>
    match gridPoint? x num den (top - places) with
    | some c => some ⟨c, top - places⟩
    | none => firstGrid? x num den top fuel (places + 1)

def shortest (mantissa : Nat) (exponent : Int) : Numeral :=
  let (n, d) := ratio mantissa exponent
  (firstGrid? (finite false mantissa exponent) n d (leadingExponent n d) 17 0).getD ⟨n / d, 0⟩

def positionalFrom : Int := -4
def positionalBelow : Int := 16

def exponentText (e : Int) : String :=
  (if e < 0 then "e-" else "e+") ++ ofNatPadded 2 e.natAbs

def dropTrailingZeros (ds : List Char) : List Char :=
  match (ds.reverse.dropWhile (· == '0')).reverse with
  | [] => ['0']
  | kept => kept

def scientific (ds : List Char) (e : Int) : String :=
  match ds with
  | [] => ""
  | [d] => String.singleton d ++ exponentText e
  | d :: rest => String.ofList (d :: '.' :: rest) ++ exponentText e

def positional (ds : List Char) (e : Int) : String :=
  let placed := Decimal.placePoint ds (e + 1)
  String.ofList (if placed.contains '.' then placed else placed ++ ['.', '0'])

def toText : Binary64 → String
  | nan => "nan"
  | infinite negative => Decimal.minus negative ++ "inf"
  | finite negative mantissa exponent =>
    if mantissa = 0 then Decimal.minus negative ++ "0.0"
    else
      let n := shortest mantissa exponent
      let ds := (digits n.coefficient).map digitChar
      let e := n.exponent + ds.length - 1
      let ds := dropTrailingZeros ds
      Decimal.minus negative ++
        if positionalFrom ≤ e ∧ e < positionalBelow then positional ds e else scientific ds e

end TableQuery.Binary64
