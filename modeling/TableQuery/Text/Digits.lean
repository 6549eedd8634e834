import TableQuery.Text.Blank
import TableQuery.Text.Pieces
import TableQuery.Number.Power

/-! Decimal digits: writing numbers, grouping digits, and reading integers. -/
namespace TableQuery.Text

def digitZeros : List Nat :=
  [0x30, 0x660, 0x6F0, 0x7C0, 0x966, 0x9E6, 0xA66, 0xAE6, 0xB66, 0xBE6, 0xC66, 0xCE6, 0xD66, 0xDE6,
   0xE50, 0xED0, 0xF20, 0x1040, 0x1090, 0x17E0, 0x1810, 0x1946, 0x19D0, 0x1A80, 0x1A90, 0x1B50,
   0x1BB0, 0x1C40, 0x1C50, 0xA620, 0xA8D0, 0xA900, 0xA9D0, 0xA9F0, 0xAA50, 0xABF0, 0xFF10, 0x104A0,
   0x10D30, 0x11066, 0x110F0, 0x11136, 0x111D0, 0x112F0, 0x11450, 0x114D0, 0x11650, 0x116C0,
   0x11730, 0x118E0, 0x11950, 0x11C50, 0x11D50, 0x11DA0, 0x16A60, 0x16AC0, 0x16B50, 0x1D7CE,
   0x1D7D8, 0x1D7E2, 0x1D7EC, 0x1D7F6, 0x1E140, 0x1E2F0, 0x1E950, 0x1FBF0]

def asciiDigit? (c : Char) : Option Nat :=
  if 48 ≤ c.toNat ∧ c.toNat ≤ 57 then some (c.toNat - 48) else none

def digit? (c : Char) : Option Nat :=
  match asciiDigit? c with
  | some d => some d
  | none =>
    if c.toNat < 128 then none
    else (digitZeros.find? fun z => z ≤ c.toNat && c.toNat < z + 10).map (c.toNat - ·)

def digitChar (d : Nat) : Char := Char.ofNat (48 + d % 10)

def digitsReversed (n : Nat) : List Nat :=
  if h : n < 10 then [n] else n % 10 :: digitsReversed (n / 10)
termination_by n
decreasing_by omega

def digits (n : Nat) : List Nat := (digitsReversed n).reverse

def ofDigits (ds : List Nat) : Nat := ds.foldl (fun acc d => acc * 10 + d) 0

def ofNat (n : Nat) : String := String.ofList ((digits n).map digitChar)

def ofInt (n : Int) : String := if n < 0 then "-" ++ ofNat n.natAbs else ofNat n.natAbs

def ofNatPadded (width n : Nat) : String := padLeft width '0' (ofNat n)

def groupsOfThree (cs : List Char) : List (List Char) :=
  if _h : cs.length ≤ 3 then [cs]
  else groupsOfThree (cs.take (cs.length - 3)) ++ [cs.drop (cs.length - 3)]
termination_by cs.length
decreasing_by simp; omega

def digitLimit : Nat := 4300

def tooManyDigits (n : Int) : Bool := Number.tenTo digitLimit ≤ n.natAbs

def spacedDigits? (value? : Char → Option Nat) : List Char → Option (List Nat)
  | [] => none
  | [c] => (value? c).map ([·])
  | c :: '_' :: rest => do
    let d ← value? c
    let ds ← spacedDigits? value? rest
    some (d :: ds)
  | c :: rest => do
    let d ← value? c
    let ds ← spacedDigits? value? rest
    some (d :: ds)

def signed : List Char → Bool × List Char
  | '-' :: rest => (true, rest)
  | '+' :: rest => (false, rest)
  | cs => (false, cs)

def withSign (negative : Bool) (n : Nat) : Int := if negative then -(n : Int) else (n : Int)

/-- Integer text: white space at the ends, a sign, digits of any script with single underscores
between them, at most `digitLimit` digits. -/
def integer? (cs : List Char) : Option Int := do
  let (negative, body) := signed (trimWhere isWhite cs)
  let ds ← spacedDigits? digit? body
  if ds.length ≤ digitLimit then some (withSign negative (ofDigits ds)) else none

end TableQuery.Text
