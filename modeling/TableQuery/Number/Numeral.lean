import TableQuery.Text.Digits

/-! Unsigned numerals with an optional fraction and an optional decimal exponent, as they stand in
the texts of decimals and of binary floats. -/
namespace TableQuery.Number
open TableQuery.Text

structure Numeral where
  coefficient : Nat
  exponent : Int
  deriving DecidableEq, Repr

def leadingDigits : List Char → List Nat × List Char
  | [] => ([], [])
  | c :: rest =>
    match asciiDigit? c with
    | none => ([], c :: rest)
    | some d => let (ds, after) := leadingDigits rest; (d :: ds, after)

def exponentPart? : List Char → Option Int
  | [] => some 0
  | c :: rest =>
    if c = 'e' ∨ c = 'E' then
      let (negative, body) := signed rest
      let (ds, after) := leadingDigits body
      if ds.isEmpty || !after.isEmpty then none else some (withSign negative (ofDigits ds))
    else none

def fractionPart : List Char → List Nat × List Char
  | '.' :: rest => leadingDigits rest
  | cs => ([], cs)

def numeral? (cs : List Char) : Option Numeral :=
  let (whole, afterWhole) := leadingDigits cs
  let (fraction, afterFraction) := fractionPart afterWhole
  if whole.isEmpty && fraction.isEmpty then none
  else (exponentPart? afterFraction).map fun e =>
    ⟨ofDigits (whole ++ fraction), e - fraction.length⟩

def isWord (word : String) (cs : List Char) : Bool := cs.map Char.toLower == word.toList

end TableQuery.Number
