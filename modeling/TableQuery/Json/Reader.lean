import TableQuery.Value.Basic

/-! Reading JSON texts as values.
The dialect knows `NaN` and the infinities, keeps integers of any size up to a limit of digits apart
from numbers with a fraction or an exponent, and takes the last of several entries with one key. A
text that is refused is refused at a position. -/
namespace TableQuery.Json
open TableQuery.Text TableQuery.Number

/-- Why a text is not read. While reading, a position is counted from the end of the text. -/
inductive Refusal where
  | malformed (position : Nat)
  | longInteger
  deriving DecidableEq, Repr

def refuseAt (rest : List Char) : Except Refusal α := .error (.malformed rest.length)

def isSpace (c : Char) : Bool := c == ' ' || c == '\t' || c == '\n' || c == '\r'

def skipSpace (cs : List Char) : List Char := cs.dropWhile isSpace

def after? : List Char → List Char → Option (List Char)
  | [], cs => some cs
  | w :: ws, c :: cs => if w = c then after? ws cs else none
  | _ :: _, [] => none

def hexValue? (c : Char) : Option Nat :=
  match asciiDigit? c with
  | some d => some d
  | none =>
    let n := c.toNat
    if 97 ≤ n ∧ n ≤ 102 then some (n - 87)
    else if 65 ≤ n ∧ n ≤ 70 then some (n - 55)
    else none

def hexFour? : List Char → Option (Nat × List Char)
  | a :: b :: c :: d :: e :: rest => do
    let a ← hexValue? a
    let b ← hexValue? b
    let c ← hexValue? c
    let d ← hexValue? d
    some (((a * 16 + b) * 16 + c) * 16 + d, e :: rest)
  | _ => none

def isHighHalf (n : Nat) : Bool := 0xD800 ≤ n && n ≤ 0xDBFF
def isLowHalf (n : Nat) : Bool := 0xDC00 ≤ n && n ≤ 0xDFFF

def joinHalves (high low : Nat) : Nat := 0x10000 + (high - 0xD800) * 0x400 + (low - 0xDC00)

def charOf (n : Nat) : Char := if isHighHalf n || isLowHalf n then '\uFFFD' else Char.ofNat n

def numberedChar (cs : List Char) : Except Refusal (Char × List Char) :=
  match hexFour? cs with
  | none => .error (.malformed (cs.length + 1))
  | some (n, rest) =>
    if isHighHalf n && 6 < rest.length then
      match rest with
      | '\\' :: 'u' :: more =>
        match hexFour? more with
        | none => .error (.malformed (more.length + 1))
        | some (low, after) =>
          if isLowHalf low then .ok (charOf (joinHalves n low), after) else .ok (charOf n, rest)
      | _ => .ok (charOf n, rest)
    else .ok (charOf n, rest)

def plainEscape? (c : Char) : Option Char :=
  match c with
  | '"' => some '"'
  | '\\' => some '\\'
  | '/' => some '/'
  | 'b' => some '\x08'
  | 'f' => some '\x0c'
  | 'n' => some '\n'
  | 'r' => some '\r'
  | 't' => some '\t'
  | _ => none

def string (start : Nat) : Nat → List Char → List Char → Except Refusal (String × List Char)
  | 0, _, _ => .error (.malformed start)
  | _ + 1, _, [] => .error (.malformed start)
  | fuel + 1, out, c :: rest =>
    if c = '"' then .ok (String.ofList out.reverse, rest)
    else if c = '\\' then
      match rest with
      | [] => .error (.malformed start)
      | 'u' :: more => do
        let (x, rest) ← numberedChar more
        string start fuel (x :: out) rest
      | e :: more =>
        match plainEscape? e with
        | some x => string start fuel (x :: out) more
        | none => refuseAt (c :: rest)
    else if c.toNat ≤ 0x1F then refuseAt (c :: rest)
    else string start fuel (c :: out) rest

def quotedString (cs : List Char) : Except Refusal (String × List Char) :=
  match cs with
  | '"' :: rest => string cs.length rest.length.succ [] rest
  | cs => refuseAt cs

def wholeDigits? (cs : List Char) : Option (List Nat × List Char) :=
  match leadingDigits cs with
  | ([], _) => none
  | (0 :: _, _) => some ([0], cs.tail)
  | found => some found

def fraction (cs : List Char) : List Nat × List Char :=
  match cs with
  | '.' :: rest =>
    match leadingDigits rest with
    | ([], _) => ([], cs)
    | found => found
  | cs => ([], cs)

def exponent (cs : List Char) : Option Int × List Char :=
  match cs with
  | c :: rest =>
    if c = 'e' ∨ c = 'E' then
      let (negative, body) := signed rest
      match leadingDigits body with
      | ([], _) => (none, cs)
      | (ds, after) => (some (withSign negative (ofDigits ds)), after)
    else (none, cs)
  | [] => (none, [])

def number (cs : List Char) : Except Refusal (Value × List Char) :=
  let (negative, body) := match cs with
    | '-' :: rest => (true, rest)
    | cs => (false, cs)
  match wholeDigits? body with
  | none => refuseAt cs
  | some (whole, rest) =>
    let (fractionDigits, rest) := fraction rest
    let (e, rest) := exponent rest
    if fractionDigits.isEmpty && e.isNone then
      if whole.length ≤ digitLimit then .ok (.int (withSign negative (ofDigits whole)), rest)
      else .error .longInteger
    else
      let n : Numeral := ⟨ofDigits (whole ++ fractionDigits), e.getD 0 - fractionDigits.length⟩
      .ok (.float (Binary64.ofNumeral negative n), rest)

def words : List (String × Value) :=
  [("null", .null), ("true", .bool true), ("false", .bool false), ("NaN", .float .nan),
   ("Infinity", .float (.infinite false)), ("-Infinity", .float (.infinite true))]

def scalar (cs : List Char) : Except Refusal (Value × List Char) :=
  match words.findSome? fun w => (after? w.1.toList cs).map fun rest => (w.2, rest) with
  | some found => .ok found
  | none => number cs

mutual
/-- A value. The fuel bounds the number of steps; the length of the text is enough. -/
def value : Nat → List Char → Except Refusal (Value × List Char)
  | 0, cs => refuseAt cs
  | fuel + 1, cs =>
    match cs with
    | '"' :: _ => do
      let (s, rest) ← quotedString cs
      .ok (.text s, rest)
    | '\x7b' :: rest =>
      match skipSpace rest with
      | '\x7d' :: rest => .ok (.dict [], rest)
      | rest => entries fuel [] rest
    | '[' :: rest =>
      match skipSpace rest with
      | ']' :: rest => .ok (.list [], rest)
      | rest => items fuel [] rest
    | cs => scalar cs

def items : Nat → List Value → List Char → Except Refusal (Value × List Char)
  | 0, _, cs => refuseAt cs
  | fuel + 1, out, cs => do
    let (v, rest) ← value fuel cs
    match skipSpace rest with
    | ']' :: rest => .ok (.list (v :: out).reverse, rest)
    | ',' :: rest => items fuel (v :: out) (skipSpace rest)
    | rest => refuseAt rest

def entries : Nat → List (String × Value) → List Char → Except Refusal (Value × List Char)
  | 0, _, cs => refuseAt cs
  | fuel + 1, out, cs => do
    let (key, rest) ← quotedString cs
    match skipSpace rest with
    | ':' :: rest => do
      let (v, rest) ← value fuel (skipSpace rest)
      let out := Value.put key v out
      match skipSpace rest with
      | '\x7d' :: rest => .ok (.dict out, rest)
      | ',' :: rest => entries fuel out (skipSpace rest)
      | rest => refuseAt rest
    | rest => refuseAt rest
end

def Refusal.fromStart (length : Nat) : Refusal → Refusal
  | malformed fromEnd => malformed (length - fromEnd)
  | longInteger => longInteger

def read (cs : List Char) : Except Refusal Value :=
  let outcome : Except Refusal Value := do
    let (v, rest) ← value (2 * cs.length + 1) (skipSpace cs)
    match skipSpace rest with
    | [] => .ok v
    | rest => refuseAt rest
  match outcome with
  | .ok v => .ok v
  | .error r => .error (r.fromStart cs.length)

end TableQuery.Json
