import TableQuery.Fault
import TableQuery.Number.Fixed

/-! Numbers for display: a fixed count of decimal places, digits in groups of three, and separators
of the reader's own. Text that reads as a decimal is displayed as that decimal, any other text as it
stands. -/
namespace TableQuery.Display
open TableQuery.Text TableQuery.Number

def mostPlaces : Int := 2147483647

def mostPlacesAsked : Int := 9223372036854775807

def placesOf (v : Value) : Except Fault Int :=
  match v with
  | .float x =>
    match x.truncate?, x with
    | some n, _ => .ok n
    | none, .nan => .error (.improper "places of what is not a number")
    | none, _ => .error .overflow
  | .decimal d =>
    match d.truncate?, d with
    | some n, _ => .ok n
    | none, .nan .. => .error (.improper "places of what is not a number")
    | none, _ => .error .overflow
  | v =>
    match v.asInt?, v.asText? with
    | some n, _ => .ok n
    | none, some s =>
      match integer? s.toList with
      | some n => .ok n
      | none => .error (.improper "places of what is not an integer")
    | none, none => .error (.unsuitable "places of what is not a number")

def mostDecimalDigits : Int := 999999999999999999

def countable (places : Int) (coefficient : Nat) (exponent : Int) : Bool :=
  places ≤ mostDecimalDigits &&
    (coefficient = 0 || (digits coefficient).length + exponent + places ≤ mostDecimalDigits + 1)

def zerosBehind (places : Int) (coefficient : Nat) (exponent : Int) : Int :=
  if coefficient = 0 then places - 1 else exponent + places

/-- Why a decimal is not written out with these places. Places that can be counted are refused for the
digits; beyond them it is the zeros that do not fit. -/
def refusal? (places : Int) : Decimal → Option Fault
  | .finite _ coefficient exponent =>
    if countable places coefficient exponent then none
    else if places ≤ mostPlacesAsked then some (.improper "places out of range")
    else if mostPlacesAsked < zerosBehind places coefficient exponent then some .overflow
    else some (.raised (.foreign "MemoryError") "")
  | _ => none

inductive Shown where
  | parts (x : Fixed)
  | bare (text : String)
  deriving DecidableEq, Repr

def showBinary (places : Int) (x : Binary64) : Except Fault Shown :=
  if mostPlaces < places then .error (.improper "too many places")
  else
    match x.fixed? places.toNat with
    | some parts => .ok (.parts parts)
    | none => .ok (.bare x.toText)

def showDecimal (places : Nat) (d : Decimal) : Shown :=
  match d.fixed? places with
  | some parts => .parts parts
  | none => .bare d.toText

def shown (places : Int) (v : Value) : Except Fault Shown :=
  match v with
  | .float x =>
    if places < 0 ∨ mostPlacesAsked < places then .error (.improper "places out of range")
    else showBinary places x
  | .decimal d =>
    if places < 0 then .error (.improper "places out of range")
    else
      match refusal? places d with
      | some f => .error f
      | none => .ok (showDecimal places.toNat d)
  | v =>
    match v.asInt? with
    | none => .error (.unsuitable "places for what is not a number")
    | some n =>
      if places < 0 ∨ mostPlacesAsked < places then .error (.improper "places out of range")
      else
        match Binary64.ofInt? n with
        | none => .error .overflow
        | some x => showBinary places x

def assemble (grouped fraction : String) (separator : Value) : Except Fault String :=
  if fraction = "" then .ok grouped
  else do
    let mark ← separator.text?
    .ok (grouped ++ mark ++ fraction)

def Shown.text (thousand : String) (separator : Value) : Shown → Except Fault String
  | parts x => assemble (x.grouped thousand) (String.ofList x.fraction) separator
  | bare s => .ok s

def groupMark (thousand : Value) : Except Fault String :=
  match thousand.asText? with
  | some s => .ok s
  | none => .error (.unsuitable "separator that is not text")

def decimalOf? (s : String) : Option Decimal :=
  Decimal.ofText? (String.ofList (substitute ',' ['.'] (trim s.toList)))

def isCalendar : Value → Bool
  | .date _ => true
  | .moment _ => true
  | _ => false

/-- A value that is no text, with its places and separators. A date has no places: what is left of
the request for them is displayed. -/
def formatPlain (v precision thousand separator : Value) : Except Fault String := do
  let places ← placesOf precision
  if tooManyDigits places then .error .longInteger
  else if isCalendar v then do
    let mark ← groupMark thousand
    assemble mark (ofInt places ++ "f") separator
  else do
    let number ← shown places v
    let mark ← groupMark thousand
    number.text mark separator

def formatNumber (v precision thousand separator : Value) : Except Fault String :=
  match v.asText? with
  | some s =>
    match decimalOf? s with
    | some d => formatPlain (.decimal d) precision thousand separator
    | none => .ok s
  | none => formatPlain v precision thousand separator

end TableQuery.Display
