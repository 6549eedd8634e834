import TableQuery.Fault

/-! Equality of values.
Numbers are compared by their exact value whatever their type, truth values count as 0 and 1, and a
list never equals a tuple. Comparing with a signalling decimal is a fault. -/
namespace TableQuery

inductive Extent where
  | finite (q : Rat)
  | infinite (negative : Bool)
  | nan
  deriving DecidableEq, Repr

def Binary64.extent : Binary64 → Extent
  | .finite negative mantissa exponent => .finite (value negative mantissa exponent)
  | .infinite negative => .infinite negative
  | .nan => .nan

def Decimal.extent : Decimal → Extent
  | .finite negative coefficient exponent => .finite (value negative coefficient exponent)
  | .infinite negative => .infinite negative
  | .nan .. => .nan

def Extent.same : Extent → Extent → Bool
  | .finite p, .finite q => p == q
  | .infinite a, .infinite b => a == b
  | _, _ => false

def Extent.below : Extent → Extent → Bool
  | .finite p, .finite q => p.blt q
  | .infinite a, .infinite b => a && !b
  | .infinite a, .finite _ => a
  | .finite _, .infinite b => !b
  | _, _ => false

namespace Value

def extent? : Value → Option Extent
  | bool b => some (.finite (if b then 1 else 0))
  | int n => some (.finite n)
  | float x => some x.extent
  | decimal d => some d.extent
  | version v => some (.finite v.number)
  | _ => none

def signalling : Value → Bool
  | decimal d => d.isSignalling
  | _ => false

def sameMoment (a b : Moment) : Bool :=
  a.offset.isSome == b.offset.isSome && a.instant == b.instant

def sameScalar (a b : Value) : Except Fault Bool :=
  match a.extent?, b.extent? with
  | some x, some y =>
    if a.signalling || b.signalling then .error .undefinedComparison else .ok (x.same y)
  | _, _ =>
    match a.asText?, b.asText? with
    | some s, some t => .ok (s == t)
    | _, _ =>
      match a, b with
      | null, null => .ok true
      | date d, date e => .ok (d == e)
      | moment m, moment n => .ok (sameMoment m n)
      | _, _ => .ok false

mutual
def same : Value → Value → Except Fault Bool
  | list xs, b =>
    match b with
    | list ys => if xs.length = ys.length then sameAll xs ys else .ok false
    | _ => .ok false
  | tuple xs, b =>
    match b with
    | tuple ys => if xs.length = ys.length then sameAll xs ys else .ok false
    | _ => .ok false
  | set xs, b =>
    match b with
    | set ys => if xs.length = ys.length then allAmong xs ys else .ok false
    | _ => .ok false
  | dict xs, b =>
    match b with
    | dict ys => if xs.length = ys.length then sameEntries xs ys else .ok false
    | _ => .ok false
  | record xs, b =>
    match b with
    | record ys => if xs.length = ys.length then sameEntries xs ys else .ok false
    | _ => .ok false
  | a, b => sameScalar a b

def sameAll : List Value → List Value → Except Fault Bool
  | x :: xs, y :: ys => do
    if ← same x y then sameAll xs ys else .ok false
  | _, _ => .ok true

def allAmong : List Value → List Value → Except Fault Bool
  | x :: xs, ys => do
    if ← ys.anyM (same x) then allAmong xs ys else .ok false
  | [], _ => .ok true

def sameEntries : List (String × Value) → List (String × Value) → Except Fault Bool
  | (key, x) :: xs, ys =>
    match find? key ys with
    | none => .ok false
    | some y => do
      if ← same x y then sameEntries xs ys else .ok false
  | [], _ => .ok true
end

def strictlySame (a b : Value) : Except Fault Bool :=
  if a.isBool = b.isBool then same a b else .ok false

def distinct (values : List Value) : List Value :=
  values.foldl (fun kept v =>
    if kept.any fun w => (same w v).toOption == some true then kept else kept ++ [v]) []

end Value
end TableQuery
