import TableQuery.Value.Equality

/-! Order of values.
Text is ordered by code points, numbers by their exact value, lists and tuples by their first
difference, sets by inclusion. Values of unlike types have no order, and to compare them is a
fault. -/
namespace TableQuery

def Comparison.holds (op : Comparison) (below above : Bool) : Bool :=
  match op with
  | .less => below
  | .lessOrEqual => !above
  | .greater => above
  | .greaterOrEqual => !below

def Extent.compare (op : Comparison) (x y : Extent) : Bool :=
  match op with
  | .less => x.below y
  | .lessOrEqual => x.below y || x.same y
  | .greater => y.below x
  | .greaterOrEqual => y.below x || x.same y

def Extent.isNan : Extent → Bool
  | .nan => true
  | _ => false

namespace Value

def isDecimal : Value → Bool
  | decimal _ => true
  | _ => false

def unordered (op : Comparison) (a b : Value) : Except Fault Bool :=
  .error (.unorderable op a.typeName b.typeName)

def compareMoments (op : Comparison) (a b : Moment) : Except Fault Bool :=
  if a.offset.isSome = b.offset.isSome then
    .ok (op.holds (a.instant < b.instant) (b.instant < a.instant))
  else .error .offsetAgainstNone

def compareScalar (op : Comparison) (a b : Value) : Except Fault Bool :=
  match a.extent?, b.extent? with
  | some x, some y =>
    if (a.isDecimal || b.isDecimal) && (x.isNan || y.isNan) then .error .undefinedComparison
    else .ok (x.compare op y)
  | _, _ =>
    match a.asText?, b.asText? with
    | some s, some t => .ok (op.holds (s < t) (t < s))
    | _, _ =>
      match a, b with
      | date d, date e => .ok (op.holds (d.key < e.key) (e.key < d.key))
      | moment m, moment n => compareMoments op m n
      | date _, moment _ => .error .dateAgainstMoment
      | moment _, date _ => .error .dateAgainstMoment
      -- Two records are compared as the dicts of their attributes, which have no order.
      | record xs, record ys => unordered op (dict xs) (dict ys)
      | _, _ => unordered op a b

def compareSets (op : Comparison) (xs ys : List Value) : Except Fault Bool :=
  match op with
  | .less => if xs.length < ys.length then allAmong xs ys else .ok false
  | .lessOrEqual => allAmong xs ys
  | .greater => if ys.length < xs.length then allAmong ys xs else .ok false
  | .greaterOrEqual => allAmong ys xs

mutual
def compare (op : Comparison) : Value → Value → Except Fault Bool
  | list xs, b =>
    match b with
    | list ys => compareAll op xs ys
    | _ => unordered op (list xs) b
  | tuple xs, b =>
    match b with
    | tuple ys => compareAll op xs ys
    | _ => unordered op (tuple xs) b
  | set xs, b =>
    match b with
    | set ys => compareSets op xs ys
    | _ => unordered op (set xs) b
  | a, b => compareScalar op a b

def compareAll (op : Comparison) : List Value → List Value → Except Fault Bool
  | x :: xs, y :: ys => do
    if ← same x y then compareAll op xs ys else compare op x y
  | [], ys => .ok (op.holds (!ys.isEmpty) false)
  | _ :: _, [] => .ok (op.holds false true)
end

def precedes (a b : Value) : Except Fault Bool := compare .less a b

end Value
end TableQuery
