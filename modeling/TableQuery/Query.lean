import TableQuery.Filter
import TableQuery.Sort.Runs

/-! Running a request on rows in memory: filter, sort, and cut out the page.
Every operator is looked up before any row, and every direction before any comparison of rows. -/
namespace TableQuery

def compareValues (a b : Value) : Except Fault Ordering := do
  if ← a.same b then .ok .eq
  else if a.isNull then .ok .lt
  else if b.isNull then .ok .gt
  else if ← a.precedes b then .ok .lt
  else .ok .gt

structure OrderKey where
  field : String
  direction : Direction
  deriving DecidableEq, Repr

def SortKey.resolve (k : SortKey) : Except Fault OrderKey := do
  .ok ⟨k.field, ← Direction.resolve k.direction⟩

def resolveSorting : List SortKey → Except Fault (List OrderKey)
  | [] => .ok []
  | k :: rest => do
    let key ← k.resolve
    let keys ← resolveSorting rest
    .ok (key :: keys)

def Direction.apply (d : Direction) (o : Ordering) : Ordering :=
  match d with
  | ascending => o
  | descending => o.swap

def compareRows (a b : Value) : List OrderKey → Except Fault Ordering
  | [] => .ok .eq
  | key :: rest => do
    match ← compareValues (a.fieldOf key.field) (b.fieldOf key.field) with
    | .eq => compareRows a b rest
    | o => .ok (key.direction.apply o)

def rowPrecedes (keys : List OrderKey) (a b : Value) : Except Fault Bool := do
  .ok ((← compareRows a b keys) == .lt)

def sortRows (keys : List OrderKey) (rows : List Value) : Except Fault (List Value) :=
  (Sort.sort rows).run (rowPrecedes keys)

def arrange (sorting : List SortKey) (rows : List Value) : Except Fault (List Value) :=
  if sorting.isEmpty then .ok rows
  else do
    let keys ← resolveSorting sorting
    sortRows keys rows

def checkOperators : List FilterClause → Except Fault Unit
  | [] => .ok ()
  | c :: rest => do
    let _ ← Operator.resolve c.operator
    checkOperators rest

def Request.window (r : Request) (rows : List Value) : List Value :=
  match r.pageSize with
  | none => rows
  | some size => (rows.drop (r.page.getD 0 * size)).take size

def Request.run (r : Request) (rows : List Value) : Except Fault Page := do
  checkOperators r.clauses
  let kept ← matching r.filters rows
  let sorted ← arrange r.sorting kept
  .ok ⟨r.window sorted, sorted.length⟩

end TableQuery
