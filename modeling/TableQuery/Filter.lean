import TableQuery.Request.Basic
import TableQuery.Row
import TableQuery.Value.Order
import TableQuery.Text.Pieces

/-! Filters on rows in memory.
A clause is decided on its own; groups and clauses are tried from left to right and no further than
the answer needs, so that a fault shows only if its clause is reached. -/
namespace TableQuery
open TableQuery.Text

def orderHolds (op : Comparison) (value operand : Value) : Except Fault Bool :=
  if value.isNull || operand.isNull then .ok false else value.compare op operand

def amongCandidates (value : Value) (candidates : List Value) : Except Fault Bool :=
  candidates.anyM fun c => c.strictlySame value

def textHolds (relation : List Char → List Char → Bool) (value operand : Value) :
    Except Fault Bool :=
  if value.isNull then .ok false
  else do
    let pattern ← operand.text?
    let text ← value.text?
    .ok (relation text.toList pattern.toList)

def Operator.holds (op : Operator) (value operand : Value) : Except Fault Bool :=
  match op with
  | equals => value.strictlySame operand
  | notEquals => return !(← value.strictlySame operand)
  | greaterOrEqual => orderHolds .greaterOrEqual value operand
  | greaterThan => orderHolds .greater value operand
  | lowerThan => orderHolds .less value operand
  | lowerOrEqual => orderHolds .lessOrEqual value operand
  | within => amongCandidates value operand.candidates
  | contains => textHolds (fun text pattern => occursIn pattern text) value operand
  | startsWith => textHolds Text.startsWith value operand
  | endsWith => textHolds Text.endsWith value operand

def FilterClause.matches (c : FilterClause) (row : Value) : Except Fault Bool := do
  let op ← Operator.resolve c.operator
  op.holds (row.fieldOf c.field) c.operand

def FilterGroup.matches (g : FilterGroup) (row : Value) : Except Fault Bool :=
  g.clauses.anyM (·.matches row)

def matchesAll (groups : List FilterGroup) (row : Value) : Except Fault Bool :=
  groups.allM (·.matches row)

def matching (groups : List FilterGroup) : List Value → Except Fault (List Value)
  | [] => .ok []
  | row :: rows => do
    if ← matchesAll groups row then
      let rest ← matching groups rows
      .ok (row :: rest)
    else matching groups rows

end TableQuery
