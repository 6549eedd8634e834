import TableQuery.OData.Literal

/-! Filters and orders in the remote query language.
A filter becomes a text in which alternatives are joined by `or` and groups by `and`. A membership
filter without candidates and a group without filters are left out. -/
namespace TableQuery.OData
open TableQuery.Text

def containsText (version : Version) (field literal : String) : String :=
  match version with
  | .v3 => "substringof(" ++ literal ++ ", " ++ field ++ ")"
  | .v4 => "contains(" ++ field ++ ", " ++ literal ++ ")"

def comparisonText (field token literal : String) : String :=
  field ++ " " ++ token ++ " " ++ literal

def operatorText (version : Version) (op : Operator) (field literal : String) : String :=
  match op with
  | .equals => comparisonText field "eq" literal
  | .notEquals => "not(" ++ comparisonText field "eq" literal ++ ")"
  | .greaterThan => comparisonText field "gt" literal
  | .greaterOrEqual => comparisonText field "ge" literal
  | .lowerThan => comparisonText field "lt" literal
  | .lowerOrEqual => comparisonText field "le" literal
  | .contains => containsText version field literal
  | .startsWith => "startswith(" ++ field ++ ", " ++ literal ++ ")"
  | .endsWith => "endswith(" ++ field ++ ", " ++ literal ++ ")"
  | .within => "(" ++ comparisonText field "eq" literal ++ ")"

def membershipText (version : Version) (field : String) (literals : List String) :
    Option String :=
  match literals.map (operatorText version .within field) with
  | [] => none
  | [one] => some one
  | several => some ("(" ++ join " or " several ++ ")")

def resolveOperator (v : Value) : Except Fault Operator :=
  match Operator.resolve v with
  | .error (.unknownOperator op) => .error (.unknownRemoteOperator op)
  | r => r

def literals (version : Version) (info : Option FieldInfo) :
    List Value → Except Fault (List String)
  | [] => .ok []
  | v :: rest => do
    let first ← literal version info v
    let others ← literals version info rest
    .ok (first :: others)

def clauseText (version : Version) (r : Request) (c : FilterClause) :
    Except Fault (Option String) := do
  let info := r.fieldInfo? c.field
  match ← resolveOperator c.operator with
  | .within => do
    let ls ← literals version info c.operand.candidates
    .ok (membershipText version c.field ls)
  | op => do
    let l ← literal version info c.operand
    .ok (some (operatorText version op c.field l))

def clauseTexts (version : Version) (r : Request) : List FilterClause → Except Fault (List String)
  | [] => .ok []
  | c :: rest => do
    let first ← clauseText version r c
    let others ← clauseTexts version r rest
    .ok (first.toList ++ others)

def groupText (version : Version) (r : Request) (g : FilterGroup) :
    Except Fault (Option String) := do
  let texts ← clauseTexts version r g.clauses
  .ok (if texts.isEmpty then none else some (join " or " texts))

def groupTexts (version : Version) (r : Request) : List FilterGroup → Except Fault (List String)
  | [] => .ok []
  | g :: rest => do
    let first ← groupText version r g
    let others ← groupTexts version r rest
    .ok (first.toList ++ others)

def conjunction : List String → Option String
  | [] => none
  | [one] => some one
  | several => some (join " and " (several.map fun s => "(" ++ s ++ ")"))

def filterText (version : Version) (r : Request) : Except Fault (Option String) := do
  .ok (conjunction (← groupTexts version r r.filters))

def keyText (k : SortKey) : Except Fault String := do
  let direction ← Direction.resolve k.direction
  .ok (k.field ++ " " ++ direction.wire)

def keyTexts : List SortKey → Except Fault (List String)
  | [] => .ok []
  | k :: rest => do
    let first ← keyText k
    let others ← keyTexts rest
    .ok (first :: others)

def orderText (r : Request) : Except Fault (Option String) := do
  let keys ← keyTexts r.sorting
  .ok (if keys.isEmpty then none else some (join ", " keys))

end TableQuery.OData
