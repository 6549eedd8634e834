import TableQuery.Value.Words

/-! Requests for rows, and pages of rows.
A request filters by groups of clauses, all groups of which must match, each by one of its clauses;
it sorts by keys in order of importance, and asks for one page. -/
namespace TableQuery

structure FilterClause where
  field : String
  operator : Value
  operand : Value
  deriving Inhabited, Repr

structure FilterGroup where
  clauses : List FilterClause
  deriving Inhabited, Repr

structure SortKey where
  field : String
  direction : Value
  deriving Inhabited, Repr

structure FieldInfo where
  field : String
  dataType : Option String
  deriving Inhabited, DecidableEq, Repr

structure Request where
  page : Option Nat
  pageSize : Option Nat
  sorting : List SortKey
  filters : List FilterGroup
  fields : List FieldInfo
  args : Option (List (String × Value))
  deriving Inhabited, Repr

def Request.everything : Request :=
  { page := some 0, pageSize := none, sorting := [], filters := [], fields := [], args := none }

def Request.fieldInfo? (r : Request) (field : String) : Option FieldInfo :=
  r.fields.find? (·.field == field)

def Request.clauses (r : Request) : List FilterClause := r.filters.flatMap (·.clauses)

structure Page where
  items : List Value
  total : Nat
  deriving Inhabited, Repr

def Page.empty : Page := ⟨[], 0⟩

structure UrlSet where
  dataUrl : String
  pageUrl : String
  deriving DecidableEq, Repr

structure UrlRequest where
  version : Version
  url : String
  request : Request
  deriving Repr

structure SourceInfo where
  name : String
  kind : String
  deriving DecidableEq, Repr

structure FieldTypeInfo where
  name : String
  filter : Option (List (String × Value))
  deriving Repr

end TableQuery
