import TableQuery.Vocabulary
import TableQuery.Number.Binary64
import TableQuery.Number.Decimal
import TableQuery.Calendar.Date

/-! Values: what rows hold and what requests compare with. -/
namespace TableQuery

inductive Value where
  | null
  | bool (b : Bool)
  | int (n : Int)
  | float (x : Binary64)
  | decimal (d : Decimal)
  | text (s : String)
  | date (d : Date)
  | moment (m : Moment)
  | list (items : List Value)
  | tuple (items : List Value)
  /-- Members in the order in which they are visited. -/
  | set (members : List Value)
  /-- Entries in order of insertion, keys without repetition. -/
  | dict (entries : List (String × Value))
  | record (attributes : List (String × Value))
  | operator (op : Operator)
  | direction (d : Direction)
  | version (v : Version)
  deriving Inhabited, Repr

namespace Value

def isNull : Value → Bool
  | null => true
  | _ => false

def isBool : Value → Bool
  | bool _ => true
  | _ => false

def asText? : Value → Option String
  | text s => some s
  | operator op => some op.wire
  | direction d => some d.wire
  | _ => none

/-- The integer of a value that is an integer; booleans and versions are integers too. -/
def asInt? : Value → Option Int
  | bool b => some (if b then 1 else 0)
  | int n => some n
  | version v => some v.number
  | _ => none

def members? : Value → Option (List Value)
  | list items => some items
  | tuple items => some items
  | set members => some members
  | _ => none

def truthy : Value → Bool
  | null => false
  | bool b => b
  | int n => n != 0
  | float x => !x.isZero
  | decimal d => !d.isZero
  | text s => s != ""
  | list items => !items.isEmpty
  | tuple items => !items.isEmpty
  | set members => !members.isEmpty
  | dict entries => !entries.isEmpty
  | _ => true

def typeName : Value → String
  | null => "NoneType"
  | bool _ => "bool"
  | int _ => "int"
  | float _ => "float"
  | decimal _ => "decimal.Decimal"
  | text _ => "str"
  | date _ => "datetime.date"
  | moment _ => "datetime.datetime"
  | list _ => "list"
  | tuple _ => "tuple"
  | set _ => "set"
  | dict _ => "dict"
  | record _ => "types.SimpleNamespace"
  | operator _ => "FilterOperator"
  | direction _ => "SortDirection"
  | version _ => "ODataVersion"

def shortTypeName : Value → String
  | decimal _ => "Decimal"
  | date _ => "date"
  | moment _ => "datetime"
  | record _ => "SimpleNamespace"
  | v => v.typeName

def find? (key : String) : List (String × Value) → Option Value
  | [] => none
  | (k, v) :: rest => if k = key then some v else find? key rest

def get (key : String) (entries : List (String × Value)) : Value := (find? key entries).getD null

def put (key : String) (value : Value) : List (String × Value) → List (String × Value)
  | [] => [(key, value)]
  | (k, v) :: rest => if k = key then (k, value) :: rest else (k, v) :: put key value rest

theorem findPut (key other : String) (value : Value) (entries : List (String × Value)) :
    find? other (put key value entries) =
      if key = other then some value else find? other entries := by
  induction entries with
  | nil => simp [put, find?]
  | cons e rest ih =>
    obtain ⟨k, v⟩ := e
    by_cases hk : k = key
    · subst hk; by_cases h : k = other <;> simp [put, find?, h]
    · by_cases h : k = other
      · subst h; simp [put, find?, hk, Ne.symm hk]
      · simp [put, find?, hk, h, ih]

end Value
end TableQuery
