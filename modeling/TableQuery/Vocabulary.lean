/-! The fixed words of requests: filter operators, sort directions, and protocol versions. -/
namespace TableQuery

inductive Operator where
  | equals
  | notEquals
  | greaterThan
  | greaterOrEqual
  | lowerThan
  | lowerOrEqual
  | within
  | contains
  | startsWith
  | endsWith
  deriving DecidableEq, Repr

inductive Direction where
  | ascending
  | descending
  deriving DecidableEq, Repr

inductive Version where
  | v3
  | v4
  deriving DecidableEq, Repr

namespace Operator

def all : List Operator :=
  [equals, notEquals, greaterThan, greaterOrEqual, lowerThan, lowerOrEqual, within, contains,
   startsWith, endsWith]

theorem memAll (op : Operator) : op ∈ all := by cases op <;> decide

def wire : Operator → String
  | equals => "eq"
  | notEquals => "neq"
  | greaterThan => "gt"
  | greaterOrEqual => "gte"
  | lowerThan => "lt"
  | lowerOrEqual => "lte"
  | within => "in"
  | contains => "contains"
  | startsWith => "startsWith"
  | endsWith => "endsWith"

def ofWire? (s : String) : Option Operator := all.find? (·.wire == s)

theorem ofOwnWire (op : Operator) : ofWire? op.wire = some op := by cases op <;> decide

def label : Operator → String
  | equals => "EQUALS"
  | notEquals => "NOT_EQUALS"
  | greaterThan => "GREATER_THAN"
  | greaterOrEqual => "GREATER_OR_EQUAL"
  | lowerThan => "LOWER_THAN"
  | lowerOrEqual => "LOWER_OR_EQUAL"
  | within => "IN"
  | contains => "CONTAINS"
  | startsWith => "STARTS_WITH"
  | endsWith => "ENDS_WITH"

end Operator

namespace Direction

def all : List Direction := [ascending, descending]

def wire : Direction → String
  | ascending => "asc"
  | descending => "desc"

def ofWire? (s : String) : Option Direction := all.find? (·.wire == s)

theorem ofOwnWire (d : Direction) : ofWire? d.wire = some d := by cases d <;> decide

def label : Direction → String
  | ascending => "ASC"
  | descending => "DESC"

end Direction

namespace Version

def all : List Version := [v3, v4]

def number : Version → Nat
  | v3 => 3
  | v4 => 4

def ofNumber? (n : Int) : Option Version := all.find? fun v => (v.number : Int) == n

theorem ofOwnNumber (v : Version) : ofNumber? v.number = some v := by cases v <;> decide

def label : Version → String
  | v3 => "V3"
  | v4 => "V4"

end Version
end TableQuery
