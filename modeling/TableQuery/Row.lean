import TableQuery.Value.Basic

/-! Fields of rows. A row is a mapping or a plain object; a field that it does not have is null.
No other value is a row, and none has fields: what a date or a number has of its own is not read. -/
namespace TableQuery.Value

def fieldOf (row : Value) (name : String) : Value :=
  match row with
  | dict entries => get name entries
  | record attributes => get name attributes
  | _ => null

end TableQuery.Value
