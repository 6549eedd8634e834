import TableQuery.Value.Display

/-! Plain data: the values that JSON has a form for.
Numbers that are not finite become null, decimals, dates and words become text, and every list
becomes a list. Objects that are no mappings have no plain form. -/
namespace TableQuery

def Moment.plainText (m : Moment) : String :=
  if m.offset = some 0 then { m with zone := none }.toIso "T" ++ "Z" else m.toIso "T"

def Binary64.isFinite : Binary64 → Bool
  | finite .. => true
  | _ => false

namespace Value

mutual
def plain? : Value → Option Value
  | null => some null
  | bool b => some (bool b)
  | int n => some (int n)
  | float x => some (if x.isFinite then float x else null)
  | decimal d => some (text d.toText)
  | text s => some (text s)
  | date d => some (text d.toIso)
  | moment m => some (text m.plainText)
  | list items => (plainAll? items).map list
  | tuple items => (plainAll? items).map list
  | set members => (plainAll? members).map list
  | dict entries => (plainEntries? entries).map dict
  | record _ => none
  | operator op => some (text op.wire)
  | direction d => some (text d.wire)
  | version v => some (int v.number)

def plainAll? : List Value → Option (List Value)
  | [] => some []
  | v :: rest => do
    let first ← plain? v
    let others ← plainAll? rest
    some (first :: others)

def plainEntries? : List (String × Value) → Option (List (String × Value))
  | [] => some []
  | (key, v) :: rest => do
    let first ← plain? v
    let others ← plainEntries? rest
    some ((key, first) :: others)
end

mutual
def finite : Value → Bool
  | float x => x.isFinite
  | list items => allFinite items
  | tuple items => allFinite items
  | set members => allFinite members
  | dict entries => entriesFinite entries
  | record attributes => entriesFinite attributes
  | _ => true

def allFinite : List Value → Bool
  | [] => true
  | v :: rest => finite v && allFinite rest

def entriesFinite : List (String × Value) → Bool
  | [] => true
  | (_, v) :: rest => finite v && entriesFinite rest
end

end Value
end TableQuery
