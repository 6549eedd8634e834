import TableQuery.Value.Basic
import TableQuery.Text.Quoted
import TableQuery.Number.Shortest
import TableQuery.Calendar.Iso

/-! Texts of values.
`quoted` writes a value so that its type can be told; `display` writes it for reading, and differs
only on text, decimals, dates, moments and the words of the vocabulary. -/
namespace TableQuery
open TableQuery.Text

def durationText (microseconds : Int) : String :=
  let days := microseconds.fdiv dayLength
  let rest := (microseconds - days * dayLength).toNat
  let parts := [("days", days), ("seconds", ((rest / 1000000 : Nat) : Int)),
    ("microseconds", ((rest % 1000000 : Nat) : Int))]
  let shown := (parts.filter (·.2 != 0)).map fun p => p.1 ++ "=" ++ ofInt p.2
  "datetime.timedelta(" ++ (if shown.isEmpty then "0" else join ", " shown) ++ ")"

def Zone.quoted (z : Zone) : String :=
  match z.name with
  | some name => "datetime.timezone(" ++ durationText z.offset ++ ", " ++ Text.quoted name ++ ")"
  | none =>
    if z.offset = 0 then "datetime.timezone.utc"
    else "datetime.timezone(" ++ durationText z.offset ++ ")"

def Date.quoted (d : Date) : String :=
  "datetime.date(" ++ join ", " ([d.year, d.month, d.day].map ofNat) ++ ")"

def Moment.quoted (m : Moment) : String :=
  let t := m.time
  let fields := [m.date.year, m.date.month, m.date.day, t.hour, t.minute] ++
    (if t.second = 0 ∧ t.microsecond = 0 then [] else [t.second]) ++
    (if t.microsecond = 0 then [] else [t.microsecond])
  let zone := (m.zone.map fun z => "tzinfo=" ++ z.quoted).toList
  "datetime.datetime(" ++ join ", " (fields.map ofNat ++ zone) ++ ")"

namespace Value

def boolText (b : Bool) : String := if b then "True" else "False"

mutual
def quoted : Value → String
  | null => "None"
  | bool b => boolText b
  | int n => ofInt n
  | float x => x.toText
  | decimal d => "Decimal(" ++ Text.quoted d.toText ++ ")"
  | text s => Text.quoted s
  | date d => d.quoted
  | moment m => m.quoted
  | list items => "[" ++ join ", " (quotedAll items) ++ "]"
  | tuple items =>
    match quotedAll items with
    | [one] => "(" ++ one ++ ",)"
    | several => "(" ++ join ", " several ++ ")"
  | set members =>
    match quotedAll members with
    | [] => "set()"
    | several => "\x7b" ++ join ", " several ++ "\x7d"
  | dict entries => "\x7b" ++ join ", " (quotedEntries entries) ++ "\x7d"
  | record attributes => "namespace(" ++ join ", " (quotedAttributes attributes) ++ ")"
  | operator op => "<FilterOperator." ++ op.label ++ ": " ++ Text.quoted op.wire ++ ">"
  | direction d => "<SortDirection." ++ d.label ++ ": " ++ Text.quoted d.wire ++ ">"
  | version v => "<ODataVersion." ++ v.label ++ ": " ++ ofNat v.number ++ ">"

def quotedAll : List Value → List String
  | [] => []
  | v :: rest => quoted v :: quotedAll rest

def quotedEntries : List (String × Value) → List String
  | [] => []
  | (key, v) :: rest => (Text.quoted key ++ ": " ++ quoted v) :: quotedEntries rest

def quotedAttributes : List (String × Value) → List String
  | [] => []
  | (key, v) :: rest => (key ++ "=" ++ quoted v) :: quotedAttributes rest
end

def display : Value → String
  | text s => s
  | decimal d => d.toText
  | date d => d.toIso
  | moment m => m.toIso " "
  | operator op => "FilterOperator." ++ op.label
  | direction d => "SortDirection." ++ d.label
  | version v => ofNat v.number
  | v => quoted v

mutual
def hasLongInteger : Value → Bool
  | int n => tooManyDigits n
  | list items => anyLongInteger items
  | tuple items => anyLongInteger items
  | set members => anyLongInteger members
  | dict entries => anyLongEntry entries
  | record attributes => anyLongEntry attributes
  | _ => false

def anyLongInteger : List Value → Bool
  | [] => false
  | v :: rest => hasLongInteger v || anyLongInteger rest

def anyLongEntry : List (String × Value) → Bool
  | [] => false
  | (_, v) :: rest => hasLongInteger v || anyLongEntry rest
end

end Value
end TableQuery
