import TableQuery.Request.Basic
import TableQuery.Text.Pieces

/-! Literals of the remote query language.
Numbers and truth values stand bare, dates in the form of the protocol version, and everything else
between quotes, where a quote is written twice. -/
namespace TableQuery.OData
open TableQuery.Text

def clockText (m : Moment) : String :=
  ofNat m.date.year ++ "-" ++ ofNatPadded 2 m.date.month ++ "-" ++
    ofNatPadded 2 m.date.day ++ "T" ++ ofNatPadded 2 m.time.hour ++ ":" ++ ofNatPadded 2 m.time.minute ++ ":" ++
    ofNatPadded 2 m.time.second

/-- A moment's literal. The offset is not told, and the last letter of version 4 computes none. -/
def momentLiteral (version : Version) (m : Moment) : String :=
  match version with
  | .v3 => "DateTime'" ++ clockText m ++ "'"
  | .v4 => clockText m ++ "z"

def doubled (cs : List Char) : List Char := substitute '\'' ['\'', '\''] cs

def undoubled? : List Char → Option (List Char)
  | [] => some []
  | '\'' :: '\'' :: rest => (undoubled? rest).map ('\'' :: ·)
  | c :: rest => if c = '\'' then none else (undoubled? rest).map (c :: ·)

theorem undoubledDoubled (cs : List Char) : undoubled? (doubled cs) = some cs := by
  induction cs with
  | nil => rfl
  | cons c cs ih =>
    have step : doubled (c :: cs) = (if c = '\'' then ['\'', '\''] else [c]) ++ doubled cs := by
      simp [doubled, substitute]
    rw [step]
    by_cases h : c = '\''
    · simp [h, undoubled?, ih]
    · simp only [h, if_false, List.cons_append, List.nil_append]
      rw [undoubled?]
      · simp [h, ih]
      · intro rest same _; exact h same

def textLiteral (s : String) : String :=
  String.ofList ('\'' :: doubled s.toList ++ ['\''])

def numberText? (v : Value) : Except Fault String :=
  match v with
  | .float x =>
    match x.toInt? with
    | some n => .ok (ofInt n)
    | none => .ok x.toText
  | v => v.text?

def numberSuffix (info : Option FieldInfo) : String :=
  if info.bind (·.dataType) = some "decimal" then "m" else ""

def literal (version : Version) (info : Option FieldInfo) (v : Value) : Except Fault String :=
  match v with
  | .moment m => .ok (momentLiteral version m)
  | .date d => .ok (momentLiteral version (.ofDate d))
  | .bool b => .ok (if b then "true" else "false")
  | v =>
    if v.extent?.isSome then do
      let text ← numberText? v
      .ok (text ++ numberSuffix info)
    else do
      let text ← v.text?
      .ok (textLiteral text)

end TableQuery.OData
