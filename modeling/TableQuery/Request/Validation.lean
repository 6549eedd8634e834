import TableQuery.Value.Words

/-! Validation: reading typed fields out of values.
A reader gives its result or every issue that it found, each with the way to the value it is about.
Integers are also read from integral numbers and from their text; text and lists only from text and
lists. -/
namespace TableQuery.Validation
open TableQuery.Text

inductive Step where
  | key (name : String)
  | index (i : Nat)
  deriving DecidableEq, Repr

inductive IssueKind where
  | missing
  | textExpected
  | intExpected
  | intText
  | intTextSize
  | intFraction
  | finiteExpected
  | above
  | atLeast
  | listExpected
  | mappingExpected
  | objectExpected
  | attributesExpected
  | memberExpected
  | floatExpected
  | floatText
  | boolExpected
  | boolText
  | badJson
  deriving DecidableEq, Repr

def IssueKind.name : IssueKind → String
  | missing => "missing"
  | textExpected => "string_type"
  | intExpected => "int_type"
  | intText => "int_parsing"
  | intTextSize => "int_parsing_size"
  | intFraction => "int_from_float"
  | finiteExpected => "finite_number"
  | above => "greater_than"
  | atLeast => "greater_than_equal"
  | listExpected => "list_type"
  | mappingExpected => "dict_type"
  | objectExpected => "model_type"
  | attributesExpected => "model_attributes_type"
  | memberExpected => "enum"
  | floatExpected => "float_type"
  | floatText => "float_parsing"
  | boolExpected => "bool_type"
  | boolText => "bool_parsing"
  | badJson => "json_invalid"

structure Issue where
  path : List Step
  kind : IssueKind
  deriving DecidableEq, Repr

/-- What stands at the end of a path, or as far along it as the value goes. -/
def reached : List Step → Value → Value
  | .key name :: path, .dict entries =>
    match Value.find? name entries with
    | some v => reached path v
    | none => .dict entries
  | .index i :: path, .list items =>
    match items[i]? with
    | some v => reached path v
    | none => .list items
  | _, v => v

inductive Checked (α : Type) where
  | valid (a : α)
  | invalid (issues : List Issue)
  deriving Repr

namespace Checked

def fail (kind : IssueKind) : Checked α := invalid [⟨[], kind⟩]

def map (f : α → β) : Checked α → Checked β
  | valid a => valid (f a)
  | invalid issues => invalid issues

def and (f : Checked (α → β)) (a : Checked α) : Checked β :=
  match f, a with
  | valid f, valid a => valid (f a)
  | valid _, invalid issues => invalid issues
  | invalid issues, valid _ => invalid issues
  | invalid issues, invalid more => invalid (issues ++ more)

def andThen (a : Checked α) (f : α → Checked β) : Checked β :=
  match a with
  | valid a => f a
  | invalid issues => invalid issues

def under (step : Step) : Checked α → Checked α
  | valid a => valid a
  | invalid issues => invalid (issues.map fun i => { i with path := step :: i.path })

def get? : Checked α → Option α
  | valid a => some a
  | invalid _ => none

end Checked

open Checked

def plainInteger? (cs : List Char) : Option (Bool × List Nat) :=
  let (negative, body) := match cs with
    | '-' :: rest => (true, rest)
    | cs => (false, cs)
  match body.mapM asciiDigit? with
  | some [] => none
  | some (0 :: _ :: _) => none
  | some ds => some (negative, ds)
  | none => none

def dropPlus? : List Char → Option (List Char)
  | '+' :: '-' :: _ => none
  | '+' :: rest => some rest
  | cs => some cs

/-- What follows zeros and underscores: the rest of the number, with the last of them where no other
digit comes next. -/
def afterZeros? (last : Char) : List Char → Option (List Char)
  | [] => some [last]
  | c :: rest =>
    if c = '0' ∨ c = '_' then afterZeros? c rest
    else if c = '.' then some (last :: c :: rest)
    else if (asciiDigit? c).isSome then some (c :: rest)
    else none

def dropZeros? : List Char → Option (List Char)
  | '0' :: rest => afterZeros? '0' rest
  | c :: rest => if c = '-' ∨ (asciiDigit? c).isSome then some (c :: rest) else none
  | [] => none

def dropZeroFraction (cs : List Char) : List Char :=
  let fraction := cs.dropWhile (· != '.')
  if fraction.drop 1 |>.all (· == '0') then cs.takeWhile (· != '.') else cs

def dropUnderscores (cs : List Char) : List Char :=
  if cs.head? = some '_' ∨ cs.getLast? = some '_' ∨ occursIn ['_', '_'] cs then cs
  else cs.filter (· != '_')

/-- An integer's text in plain form: without white space at its ends, a plus sign, zeros in front, a
fraction of zeros, and underscores. -/
def cleanInteger? (cs : List Char) : Option (List Char) := do
  let cs ← dropPlus? (trimWhere isWhite cs)
  let cs ← dropZeros? cs
  some (dropUnderscores (dropZeroFraction cs))

def intOfText (s : String) : Checked Int :=
  match plainInteger? s.toList with
  | some (negative, ds) =>
    if ds.length ≤ digitLimit then valid (withSign negative (ofDigits ds)) else fail .intTextSize
  | none =>
    match (cleanInteger? s.toList).bind plainInteger? with
    | some (negative, ds) =>
      if ds.length ≤ digitLimit then valid (withSign negative (ofDigits ds)) else fail .intText
    | none => fail .intText

def intOfFloat (x : Binary64) : Checked Int :=
  match x.toInt?, x with
  | some n, _ => if n.natAbs < Number.twoTo 63 then valid n else fail .intTextSize
  | none, .finite .. => fail .intFraction
  | none, _ => fail .finiteExpected

def intOfDecimal (d : Decimal) : Checked Int :=
  match d.toInt?, d with
  | some n, _ => valid n
  | none, .finite .. => fail .intFraction
  | none, _ => fail .finiteExpected

def int (v : Value) : Checked Int :=
  match v with
  | .float x => intOfFloat x
  | .decimal d => intOfDecimal d
  | v =>
    match v.asInt?, v.asText? with
    | some n, _ => valid n
    | none, some s => intOfText s
    | none, none => fail .intExpected

def natural (least : Nat) (kind : IssueKind) (v : Value) : Checked Nat :=
  (int v).andThen fun n => if (least : Int) ≤ n then valid n.toNat else fail kind

def text (v : Value) : Checked String :=
  match v.asText? with
  | some s => valid s
  | none => fail .textExpected

def anything (v : Value) : Checked Value := valid v

def optional (read : Value → Checked α) (v : Value) : Checked (Option α) :=
  match v with
  | .null => valid none
  | v => (read v).map some

def mapping (v : Value) : Checked (List (String × Value)) :=
  match v with
  | .dict entries => valid entries
  | _ => fail .mappingExpected

def float (v : Value) : Checked Binary64 :=
  match v with
  | .float x => valid x
  | .decimal d =>
    match Binary64.ofText? d.toText with
    | some x => valid x
    | none => fail .floatText
  | v =>
    match v.asInt?, v.asText? with
    | some n, _ =>
      match Binary64.ofInt? n with
      | some x => valid x
      | none => fail .floatExpected
    | none, some s =>
      match Binary64.ofText? (String.ofList (dropUnderscores (trimWhere isWhite s.toList))) with
      | some x => valid x
      | none => fail .floatText
    | none, none => fail .floatExpected

def trueWords : List String := ["1", "on", "t", "true", "y", "yes"]
def falseWords : List String := ["0", "off", "f", "false", "n", "no"]

def boolOfWord (s : String) : Checked Bool :=
  if trueWords.contains (lower s) then valid true
  else if falseWords.contains (lower s) then valid false
  else fail .boolText

def boolOfInt (n : Int) : Checked Bool :=
  if n = 1 then valid true else if n = 0 then valid false else fail .boolText

def boolOfFloat (x : Binary64) : Checked Bool :=
  match intOfFloat x with
  | valid n => boolOfInt n
  | invalid _ => fail .boolExpected

def bool (v : Value) : Checked Bool :=
  match v with
  | .float x => boolOfFloat x
  | .decimal d => boolOfFloat ((Binary64.ofText? d.toText).getD .nan)
  | v =>
    match v.asInt?, v.asText? with
    | some n, _ => boolOfFloat (Binary64.ofRatio (n < 0) n.natAbs 1)
    | none, some s => boolOfWord s
    | none, none => fail .boolExpected

def members (read : Value → Checked α) (i : Nat) : List Value → Checked (List α)
  | [] => valid []
  | v :: rest => ((under (.index i) (read v)).map (· :: ·)).and (members read (i + 1) rest)

def list (read : Value → Checked α) (v : Value) : Checked (List α) :=
  match v.members? with
  | some vs => members read 0 vs
  | none => fail .listExpected

structure FieldName where
  alias_ : String
  plain : String
  deriving DecidableEq, Repr

def FieldName.single (name : String) : FieldName := ⟨name, name⟩

def given? (name : FieldName) (entries : List (String × Value)) : Option (String × Value) :=
  match Value.find? name.alias_ entries, Value.find? name.plain entries with
  | some v, _ => some (name.alias_, v)
  | none, some v => some (name.plain, v)
  | none, none => none

def given (name : FieldName) (absent : α) (read : Value → Checked α)
    (entries : List (String × Value)) : Checked α :=
  match given? name entries with
  | some (key, v) => under (.key key) (read v)
  | none => valid absent

def required (name : FieldName) (read : Value → Checked α) (entries : List (String × Value)) :
    Checked α :=
  match given? name entries with
  | some (key, v) => under (.key key) (read v)
  | none => under (.key name.alias_) (fail .missing)

def object (otherwise : IssueKind) (read : List (String × Value) → Checked α) (v : Value) :
    Checked α :=
  match v with
  | .dict entries => read entries
  | _ => fail otherwise

end TableQuery.Validation
