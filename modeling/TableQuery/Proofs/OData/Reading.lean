import TableQuery.OData.Filter
import TableQuery.Proofs.OData.LiteralForm

/-! A reader of filters in the remote query language.
A text is read into its groups, each the list of its fragments. A name or a bare literal ends at a
mark, a quoted literal at a quote that stands alone. Groups are told from alternatives by what
follows the first closed bracket. -/
namespace TableQuery.OData
open TableQuery.Text

structure Fragment where
  operator : Operator
  field : String
  literals : List String
  deriving DecidableEq, Repr

abbrev Reader (α : Type) := List Char → Option (α × List Char)

def readBare (cs : List Char) : List Char × List Char :=
  (cs.takeWhile (!isMark ·), cs.dropWhile (!isMark ·))

def expect? (word : String) (cs : List Char) : Option (List Char) := word.toList.isPrefixOf? cs

def readQuoted : Reader (List Char)
  | [] => none
  | '\'' :: '\'' :: rest => (readQuoted rest).map fun p => ('\'' :: '\'' :: p.1, p.2)
  | c :: rest =>
    if c = '\'' then some (['\''], rest)
    else (readQuoted rest).map fun p => (c :: p.1, p.2)

def readLiteral : Reader String
  | '\'' :: rest => (readQuoted rest).map fun p => (String.ofList ('\'' :: p.1), p.2)
  | cs => some (String.ofList (readBare cs).1, (readBare cs).2)

def tokenOperator? (token : List Char) : Option Operator :=
  if token = "eq".toList then some .equals
  else if token = "gt".toList then some .greaterThan
  else if token = "ge".toList then some .greaterOrEqual
  else if token = "lt".toList then some .lowerThan
  else if token = "le".toList then some .lowerOrEqual
  else none

def readComparison : Reader Fragment := fun cs => do
  let (name, rest) := readBare cs
  let rest ← expect? " " rest
  let (token, rest) := readBare rest
  let op ← tokenOperator? token
  let rest ← expect? " " rest
  let (literal, rest) ← readLiteral rest
  some (⟨op, String.ofList name, [literal]⟩, rest)

def inBrackets (item : Reader α) : Reader α := fun cs => do
  let rest ← expect? "(" cs
  let (x, rest) ← item rest
  let rest ← expect? ")" rest
  some (x, rest)

/- The bound counts items. A text has room for no more items than it has separators, and one. -/
def separated (separator : String) (item : Reader α) : Nat → Reader (List α)
  | 0, _ => none
  | bound + 1, cs => do
    let (x, rest) ← item cs
    match expect? separator rest with
    | none => some ([x], rest)
    | some rest => do
      let (xs, rest) ← separated separator item bound rest
      some (x :: xs, rest)

def chain (separator : String) (item : Reader α) : Reader (List α) := fun cs =>
  separated separator item (cs.length + 1) cs

def membership? : List Fragment → Option Fragment
  | [] => none
  | first :: rest =>
    if (first :: rest).all fun f => f.operator == .equals && f.field == first.field then
      some ⟨.within, first.field, (first :: rest).flatMap (·.literals)⟩
    else none

def readMembers : Reader (List Fragment) := fun cs =>
  match cs with
  | '(' :: '(' :: _ => inBrackets (chain " or " (inBrackets readComparison)) cs
  | _ => (inBrackets readComparison cs).map fun p => ([p.1], p.2)

def readMembership : Reader Fragment := fun cs => do
  let (members, rest) ← readMembers cs
  let f ← membership? members
  some (f, rest)

def readNegated : Reader Fragment := fun cs => do
  let (f, rest) ← readComparison cs
  if f.operator = .equals then some ({ f with operator := .notEquals }, rest) else none

def readFieldFirst (op : Operator) : Reader Fragment := fun cs => do
  let (name, rest) := readBare cs
  let rest ← expect? ", " rest
  let (literal, rest) ← readLiteral rest
  some (⟨op, String.ofList name, [literal]⟩, rest)

def readLiteralFirst (op : Operator) : Reader Fragment := fun cs => do
  let (literal, rest) ← readLiteral cs
  let rest ← expect? ", " rest
  let (name, rest) := readBare rest
  some (⟨op, String.ofList name, [literal]⟩, rest)

def callReader? (version : Version) (name : List Char) : Option (Reader Fragment) :=
  if name = "not".toList then some readNegated
  else if name = "startswith".toList then some (readFieldFirst .startsWith)
  else if name = "endswith".toList then some (readFieldFirst .endsWith)
  else match version with
    | .v3 => if name = "substringof".toList then some (readLiteralFirst .contains) else none
    | .v4 => if name = "contains".toList then some (readFieldFirst .contains) else none

def readCall (version : Version) : Reader Fragment := fun cs => do
  let (name, rest) := readBare cs
  let body ← callReader? version name
  inBrackets body rest

def readFragment (version : Version) : Reader Fragment := fun cs =>
  match cs with
  | '(' :: _ => readMembership cs
  | _ =>
    match (readBare cs).2 with
    | '(' :: _ => readCall version cs
    | _ => readComparison cs

def readGroup (version : Version) : Reader (List Fragment) := chain " or " (readFragment version)

/- What follows the bracket that closes the innermost of `depth` open ones. Brackets between quotes
do not count, and a doubled quote closes and opens. -/
def beyondBracket : Nat → Bool → List Char → List Char
  | _, _, [] => []
  | depth, true, c :: cs => beyondBracket depth (c != '\'') cs
  | depth, false, c :: cs =>
    if c = '\'' then beyondBracket depth true cs
    else if c = '(' then beyondBracket (depth + 1) false cs
    else if c = ')' then if depth ≤ 1 then cs else beyondBracket (depth - 1) false cs
    else beyondBracket depth false cs

def severalGroups (cs : List Char) : Bool :=
  match cs with
  | '(' :: rest => (expect? " and " (beyondBracket 1 false rest)).isSome
  | _ => false

def readGroups (version : Version) : Reader (List (List Fragment)) := fun cs =>
  if severalGroups cs then chain " and " (inBrackets (readGroup version)) cs
  else (readGroup version cs).map fun p => ([p.1], p.2)

def readFilter? (version : Version) : Option String → Option (List (List Fragment))
  | none => some []
  | some text =>
    match readGroups version text.toList with
    | some (groups, []) => some groups
    | _ => none

end TableQuery.OData
