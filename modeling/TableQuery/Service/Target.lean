import TableQuery.Text.Octets
import TableQuery.Text.Pieces
import TableQuery.Json.Octets

/-! Request targets: which path a request asks for.
A target loses its scheme, its host, its query and its fragment; then segments that are dots are
worked off, and escapes are undone. -/
namespace TableQuery.Service
open TableQuery.Text

def isSchemeChar (c : Char) : Bool := c.isAlphanum || c == '+' || c == '-' || c == '.'

def afterScheme (cs : List Char) : List Char :=
  match cs.takeWhile isSchemeChar, cs.dropWhile isSchemeChar with
  | c :: _, ':' :: rest => if c.isAlpha then rest else cs
  | _, _ => cs

def afterHost : List Char → List Char
  | '/' :: '/' :: rest => rest.dropWhile (· != '/')
  | cs => cs

def follow (path : List String) (segment : String) : List String :=
  if segment = "." then path
  else if segment = ".." then if path = [""] then path else path.tail
  else segment :: path

def settled (path : String) : String :=
  let text := join "/" ((pieces '/' path).foldl follow []).reverse
  if text = "" then "/" else text

def unescaped : List Nat → List Nat
  | 0x25 :: a :: b :: rest =>
    match Json.hexValue? (Char.ofNat a), Json.hexValue? (Char.ofNat b) with
    | some high, some low => (high * 16 + low) :: unescaped rest
    | _, _ => 0x25 :: unescaped (a :: b :: rest)
  | o :: rest => o :: unescaped rest
  | [] => []

def writtenPath (target : String) : String :=
  let cs := (target.toList.takeWhile (· != '#')).takeWhile (· != '?')
  settled (String.ofList ('/' :: (afterHost (afterScheme cs)).dropWhile (· == '/')))

def pathOf (target : String) : String :=
  String.ofList (charsOf (unescaped (Json.octetsOf (writtenPath target))))

/-- A path as the log tells it: on one line, and only as far as it could be written in a target. -/
def loggedPath (path : String) : String :=
  let cs := path.toList.takeWhile fun c => c != '?' && c != '#'
  String.ofList (cs.filter fun c => c != '\t' && c != '\r' && c != '\n')

end TableQuery.Service
