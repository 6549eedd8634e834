import TableQuery.Request.Schema
import TableQuery.Service.Endpoint
import TableQuery.Service.Target
import TableQuery.Log

/-! Messages: what a client sends, what it gets back, and what the log tells of it. -/
namespace TableQuery.Service
open TableQuery.Text Validation

structure Incoming where
  method : String
  target : String
  headers : List (String × String)
  body : List Nat
  deriving Repr

def Incoming.header? (i : Incoming) (name : String) : Option String :=
  (i.headers.find? fun h => lower h.1 == lower name).map (·.2)

/-- Where releases of the framework differ: whether a body without a content type is taken for JSON,
and whether an answer may hold integers of any length. -/
structure Framework where
  untypedJson : Bool
  longIntegers : Bool
  deriving Repr

inductive Body where
  | absent
  | octets (utf8 : Bool)
  | undecodable
  | malformed (position : Nat)
  | value (v : Value)
  deriving Repr

def isJsonType (contentType : String) : Bool :=
  let bare := String.ofList (contentType.toList.takeWhile (· != ';'))
  match pieces '/' (lower (trimmed bare)) with
  | [main, sub] => main == "application" && (sub == "json" || endsWith sub.toList "+json".toList)
  | _ => false

def Framework.takesForJson (fw : Framework) : Option String → Bool
  | none => fw.untypedJson
  | some contentType => if contentType = "" then fw.untypedJson else isJsonType contentType

def Body.ofOctets (octets : List Nat) : Body :=
  match Json.ofOctets? octets with
  | none => undecodable
  | some cs =>
    match Json.read cs with
    | .ok v => value v
    | .error (.malformed position) => malformed position
    | .error .longInteger => undecodable

def Framework.bodyOf (fw : Framework) (i : Incoming) : Body :=
  if i.body.isEmpty then .absent
  else if fw.takesForJson (i.header? "Content-Type") then .ofOctets i.body
  else .octets (Json.isUtf8 i.body)

inductive Content where
  | json (v : Value)
  | issues (is : List Issue)
  | document (d : Document)
  | plain (text : String)
  deriving Repr

structure Response where
  status : Nat
  content : Content
  deriving Repr

def Response.detail (status : Nat) (why : String) : Response :=
  ⟨status, .json (.dict [("detail", .text why)])⟩

def Response.ok (v : Value) : Response := ⟨200, .json v⟩

def isIdentityChar (c : Char) : Bool := c.isAlphanum || c == '.' || c == '_' || c == '-'

def isIdentity (s : String) : Bool :=
  1 ≤ s.length && s.length ≤ 128 && s.toList.all isIdentityChar

def identity (fresh : String) (given : Option String) : String :=
  let s := trimmed (given.getD "")
  if isIdentity s then s else fresh

structure Trail where
  source : Option String
  kind : Option String
  total : Option Nat
  error : Option String
  deriving DecidableEq, Repr

def Trail.none : Trail := ⟨.none, .none, .none, .none⟩

def Trail.text (t : Trail) : String :=
  let part (name : String) (value : Option String) := (value.map fun v => name ++ "=" ++ v).toList
  let parts := part "source" t.source ++ part "kind" t.kind ++
    part "total" (t.total.map ofNat) ++ part "error" t.error
  if parts.isEmpty then "" else " " ++ join " " parts

structure Access where
  method : String
  path : String
  status : Nat
  identity : String
  trail : Trail
  deriving DecidableEq, Repr

def Access.entry (a : Access) : LogEntry :=
  ⟨.info, .http, a.method ++ " " ++ loggedPath a.path ++ " status=" ++ ofNat a.status ++
    " request_id=" ++ a.identity ++ a.trail.text⟩

end TableQuery.Service
