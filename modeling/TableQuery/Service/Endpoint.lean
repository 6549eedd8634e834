import TableQuery.Text.Pieces

/-! Endpoints of the service, and the way from a path and a method to one of them. -/
namespace TableQuery.Service
open TableQuery.Text

inductive Document where
  | schema
  | explorer
  | explorerReturn
  | reference
  deriving DecidableEq, Repr

inductive Endpoint where
  | landing
  | health
  | sources
  | types
  | addresses
  | query (source : String)
  | document (d : Document)
  deriving DecidableEq, Repr

inductive Route where
  | endpoint (e : Endpoint)
  | otherMethod
  | otherEnding
  | nowhere
  deriving DecidableEq, Repr

namespace Endpoint

def methods : Endpoint → List String
  | addresses | query _ => ["POST"]
  | document _ => ["GET", "HEAD"]
  | landing | health | sources | types => ["GET"]

def ofSegments? : List String → Option Endpoint
  | ["", ""] => some landing
  | ["", "openapi.json"] => some (document .schema)
  | ["", "docs"] => some (document .explorer)
  | ["", "docs", "oauth2-redirect"] => some (document .explorerReturn)
  | ["", "redoc"] => some (document .reference)
  | ["", "health"] => some health
  | ["", "api", "grid", "sources"] => some sources
  | ["", "api", "grid", "types"] => some types
  | ["", "api", "grid", "odata", "url"] => some addresses
  | ["", "api", "grid", "sources", name, "query"] => if name = "" then none else some (query name)
  | _ => none

def withoutBreak (path : String) : String :=
  match path.toList.reverse with
  | '\n' :: rest => String.ofList rest.reverse
  | _ => path

def ofPath? (path : String) : Option Endpoint := ofSegments? (pieces '/' (withoutBreak path))

end Endpoint

def otherEnding (path : String) : String :=
  if path.toList.getLast? = some '/' then
    String.ofList (path.toList.reverse.dropWhile (· == '/')).reverse
  else path ++ "/"

def Route.of (method path : String) : Route :=
  match Endpoint.ofPath? path with
  | some e => if method ∈ e.methods then endpoint e else otherMethod
  | none => if path != "/" && (Endpoint.ofPath? (Service.otherEnding path)).isSome then otherEnding
    else nowhere

end TableQuery.Service
