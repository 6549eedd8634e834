import TableQuery.OData.Filter
import TableQuery.OData.Percent

/-! Addresses of a remote query.
A query is a list of named values: the filter, the order, the variables of the caller, then the page
and the request for a count. The same list is written raw, for display, or escaped, for the wire. -/
namespace TableQuery.OData
open TableQuery.Text

abbrev Pair := String × Value

def countKey : Version → String
  | .v3 => "odata.count"
  | .v4 => "@odata.count"

def countParam : Version → String × String
  | .v3 => ("$inlinecount", "allpages")
  | .v4 => ("$count", "true")

def declared? (item : Value) : Except Fault (Option Pair) :=
  match item with
  | .dict entries =>
    let name := Value.get "name" entries
    let value := Value.get "value" entries
    if name.truthy then do
      let name ← name.text?
      .ok (if value.isNull then none else some (name, value))
    else .ok none
  | _ => .ok none

def declaredPairs : List Value → Except Fault (List Pair)
  | [] => .ok []
  | item :: rest => do
    let first ← declared? item
    let others ← declaredPairs rest
    .ok (first.toList ++ others)

def declaredItems (r : Request) : List Value :=
  match Value.get "vars" (r.args.getD []) with
  | .list items => items
  | _ => []

def textPair (name : String) (text : Option String) : List Pair :=
  (text.map fun s => (name, Value.text s)).toList

def queryPairs (version : Version) (r : Request) : Except Fault (List Pair) := do
  let filter ← filterText version r
  let order ← orderText r
  let vars ← declaredPairs (declaredItems r)
  .ok (textPair "$filter" filter ++ textPair "$orderby" order ++ vars)

def pagePairs (version : Version) (r : Request) : List Pair :=
  let count : Pair := ((countParam version).1, .text (countParam version).2)
  match r.page, r.pageSize with
  | some page, some size => [("$top", .int size), ("$skip", .int (page * size : Nat)), count]
  | _, _ => [count]

def pairTexts : List Pair → Except Fault (List (String × String))
  | [] => .ok []
  | (name, value) :: rest => do
    let text ← value.text?
    let others ← pairTexts rest
    .ok ((name, text) :: others)

def rawJoin (pairs : List (String × String)) : String :=
  join "&" (pairs.map fun p => p.1 ++ "=" ++ p.2)

def wireJoin (pairs : List (String × String)) : String :=
  join "&" (pairs.map fun p => percentEncoded ['$'] p.1 ++ "=" ++ percentEncoded [] p.2)

def urls (version : Version) (url : String) (r : Request) : Except Fault UrlSet := do
  let query ← pairTexts (← queryPairs version r)
  let page ← pairTexts (pagePairs version r)
  let data := url ++ "?" ++ rawJoin query
  let link := if rawJoin query = "" then "" else "&"
  .ok ⟨data, data ++ link ++ rawJoin page⟩

def requestUrl (version : Version) (url : String) (r : Request) : Except Fault String := do
  let query ← queryPairs version r
  let pairs ← pairTexts (query ++ pagePairs version r)
  .ok (url ++ "?" ++ wireJoin pairs)

end TableQuery.OData
