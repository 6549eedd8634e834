import TableQuery.Display.Types
import TableQuery.Json.Plain
import TableQuery.Service.Endpoint
import TableQuery.Service.Message
import TableQuery.Threshold

/-! Answers of the endpoints.
Faults of a remote service are answered with 502, faults of the request with 400, and all others
with 500, without telling what happened. -/
namespace TableQuery.Service
open TableQuery.Text Validation

structure Server where
  framework : Framework
  settings : Settings
  sources : SourceRegistry (List Value)
  types : Display.TypeRegistry
  threshold : Nat

def Server.start (framework : Framework) (settings : Settings)
    (sources : SourceRegistry (List Value)) : Except Fault Server := do
  let threshold ← Threshold.ofValue settings .null
  .ok { framework, settings, sources, types := .standard settings, threshold }

def Server.ofSources (sources : SourceRegistry (List Value)) : Server where
  framework := ⟨false, true⟩
  settings := .default
  sources
  types := .standard .default
  threshold := Threshold.usual

/-- What answering gives. There is no response where the service itself breaks down. -/
structure Answer where
  response : Option Response
  trail : Trail
  urls : List String
  log : List LogEntry
  deriving Repr

namespace Answer

def only (r : Response) : Answer := ⟨some r, .none, [], []⟩

def breakdown : Answer := ⟨none, .none, [], []⟩

end Answer

def failedEntry (f : Fault) : LogEntry := ⟨.error, .api, "grid_query_failed error=" ++ f.quoted⟩

def faultResponse (f : Fault) : Response × List LogEntry :=
  match f.kind.family with
  | .gateway => (.detail 502 f.message, [])
  | .request => (.detail 400 f.message, [])
  | .unexpected => (.detail 500 "Grid query failed", [failedEntry f])

def refused (is : List Issue) : Answer := .only ⟨422, .issues is⟩

/-- The refusal of a body tells what was found at each issue, and so breaks down where that cannot be
written: octets that are no text, and numbers that are not finite. -/
def withBody (body : Body) (read : Value → Checked α) (answer : α → Answer) : Answer :=
  match body with
  | .absent => refused [⟨[.key "body"], .missing⟩]
  | .octets utf8 => if utf8 then refused [⟨[.key "body"], .attributesExpected⟩] else .breakdown
  | .malformed position => refused [⟨[.key "body", .index position], .badJson⟩]
  | .undecodable => .only (.detail 400 "There was an error parsing the body")
  | .value v =>
    match (read v).under (.key "body") with
    | .valid a => answer a
    | .invalid is =>
      if is.all fun i => (reached i.path (.dict [("body", v)])).finite then refused is
      else .breakdown

def answerAddresses (r : UrlRequest) : Answer :=
  match OData.urls r.version r.url r.request with
  | .ok urls => .only (.ok (urls.toValue .wire))
  | .error f => if f.kind.isOwn then .only (faultResponse f).1 else .breakdown

/-- The count that a remote service gave is too long to be told. Rows in memory are never that many. -/
def countUntold : Source (List Value) → Page → Bool
  | .remote _, page => tooManyDigits page.total
  | _, _ => false

def Framework.written? (fw : Framework) (source : Source (List Value)) (page : Page) : Option Value :=
  if countUntold source page || (!fw.longIntegers && Value.anyLongInteger page.items) then none
  else page.toValue.plain?

def answerFetched (trail : Trail) (written? : Page → Option Value) (fetched : Fetched) : Answer :=
  match fetched.reply with
  | .error _ => { Answer.breakdown with urls := fetched.urls, log := fetched.log }
  | .ok (.error f) =>
    let (response, entries) := faultResponse f
    ⟨some response, { trail with error := some f.kind.name }, fetched.urls, fetched.log ++ entries⟩
  | .ok (.ok page) =>
    ⟨(written? page).map .ok, { trail with total := some page.total }, fetched.urls,
      fetched.log⟩

def Server.answerQuery (s : Server) (name : String) (r : Request) : Answer :=
  match s.sources.find? (trimmed name) with
  | none =>
    { Answer.only (.detail 404 ("Unknown grid source \"" ++ name ++ "\"")) with
      trail := { Trail.none with source := some name } }
  | some source =>
    let (_, fetched) := (Load.start source.kind).fetch (source.resolve id r)
    answerFetched { Trail.none with source := some name, kind := some source.kind }
      (s.framework.written? source) fetched

def status : String × Value := ("status", .text "ok")

def Server.answer (s : Server) (body : Body) : Endpoint → Answer
  | .landing => .only (.ok (.dict [("service", .text s.settings.name), status]))
  | .health => .only (.ok (.dict [status]))
  | .sources => .only (.ok (.list (s.sources.describe.map SourceInfo.toValue)))
  | .types => .only (.ok (.list (s.types.describe.map FieldTypeInfo.toValue)))
  | .addresses => withBody body (UrlRequest.read .attributesExpected) answerAddresses
  | .query name => withBody body (Request.read .attributesExpected) (s.answerQuery name)
  | .document d => .only ⟨200, .document d⟩

def Server.along (s : Server) (body : Body) : Route → Answer
  | .endpoint e => s.answer body e
  | .otherMethod => .only (.detail 405 "Method Not Allowed")
  | .otherEnding => .only ⟨307, .plain ""⟩
  | .nowhere => .only (.detail 404 "Not Found")

end TableQuery.Service
