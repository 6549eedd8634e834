import TableQuery.Query
import TableQuery.OData.Response
import TableQuery.Load
import TableQuery.Exchange

/-! Sources of rows: nothing, rows in memory, or a remote service.
Rows in memory are given by a reference of any type, so that a source can stand for a list that
changes; they are looked up when a load is fetched. -/
namespace TableQuery
open TableQuery.Text

structure RemoteSource where
  url : String
  version : Version
  countFallback : Bool
  transport : Transport

inductive Source (ρ : Type) where
  | empty
  | rows (reference : ρ)
  | remote (r : RemoteSource)

/-- The version that the options of a source name: a version, its number, or one of three words, of
which the shortest stands for the default. -/
def Version.ofOptions? (defaultVersion options : Value) : Except Fault (Option Version) :=
  match options with
  | .version v => .ok (some v)
  | .int n => .ok (ofNumber? n)
  | options =>
    match options.asText?.map fun s => lower (trimmed s) with
    | some "odata" => do
      match ← equalTo? defaultVersion with
      | some v => .ok (some v)
      | none => .error (.about .unsupportedDefault defaultVersion)
    | some "odata3" => .ok (some .v3)
    | some "odata4" => .ok (some .v4)
    | _ => .ok none

namespace Source

def kind : Source ρ → String
  | empty => "empty"
  | rows _ => "array"
  | remote _ => "odata"

def ofValue (settings : Settings) (connection : Connection) (source options : Value) :
    Except Fault (Source (List Value)) :=
  match source, source.asText? with
  | .null, _ => .ok empty
  | .list items, _ => .ok (rows items)
  | .tuple items, _ => .ok (rows items)
  | _, some url => do
    match ← Version.ofOptions? (.int settings.defaultVersion) options with
    | none => .error (.about .unsupportedOptions options)
    | some version =>
      .ok (remote
        { url, version, countFallback := settings.countFallback
          transport := connection.transport settings })
  | _, none => .error (.unsupportedSource source)

def map (f : ρ → σ) : Source ρ → Source σ
  | empty => empty
  | rows r => rows (f r)
  | remote r => remote r

end Source

def RemoteSource.loadEntry (s : RemoteSource) (url : String) : LogEntry :=
  ⟨.debug, .source, "odata_load version=" ++ ofNat s.version.number ++ " url=" ++ url⟩

def RemoteSource.resolution (s : RemoteSource) (url : String) (answer : Except Fault Value) :
    Resolution :=
  let entry := s.loadEntry url
  match answer with
  | .error f => ⟨.error f.escaped, [url], [entry]⟩
  | .ok payload =>
    match OData.page s.version s.countFallback payload with
    | .error f => ⟨.error f, [url], [entry]⟩
    | .ok (page, log) => ⟨.ok page, [url], entry :: log⟩

def RemoteSource.resolveWith [Monad m] (s : RemoteSource)
    (ask : String → m (Except Fault Value)) (r : Request) : m Resolution :=
  match OData.requestUrl s.version s.url r with
  | .error f => pure ⟨.error f, [], []⟩
  | .ok url => do
    let answer ← ask url
    pure (s.resolution url answer)

def RemoteSource.resolve (s : RemoteSource) (r : Request) : Resolution :=
  Id.run (s.resolveWith (fun url => pure (s.transport.answer url)) r)

def Source.resolve (rowsOf : ρ → List Value) (source : Source ρ) (r : Request) : Resolution :=
  match source with
  | .empty => ⟨.ok .empty, [], []⟩
  | .rows reference => ⟨r.run (rowsOf reference), [], []⟩
  | .remote s => s.resolve r

end TableQuery
