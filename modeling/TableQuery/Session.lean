import TableQuery.Registry

/-! Sessions: row lists that change, sources that refer to them, and loads of those sources.
A source registered with a list keeps referring to that list, whatever becomes of the list's name. A
load keeps the source that its name stood for when the load was made, and reads the rows when it is
fetched. -/
namespace TableQuery

abbrev Address := Nat

structure PendingLoad where
  load : Load
  source : Source Address
  request : Request

structure Session where
  shelf : List (List Value)
  names : Registry Address
  sources : SourceRegistry Address
  loads : Registry PendingLoad
  events : List Event

namespace Session

def empty : Session := ⟨[], .empty, .empty, .empty, []⟩

inductive Step where
  | create (id : String) (rows : List Value)
  | append (id : String) (row : Value)
  | pop (id : String)
  | rows (id : String)
  | bind (name : Value) (id : String)
  | register (name source options : Value) (settings : Settings) (connection : Connection)
  | find (name : Value)
  | names
  | describe
  | load (id : String) (name : Value) (request : Request)
  | subscribe (id : String) (kind : EventKind) (s : Subscriber)
  | fetch (id : String)

inductive Reply where
  | count (n : Nat)
  | row (v : Value)
  | rows (vs : List Value)
  | registered (source : Source Address) (log : List LogEntry)
  | found (source : Option (Source Address))
  | names (ns : List String)
  | described (is : List SourceInfo)
  | events (es : List Event)
  | subscribed
  | fetched (f : Fetched)

def rowsAt (s : Session) (a : Address) : List Value := s.shelf[a]?.getD []

def address (s : Session) (id : String) : Except Fault Address :=
  match s.names.find? id with
  | some a => .ok a
  | none => .error (.missingKey id)

def pending (s : Session) (id : String) : Except Fault PendingLoad :=
  match s.loads.find? id with
  | some p => .ok p
  | none => .error (.missingKey id)

def shelve (s : Session) (rows : List Value) : Session × Address :=
  ({ s with shelf := s.shelf ++ [rows] }, s.shelf.length)

def replace (s : Session) (a : Address) (rows : List Value) : Session :=
  { s with shelf := s.shelf.set a rows }

def shelveSource (s : Session) : Source (List Value) → Session × Source Address
  | .empty => (s, .empty)
  | .rows rows => let (s, a) := s.shelve rows; (s, .rows a)
  | .remote r => (s, .remote r)

def attempt (s : Session) : Step → Except Fault (Session × Reply)
  | .create id rows =>
    let (s, a) := s.shelve rows
    .ok ({ s with names := s.names.set id a }, .count rows.length)
  | .append id row => do
    let a ← s.address id
    let rows := s.rowsAt a ++ [row]
    .ok (s.replace a rows, .count rows.length)
  | .pop id => do
    let a ← s.address id
    match (s.rowsAt a).getLast? with
    | none => .error .emptyList
    | some row => .ok (s.replace a (s.rowsAt a).dropLast, .row row)
  | .rows id => do
    let a ← s.address id
    .ok (s, .rows (s.rowsAt a))
  | .bind name id => do
    let a ← s.address id
    let (sources, source, log) ← s.sources.register name (.ok (.rows a))
    .ok ({ s with sources }, .registered source log)
  | .register name source options settings connection => do
    let key ← nameOf name
    if key = "" then .error .blankName
    else do
      let made ← Source.ofValue settings connection source options
      let (s, made) := s.shelveSource made
      let (sources, source, log) ← s.sources.register name (.ok made)
      .ok ({ s with sources }, .registered source log)
  | .find name => do
    let found ← s.sources.get name
    .ok (s, .found found)
  | .names => .ok (s, .names s.sources.names)
  | .describe => .ok (s, .described s.sources.describe)
  | .load id name request => do
    match ← s.sources.get name with
    | none => .error .noSource
    | some source =>
      let p : PendingLoad := ⟨.start source.kind, source, request⟩
      .ok ({ s with loads := s.loads.set id p }, .events s.events)
  | .subscribe id kind subscriber => do
    let p ← s.pending id
    let p := { p with load := p.load.subscribe kind subscriber }
    .ok ({ s with loads := s.loads.set id p }, .subscribed)
  | .fetch id => do
    let p ← s.pending id
    let (load, fetched) := p.load.fetch (p.source.resolve s.rowsAt p.request)
    .ok ({ s with loads := s.loads.set id { p with load }, events := fetched.events },
      .fetched fetched)

def step (s : Session) (t : Step) : Session × Except Fault Reply :=
  match s.attempt t with
  | .ok (s, reply) => (s, .ok reply)
  | .error f => (s, .error f)

def run (s : Session) : List Step → Session × List (Except Fault Reply)
  | [] => (s, [])
  | t :: rest =>
    let (s, reply) := s.step t
    let (s, replies) := run s rest
    (s, reply :: replies)

end Session
end TableQuery
