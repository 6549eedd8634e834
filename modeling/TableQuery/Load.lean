import TableQuery.Request.Basic
import TableQuery.Log

/-! One-shot loads: a query that runs when it is fetched, and only once.
A load has at most one subscriber for each kind of event, the latest one. A fetch tells either
success or failure, and then, whatever came of that, the end. A subscriber may fault itself. -/
namespace TableQuery

inductive EventKind where
  | success
  | error
  | always
  deriving DecidableEq, Repr

structure Subscriber where
  tag : String
  raises : Option Fault
  deriving Repr

inductive Event where
  | succeeded (tag : String) (page : Page)
  | failed (tag : String) (fault : Fault)
  | finished (tag : String)
  deriving Repr

structure Resolution where
  outcome : Except Fault Page
  urls : List String
  log : List LogEntry

structure Load where
  kind : String
  onSuccess : Option Subscriber
  onError : Option Subscriber
  onAlways : Option Subscriber
  fetched : Bool
  deriving Repr

structure Fetched where
  reply : Except Fault (Except Fault Page)
  events : List Event
  urls : List String
  log : List LogEntry

namespace Load

def start (kind : String) : Load := ⟨kind, none, none, none, false⟩

def subscribe (load : Load) (kind : EventKind) (s : Subscriber) : Load :=
  match kind with
  | .success => { load with onSuccess := some s }
  | .error => { load with onError := some s }
  | .always => { load with onAlways := some s }

theorem subscribeFetched (load : Load) (kind : EventKind) (s : Subscriber) :
    (load.subscribe kind s).fetched = load.fetched := by cases kind <;> rfl

def failureEntry (load : Load) (f : Fault) : LogEntry :=
  ⟨.warning, .load, "grid_load_failed source=" ++ load.kind ++ " error=" ++ f.message⟩

def listener (load : Load) : Except Fault Page → Option Subscriber
  | .ok _ => load.onSuccess
  | .error _ => load.onError

def tell (s : Subscriber) : Except Fault Page → Event
  | .ok page => .succeeded s.tag page
  | .error f => .failed s.tag f

def faultOf (s : Option Subscriber) : Option Fault := s.bind (·.raises)

/-- What comes of a fetch that ran the query: success or failure is told, then the end, and the fault
of the last subscriber told wins. It leaves a coroutine. -/
def report (load : Load) (resolution : Resolution) : Fetched :=
  let outcome := resolution.outcome
  let first := load.listener outcome
  let events := (first.map (tell · outcome)).toList ++
    (load.onAlways.map fun s => Event.finished s.tag).toList
  let failure := match outcome with
    | .ok _ => []
    | .error f => [load.failureEntry f]
  let reply := match faultOf load.onAlways, faultOf first with
    | some f, _ => .error f.escaped
    | none, some f => .error f.escaped
    | none, none => .ok outcome
  ⟨reply, events, resolution.urls, resolution.log ++ failure⟩

def refusal (load : Load) : Fetched := ⟨.error (.alreadyFetched load.kind), [], [], []⟩

def fetchWith [Monad m] (load : Load) (query : m Resolution) : m (Load × Fetched) :=
  if load.fetched then pure (load, load.refusal)
  else do
    let resolution ← query
    pure ({ load with fetched := true }, load.report resolution)

def fetch (load : Load) (resolution : Resolution) : Load × Fetched :=
  Id.run (load.fetchWith (pure resolution))

end Load
end TableQuery
