import TableQuery.Fault
import TableQuery.Json.Octets
import TableQuery.Settings

/-! One exchange with a server: a request with headers goes out, and an answer in JSON comes back.
A client is set up with a time limit and headers of its own. Failures on the way and refusals of the
server are faults of the transport; an answer that cannot be read is a malformed response. -/
namespace TableQuery
open TableQuery.Text

structure Transport where
  timeout : Option Binary64
  answer : String → Except Fault Value

def Transport.constant (answer : Except Fault Value) : Transport := ⟨none, fun _ => answer⟩

structure Client where
  timeout : Binary64
  headers : List (String × Value)
  deriving Repr

inductive ServerReply where
  | answered (status : Nat) (octets : List Nat)
  | failed (name message : String)
  deriving Repr

namespace Client

def secondsOf (v : Value) : Except Fault Binary64 :=
  match v with
  | .float x => .ok x
  | .decimal d =>
    match Binary64.ofText? d.toText with
    | some x => .ok x
    | none => .error (.improper "seconds that are no number")
  | v =>
    match v.asInt?, v.asText? with
    | some n, _ =>
      match Binary64.ofInt? n with
      | some x => .ok x
      | none => .error .overflow
    | none, some s =>
      match Binary64.ofAnyDigits? s with
      | some x => .ok x
      | none => .error (.improper "seconds that are no number")
    | none, none => .error (.unsuitable "seconds that are no number")

def ownHeaders : List (String × Value) := [("Accept", .text "application/json")]

def headersOf (v : Value) : Except Fault (List (String × Value)) :=
  if v.truthy then
    match v with
    | .dict entries => .ok (entries.foldl (fun hs e => Value.put e.1 e.2 hs) ownHeaders)
    | _ => .error (.unsuitable "headers that are no mapping")
  else .ok ownHeaders

def create (settings : Settings) (timeout headers : Value) : Except Fault Client := do
  let timeout ← if timeout.isNull then .ok settings.timeoutSeconds else secondsOf timeout
  let headers ← headersOf headers
  .ok ⟨timeout, headers⟩

def usual (settings : Settings) : Client := ⟨settings.timeoutSeconds, ownHeaders⟩

def headerText (s : String) : Except Fault String :=
  if s.toList.all (·.toNat < 128) then .ok s
  else .error (.raised (.foreign "UnicodeEncodeError") "header that is not ASCII")

def sentHeaders : List (String × Value) → Except Fault (List (String × String))
  | [] => .ok []
  | (name, value) :: rest => do
    let name ← headerText name
    match value.asText? with
    | none => .error (.unsuitable "header value that is not text")
    | some s => do
      let text ← headerText s
      let others ← sentHeaders rest
      .ok ((name, text) :: others)

def seen? (sent : List (String × String)) (name : String) : Option String :=
  match (sent.filter fun h => lower h.1 == lower name).map (·.2) with
  | [] => none
  | values => some (join ", " values)

def transportFailures : List String :=
  ["HTTPError", "RequestError", "TransportError", "TimeoutException", "ConnectTimeout",
   "ReadTimeout", "WriteTimeout", "PoolTimeout", "NetworkError", "ConnectError", "ReadError",
   "WriteError", "CloseError", "ProtocolError", "LocalProtocolError", "RemoteProtocolError",
   "ProxyError", "UnsupportedProtocol", "DecodingError", "TooManyRedirects", "HTTPStatusError"]

def receive : ServerReply → Except Fault Value
  | .failed name message =>
    if transportFailures.contains name then .error (.requestFailed message)
    else .error (.raised (.foreign name) message)
  | .answered status octets =>
    if 400 ≤ status then .error (.refused status)
    else
      match Json.readOctets? octets with
      | some v => .ok v
      | none => .error .invalidBody

def exchange (client : Client) (reply : ServerReply) :
    Option (List (String × String)) × Except Fault Value :=
  match sentHeaders client.headers with
  | .error f => (none, .error f)
  | .ok sent => (some sent, receive reply)

def transport (client : Client) (replyTo : String → ServerReply) : Transport :=
  ⟨some client.timeout, fun url => (client.exchange (replyTo url)).2⟩

end Client

inductive Connection where
  | own (transport : Transport)
  | network (replyTo : String → ServerReply)

def Connection.transport (settings : Settings) : Connection → Transport
  | own transport => transport
  | network replyTo => (Client.usual settings).transport replyTo

end TableQuery
