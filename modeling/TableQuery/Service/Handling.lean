import TableQuery.Service.Origin

/-! Handling of requests from their arrival to the access log.
A request that is handled gets an identity, which its response carries, and one entry in the access
log; one on which the service breaks down gets neither. -/
namespace TableQuery.Service
open TableQuery.Text

structure Reply where
  response : Response
  identity : Option String
  openedTo : Option String
  urls : List String
  log : List LogEntry
  access : Option Access
  deriving Repr

def Reply.entries (r : Reply) : List LogEntry := r.log ++ (r.access.map Access.entry).toList

def Server.written (s : Server) (r : Reply) : List LogEntry :=
  r.entries.filter fun e => Threshold.lets s.threshold e.level

def Server.respond (s : Server) (i : Incoming) : Answer :=
  match i.question? with
  | some (origin, method) => .only (s.leave origin method)
  | none => s.along (s.framework.bodyOf i) (.of i.method (pathOf i.target))

def Response.sent (r : Response) (method : String) : Response :=
  if method = "HEAD" then { r with content := .plain "" } else r

def Server.handle (s : Server) (fresh : String) (i : Incoming) : Reply :=
  let answer := s.respond i
  match answer.response with
  | none =>
    ⟨Response.sent ⟨500, .plain "Internal Server Error"⟩ i.method, none, none, answer.urls,
      answer.log, none⟩
  | some response =>
    let own := Service.identity fresh (i.header? "X-Request-ID")
    ⟨response.sent i.method, some own, s.opened i, answer.urls, answer.log,
      some ⟨i.method, pathOf i.target, response.status, own, answer.trail⟩⟩

end TableQuery.Service
