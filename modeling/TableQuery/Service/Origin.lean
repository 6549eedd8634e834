import TableQuery.Service.Answer

/-! Calls from pages of other origins.
The settings list the origins that may call. A browser asks for leave before it calls with an
unusual method; the service answers such a question itself. -/
namespace TableQuery.Service
open TableQuery.Text

def sharedMethods : List String := ["DELETE", "GET", "HEAD", "OPTIONS", "PATCH", "POST", "PUT"]

def Server.allows (s : Server) (origin : String) : Bool := s.settings.originList.contains origin

def Incoming.question? (i : Incoming) : Option (String × String) := do
  let origin ← i.header? "Origin"
  let method ← i.header? "Access-Control-Request-Method"
  if i.method = "OPTIONS" then some (origin, method) else none

def Server.objections (s : Server) (origin method : String) : List String :=
  (if s.allows origin then [] else ["origin"]) ++
    (if sharedMethods.contains method then [] else ["method"])

def Server.leave (s : Server) (origin method : String) : Response :=
  match s.objections origin method with
  | [] => ⟨200, .plain "OK"⟩
  | objections => ⟨400, .plain ("Disallowed CORS " ++ join ", " objections)⟩

def Server.opened (s : Server) (i : Incoming) : Option String :=
  (i.header? "Origin").filter s.allows

end TableQuery.Service
