import Mathlib
import TableQuery.Proofs.Outcome
import TableQuery.Proofs.Service.Posts

/-! What the access log tells of a request.
A request that is handled gets one entry there, which agrees with the response in its status and its
identity. What follows them is told of queries whose body reads as one, as far as the query came: its
source, what kind of source that is, and a count of rows or a kind of fault. -/
namespace TableQuery

namespace FaultKind

def lineage : FaultKind → List FaultKind
  | configuration => [configuration, query]
  | unsupportedOptions => [unsupportedOptions, configuration, query]
  | unsupportedSource => [unsupportedSource, configuration, query]
  | unknownOperator => [unknownOperator, query]
  | unknownRemoteOperator => [unknownRemoteOperator, unknownOperator, query]
  | unknownDirection => [unknownDirection, query]
  | malformedResponse => [malformedResponse, query]
  | malformedCount => [malformedCount, malformedResponse, query]
  | transport => [transport, query]
  | alreadyFetched => [alreadyFetched, query]
  | derived name base => derived name base :: base.lineage
  | kind => [kind]

def status (k : FaultKind) : Nat :=
  if .transport ∈ k.lineage ∨ .malformedResponse ∈ k.lineage then 502
  else if .query ∈ k.lineage ∨ .unsuitable ∈ k.lineage then 400
  else 500

end FaultKind

namespace Service
open TableQuery.Text Validation

structure Untold (a : Answer) : Prop where
  trail : a.trail = .none
  log : a.log = []

structure Proper (s : String) : Prop where
  written : 1 ≤ s.length
  short : s.length ≤ 128
  spelled : ∀ c ∈ s.toList, ('A' ≤ c ∧ c ≤ 'Z') ∨ ('a' ≤ c ∧ c ≤ 'z') ∨ ('0' ≤ c ∧ c ≤ '9') ∨
    c = '.' ∨ c = '_' ∨ c = '-'

end Service
end TableQuery
