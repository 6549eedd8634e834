import TableQuery.Proofs.Outcome
import TableQuery.Proofs.Text.Trimming
import TableQuery.Service.Handling

/-! Levels of the log that a service can start with, and those of them that keep the access log. -/
namespace TableQuery
open TableQuery.Text

namespace Threshold

theorem namedAmong {name : String} {n : Nat} (chosen : ofName name = .ok n) :
    n = usual ∧ (∀ e ∈ named, e.1 ≠ upperName name) ∨ (upperName name, n) ∈ named := by
  simp only [ofName] at chosen
  split at chosen
  · cases chosen
  split at chosen
  · cases chosen
  cases found : named.find? (·.1 == upperName name) with
  | none =>
    simp only [found] at chosen
    cases chosen
    exact .inl ⟨rfl, by simpa using found⟩
  | some entry =>
    simp only [found] at chosen
    cases chosen
    have same : entry.1 = upperName name := by simpa using List.find?_some found
    exact .inr (same ▸ List.mem_of_find?_eq_some found)

theorem paddedName {before after : String} (front : blank before = true)
    (back : blank after = true) (name : String) :
    ofName (before ++ name ++ after) = ofName name := by
  have same : upperName (before ++ name ++ after) = upperName name := by
    rw [upperName, String.toList_append, String.toList_append,
      trimPadded (List.all_eq_true.mp front) (List.all_eq_true.mp back), upperName]
  rw [ofName, same, ofName]

def nameIn (settings : Settings) : String :=
  if settings.logLevel = "" then "INFO" else settings.logLevel

theorem ofSettings (settings : Settings) : ofValue settings .null = ofName (nameIn settings) := by
  unfold ofValue nameIn
  split
  · next told => cases told
  · split <;> rfl

def quietNames : List String := ["CRITICAL", "FATAL", "ERROR", "WARNING", "WARN", "NOTSET"]

theorem infoLet {name : String} {n : Nat} (chosen : ofName name = .ok n) :
    lets n .info = true ↔ upperName name ∉ quietNames := by
  rcases namedAmong chosen with ⟨rfl, unnamed⟩ | entry
  · have all : ∀ q ∈ quietNames, ∃ e ∈ named, e.1 = q := by decide
    refine iff_of_true rfl fun quiet => ?_
    obtain ⟨e, member, same⟩ := all _ quiet
    exact unnamed e member same
  · have all : ∀ e ∈ named, (lets e.2 .info = true ↔ e.1 ∉ quietNames) := by decide
    exact all _ entry

end Threshold

namespace Service

theorem startLogs {framework : Framework} {settings : Settings}
    {sources : SourceRegistry (List Value)} {s : Server}
    (started : Server.start framework settings sources = .ok s) :
    Threshold.lets s.threshold .info = true ↔
      Threshold.upperName (Threshold.nameIn settings) ∉ Threshold.quietNames := by
  obtain ⟨n, chosen, done⟩ := bindOk.mp started
  cases done
  rw [Threshold.ofSettings] at chosen
  exact Threshold.infoLet chosen

end Service
end TableQuery
