import TableQuery.OData.Url
import TableQuery.Log

/-! Reading the page out of a remote service's answer.
An answer is a mapping with a list of rows and, under the version's own key, their count. A count is
an integer, an integral number, or the text of an integer, and not negative. -/
namespace TableQuery.OData
open TableQuery.Text

def count? (raw : Value) : Option Nat :=
  let n : Option Int := match raw with
    | .bool _ => none
    | .float x => x.toInt?
    | raw =>
      match raw.asInt?, raw.asText? with
      | some n, _ => some n
      | none, some s => integer? (trim s.toList)
      | none, none => none
  n.bind fun n => if 0 ≤ n then some n.toNat else none

def contents? (version : Version) (result : Value) : Option (List Value × Value) :=
  match result with
  | .dict entries =>
    match Value.get "value" entries with
    | .list items => some (items, Value.get (countKey version) entries)
    | _ => none
  | _ => none

def fallbackEntry (version : Version) (raw : Value) (items : List Value) : LogEntry :=
  ⟨.warning, .odata, "odata_count_fallback key=" ++ countKey version ++ " value=" ++ raw.quoted ++
    " items=" ++ ofNat items.length⟩

def page (version : Version) (fallback : Bool) (result : Value) :
    Except Fault (Page × List LogEntry) :=
  match contents? version result with
  | none => .error .missingItems
  | some (items, raw) =>
    match count? raw with
    | some total => .ok (⟨items, total⟩, [])
    | none =>
      if fallback then .ok (⟨items, items.length⟩, [fallbackEntry version raw items])
      else .error (.about (.malformedCount (countKey version)) raw)

end TableQuery.OData
