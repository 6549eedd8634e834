import TableQuery.Display.Number
import TableQuery.Calendar.Pattern
import TableQuery.Registry

/-! Field types: how values of a column are displayed and which component filters them. -/
namespace TableQuery.Display
open TableQuery.Text

inductive Formatter where
  | own (shown : Value → Value → Except Fault String)
  | truth (yes no : String)
  | calendar (pattern : String)
  | number (places : Int) (placesFixed : Bool) (thousand separator : String)

structure FieldType where
  name : String
  formatter : Option Formatter
  component : Option String
  params : List (String × Value)

def momentOf (v : Value) : Except Fault Moment :=
  match v with
  | .moment m => .ok m
  | .date d => .ok (.ofDate d)
  | v => do
    let text ← v.text?
    match Moment.ofIso? (substituted 'Z' "+00:00" (trimmed text)) with
    | some m => .ok m
    | none => .error (.improper "text that is no date")

def option (options : Value) (name : String) (absent : Value) : Value :=
  match options with
  | .dict entries => (Value.find? name entries).getD absent
  | _ => absent

def plainText (v : Value) : Except Fault String := if v.isNull then .ok "" else v.text?

def Formatter.apply (f : Formatter) (v options : Value) : Except Fault String :=
  match f with
  | own shown => shown v options
  | truth yes no => .ok (if v.isNull then "" else if v.truthy then yes else no)
  | calendar pattern =>
    if v.truthy then do
      let m ← momentOf v
      .ok (Pattern.render (options.asText?.getD pattern) m)
    else .ok ""
  | number places placesFixed thousand separator => do
    if ← v.same (.int 0) then .ok "0"
    else if v.truthy then
      formatNumber v
        (if placesFixed then .int places else option options "precision" (.int places))
        (option options "thousand" (.text thousand)) (option options "separator" (.text separator))
    else .ok ""

abbrev TypeRegistry := Registry FieldType

namespace TypeRegistry

def add (r : TypeRegistry) (t : FieldType) : TypeRegistry := r.set t.name t

def find? (r : TypeRegistry) (name : Option String) : Option FieldType :=
  match name with
  | some n => if n = "" then none else Registry.find? r n
  | none => none

def filterOf? (r : TypeRegistry) (name : Option String) :
    Option (String × List (String × Value)) := do
  let t ← r.find? name
  let component ← t.component
  if component = "" then none else some (component, t.params)

def setComponent (r : TypeRegistry) (name : String) (component : Option String) : TypeRegistry :=
  match Registry.find? r name with
  | some t => r.set name { t with component }
  | none => r

def format (r : TypeRegistry) (name : Option String) (v options : Value) : Except Fault String :=
  match (r.find? name).bind (·.formatter) with
  | some f => f.apply v options
  | none => plainText v

def describe (r : TypeRegistry) : List FieldTypeInfo :=
  r.names.map fun name =>
    ⟨name, (r.filterOf? (some name)).map fun f =>
      [("component", .text f.1), ("params", .dict f.2)]⟩

def standardTypes (s : Settings) : List FieldType :=
  let places := Formatter.number s.decimalPrecision false s.thousandSeparator s.decimalSeparator
  let whole := Formatter.number 0 true s.thousandSeparator s.decimalSeparator
  [⟨"bool", some (.truth s.yesText s.noText), some "BoolFilter", []⟩,
   ⟨"date", some (.calendar s.dateFormat), some "DateFilter", []⟩,
   ⟨"dateTime", some (.calendar s.momentFormat), some "DateTimeFilter", []⟩,
   ⟨"decimal", some places, some "NumericFilter", [("decimal", .bool true)]⟩,
   ⟨"double", some places, some "NumericFilter", [("decimal", .bool true)]⟩,
   ⟨"text", none, some "TextFilter", []⟩,
   ⟨"int", some whole, some "NumericFilter", [("decimal", .bool false)]⟩]

def standard (s : Settings) : TypeRegistry := (standardTypes s).foldl add .empty

end TypeRegistry
end TableQuery.Display
