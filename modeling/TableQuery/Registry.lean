import TableQuery.Source

/-! Named sources. Names are kept without blanks at their ends; the last registration of a name
counts, and a registration that fails changes nothing. -/
namespace TableQuery
open TableQuery.Text

structure Registry (α : Type) where
  entries : List (String × α)

namespace Registry

def empty : Registry α := ⟨[]⟩

def lookup (name : String) : List (String × α) → Option α
  | [] => none
  | (n, a) :: rest => if n = name then some a else lookup name rest

def update (name : String) (a : α) : List (String × α) → List (String × α)
  | [] => [(name, a)]
  | (n, b) :: rest => if n = name then (n, a) :: rest else (n, b) :: update name a rest

theorem lookupUpdate (name other : String) (a : α) (entries : List (String × α)) :
    lookup other (update name a entries) =
      if name = other then some a else lookup other entries := by
  induction entries with
  | nil => simp [update, lookup]
  | cons e rest ih =>
    obtain ⟨n, b⟩ := e
    by_cases hn : n = name
    · subst hn; by_cases h : n = other <;> simp [update, lookup, h]
    · by_cases h : n = other
      · subst h; simp [update, lookup, hn, Ne.symm hn]
      · simp [update, lookup, hn, h, ih]

def find? (r : Registry α) (name : String) : Option α := lookup name r.entries

def set (r : Registry α) (name : String) (a : α) : Registry α := ⟨update name a r.entries⟩

def insertName (name : String) : List String → List String
  | [] => [name]
  | n :: rest => if name < n then name :: n :: rest else n :: insertName name rest

def names (r : Registry α) : List String := r.entries.foldr (fun e ns => insertName e.1 ns) []

end Registry

def nameOf (v : Value) : Except Fault String :=
  if v.truthy then do
    let text ← v.text?
    .ok (trimmed text)
  else .ok ""

abbrev SourceRegistry (ρ : Type) := Registry (Source ρ)

def registeredEntry (name kind : String) : LogEntry :=
  ⟨.info, .source, "grid_source_registered name=" ++ name ++ " kind=" ++ kind⟩

namespace SourceRegistry

def register (r : SourceRegistry ρ) (name : Value) (make : Except Fault (Source ρ)) :
    Except Fault (SourceRegistry ρ × Source ρ × List LogEntry) := do
  let key ← nameOf name
  if key = "" then .error .blankName
  else do
    let source ← make
    .ok (r.set key source, source, [registeredEntry key source.kind])

def get (r : SourceRegistry ρ) (name : Value) : Except Fault (Option (Source ρ)) := do
  let key ← nameOf name
  .ok (r.find? key)

def describe (r : SourceRegistry ρ) : List SourceInfo :=
  r.names.filterMap fun name => (r.find? name).map fun s => ⟨name, s.kind⟩

def addAll (settings : Settings) (connection : Connection)
    (r : SourceRegistry (List Value)) (log : List LogEntry) :
    List Settings.SourceEntry → Except Fault (SourceRegistry (List Value)) × List LogEntry
  | [] => (.ok r, log)
  | e :: rest =>
    match r.register (.text e.name)
      (Source.ofValue settings connection (.text e.url) (.text e.options)) with
    | .error f => (.error f, log)
    | .ok (r, _, entries) => addAll settings connection r (log ++ entries) rest

def ofSettings (settings : Settings) (connection : Connection) :
    Except Fault (SourceRegistry (List Value)) × List LogEntry :=
  addAll settings connection .empty [] settings.sourceList

end SourceRegistry
end TableQuery
