import TableQuery.Display.Types
import TableQuery.Proofs.Registry.Writes

/-! Field types after additions and changes of components in any order.
A name has the formatter and the parameters of its last addition, and the component that was written
last, by that addition or behind it. To set a component does nothing else, and nothing at all to a
name that has not been added. -/
namespace TableQuery.Display
open TableQuery.Registry (LastWrite)

inductive TypeCall where
  | add (t : FieldType)
  | setComponent (name : String) (component : Option String)

namespace TypeCall

def added? : TypeCall → Option (String × FieldType)
  | add t => some (t.name, t)
  | setComponent _ _ => none

def component? : TypeCall → Option (String × Option String)
  | add t => some (t.name, t.component)
  | setComponent name component => some (name, component)

end TypeCall

namespace TypeRegistry

def perform (r : TypeRegistry) : TypeCall → TypeRegistry
  | .add t => r.add t
  | .setComponent name component => r.setComponent name component

def performAll (r : TypeRegistry) (calls : List TypeCall) : TypeRegistry := calls.foldl perform r

theorem findAdd (r : TypeRegistry) (t : FieldType) (name : String) :
    Registry.find? (r.add t) name = if t.name = name then some t else Registry.find? r name :=
  Registry.lookupUpdate t.name name t r.entries

theorem findSetComponent (r : TypeRegistry) (name : String) (component : Option String)
    (other : String) :
    Registry.find? (r.setComponent name component) other =
      (Registry.find? r other).map fun t => if name = other then { t with component } else t := by
  unfold setComponent
  cases found : Registry.find? r name with
  | none =>
    by_cases same : name = other
    · simp [← same, found]
    · simp [same]
  | some t =>
    have updated := Registry.lookupUpdate name other { t with component } r.entries
    by_cases same : name = other
    · rw [if_pos same] at updated
      simp only [← same, found, Option.map_some, if_true]
      exact same ▸ updated
    · rw [if_neg same] at updated
      simp only [same, if_false, Option.map_id']
      exact updated

theorem setComponentNames (r : TypeRegistry) (name : String) (component : Option String) :
    (r.setComponent name component).names = r.names := by
  unfold setComponent
  split
  · rename_i t found
    exact Registry.setNames found _
  · rfl

structure ComponentAlone (name : String) (first second : TypeRegistry) : Prop where
  names : second.names = first.names
  formats : ∀ other v options, second.format other v options = first.format other v options
  params : ∀ other, (second.find? other).map (·.params) = (first.find? other).map (·.params)
  apart : ∀ other, other ≠ some name → second.filterOf? other = first.filterOf? other

theorem componentAlone (r : TypeRegistry) (name : String) (component : Option String) :
    ComponentAlone name r (r.setComponent name component) := by
  have found (other : Option String) : (r.setComponent name component).find? other =
      (r.find? other).map fun t => if some name = other then { t with component } else t := by
    cases other with
    | none => rfl
    | some other =>
      by_cases blank : other = ""
      · simp [find?, blank]
      · simp [find?, blank, findSetComponent]
  refine ⟨setComponentNames r name component, fun other v options => ?_, fun other => ?_,
    fun other differs => ?_⟩
  · rw [format, format, found]
    cases r.find? other with
    | none => rfl
    | some t => by_cases same : some name = other <;> simp [same]
  · rw [found]
    cases r.find? other with
    | none => rfl
    | some t => by_cases same : some name = other <;> simp [same]
  · simp [filterOf?, found, Ne.symm differs]

/- Each entry is the last addition of its name with the component that was written last. -/
structure Recorded (r : TypeRegistry) (history : List TypeCall) : Prop where
  distinct : r.Distinct
  entry : ∀ name u, Registry.find? r name = some u ↔
    ∃ t component, LastWrite TypeCall.added? history name t ∧
      LastWrite TypeCall.component? history name component ∧ u = { t with component }

variable {r : TypeRegistry} {history : List TypeCall} {name : String}

theorem componentWritten {t : FieldType} (added : LastWrite TypeCall.added? history name t) :
    ∃ component, LastWrite TypeCall.component? history name component := by
  obtain ⟨before, call, behind, rfl, writes, -⟩ := added
  refine (Registry.someLastWrite name).mpr ⟨call, by simp, ?_⟩
  cases call with
  | add u =>
    cases writes
    exact ⟨t.component, rfl⟩
  | setComponent _ _ => cases writes

theorem emptyRecorded : Recorded .empty [] where
  distinct := Registry.emptyDistinct
  entry := by simp [LastWrite, Registry.find?, Registry.empty, Registry.lookup]

theorem addRecorded (recorded : Recorded r history) (t : FieldType) :
    Recorded (r.add t) (history ++ [.add t]) where
  distinct := Registry.setDistinct recorded.distinct t.name t
  entry := fun name u => by
    rw [findAdd]
    by_cases same : t.name = name
    · have added : TypeCall.added? (.add t) = some (name, t) := same ▸ rfl
      have written : TypeCall.component? (.add t) = some (name, t.component) := same ▸ rfl
      simp only [if_pos same, Registry.lastWriteNow history added,
        Registry.lastWriteNow history written, exists_and_left, exists_eq_left, Option.some.injEq]
      exact eq_comm
    · have notAdded : ∀ u, TypeCall.added? (.add t) ≠ some (name, u) := by
        simp [TypeCall.added?, same]
      have notWritten : ∀ component, TypeCall.component? (.add t) ≠ some (name, component) := by
        simp [TypeCall.component?, same]
      simp only [if_neg same, Registry.lastWriteKept history notAdded,
        Registry.lastWriteKept history notWritten, recorded.entry]

theorem setComponentRecorded (recorded : Recorded r history) (key : String)
    (component : Option String) :
    Recorded (r.setComponent key component) (history ++ [.setComponent key component]) where
  distinct := by
    unfold setComponent
    split
    · exact Registry.setDistinct recorded.distinct key _
    · exact recorded.distinct
  entry := fun name u => by
    have notAdded : ∀ u, TypeCall.added? (.setComponent key component) ≠ some (name, u) := by
      simp [TypeCall.added?]
    rw [findSetComponent]
    by_cases same : key = name
    · have written : TypeCall.component? (.setComponent key component) = some (name, component) :=
        same ▸ rfl
      simp only [if_pos same, Registry.lastWriteKept history notAdded,
        Registry.lastWriteNow history written, Option.map_eq_some_iff, recorded.entry]
      constructor
      · rintro ⟨_, ⟨t, _, added, -, rfl⟩, rfl⟩
        exact ⟨t, component, added, rfl, rfl⟩
      · rintro ⟨t, _, added, rfl, rfl⟩
        obtain ⟨before, writtenBefore⟩ := componentWritten added
        exact ⟨_, ⟨t, before, added, writtenBefore, rfl⟩, rfl⟩
    · have notWritten :
          ∀ c, TypeCall.component? (.setComponent key component) ≠ some (name, c) := by
        simp [TypeCall.component?, same]
      simp only [if_neg same, Option.map_id', Registry.lastWriteKept history notAdded,
        Registry.lastWriteKept history notWritten, recorded.entry]

theorem performRecorded (recorded : Recorded r history) (call : TypeCall) :
    Recorded (r.perform call) (history ++ [call]) := by
  cases call with
  | add t => exact addRecorded recorded t
  | setComponent key component => exact setComponentRecorded recorded key component

theorem performAllRecorded (recorded : Recorded r history) (calls : List TypeCall) :
    Recorded (r.performAll calls) (history ++ calls) := by
  induction calls generalizing r history with
  | nil => simpa [performAll] using recorded
  | cons call rest ih => simpa [performAll] using ih (performRecorded recorded call)

def typesAtFirst : Option Settings → List FieldType
  | none => []
  | some s => standardTypes s

def atFirst : Option Settings → TypeRegistry
  | none => .empty
  | some s => standard s

theorem atFirstRecorded (start : Option Settings) :
    Recorded (atFirst start) ((typesAtFirst start).map .add) := by
  have begun : atFirst start = performAll .empty ((typesAtFirst start).map .add) := by
    cases start with
    | none => rfl
    | some s => rw [performAll, List.foldl_map]; rfl
  rw [begun]
  exact performAllRecorded emptyRecorded _

structure ShownPlainly (shown : Value → Value → Except Fault String) : Prop where
  null : ∀ options, shown .null options = .ok ""
  text : ∀ v options, v.isNull = false → shown v options = v.text?

structure Tells (r : TypeRegistry) (history : List TypeCall) (name : String) : Prop where
  filtered : ∀ component params, r.filterOf? (some name) = some (component, params) ↔
    component ≠ "" ∧ LastWrite TypeCall.component? history name (some component) ∧
      ∃ t, LastWrite TypeCall.added? history name t ∧ t.params = params
  unfiltered : r.filterOf? (some name) = none ↔
    (∀ t, TypeCall.add t ∈ history → t.name ≠ name) ∨
      LastWrite TypeCall.component? history name none ∨
      LastWrite TypeCall.component? history name (some "")
  formatted : ∀ t f, LastWrite TypeCall.added? history name t → t.formatter = some f →
    ∀ v options, r.format (some name) v options = f.apply v options
  unformatted : (∀ t, LastWrite TypeCall.added? history name t → t.formatter = none) →
    ShownPlainly (r.format (some name))

theorem findPresent (r : TypeRegistry) (present : name ≠ "") :
    r.find? (some name) = Registry.find? r name := if_neg present

theorem filterOfIff (present : name ≠ "") (component : String) (params : List (String × Value)) :
    r.filterOf? (some name) = some (component, params) ↔
      component ≠ "" ∧ ∃ u, Registry.find? r name = some u ∧ u.component = some component ∧
        u.params = params := by
  constructor
  · intro told
    obtain ⟨u, found, told⟩ := Option.bind_eq_some_iff.mp told
    obtain ⟨c, written, told⟩ := Option.bind_eq_some_iff.mp told
    split at told
    · cases told
    · next filled =>
      cases told
      exact ⟨filled, u, findPresent r present ▸ found, written, rfl⟩
  · rintro ⟨filled, u, found, written, rfl⟩
    simp [filterOf?, findPresent r present, found, written, filled]

theorem addedIff : (∃ t, LastWrite TypeCall.added? history name t) ↔
    ∃ t, TypeCall.add t ∈ history ∧ t.name = name := by
  rw [Registry.someLastWrite]
  constructor
  · rintro ⟨_ | _, member, t, added⟩
    · cases added
      exact ⟨_, member, rfl⟩
    · cases added
  · rintro ⟨t, member, rfl⟩
    exact ⟨.add t, member, t, rfl⟩

theorem entryIff (recorded : Recorded r history) (name : String) :
    (∃ u, Registry.find? r name = some u) ↔ ∃ t, TypeCall.add t ∈ history ∧ t.name = name := by
  rw [← addedIff]
  constructor
  · rintro ⟨u, found⟩
    obtain ⟨t, -, added, -⟩ := (recorded.entry name u).mp found
    exact ⟨t, added⟩
  · rintro ⟨t, added⟩
    obtain ⟨component, written⟩ := componentWritten added
    exact ⟨_, (recorded.entry name _).mpr ⟨t, component, added, written, rfl⟩⟩

theorem recordedFilter (recorded : Recorded r history) (present : name ≠ "") (component : String)
    (params : List (String × Value)) : r.filterOf? (some name) = some (component, params) ↔
      component ≠ "" ∧ LastWrite TypeCall.component? history name (some component) ∧
        ∃ t, LastWrite TypeCall.added? history name t ∧ t.params = params := by
  rw [filterOfIff present]
  refine and_congr_right fun _ => ⟨?_, ?_⟩
  · rintro ⟨u, found, same, rfl⟩
    obtain ⟨t, _, added, written, rfl⟩ := (recorded.entry name u).mp found
    exact ⟨same ▸ written, t, added, rfl⟩
  · rintro ⟨written, t, added, rfl⟩
    exact ⟨_, (recorded.entry name _).mpr ⟨t, _, added, written, rfl⟩, rfl, rfl⟩

theorem recordedNoFilter (recorded : Recorded r history) (present : name ≠ "") :
    r.filterOf? (some name) = none ↔
      (∀ t, TypeCall.add t ∈ history → t.name ≠ name) ∨
        LastWrite TypeCall.component? history name none ∨
        LastWrite TypeCall.component? history name (some "") := by
  cases found : Registry.find? r name with
  | none =>
    have never : ∀ t, TypeCall.add t ∈ history → t.name ≠ name := fun t member named => by
      obtain ⟨u, entry⟩ := (entryIff recorded name).mpr ⟨t, member, named⟩
      cases found.symm.trans entry
    exact iff_of_true (by simp [filterOf?, findPresent r present, found]) (.inl never)
  | some u =>
    obtain ⟨t, component, added, written, rfl⟩ := (recorded.entry name u).mp found
    have only (c : Option String) : LastWrite TypeCall.component? history name c ↔ c = component :=
      ⟨fun other => Registry.lastWriteUnique other written, fun same => same ▸ written⟩
    have known : ¬ ∀ t, TypeCall.add t ∈ history → t.name ≠ name := by
      obtain ⟨u, member, named⟩ := addedIff.mp ⟨t, added⟩
      exact fun never => never u member named
    rw [or_iff_right known, filterOf?, findPresent r present, found, only, only]
    cases component with
    | none => simp
    | some c => by_cases blank : c = "" <;> simp [blank, eq_comm]

theorem recordedFormat (recorded : Recorded r history) (present : name ≠ "") {t : FieldType}
    {f : Formatter} (added : LastWrite TypeCall.added? history name t)
    (own : t.formatter = some f) (v options : Value) :
    r.format (some name) v options = f.apply v options := by
  obtain ⟨component, written⟩ := componentWritten added
  have found := (recorded.entry name _).mpr ⟨t, component, added, written, rfl⟩
  rw [format, findPresent r present, found]
  simp [own]

theorem recordedPlain (recorded : Recorded r history) (present : name ≠ "")
    (plain : ∀ t, LastWrite TypeCall.added? history name t → t.formatter = none) :
    ShownPlainly (r.format (some name)) := by
  have none : (r.find? (some name)).bind (·.formatter) = none := by
    rw [findPresent r present]
    refine Option.bind_eq_none_iff.mpr fun u found => ?_
    obtain ⟨t, _, added, -, rfl⟩ := (recorded.entry name u).mp found
    exact plain t added
  refine ⟨fun options => ?_, fun v options notNull => ?_⟩
  · rw [format, none]
    rfl
  · rw [format, none]
    simp [plainText, notNull]

theorem recordedTells (recorded : Recorded r history) (present : name ≠ "") :
    Tells r history name where
  filtered := recordedFilter recorded present
  unfiltered := recordedNoFilter recorded present
  formatted := fun _ _ added own => recordedFormat recorded present added own
  unformatted := recordedPlain recorded present

theorem recordedNames (recorded : Recorded r history) : r.names.Pairwise (· < ·) ∧
    ∀ n, n ∈ r.names ↔ ∃ t, TypeCall.add t ∈ history ∧ t.name = n :=
  ⟨Registry.namesRising recorded.distinct, fun n =>
    (Registry.namesPresent r n).trans (entryIff recorded n)⟩

theorem typesFollowCalls (start : Option Settings) (calls : List TypeCall) :
    let r := (atFirst start).performAll calls
    let history := (typesAtFirst start).map .add ++ calls
    (∀ name, name ≠ "" → Tells r history name) ∧
    (r.names.Pairwise (· < ·) ∧ ∀ n, n ∈ r.names ↔ ∃ t, TypeCall.add t ∈ history ∧ t.name = n) ∧
    ∀ name component, ComponentAlone name r (r.setComponent name component) := by
  intro r history
  have recorded : Recorded r history := performAllRecorded (atFirstRecorded start) calls
  exact ⟨fun name present => recordedTells recorded present, recordedNames recorded,
    fun name component => componentAlone r name component⟩

def dollars : Formatter := .own fun v _ => do .ok ("$" ++ (← v.text?))

def moneyType : FieldType := ⟨"money", some dollars, none, [("currency", .text "$")]⟩

def mixedCalls : List TypeCall :=
  [.setComponent "decimal" (some "RangeFilter"), .setComponent "money" (some "EarlyFilter"),
    .add moneyType, .setComponent "money" (some "MoneyFilter"),
    .setComponent "missing" (some "TextFilter")]

theorem mixedCallsFollowed :
    let r := (standard .default).performAll mixedCalls
    r.filterOf? (some "money") = some ("MoneyFilter", [("currency", .text "$")]) ∧
      r.format (some "money") (.text "5.00") .null = .ok "$5.00" ∧
      r.filterOf? (some "decimal") = some ("RangeFilter", [("decimal", .bool true)]) ∧
      r.filterOf? (some "double") = some ("NumericFilter", [("decimal", .bool true)]) ∧
      r.filterOf? (some "missing") = none ∧ "missing" ∉ r.names := by
  intro r
  obtain ⟨tells, ⟨-, listed⟩, -⟩ := typesFollowCalls (some .default) mixedCalls
  have money := tells "money" (by decide)
  let first : List TypeCall := (standardTypes .default).map .add
  have moneyAdded : LastWrite TypeCall.added? (first ++ mixedCalls) "money" moneyType :=
    ⟨first ++ mixedCalls.take 2, .add moneyType, mixedCalls.drop 3, rfl, rfl, by
      simp [mixedCalls, TypeCall.added?]⟩
  have moneySet :
      LastWrite TypeCall.component? (first ++ mixedCalls) "money" (some "MoneyFilter") :=
    ⟨first ++ mixedCalls.take 3, _, mixedCalls.drop 4, rfl, rfl, by
      simp [mixedCalls, TypeCall.component?]⟩
  have decimalAdded : ∃ t, LastWrite TypeCall.added? (first ++ mixedCalls) "decimal" t ∧
      t.params = [("decimal", .bool true)] :=
    ⟨_, ⟨first.take 3, _, first.drop 4 ++ mixedCalls, rfl, rfl, by
      simp [first, standardTypes, mixedCalls, moneyType, TypeCall.added?]⟩, rfl⟩
  have decimalSet :
      LastWrite TypeCall.component? (first ++ mixedCalls) "decimal" (some "RangeFilter") :=
    ⟨first, _, mixedCalls.drop 1, rfl, rfl, by
      simp [mixedCalls, moneyType, TypeCall.component?]⟩
  have doubleAdded : ∃ t, LastWrite TypeCall.added? (first ++ mixedCalls) "double" t ∧
      t.params = [("decimal", .bool true)] :=
    ⟨_, ⟨first.take 4, _, first.drop 5 ++ mixedCalls, rfl, rfl, by
      simp [first, standardTypes, mixedCalls, moneyType, TypeCall.added?]⟩, rfl⟩
  have doubleSet :
      LastWrite TypeCall.component? (first ++ mixedCalls) "double" (some "NumericFilter") :=
    ⟨first.take 4, _, first.drop 5 ++ mixedCalls, rfl, rfl, by
      simp [first, standardTypes, mixedCalls, moneyType, TypeCall.component?]⟩
  have neverAdded : ∀ t, TypeCall.add t ∈ first ++ mixedCalls → t.name ≠ "missing" := by
    simp [first, standardTypes, mixedCalls, moneyType]
  have displayed : dollars.apply (.text "5.00") .null = .ok "$5.00" := rfl
  refine ⟨(money.filtered _ _).mpr ⟨by decide, moneySet, moneyType, moneyAdded, rfl⟩,
    (money.formatted _ _ moneyAdded rfl _ .null).trans displayed,
    ((tells "decimal" (by decide)).filtered _ _).mpr ⟨by decide, decimalSet, decimalAdded⟩,
    ((tells "double" (by decide)).filtered _ _).mpr ⟨by decide, doubleSet, doubleAdded⟩,
    (tells "missing" (by decide)).unfiltered.mpr (.inl neverAdded), fun known => ?_⟩
  obtain ⟨t, member, named⟩ := (listed "missing").mp known
  exact neverAdded t member named

end TypeRegistry
end TableQuery.Display
