import TableQuery.Request.Schema
import Mathlib.Data.List.Forall2

/-! What readers of typed fields read.
For every reader it is said on which values it succeeds, and with what; the readers of requests then
come down to one condition for each field. -/
namespace TableQuery.Validation
open Checked Value

variable {α β : Type}

@[simp] theorem failNeverValid (kind : IssueKind) (a : α) : fail kind ≠ .valid a := nofun

@[simp] theorem mapValid {x : Checked α} {f : α → β} {b : β} :
    x.map f = .valid b ↔ ∃ a, x = .valid a ∧ f a = b := by
  cases x <;> simp [map]

@[simp] theorem andValid {x : Checked (α → β)} {y : Checked α} {b : β} :
    x.and y = .valid b ↔ ∃ f a, x = .valid f ∧ y = .valid a ∧ f a = b := by
  cases x <;> cases y <;> simp [Checked.and]

@[simp] theorem underValid {step : Step} {x : Checked α} {a : α} :
    x.under step = .valid a ↔ x = .valid a := by
  cases x <;> simp [under]

theorem andThenValid {x : Checked α} {f : α → Checked β} {b : β} :
    x.andThen f = .valid b ↔ ∃ a, x = .valid a ∧ f a = .valid b := by
  cases x <;> simp [andThen]

theorem naturalValid {least : Nat} {kind : IssueKind} {v : Value} {n : Nat} :
    natural least kind v = .valid n ↔ int v = .valid (n : Int) ∧ least ≤ n := by
  rw [natural, andThenValid]
  constructor
  · rintro ⟨k, read, found⟩
    split at found
    · cases found
      rw [read, Checked.valid.injEq]
      omega
    · cases found
  · rintro ⟨read, large⟩
    exact ⟨n, read, if_pos (Int.ofNat_le.mpr large)⟩

theorem optionalValid {read : Value → Checked α} {v : Value} {o : Option α} :
    optional read v = .valid o ↔
      (v = .null ∧ o = none) ∨ (v ≠ .null ∧ ∃ a, read v = .valid a ∧ o = some a) := by
  cases v <;> simp [optional, eq_comm]

theorem membersValid {read : Value → Checked α} {vs : List Value} {as : List α} (i : Nat) :
    members read i vs = .valid as ↔ List.Forall₂ (fun v a => read v = .valid a) vs as := by
  induction vs generalizing i as with
  | nil => simp [members, eq_comm]
  | cons v vs ih =>
    simp only [members, andValid, mapValid, underValid, ih, List.forall₂_cons_left_iff]
    constructor
    · rintro ⟨-, rest, ⟨a, first, rfl⟩, others, rfl⟩
      exact ⟨a, rest, first, others, rfl⟩
    · rintro ⟨a, rest, first, others, rfl⟩
      exact ⟨_, rest, ⟨a, first, rfl⟩, others, rfl⟩

theorem listValid {read : Value → Checked α} {v : Value} {as : List α} :
    list read v = .valid as ↔
      ∃ vs, v.members? = some vs ∧ List.Forall₂ (fun v a => read v = .valid a) vs as := by
  unfold list
  cases v.members? <;> simp [membersValid]

def member? (name : FieldName) (es : List (String × Value)) : Option Value :=
  (find? name.alias_ es).or (find? name.plain es)

theorem givenEntry (name : FieldName) (es : List (String × Value)) :
    (given? name es).map (·.2) = member? name es := by
  unfold given? member?
  cases find? name.alias_ es <;> cases find? name.plain es <;> rfl

theorem givenValid {name : FieldName} {absent : α} {read : Value → Checked α}
    {es : List (String × Value)} {a : α} :
    given name absent read es = .valid a ↔
      (member? name es = none ∧ absent = a) ∨ ∃ v, member? name es = some v ∧ read v = .valid a := by
  rw [given, ← givenEntry]
  cases given? name es <;> simp

theorem requiredValid {name : FieldName} {read : Value → Checked α} {es : List (String × Value)}
    {a : α} :
    required name read es = .valid a ↔ ∃ v, member? name es = some v ∧ read v = .valid a := by
  rw [required, ← givenEntry]
  cases given? name es <;> simp

theorem givenFound {name : FieldName} {absent : α} {read : Value → Checked α}
    {es : List (String × Value)} {v : Value} {a : α} (found : member? name es = some v)
    (ok : read v = .valid a) : given name absent read es = .valid a :=
  givenValid.mpr (.inr ⟨v, found, ok⟩)

theorem requiredFound {name : FieldName} {read : Value → Checked α}
    {es : List (String × Value)} {v : Value} {a : α} (found : member? name es = some v)
    (ok : read v = .valid a) : required name read es = .valid a :=
  requiredValid.mpr ⟨v, found, ok⟩

theorem objectValid {otherwise : IssueKind} {read : List (String × Value) → Checked α} {v : Value}
    {a : α} : object otherwise read v = .valid a ↔ ∃ es, v = .dict es ∧ read es = .valid a := by
  cases v <;> simp [object]

end TableQuery.Validation

namespace TableQuery
open Validation

variable {otherwise : IssueKind} {v : Value}

structure FilterClause.Fields (es : List (String × Value)) (c : FilterClause) : Prop where
  field : required (single "field") text es = .valid c.field
  operator : given (single "operator") .null anything es = .valid c.operator
  operand : given (single "value") .null anything es = .valid c.operand

theorem FilterClause.readIff {c : FilterClause} :
    FilterClause.read otherwise v = .valid c ↔ ∃ es, v = .dict es ∧ Fields es c := by
  simp only [FilterClause.read, objectValid, andValid, mapValid]
  constructor
  · rintro ⟨es, rfl, -, operand, ⟨-, operator, ⟨field, named, rfl⟩, compared, rfl⟩, given, rfl⟩
    exact ⟨es, rfl, named, compared, given⟩
  · rintro ⟨es, rfl, named, compared, given⟩
    exact ⟨es, rfl, _, _, ⟨_, _, ⟨_, named, rfl⟩, compared, rfl⟩, given, rfl⟩

theorem FilterGroup.readIff {g : FilterGroup} :
    FilterGroup.read otherwise v = .valid g ↔ ∃ es, v = .dict es ∧
      given (single "filters") [] (list (FilterClause.read otherwise)) es = .valid g.clauses := by
  simp only [FilterGroup.read, objectValid, mapValid]
  constructor
  · rintro ⟨es, rfl, clauses, read, rfl⟩
    exact ⟨es, rfl, read⟩
  · rintro ⟨es, rfl, read⟩
    exact ⟨es, rfl, _, read, rfl⟩

structure SortKey.Fields (es : List (String × Value)) (k : SortKey) : Prop where
  field : required (single "field") text es = .valid k.field
  direction : given (single "direction") (.direction .ascending) anything es = .valid k.direction

theorem SortKey.readIff {k : SortKey} :
    SortKey.read otherwise v = .valid k ↔ ∃ es, v = .dict es ∧ Fields es k := by
  simp only [SortKey.read, objectValid, andValid, mapValid]
  constructor
  · rintro ⟨es, rfl, -, direction, ⟨field, named, rfl⟩, given, rfl⟩
    exact ⟨es, rfl, named, given⟩
  · rintro ⟨es, rfl, named, given⟩
    exact ⟨es, rfl, _, _, ⟨_, named, rfl⟩, given, rfl⟩

structure FieldInfo.Fields (es : List (String × Value)) (i : FieldInfo) : Prop where
  field : required (single "field") text es = .valid i.field
  dataType : given dataTypeName none (optional text) es = .valid i.dataType

theorem FieldInfo.readIff {i : FieldInfo} :
    FieldInfo.read otherwise v = .valid i ↔ ∃ es, v = .dict es ∧ Fields es i := by
  simp only [FieldInfo.read, objectValid, andValid, mapValid]
  constructor
  · rintro ⟨es, rfl, -, dataType, ⟨field, named, rfl⟩, given, rfl⟩
    exact ⟨es, rfl, named, given⟩
  · rintro ⟨es, rfl, named, given⟩
    exact ⟨es, rfl, _, _, ⟨_, named, rfl⟩, given, rfl⟩

structure Request.Fields (otherwise : IssueKind) (es : List (String × Value)) (r : Request) :
    Prop where
  page : given (single "page") (some 0) (optional (natural 0 .atLeast)) es = .valid r.page
  pageSize : given pageSizeName none (optional (natural 1 .above)) es = .valid r.pageSize
  sorting : given (single "sorting") [] (list (SortKey.read otherwise)) es = .valid r.sorting
  filters : given (single "filters") [] (list (FilterGroup.read otherwise)) es = .valid r.filters
  fields : given (single "fields") [] (list (FieldInfo.read otherwise)) es = .valid r.fields
  args : given (single "args") none (optional mapping) es = .valid r.args

theorem Request.readIff {r : Request} :
    Request.read otherwise v = .valid r ↔ ∃ es, v = .dict es ∧ Fields otherwise es r := by
  simp only [Request.read, objectValid, andValid, mapValid]
  constructor
  · rintro ⟨es, rfl, -, args, ⟨-, infos, ⟨-, groups, ⟨-, keys, ⟨-, size, ⟨page, paged, rfl⟩, sized,
      rfl⟩, sorted, rfl⟩, filtered, rfl⟩, described, rfl⟩, given, rfl⟩
    exact ⟨es, rfl, paged, sized, sorted, filtered, described, given⟩
  · rintro ⟨es, rfl, paged, sized, sorted, filtered, described, given⟩
    exact ⟨es, rfl, _, _, ⟨_, _, ⟨_, _, ⟨_, _, ⟨_, _, ⟨_, paged, rfl⟩, sized, rfl⟩, sorted, rfl⟩,
      filtered, rfl⟩, described, rfl⟩, given, rfl⟩

structure UrlRequest.Fields (otherwise : IssueKind) (es : List (String × Value)) (r : UrlRequest) :
    Prop where
  version : given (single "version") .v4 Version.read es = .valid r.version
  url : required (single "url") text es = .valid r.url
  request : given (single "request") .everything (Request.read otherwise) es = .valid r.request

theorem UrlRequest.readIff {r : UrlRequest} :
    UrlRequest.read otherwise v = .valid r ↔ ∃ es, v = .dict es ∧ Fields otherwise es r := by
  simp only [UrlRequest.read, objectValid, andValid, mapValid]
  constructor
  · rintro ⟨es, rfl, -, request, ⟨-, url, ⟨version, chosen, rfl⟩, addressed, rfl⟩, given, rfl⟩
    exact ⟨es, rfl, chosen, addressed, given⟩
  · rintro ⟨es, rfl, chosen, addressed, given⟩
    exact ⟨es, rfl, _, _, ⟨_, _, ⟨_, chosen, rfl⟩, addressed, rfl⟩, given, rfl⟩

end TableQuery
