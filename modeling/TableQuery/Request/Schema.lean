import TableQuery.Request.Basic
import TableQuery.Request.Validation

/-! How requests and pages are read from values and written as values.
Fields are read under their wire name or their plain name, the wire name first. Unknown fields are
ignored. Reading what was written gives the same request. -/
namespace TableQuery
open Validation Validation.Checked

inductive Naming where
  | wire
  | plain
  deriving DecidableEq, Repr

def Naming.of (naming : Naming) (name : FieldName) : String :=
  match naming with
  | wire => name.alias_
  | plain => name.plain

def pageSizeName : FieldName := ⟨"pageSize", "page_size"⟩
def dataTypeName : FieldName := ⟨"dataType", "data_type"⟩
def dataUrlName : FieldName := ⟨"dataUrl", "data_url"⟩
def pageUrlName : FieldName := ⟨"pageUrl", "page_url"⟩

def single : String → FieldName := FieldName.single

def Value.ofText? : Option String → Value
  | some s => .text s
  | none => .null

def Value.ofNat? : Option Nat → Value
  | some n => .int n
  | none => .null

def Value.ofEntries? : Option (List (String × Value)) → Value
  | some entries => .dict entries
  | none => .null

def FilterClause.read (otherwise : IssueKind) : Value → Checked FilterClause :=
  object otherwise fun es =>
    (((required (single "field") text es).map FilterClause.mk).and
      (given (single "operator") .null anything es)).and
      (given (single "value") .null anything es)

def FilterClause.toValue (c : FilterClause) : Value :=
  .dict [("field", .text c.field), ("operator", c.operator), ("value", c.operand)]

def FilterGroup.read (otherwise : IssueKind) : Value → Checked FilterGroup :=
  object otherwise fun es =>
    (given (single "filters") [] (list (FilterClause.read otherwise)) es).map FilterGroup.mk

def FilterGroup.toValue (g : FilterGroup) : Value :=
  .dict [("filters", .list (g.clauses.map FilterClause.toValue))]

def SortKey.read (otherwise : IssueKind) : Value → Checked SortKey :=
  object otherwise fun es =>
    ((required (single "field") text es).map SortKey.mk).and
      (given (single "direction") (.direction .ascending) anything es)

def SortKey.toValue (k : SortKey) : Value :=
  .dict [("field", .text k.field), ("direction", k.direction)]

def FieldInfo.read (otherwise : IssueKind) : Value → Checked FieldInfo :=
  object otherwise fun es =>
    ((required (single "field") text es).map FieldInfo.mk).and
      (given dataTypeName none (optional text) es)

def FieldInfo.toValue (naming : Naming) (i : FieldInfo) : Value :=
  .dict [("field", .text i.field), (naming.of dataTypeName, .ofText? i.dataType)]

def Request.read (otherwise : IssueKind) : Value → Checked Request :=
  object otherwise fun es =>
    ((((((given (single "page") (some 0) (optional (natural 0 .atLeast)) es).map Request.mk).and
      (given pageSizeName none (optional (natural 1 .above)) es)).and
      (given (single "sorting") [] (list (SortKey.read otherwise)) es)).and
      (given (single "filters") [] (list (FilterGroup.read otherwise)) es)).and
      (given (single "fields") [] (list (FieldInfo.read otherwise)) es)).and
      (given (single "args") none (optional mapping) es)

def Request.toValue (naming : Naming) (r : Request) : Value :=
  .dict [("page", .ofNat? r.page), (naming.of pageSizeName, .ofNat? r.pageSize),
    ("sorting", .list (r.sorting.map SortKey.toValue)),
    ("filters", .list (r.filters.map FilterGroup.toValue)),
    ("fields", .list (r.fields.map (FieldInfo.toValue naming))),
    ("args", .ofEntries? r.args)]

def Version.read (v : Value) : Checked Version :=
  match (Validation.int v).get?.bind ofNumber? with
  | some version => valid version
  | none =>
    match equalTo? v with
    | .ok (some version) => valid version
    | _ => fail .memberExpected

def UrlRequest.read (otherwise : IssueKind) : Value → Checked UrlRequest :=
  object otherwise fun es =>
    (((given (single "version") .v4 Version.read es).map UrlRequest.mk).and
      (required (single "url") text es)).and
      (given (single "request") .everything (Request.read otherwise) es)

def UrlRequest.toValue (naming : Naming) (r : UrlRequest) : Value :=
  .dict [("version", .version r.version), ("url", .text r.url),
    ("request", r.request.toValue naming)]

def Page.read (otherwise : IssueKind) : Value → Checked Page :=
  object otherwise fun es =>
    ((given (single "items") [] (list anything) es).map Page.mk).and
      (given (single "total") 0 (natural 0 .atLeast) es)

def Page.toValue (p : Page) : Value := .dict [("items", .list p.items), ("total", .int p.total)]

def UrlSet.read (otherwise : IssueKind) : Value → Checked UrlSet :=
  object otherwise fun es =>
    ((required dataUrlName text es).map UrlSet.mk).and (required pageUrlName text es)

def UrlSet.toValue (naming : Naming) (u : UrlSet) : Value :=
  .dict [(naming.of dataUrlName, .text u.dataUrl), (naming.of pageUrlName, .text u.pageUrl)]

def SourceInfo.read (otherwise : IssueKind) : Value → Checked SourceInfo :=
  object otherwise fun es =>
    ((required (single "name") text es).map SourceInfo.mk).and (required (single "kind") text es)

def SourceInfo.toValue (i : SourceInfo) : Value :=
  .dict [("name", .text i.name), ("kind", .text i.kind)]

def FieldTypeInfo.read (otherwise : IssueKind) : Value → Checked FieldTypeInfo :=
  object otherwise fun es =>
    ((required (single "name") text es).map FieldTypeInfo.mk).and
      (given (single "filter") none (optional mapping) es)

def FieldTypeInfo.toValue (i : FieldTypeInfo) : Value :=
  .dict [("name", .text i.name), ("filter", .ofEntries? i.filter)]

end TableQuery
