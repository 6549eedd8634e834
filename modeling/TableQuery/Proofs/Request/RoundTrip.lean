import Mathlib
import TableQuery.Proofs.Request.Reading

/-! Requests that are written and read again.
What was read as a request is read back from either way of writing it, and from the same value with its
fields spelled in another way. -/
namespace TableQuery
open Validation Value

variable {otherwise : IssueKind}

theorem listWritten {α : Type} {read : Value → Checked α} {write : α → Value}
    (back : ∀ a, read (write a) = .valid a) (as : List α) :
    list read (.list (as.map write)) = .valid as := by
  refine listValid.mpr ⟨as.map write, rfl, ?_⟩
  rw [List.forall₂_map_left_iff]
  exact List.forall₂_same.mpr fun a _ => back a

theorem naturalWritten {least n : Nat} (kind : IssueKind) (large : least ≤ n) :
    natural least kind (.int n) = .valid n := naturalValid.mpr ⟨rfl, large⟩

theorem naturalsWritten {least : Nat} (kind : IssueKind) {o : Option Nat}
    (large : ∀ n, o = some n → least ≤ n) :
    optional (natural least kind) (.ofNat? o) = .valid o := by
  cases o with
  | none => rfl
  | some n => exact optionalValid.mpr (.inr ⟨nofun, n, naturalWritten kind (large n rfl), rfl⟩)

theorem textsWritten (o : Option String) : optional text (.ofText? o) = .valid o := by
  cases o <;> rfl

theorem entriesWritten (o : Option (List (String × Value))) :
    optional mapping (.ofEntries? o) = .valid o := by
  cases o <;> rfl

theorem clauseWritten (otherwise : IssueKind) (c : FilterClause) :
    FilterClause.read otherwise c.toValue = .valid c := rfl

theorem groupWritten (otherwise : IssueKind) (g : FilterGroup) :
    FilterGroup.read otherwise g.toValue = .valid g :=
  FilterGroup.readIff.mpr
    ⟨_, rfl, givenFound rfl (listWritten (clauseWritten otherwise) g.clauses)⟩

theorem keyWritten (otherwise : IssueKind) (k : SortKey) :
    SortKey.read otherwise k.toValue = .valid k := rfl

theorem infoWritten (otherwise : IssueKind) (naming : Naming) (i : FieldInfo) :
    FieldInfo.read otherwise (i.toValue naming) = .valid i := by
  refine FieldInfo.readIff.mpr ⟨_, rfl, requiredFound rfl rfl, ?_⟩
  cases naming <;> exact givenFound rfl (textsWritten i.dataType)

theorem requestWritten (otherwise : IssueKind) (naming : Naming) {r : Request}
    (positive : ∀ n, r.pageSize = some n → 0 < n) :
    Request.read otherwise (r.toValue naming) = .valid r := by
  refine Request.readIff.mpr ⟨_, rfl, ?_⟩
  have page := naturalsWritten .atLeast (o := r.page) fun n _ => Nat.zero_le n
  have size := naturalsWritten .above positive
  have sorting := listWritten (keyWritten otherwise) r.sorting
  have filters := listWritten (groupWritten otherwise) r.filters
  have fields := listWritten (infoWritten otherwise naming) r.fields
  cases naming <;>
    exact ⟨givenFound rfl page, givenFound rfl size, givenFound rfl sorting, givenFound rfl filters,
      givenFound rfl fields, givenFound rfl (entriesWritten r.args)⟩

theorem versionWritten (v : Version) : Version.read (.version v) = .valid v := by cases v <;> rfl

theorem urlRequestWritten (otherwise : IssueKind) (naming : Naming) {u : UrlRequest}
    (positive : ∀ n, u.request.pageSize = some n → 0 < n) :
    UrlRequest.read otherwise (u.toValue naming) = .valid u :=
  UrlRequest.readIff.mpr ⟨_, rfl, givenFound rfl (versionWritten u.version), requiredFound rfl rfl,
    givenFound rfl (requestWritten otherwise naming positive)⟩

structure PagesRead (es : List (String × Value)) (r : Request) : Prop where
  page : ∀ v, find? "page" es = some v →
    (v = .null ∧ r.page = none) ∨ ∃ n : Nat, Validation.int v = .valid (n : Int) ∧ r.page = some n
  pageSize : ∀ n, r.pageSize = some n →
    0 < n ∧ ∃ v, member? pageSizeName es = some v ∧ Validation.int v = .valid (n : Int)

theorem singleEntry (name : String) (es : List (String × Value)) :
    member? (single name) es = find? name es := by
  show (find? name es).or (find? name es) = _
  cases find? name es <;> rfl

theorem pagesRead {es : List (String × Value)} {r : Request}
    (fields : Request.Fields otherwise es r) : PagesRead es r := by
  refine ⟨fun v found => ?_, fun n sized => ?_⟩
  · rcases givenValid.mp fields.page with ⟨absent, -⟩ | ⟨w, there, read⟩
    · cases found.symm.trans ((singleEntry "page" es).symm.trans absent)
    · cases found.symm.trans ((singleEntry "page" es).symm.trans there)
      rcases optionalValid.mp read with ⟨null, none⟩ | ⟨-, n, natural, some⟩
      · exact .inl ⟨null, none⟩
      · exact .inr ⟨n, (naturalValid.mp natural).1, some⟩
  · rcases givenValid.mp fields.pageSize with ⟨-, none⟩ | ⟨v, found, read⟩
    · cases none.trans sized
    · rcases optionalValid.mp read with ⟨-, none⟩ | ⟨-, k, natural, some⟩
      · cases none.symm.trans sized
      · cases some.symm.trans sized
        obtain ⟨int, positive⟩ := naturalValid.mp natural
        exact ⟨positive, v, found, int⟩

inductive Renamed (name : FieldName) (es fs : List (String × Value)) : Prop
  | same (all : ∀ key, find? key fs = find? key es)
  | toPlain (free : find? name.plain es = none) (gone : find? name.alias_ fs = none)
      (moved : find? name.plain fs = find? name.alias_ es)
      (others : ∀ key, key ≠ name.alias_ → key ≠ name.plain → find? key fs = find? key es)
  | toAlias (free : find? name.alias_ es = none) (gone : find? name.plain fs = none)
      (moved : find? name.alias_ fs = find? name.plain es)
      (others : ∀ key, key ≠ name.alias_ → key ≠ name.plain → find? key fs = find? key es)

variable {name other : FieldName} {es fs : List (String × Value)}

theorem renamedOwn (renamed : Renamed name es fs) : member? name fs = member? name es := by
  cases renamed with
  | same all => simp [member?, all]
  | toPlain free gone moved others => simp [member?, free, gone, moved]
  | toAlias free gone moved others => simp [member?, free, gone, moved]

theorem renamedOther (renamed : Renamed name es fs) {key : String} (notAlias : key ≠ name.alias_)
    (notPlain : key ≠ name.plain) : member? (single key) fs = member? (single key) es := by
  rw [singleEntry, singleEntry]
  cases renamed with
  | same all => exact all key
  | toPlain free gone moved others | toAlias free gone moved others =>
    exact others key notAlias notPlain

inductive InfoSpelling : Value → Value → Prop
  | same (v : Value) : InfoSpelling v v
  | dataType {es fs : List (String × Value)} (renamed : Renamed dataTypeName es fs) :
      InfoSpelling (.dict es) (.dict fs)

/-- Values for one request, with any of its fields, or of the fields inside them, spelled in another way. -/
inductive RequestSpelling : Value → Value → Prop
  | pageSize {es fs : List (String × Value)} (renamed : Renamed pageSizeName es fs) :
      RequestSpelling (.dict es) (.dict fs)
  | fields {es : List (String × Value)} {v w : Value} {vs ws : List Value}
      (found : find? "fields" es = some v) (lists : v.members? = some vs)
      (listsToo : w.members? = some ws) (each : List.Forall₂ InfoSpelling vs ws) :
      RequestSpelling (.dict es) (.dict (put "fields" w es))
  | next {u v w : Value} (first : RequestSpelling u v) (second : RequestSpelling v w) :
      RequestSpelling u w

inductive UrlSpelling : Value → Value → Prop
  | request {es : List (String × Value)} {v w : Value} (found : find? "request" es = some v)
      (spelling : RequestSpelling v w) : UrlSpelling (.dict es) (.dict (put "request" w es))

theorem givenAlike {α : Type} {absent : α} {read : Value → Checked α}
    (alike : member? name fs = member? name es) {a : α} (ok : given name absent read es = .valid a) :
    given name absent read fs = .valid a := by
  rw [givenValid, alike]
  exact givenValid.mp ok

theorem requiredAlike {α : Type} {read : Value → Checked α}
    (alike : member? name fs = member? name es) {a : α} (ok : required name read es = .valid a) :
    required name read fs = .valid a := by
  rw [requiredValid, alike]
  exact requiredValid.mp ok

theorem infoSpelled {v w : Value} {i : FieldInfo} (spelling : InfoSpelling v w)
    (ok : FieldInfo.read otherwise v = .valid i) : FieldInfo.read otherwise w = .valid i := by
  cases spelling with
  | same => exact ok
  | dataType renamed =>
    obtain ⟨es, same, fields⟩ := FieldInfo.readIff.mp ok
    cases same
    exact FieldInfo.readIff.mpr ⟨_, rfl,
      requiredAlike (renamedOther renamed (by decide) (by decide)) fields.field,
      givenAlike (renamedOwn renamed) fields.dataType⟩

theorem infosSpelled {v w : Value} {vs ws : List Value} {infos : List FieldInfo}
    (lists : v.members? = some vs) (listsToo : w.members? = some ws)
    (each : List.Forall₂ InfoSpelling vs ws)
    (ok : list (FieldInfo.read otherwise) v = .valid infos) :
    list (FieldInfo.read otherwise) w = .valid infos := by
  obtain ⟨us, same, read⟩ := listValid.mp ok
  cases lists.symm.trans same
  refine listValid.mpr ⟨ws, listsToo, ?_⟩
  clear ok lists listsToo same
  induction each generalizing infos with
  | nil => exact read
  | cons spelling rest ih =>
    cases read with
    | cons first others => exact .cons (infoSpelled spelling first) (ih others)

theorem putAlike {key : String} (w : Value) (different : key ≠ name.alias_)
    (differentToo : key ≠ name.plain) : member? name (put key w es) = member? name es := by
  simp only [member?, findPut, if_neg different, if_neg differentToo]

theorem putOwn (key : String) (w : Value) : member? (single key) (put key w es) = some w := by
  rw [singleEntry, findPut, if_pos rfl]

theorem givenReplaced {α : Type} {key : String} {absent : α} {read : Value → Checked α} {v w : Value}
    {a : α} (found : find? key es = some v) (alike : read v = .valid a → read w = .valid a)
    (ok : given (single key) absent read es = .valid a) :
    given (single key) absent read (put key w es) = .valid a := by
  rcases givenValid.mp ok with ⟨none, -⟩ | ⟨u, there, read⟩
  · cases found.symm.trans ((singleEntry key es).symm.trans none)
  · cases found.symm.trans ((singleEntry key es).symm.trans there)
    exact givenFound (putOwn key w) (alike read)

theorem requestSpelled {v w : Value} {r : Request} (spelling : RequestSpelling v w)
    (ok : Request.read otherwise v = .valid r) : Request.read otherwise w = .valid r := by
  induction spelling with
  | pageSize renamed =>
    obtain ⟨es, same, fields⟩ := Request.readIff.mp ok
    cases same
    have other (key : String) (notAlias : key ≠ pageSizeName.alias_)
        (notPlain : key ≠ pageSizeName.plain) := renamedOther renamed notAlias notPlain
    exact Request.readIff.mpr ⟨_, rfl,
      givenAlike (other _ (by decide) (by decide)) fields.page,
      givenAlike (renamedOwn renamed) fields.pageSize,
      givenAlike (other _ (by decide) (by decide)) fields.sorting,
      givenAlike (other _ (by decide) (by decide)) fields.filters,
      givenAlike (other _ (by decide) (by decide)) fields.fields,
      givenAlike (other _ (by decide) (by decide)) fields.args⟩
  | fields found lists listsToo each =>
    obtain ⟨es, same, fields⟩ := Request.readIff.mp ok
    cases same
    exact Request.readIff.mpr ⟨_, rfl,
      givenAlike (putAlike _ (by decide) (by decide)) fields.page,
      givenAlike (putAlike _ (by decide) (by decide)) fields.pageSize,
      givenAlike (putAlike _ (by decide) (by decide)) fields.sorting,
      givenAlike (putAlike _ (by decide) (by decide)) fields.filters,
      givenReplaced found (infosSpelled lists listsToo each) fields.fields,
      givenAlike (putAlike _ (by decide) (by decide)) fields.args⟩
  | next first second ihFirst ihSecond => exact ihSecond (ihFirst ok)

theorem urlRequestSpelled {v w : Value} {u : UrlRequest} (spelling : UrlSpelling v w)
    (ok : UrlRequest.read otherwise v = .valid u) : UrlRequest.read otherwise w = .valid u := by
  cases spelling with
  | request found spelling =>
    obtain ⟨es, same, fields⟩ := UrlRequest.readIff.mp ok
    cases same
    exact UrlRequest.readIff.mpr ⟨_, rfl,
      givenAlike (putAlike _ (by decide) (by decide)) fields.version,
      requiredAlike (putAlike _ (by decide) (by decide)) fields.url,
      givenReplaced found (requestSpelled spelling) fields.request⟩

theorem nestedPages {es : List (String × Value)} {v : Value} {u : UrlRequest}
    (fields : UrlRequest.Fields otherwise es u) (found : find? "request" es = some v) :
    ∃ inner, v = .dict inner ∧ PagesRead inner u.request := by
  rcases givenValid.mp fields.request with ⟨none, -⟩ | ⟨w, there, read⟩
  · cases found.symm.trans ((singleEntry "request" es).symm.trans none)
  · cases found.symm.trans ((singleEntry "request" es).symm.trans there)
    obtain ⟨inner, same, fields⟩ := Request.readIff.mp read
    exact ⟨inner, same, pagesRead fields⟩

theorem nestedPositive {es : List (String × Value)} {u : UrlRequest}
    (fields : UrlRequest.Fields otherwise es u) (n : Nat) (sized : u.request.pageSize = some n) :
    0 < n := by
  rcases givenValid.mp fields.request with ⟨-, everything⟩ | ⟨v, there, read⟩
  · cases (congrArg Request.pageSize everything).trans sized
  · obtain ⟨inner, -, pages⟩ := nestedPages fields ((singleEntry "request" es).symm.trans there)
    exact (pages.pageSize n sized).1

theorem requestsReadBack (otherwise : IssueKind) :
    (∀ v r, Request.read otherwise v = .valid r →
      (∀ naming kind, Request.read kind (r.toValue naming) = .valid r) ∧
      (∃ es, v = .dict es ∧ PagesRead es r) ∧
      ∀ w, RequestSpelling v w → Request.read otherwise w = .valid r) ∧
    ∀ v u, UrlRequest.read otherwise v = .valid u →
      (∀ naming kind, UrlRequest.read kind (u.toValue naming) = .valid u) ∧
      (∀ n, u.request.pageSize = some n → 0 < n) ∧
      (∃ es, v = .dict es ∧ ∀ w, find? "request" es = some w →
        ∃ inner, w = .dict inner ∧ PagesRead inner u.request) ∧
      ∀ w, UrlSpelling v w → UrlRequest.read otherwise w = .valid u := by
  refine ⟨fun v r ok => ?_, fun v u ok => ?_⟩
  · obtain ⟨es, same, fields⟩ := Request.readIff.mp ok
    have pages := pagesRead fields
    exact ⟨fun naming kind => requestWritten kind naming fun n sized => (pages.pageSize n sized).1,
      ⟨es, same, pages⟩, fun w spelling => requestSpelled spelling ok⟩
  · obtain ⟨es, same, fields⟩ := UrlRequest.readIff.mp ok
    have positive := nestedPositive fields
    exact ⟨fun naming kind => urlRequestWritten kind naming positive, positive,
      ⟨es, same, fun w found => nestedPages fields found⟩,
      fun w spelling => urlRequestSpelled spelling ok⟩

def typed (key : String) : Value := .dict [("field", .text "a"), (key, .text "decimal")]

def spelled (size type : String) : List (String × Value) :=
  [(size, .text " 7 "), ("page", .bool true), ("fields", .list [typed type]),
    ("sorting", .tuple [.dict [("field", .text "a")]]), ("colour", .null)]

theorem spelledRename : Renamed pageSizeName (spelled "page_size" "data_type")
    (spelled "pageSize" "data_type") := by
  refine .toAlias rfl rfl rfl fun key notAlias notPlain => ?_
  simp only [pageSizeName] at notAlias notPlain
  simp [spelled, find?, Ne.symm notAlias, Ne.symm notPlain]

theorem typedRename : Renamed dataTypeName [("field", .text "a"), ("data_type", .text "decimal")]
    [("field", .text "a"), ("dataType", .text "decimal")] := by
  refine .toAlias rfl rfl rfl fun key notAlias notPlain => ?_
  simp only [dataTypeName] at notAlias notPlain
  simp [find?, Ne.symm notAlias, Ne.symm notPlain]

theorem spelledOtherwise : RequestSpelling (.dict (spelled "page_size" "data_type"))
    (.dict (spelled "pageSize" "dataType")) :=
  .next (.pageSize spelledRename) (.fields (w := .list [typed "dataType"]) rfl rfl rfl
    (.cons (.dataType typedRename) .nil))

theorem spelledReadBack :
    let v : Value := .dict (spelled "page_size" "data_type")
    let w : Value := .dict (spelled "pageSize" "dataType")
    let u : Value := .dict [("url", .text "/items"), ("version", .text "3"), ("request", v)]
    ∃ r, Request.read .objectExpected v = .valid r ∧ r.page = some 1 ∧ r.pageSize = some 7 ∧
      Request.read .objectExpected (r.toValue .wire) = .valid r ∧
      Request.read .attributesExpected (r.toValue .plain) = .valid r ∧
      Request.read .objectExpected w = .valid r ∧
      UrlRequest.read .objectExpected u = .valid ⟨.v3, "/items", r⟩ ∧
      UrlRequest.read .objectExpected
        (.dict [("url", .text "/items"), ("version", .text "3"), ("request", w)]) =
          .valid ⟨.v3, "/items", r⟩ := by
  intro v w u
  have read : Request.read .objectExpected v = .valid
      ⟨some 1, some 7, [⟨"a", .direction .ascending⟩], [], [⟨"a", some "decimal"⟩], none⟩ := by cbv
  have readUrl : UrlRequest.read .objectExpected u = .valid ⟨.v3, "/items",
      ⟨some 1, some 7, [⟨"a", .direction .ascending⟩], [], [⟨"a", some "decimal"⟩], none⟩⟩ := by cbv
  obtain ⟨requests, addresses⟩ := requestsReadBack .objectExpected
  obtain ⟨written, -, respelled⟩ := requests v _ read
  obtain ⟨-, -, -, respelledUrl⟩ := addresses u _ readUrl
  exact ⟨_, read, rfl, rfl, written .wire _, written .plain _, respelled w spelledOtherwise, readUrl,
    respelledUrl _ (.request rfl spelledOtherwise)⟩

end TableQuery
