import TableQuery.Proofs.Request.Reading
import TableQuery.Proofs.Value.JsonLike

/-! Requests that were read from values as JSON has them.
What they hold untyped are such values again, and their numbers are no longer than may be told, also
where they were read from text. -/
namespace TableQuery
open Text Validation Value

variable {α : Type} {otherwise : IssueKind}

theorem mapDigitsBelow {cs : List Char} {ds : List Nat} (read : cs.mapM asciiDigit? = some ds) :
    ∀ d ∈ ds, d < 10 := by
  induction cs generalizing ds with
  | nil =>
    cases read
    exact nofun
  | cons c cs ih =>
    simp only [List.mapM_cons, Option.bind_eq_bind, Option.bind_eq_some_iff] at read
    obtain ⟨d, digit, rest, others, last⟩ := read
    cases last
    exact List.forall_mem_cons.mpr ⟨asciiDigitBelow digit, ih others⟩

theorem plainDigitsBelow {cs : List Char} {negative : Bool} {ds : List Nat}
    (read : plainInteger? cs = some (negative, ds)) : ∀ d ∈ ds, d < 10 := by
  unfold plainInteger? at read
  split at read
  split at read
  · cases read
  · cases read
  · next digits =>
    cases read
    exact mapDigitsBelow digits
  · cases read

theorem textIntegerShort {s : String} {n : Int} (read : intOfText s = .valid n) :
    tooManyDigits n = false := by
  unfold intOfText at read
  split at read
  · next digits =>
    split at read
    · next few =>
      cases read
      exact shortDigits _ (plainDigitsBelow digits) few
    · cases read
  · split at read
    · next found =>
      obtain ⟨_, -, digits⟩ := Option.bind_eq_some_iff.mp found
      split at read
      · next few =>
        cases read
        exact shortDigits _ (plainDigitsBelow digits) few
      · cases read
    · cases read

theorem floatIntegerShort {x : Binary64} {n : Int} (read : intOfFloat x = .valid n) :
    tooManyDigits n = false := by
  unfold intOfFloat at read
  split at read
  · split at read
    · next small =>
      cases read
      exact tooManyBelow 19 (by decide) (Nat.lt_trans small (by decide))
    · cases read
  · cases read
  · cases read

theorem integerShort {v : Value} {n : Int} (like : JsonLike v) (read : Validation.int v = .valid n) :
    tooManyDigits n = false := by
  cases like with
  | int short =>
    cases read
    exact tooManyBelow 1999 (by decide) short
  | bool b =>
    cases read
    exact tooManyBelow 1 (by decide) (by cases b <;> decide)
  | float => exact floatIntegerShort read
  | text s => exact textIntegerShort read
  | _ => cases read

theorem memberLike {es : List (String × Value)} (like : JsonLike (.dict es)) {name : FieldName}
    {v : Value} (found : member? name es = some v) : JsonLike v := by
  obtain there | ⟨-, there⟩ := Option.or_eq_some_iff.mp found
  · exact jsonTame.entries like _ (findMem there)
  · exact jsonTame.entries like _ (findMem there)

theorem givenLike {es : List (String × Value)} (like : JsonLike (.dict es)) {name : FieldName}
    {absent a : α} {read : Value → Checked α} {p : α → Prop}
    (found : given name absent read es = .valid a) (default : p absent)
    (each : ∀ v b, JsonLike v → read v = .valid b → p b) : p a := by
  obtain ⟨-, same⟩ | ⟨v, there, told⟩ := givenValid.mp found
  · exact same ▸ default
  · exact each v a (memberLike like there) told

theorem listLike {read : Value → Checked α} {p : α → Prop} {v : Value} {as : List α}
    (like : JsonLike v) (found : list read v = .valid as)
    (each : ∀ w a, JsonLike w → read w = .valid a → p a) : ∀ a ∈ as, p a := by
  obtain ⟨vs, inside, pairs⟩ := listValid.mp found
  have likes := jsonTame.members like inside
  clear inside found like
  induction pairs with
  | nil => exact nofun
  | cons told _ ih =>
    obtain ⟨first, others⟩ := List.forall_mem_cons.mp likes
    exact List.forall_mem_cons.mpr ⟨each _ _ first told, ih others⟩

theorem optionalLike {read : Value → Checked α} {v : Value} {o : Option α}
    (found : optional read v = .valid o) : ∀ a, o = some a → read v = .valid a := by
  rintro a rfl
  obtain ⟨-, none⟩ | ⟨-, b, told, same⟩ := optionalValid.mp found
  · cases none
  · cases same
    exact told

structure Request.FromJson (r : Request) : Prop where
  clauses : ∀ c ∈ r.clauses, JsonLike c.operator ∧ JsonLike c.operand
  directions : ∀ k ∈ r.sorting, k.direction.hasLongInteger = false
  args : ∀ es, r.args = some es → JsonLike (.dict es)
  size : ∀ n : Nat, r.pageSize = some n → tooManyDigits n = false

theorem clauseFromJson {v : Value} {c : FilterClause} (like : JsonLike v)
    (read : FilterClause.read otherwise v = .valid c) : JsonLike c.operator ∧ JsonLike c.operand := by
  obtain ⟨es, rfl, fields⟩ := FilterClause.readIff.mp read
  have kept : ∀ w a, JsonLike w → anything w = .valid a → JsonLike a := by
    rintro w _ like ⟨⟩
    exact like
  exact ⟨givenLike like fields.operator .null kept, givenLike like fields.operand .null kept⟩

theorem groupFromJson {v : Value} {g : FilterGroup} (like : JsonLike v)
    (read : FilterGroup.read otherwise v = .valid g) :
    ∀ c ∈ g.clauses, JsonLike c.operator ∧ JsonLike c.operand := by
  obtain ⟨es, rfl, clauses⟩ := FilterGroup.readIff.mp read
  exact givenLike like clauses nofun fun w cs like found =>
    listLike like found fun _ _ => clauseFromJson

theorem keyFromJson {v : Value} {k : SortKey} (like : JsonLike v)
    (read : SortKey.read otherwise v = .valid k) : k.direction.hasLongInteger = false := by
  obtain ⟨es, rfl, fields⟩ := SortKey.readIff.mp read
  refine givenLike (p := fun d => d.hasLongInteger = false) like fields.direction rfl ?_
  rintro w _ like ⟨⟩
  exact like.short

theorem Request.fromJson {v : Value} {r : Request} (like : JsonLike v)
    (read : Request.read otherwise v = .valid r) : r.FromJson := by
  obtain ⟨es, rfl, fields⟩ := Request.readIff.mp read
  have groups : ∀ g ∈ r.filters, ∀ c ∈ g.clauses, JsonLike c.operator ∧ JsonLike c.operand :=
    givenLike like fields.filters nofun fun w gs like found =>
      listLike like found fun _ _ => groupFromJson
  refine ⟨fun c member => ?_, ?_, ?_, ?_⟩
  · obtain ⟨g, group, inside⟩ := List.mem_flatMap.mp member
    exact groups g group c inside
  · exact givenLike like fields.sorting nofun fun w ks like found =>
      listLike like found fun _ _ => keyFromJson
  · refine givenLike (p := fun o => ∀ es, o = some es → JsonLike (.dict es)) like fields.args nofun
      fun w o like found es told => ?_
    have mapped := optionalLike found es told
    cases like with
    | dict inside =>
      cases mapped
      exact .dict inside
    | _ => cases mapped
  · refine givenLike (p := fun o => ∀ n : Nat, o = some n → tooManyDigits n = false) like
      fields.pageSize nofun fun w o like found n told => ?_
    exact integerShort like (naturalValid.mp (optionalLike found n told)).1

theorem UrlRequest.fromJson {v : Value} {u : UrlRequest} (like : JsonLike v)
    (read : UrlRequest.read otherwise v = .valid u) : u.request.FromJson := by
  obtain ⟨es, rfl, fields⟩ := UrlRequest.readIff.mp read
  exact givenLike like fields.request ⟨nofun, nofun, nofun, nofun⟩ fun _ _ => Request.fromJson

end TableQuery
