import Mathlib
import TableQuery.Proofs.OData.FilterReading
import TableQuery.Proofs.Query.Rejection
import TableQuery.Proofs.Value.Sameness

/-! Membership as the alternatives of equality, one for each candidate.
In memory a candidate is held against the value and not the value against the candidate, so that it
comes down to equality being symmetric; in the remote query each candidate is written as its
equality is. -/
namespace TableQuery
open OData
open TableQuery.Text

def FilterClause.equalities (c : FilterClause) (equal : Value) : List FilterClause :=
  c.operand.candidates.map fun v => ⟨c.field, equal, v⟩

variable {c : FilterClause} {equal : Value}

theorem candidateMatches {field : String} {v row : Value}
    (equals : Operator.resolve equal = .ok .equals) (sound : v.Sound)
    (value : (row.fieldOf field).Sound) :
    FilterClause.matches ⟨field, equal, v⟩ row = v.strictlySame (row.fieldOf field) := by
  rw [FilterClause.matches, equals, okBind]
  exact Value.strictlyCommutes value sound

theorem equalitiesMatch {row : Value} (within : Operator.resolve c.operator = .ok .within)
    (equals : Operator.resolve equal = .ok .equals) (sound : ∀ v ∈ c.operand.candidates, v.Sound)
    (value : (row.fieldOf c.field).Sound) :
    (c.equalities equal).anyM (·.matches row) = c.matches row := by
  have member : c.matches row = amongCandidates (row.fieldOf c.field) c.operand.candidates := by
    rw [FilterClause.matches, within, okBind]
    rfl
  rw [member, FilterClause.equalities, amongCandidates]
  generalize c.operand.candidates = vs at sound ⊢
  induction vs with
  | nil => rfl
  | cons v vs ih =>
    obtain ⟨first, others⟩ := List.forall_mem_cons.mp sound
    rw [List.map_cons, List.anyM_cons, List.anyM_cons, candidateMatches equals first value,
      ih others]

theorem searchWithin {γ : Type} {test : γ → Except Fault Bool} {xs ys : List γ}
    (alike : xs.anyM test = ys.anyM test) (front back : List γ) :
    (front ++ xs ++ back).anyM test = (front ++ ys ++ back).anyM test := by
  have split (zs : List γ) : (zs ++ back).anyM test = (do
      if ← zs.anyM test then .ok true else back.anyM test) := by
    induction zs with
    | nil => rfl
    | cons z zs ih =>
      rw [List.cons_append, List.anyM_cons, List.anyM_cons, ih, bind_assoc]
      refine bind_congr fun found => ?_
      cases found <;> rfl
  induction front with
  | nil => rw [List.nil_append, List.nil_append, split, split, alike]
  | cons z front ih =>
    simp only [List.cons_append, List.anyM_cons, ih]

theorem matchesAllWithin {g g' : FilterGroup} {row : Value} (alike : g.matches row = g'.matches row)
    (front back : List FilterGroup) :
    matchesAll (front ++ g :: back) row = matchesAll (front ++ g' :: back) row := by
  unfold matchesAll
  induction front with
  | nil => simp only [List.nil_append, List.allM_cons, alike]
  | cons h front ih => simp only [List.cons_append, List.allM_cons, ih]

theorem matchingAlike {groups groups' : List FilterGroup} {rows : List Value}
    (alike : ∀ row ∈ rows, matchesAll groups row = matchesAll groups' row) :
    matching groups rows = matching groups' rows := by
  induction rows with
  | nil => rfl
  | cons row rows ih =>
    obtain ⟨first, others⟩ := List.forall_mem_cons.mp alike
    rw [matching, matching, first, ih others]

theorem checkAlike {cs cs' : List FilterClause}
    (stray : cs.findSome? (·.stray) = cs'.findSome? (·.stray)) :
    checkOperators cs = checkOperators cs' := by
  have first := checkStops cs
  have second := checkStops cs'
  rw [← stray] at second
  cases word : cs.findSome? (·.stray) with
  | none =>
    obtain ⟨_, done⟩ := first.clear word
    obtain ⟨_, doneToo⟩ := second.clear word
    rw [done, doneToo]
  | some v => rw [first.stray v word, second.stray v word]

theorem knownStray {op : Operator} (known : Operator.resolve c.operator = .ok op) :
    c.stray = none := by
  rw [FilterClause.stray, strayWord, known]

theorem equalitiesKnown (equals : Operator.resolve equal = .ok .equals) :
    (c.equalities equal).findSome? (·.stray) = none := by
  refine List.findSome?_eq_none_iff.mpr fun e member => ?_
  obtain ⟨v, -, rfl⟩ := List.mem_map.mp member
  exact knownStray equals

def Request.withEqualities (r : Request) (front back : List FilterGroup)
    (before after : List FilterClause) (c : FilterClause) (equal : Value) : Request :=
  { r with filters := front ++ ⟨before ++ c.equalities equal ++ after⟩ :: back }

variable {r : Request} {front back : List FilterGroup} {before after : List FilterClause}

theorem replacedRuns (placed : r.filters = front ++ ⟨before ++ c :: after⟩ :: back)
    (within : Operator.resolve c.operator = .ok .within)
    (equals : Operator.resolve equal = .ok .equals) {rows : List Value}
    (sound : ∀ v ∈ c.operand.candidates, v.Sound)
    (values : ∀ row ∈ rows, (row.fieldOf c.field).Sound) :
    (r.withEqualities front back before after c equal).run rows = r.run rows := by
  have checked : checkOperators (r.withEqualities front back before after c equal).clauses =
      checkOperators r.clauses := by
    refine checkAlike ?_
    simp only [Request.clauses, Request.withEqualities, placed, List.flatMap_append,
      List.flatMap_cons, List.findSome?_append, List.findSome?_cons, equalitiesKnown equals,
      knownStray within, Option.or_none]
  have matched : matching (r.withEqualities front back before after c equal).filters rows =
      matching r.filters rows := by
    refine matchingAlike fun row member => ?_
    rw [placed]
    refine matchesAllWithin ?_ front back
    have single : (c.equalities equal).anyM (·.matches row) = [c].anyM (·.matches row) := by
      rw [equalitiesMatch within equals sound (values row member), List.anyM_cons]
      cases c.matches row with
      | error f => rfl
      | ok found => cases found <;> rfl
    have group := searchWithin single before after
    rwa [List.append_assoc before [c] after] at group
  rw [Request.run, checked, matched]
  rfl

def alternatives (texts : List String) : Option String :=
  let joined := join " or " (texts.map fun t => "(" ++ t ++ ")")
  if texts = [] then none else some (if 2 ≤ texts.length then "(" ++ joined ++ ")" else joined)

theorem membershipAlternatives (version : Version) (field : String) (ls : List String) :
    membershipText version field ls = alternatives (ls.map (comparisonText field "eq")) := by
  have bracketed : operatorText version .within field =
      fun l => "(" ++ comparisonText field "eq" l ++ ")" := rfl
  rcases ls with _ | ⟨l, _ | ⟨k, rest⟩⟩
  · rfl
  · rfl
  · simp [membershipText, alternatives, bracketed, Function.comp_def]

theorem equalityText (version : Version) (r : Request) (field : String) (v : Value)
    (equals : Operator.resolve equal = .ok .equals) :
    clauseText version r ⟨field, equal, v⟩ = (do
      let l ← literal version (r.fieldInfo? field) v
      .ok (some (comparisonText field "eq" l))) := by
  simp [clauseText, resolvedOperator equals, operatorText]

theorem equalitiesTexts (version : Version) (r : Request)
    (equals : Operator.resolve equal = .ok .equals) :
    clauseTexts version r (c.equalities equal) = (do
      let ls ← literals version (r.fieldInfo? c.field) c.operand.candidates
      .ok (ls.map (comparisonText c.field "eq"))) := by
  rw [FilterClause.equalities]
  induction c.operand.candidates with
  | nil => rfl
  | cons v vs ih =>
    rw [List.map_cons, clauseTexts, equalityText version r c.field v equals, literals, ih]
    cases literal version (r.fieldInfo? c.field) v with
    | error f => rfl
    | ok l => cases literals version (r.fieldInfo? c.field) vs <;> rfl

theorem equalitiesShown {version : Version} {r : Request} {texts : List String}
    (equals : Operator.resolve equal = .ok .equals)
    (shown : clauseTexts version r (c.equalities equal) = .ok texts) :
    List.Forall₂ (fun e t => clauseText version r e = .ok (some t)) (c.equalities equal) texts := by
  rw [FilterClause.equalities] at shown ⊢
  generalize c.operand.candidates = vs at shown ⊢
  induction vs generalizing texts with
  | nil =>
    cases shown
    exact .nil
  | cons v vs ih =>
    obtain ⟨first, front, shown⟩ := bindOk.mp shown
    obtain ⟨others, rest, whole⟩ := bindOk.mp shown
    have text := front
    rw [equalityText version r c.field v equals] at text
    obtain ⟨l, -, same⟩ := bindOk.mp text
    cases same
    cases whole
    exact .cons front (ih rest)

theorem membershipIsDisjunction (placed : r.filters = front ++ ⟨before ++ c :: after⟩ :: back)
    (within : Operator.resolve c.operator = .ok .within)
    (equals : Operator.resolve equal = .ok .equals) :
    (∀ rows, (∀ v ∈ c.operand.candidates, v.Sound) →
      (∀ row ∈ rows, (row.fieldOf c.field).Sound) →
      (r.withEqualities front back before after c equal).run rows = r.run rows) ∧
    ∀ version,
      (clauseText version r c = do
        let texts ← clauseTexts version r (c.equalities equal)
        .ok (alternatives texts)) ∧
      ∀ texts, clauseTexts version r (c.equalities equal) = .ok texts →
        List.Forall₂ (fun e t => clauseText version r e = .ok (some t)) (c.equalities equal)
          texts := by
  refine ⟨fun rows => replacedRuns placed within equals, fun version =>
    ⟨?_, fun texts => equalitiesShown equals⟩⟩
  rw [equalitiesTexts version r equals, clauseText, resolvedOperator within, okBind]
  cases literals version (r.fieldInfo? c.field) c.operand.candidates with
  | error f => rfl
  | ok ls => exact congrArg _ (membershipAlternatives version c.field ls)

def shelfCandidates : List Value :=
  [.bool true, .set [.text "a", .text "b"], .list [.float .nan]]

def shelfClause : FilterClause := ⟨"shelf", .text "in", .list shelfCandidates⟩

def shelfOther : FilterClause := ⟨"size", .text "gt", .int 4⟩

def shelfRequest : Request :=
  { Request.everything with filters := [⟨[shelfOther, shelfClause]⟩] }

def shelfRows : List Value :=
  [.dict [("shelf", .int 1), ("size", .int 1)],
    .dict [("shelf", .set [.text "b", .text "a"]), ("size", .int 2)],
    .dict [("shelf", .list [.float .nan]), ("size", .int 3)]]

theorem shelfMembership :
    (shelfRequest.withEqualities [] [] [shelfOther] [] shelfClause .null).run shelfRows =
      shelfRequest.run shelfRows ∧
    (shelfRequest.run shelfRows).map (·.total) = .ok 1 ∧
    clauseText .v4 shelfRequest shelfClause =
      .ok (some "((shelf eq true) or (shelf eq '\x7b''a'', ''b''\x7d') or (shelf eq '[nan]'))") := by
  have placed : shelfRequest.filters = [] ++ ⟨[shelfOther] ++ shelfClause :: []⟩ :: [] := rfl
  have equals : Operator.resolve .null = .ok .equals := rfl
  obtain ⟨runs, texts⟩ := membershipIsDisjunction placed rfl equals
  have alone {v : Value} (calm : v.signalling = false) (unrepeated : v.Unrepeated)
      (single : v.parts = []) : v.Sound := .of unrepeated calm (by simp [single])
  have text (s : String) : Value.Sound (.text s) := alone rfl trivial rfl
  have undefined : Value.Sound (.list [.float .nan]) :=
    .of trivial rfl (List.forall_mem_singleton.mpr (alone rfl trivial rfl))
  have pair {s t : String} (apart : s ≠ t) : Value.Sound (.set [.text s, .text t]) := by
    refine .of ?_ rfl (by simpa [Value.parts] using ⟨text s, text t⟩)
    simp [Value.Unrepeated, Value.Same, Value.same, Value.sameScalar, Value.extent?, Value.asText?,
      apart]
  refine ⟨runs shelfRows ?_ ?_, by cbv, (texts .v4).1.trans rfl⟩
  · have all : ∀ v ∈ shelfCandidates, v.Sound := by
      simpa [shelfCandidates] using ⟨alone rfl trivial rfl, pair (by decide), undefined⟩
    exact all
  · have all : ∀ row ∈ shelfRows, (row.fieldOf "shelf").Sound := by
      simpa [shelfRows] using ⟨alone rfl trivial rfl, pair (by decide), undefined⟩
    exact all

end TableQuery
