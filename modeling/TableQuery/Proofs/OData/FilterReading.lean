import Mathlib.Data.List.Forall2
import TableQuery.Proofs.OData.Groups
import TableQuery.Proofs.Value.LongIntegers

/-! Filters can be read back.
The text of a filter determines its groups, the fragments of each, and the literals of each
fragment, whatever values the request compares with. Two requests with different groups never have
the same text. -/
namespace TableQuery.OData
open TableQuery.Text

def operands (op : Operator) (operand : Value) : List Value :=
  if op = .within then operand.candidates else [operand]

structure Gives (version : Version) (r : Request) (c : FilterClause) (f : Fragment) : Prop where
  operator : Operator.resolve c.operator = .ok f.operator
  field : f.field = c.field
  literals : List.Forall₂ (fun v l => literal version (r.fieldInfo? c.field) v = .ok l)
    (operands f.operator c.operand) f.literals

def vacant (c : FilterClause) : Bool :=
  match Operator.resolve c.operator with
  | .ok .within => c.operand.candidates.isEmpty
  | _ => false

def remaining (g : FilterGroup) : List FilterClause := g.clauses.filter (!vacant ·)

/-- The groups of clauses that leave a trace, vacant clauses and emptied groups left out. -/
def survivors (groups : List FilterGroup) : List (List FilterClause) :=
  (groups.map remaining).filter (!·.isEmpty)

def Structure (version : Version) (r : Request) (groups : List (List Fragment)) : Prop :=
  List.Forall₂ (List.Forall₂ (Gives version r)) (survivors r.filters) groups

theorem structureUnique {version : Version} {r : Request} {groups others : List (List Fragment)}
    (left : Structure version r groups) (right : Structure version r others) : groups = others := by
  have literals (info : Option FieldInfo) :
      Relator.RightUnique fun v l => literal version info v = .ok l :=
    fun _ _ _ h k => Except.ok.inj (h.symm.trans k)
  have fragments : Relator.RightUnique (Gives version r) := by
    rintro c ⟨op, field, ls⟩ ⟨op', field', ls'⟩ f g
    have ops : op = op' := Except.ok.inj (f.operator.symm.trans g.operator)
    have fields : field = field' := f.field.trans g.field.symm
    subst ops fields
    have same := (literals _).forall₂ f.literals g.literals
    simp only at same
    rw [same]
  exact fragments.forall₂.forall₂ left right

theorem longCandidate {v w : Value} (member : w ∈ v.candidates) (long : w.hasLongInteger = true) :
    v.hasLongInteger = true := by
  cases v with
  | null => simp [Value.candidates] at member
  | list items => exact Value.anyLongMember member long
  | tuple items => exact Value.anyLongMember member long
  | set items => exact Value.anyLongMember member long
  | _ =>
    simp only [Value.candidates, Value.members?, List.mem_singleton] at member
    exact member ▸ long

theorem textOutcome (v : Value) :
    (v.text? = .error .longInteger ∧ v.hasLongInteger = true) ∨ v.text? = .ok v.display := by
  unfold Value.text?
  split
  · exact .inl ⟨rfl, by assumption⟩
  · exact .inr rfl

theorem literalOutcome (version : Version) (info : Option FieldInfo) (v : Value) :
    (literal version info v = .error .longInteger ∧ v.hasLongInteger = true) ∨
      ∃ l, literal version info v = .ok l ∧ LiteralForm l.toList := by
  cases written : literal version info v with
  | ok l => exact .inr ⟨l, rfl, literalForm written⟩
  | error e =>
    refine .inl ?_
    unfold literal at written
    split at written <;> try contradiction
    split at written
    · rcases bindError.mp written with failed | ⟨_, _, last⟩
      · unfold numberText? at failed
        split at failed
        · split at failed <;> contradiction
        · rcases textOutcome _ with ⟨long, size⟩ | short
          · exact ⟨failed.symm.trans long, size⟩
          · rw [short] at failed; contradiction
      · contradiction
    · rcases bindError.mp written with failed | ⟨_, _, last⟩
      · rcases textOutcome _ with ⟨long, size⟩ | short
        · exact ⟨failed.symm.trans long, size⟩
        · rw [short] at failed; contradiction
      · contradiction

theorem literalsOutcome (version : Version) (info : Option FieldInfo) (vs : List Value) :
    (literals version info vs = .error .longInteger ∧ ∃ v ∈ vs, v.hasLongInteger = true) ∨
      ∃ ls, literals version info vs = .ok ls ∧
        List.Forall₂ (fun v l => literal version info v = .ok l) vs ls ∧
        ∀ l ∈ ls, LiteralForm l.toList := by
  induction vs with
  | nil => exact .inr ⟨[], rfl, .nil, by simp⟩
  | cons v vs ih =>
    rcases literalOutcome version info v with ⟨failed, long⟩ | ⟨l, shown, form⟩
    · exact .inl ⟨by simp [literals, failed], v, by simp, long⟩
    · rcases ih with ⟨failed, w, member, long⟩ | ⟨ls, rest, pairs, forms⟩
      · exact .inl ⟨by simp [literals, shown, failed], w, by simp [member], long⟩
      · refine .inr ⟨l :: ls, by simp [literals, shown, rest], .cons shown pairs, ?_⟩
        intro k hk
        rcases List.mem_cons.mp hk with rfl | inside
        · exact form
        · exact forms k inside

theorem resolvedOperator {v : Value} {op : Operator} (known : Operator.resolve v = .ok op) :
    resolveOperator v = .ok op := by
  simp [resolveOperator, known]

theorem vacantMembership {c : FilterClause} (known : Operator.resolve c.operator = .ok .within) :
    vacant c = c.operand.candidates.isEmpty := by
  simp [vacant, known]

theorem vacantOther {c : FilterClause} {op : Operator}
    (known : Operator.resolve c.operator = .ok op) (other : op ≠ .within) : vacant c = false := by
  cases op <;> first | exact absurd rfl other | simp [vacant, known]

inductive ClauseOutcome (version : Version) (r : Request) (c : FilterClause) : Prop
  | long (failed : clauseText version r c = .error .longInteger)
      (operand : c.operand.hasLongInteger = true)
  | absent (empty : vacant c = true) (text : clauseText version r c = .ok none)
  | shown (f : Fragment) (full : vacant c = false) (gives : Gives version r c f)
      (written : f.Written) (text : clauseText version r c = .ok (some (f.text version)))

theorem membershipOutcome (version : Version) (r : Request) {c : FilterClause}
    (known : Operator.resolve c.operator = .ok .within) (name : Plain c.field.toList) :
    ClauseOutcome version r c := by
  have empty := vacantMembership known
  rcases literalsOutcome version (r.fieldInfo? c.field) c.operand.candidates with
    ⟨failed, v, member, long⟩ | ⟨ls, written, pairs, forms⟩
  · exact .long (by simp [clauseText, resolvedOperator known, failed]) (longCandidate member long)
  · have text : clauseText version r c = .ok (membershipText version c.field ls) := by
      simp [clauseText, resolvedOperator known, written]
    cases ls with
    | nil =>
      exact .absent (by simp [empty, List.forall₂_nil_right_iff.mp pairs]) text
    | cons l rest =>
      obtain ⟨v, vs, _, _, candidates⟩ := List.forall₂_cons_right_iff.mp pairs
      have full : vacant c = false := by simp [empty, candidates]
      refine .shown ⟨.within, c.field, l :: rest⟩ full ⟨known, rfl, pairs⟩
        ⟨name, forms, by simp, fun other => absurd rfl other⟩ ?_
      rw [text]
      cases rest <;> rfl

theorem comparisonOutcome (version : Version) (r : Request) {c : FilterClause} {op : Operator}
    (known : Operator.resolve c.operator = .ok op) (other : op ≠ .within)
    (name : Plain c.field.toList) : ClauseOutcome version r c := by
  have step : clauseText version r c = (do
      let l ← literal version (r.fieldInfo? c.field) c.operand
      .ok (some (operatorText version op c.field l))) := by
    cases op <;> first | exact absurd rfl other | simp [clauseText, resolvedOperator known]
  rcases literalOutcome version (r.fieldInfo? c.field) c.operand with
    ⟨failed, long⟩ | ⟨l, written, form⟩
  · exact .long (by simp [step, failed]) long
  · have alone : operands op c.operand = [c.operand] := if_neg other
    refine .shown ⟨op, c.field, [l]⟩ (vacantOther known other)
      ⟨known, rfl, by rw [alone]; exact .cons written .nil⟩
      ⟨name, by simpa using form, by simp, fun _ => rfl⟩ ?_
    simp [step, written, Fragment.text, other]

theorem clauseOutcome (version : Version) (r : Request) {c : FilterClause}
    (known : ∃ op, Operator.resolve c.operator = .ok op) (name : Plain c.field.toList) :
    ClauseOutcome version r c := by
  obtain ⟨op, known⟩ := known
  by_cases within : op = .within
  · subst within
    exact membershipOutcome version r known name
  · exact comparisonOutcome version r known within name

structure ClauseReadable (c : FilterClause) : Prop where
  operator : ∃ op, Operator.resolve c.operator = .ok op
  field : Plain c.field.toList

theorem clausesOutcome (version : Version) (r : Request) {cs : List FilterClause}
    (readable : ∀ c ∈ cs, ClauseReadable c) :
    (clauseTexts version r cs = .error .longInteger ∧
      ∃ c ∈ cs, c.operand.hasLongInteger = true) ∨
    ∃ fs, clauseTexts version r cs = .ok (fs.map (Fragment.text version)) ∧
      List.Forall₂ (Gives version r) (cs.filter (!vacant ·)) fs ∧ ∀ f ∈ fs, f.Written := by
  induction cs with
  | nil => exact .inr ⟨[], rfl, .nil, by simp⟩
  | cons c cs ih =>
    have head := readable c (by simp)
    have tail := ih fun d hd => readable d (by simp [hd])
    cases clauseOutcome version r head.operator head.field with
    | long failed operand => exact .inl ⟨by simp [clauseTexts, failed], c, by simp, operand⟩
    | absent empty text =>
      rcases tail with ⟨failed, d, member, long⟩ | ⟨fs, rest, pairs, written⟩
      · exact .inl ⟨by simp [clauseTexts, text, failed], d, by simp [member], long⟩
      · exact .inr ⟨fs, by simp [clauseTexts, text, rest], by simpa [empty] using pairs, written⟩
    | shown f full gives written text =>
      rcases tail with ⟨failed, d, member, long⟩ | ⟨fs, rest, pairs, others⟩
      · exact .inl ⟨by simp [clauseTexts, text, failed], d, by simp [member], long⟩
      · refine .inr ⟨f :: fs, by simp [clauseTexts, text, rest], ?_, ?_⟩
        · simpa [full] using ⟨gives, pairs⟩
        · intro k hk
          rcases List.mem_cons.mp hk with rfl | inside
          · exact written
          · exact others k inside

theorem groupsOutcome (version : Version) (r : Request) {gs : List FilterGroup}
    (readable : ∀ c ∈ gs.flatMap (·.clauses), ClauseReadable c) :
    (groupTexts version r gs = .error .longInteger ∧
      ∃ c ∈ gs.flatMap (·.clauses), c.operand.hasLongInteger = true) ∨
    ∃ groups, groupTexts version r gs = .ok (groups.map (groupTextOf version)) ∧
      List.Forall₂ (List.Forall₂ (Gives version r)) (survivors gs) groups ∧
      ∀ g ∈ groups, GroupWritten g := by
  induction gs with
  | nil => exact .inr ⟨[], rfl, .nil, by simp⟩
  | cons g gs ih =>
    have front : ∀ c ∈ g.clauses, ClauseReadable c := fun c hc => readable c (by simp [hc])
    have back := ih fun c hc => readable c
      (by rw [List.flatMap_cons]; exact List.mem_append_right _ hc)
    rcases clausesOutcome version r front with
      ⟨failed, c, member, long⟩ | ⟨fs, text, pairs, written⟩
    · exact .inl ⟨by simp [groupTexts, groupText, failed], c, by simp [member], long⟩
    · rcases back with ⟨failed, c, member, long⟩ | ⟨groups, rest, others, valid⟩
      · refine .inl ⟨by simp [groupTexts, groupText, text, failed], c, ?_, long⟩
        rw [List.flatMap_cons]
        exact List.mem_append_right _ member
      · cases fs with
        | nil =>
          have emptied : remaining g = [] := List.forall₂_nil_right_iff.mp pairs
          refine .inr ⟨groups, by simp [groupTexts, groupText, text, rest], ?_, valid⟩
          simpa [survivors, emptied] using others
        | cons f fs =>
          obtain ⟨c, cs, _, _, kept⟩ := List.forall₂_cons_right_iff.mp pairs
          have stays : (remaining g).isEmpty = false := by simp [remaining, kept]
          refine .inr ⟨(f :: fs) :: groups, ?_, ?_, ?_⟩
          · simp [groupTexts, groupText, text, rest, groupTextOf]
          · simpa [survivors, stays] using ⟨pairs, others⟩
          · intro k hk
            rcases List.mem_cons.mp hk with rfl | inside
            · exact ⟨by simp, written⟩
            · exact valid k inside

def unquoted? (literal : String) : Option String :=
  match literal.toList with
  | '\'' :: rest =>
    match rest.getLast? with
    | some '\'' => (undoubled? rest.dropLast).map String.ofList
    | _ => none
  | _ => none

theorem unquotedText (s : String) : unquoted? (textLiteral s) = some s := by
  simp [unquoted?, textLiteral, undoubledDoubled]

def quotes (v : Value) : Bool :=
  match v with
  | .moment _ => false
  | .date _ => false
  | v => v.extent?.isNone

theorem quotesText (version : Version) (info : Option FieldInfo) {v : Value}
    (quoted : quotes v = true) :
    literal version info v = (do let text ← v.text?; .ok (textLiteral text)) := by
  cases v with
  | bool _ | int _ | float _ | decimal _ | version _ | moment _ | date _ =>
    simp [quotes, Value.extent?] at quoted
  | _ => simp [literal, Value.extent?]

theorem quotedOutcome (version : Version) (info : Option FieldInfo) {v : Value}
    (quoted : quotes v = true) :
    (literal version info v = .error .longInteger ∧ v.hasLongInteger = true) ∨
      ∃ l, literal version info v = .ok l ∧ unquoted? l = some v.display := by
  rw [quotesText version info quoted]
  rcases textOutcome v with ⟨failed, long⟩ | shown
  · exact .inl ⟨by simp [failed], long⟩
  · exact .inr ⟨textLiteral v.display, by simp [shown], unquotedText v.display⟩

/- Operators are known. Fields may be identifiers of any script: all that counts is that they hold
none of the marks of the language and no quote. Nothing is asked of the values. -/
def Readable (r : Request) : Prop := ∀ c ∈ r.clauses, ClauseReadable c

theorem readableOutcome (version : Version) {r : Request} (readable : Readable r) :
    (filterText version r = .error .longInteger ∧
      ∃ c ∈ r.clauses, c.operand.hasLongInteger = true) ∨
    ∃ text groups, filterText version r = .ok text ∧ Structure version r groups ∧
      readFilter? version text = some groups := by
  rcases groupsOutcome version r readable with ⟨failed, long⟩ | ⟨groups, text, pairs, written⟩
  · exact .inl ⟨by simp [filterText, failed], long⟩
  · refine .inr ⟨conjunction (groups.map (groupTextOf version)), groups, ?_, pairs, ?_⟩
    · simp [filterText, text]
    · exact readFilterConjunction version groups written

theorem filterReadsBack (version : Version) :
    (∀ r, Readable r →
      (filterText version r = .error .longInteger ∧
        ∃ c ∈ r.clauses, c.operand.hasLongInteger = true) ∨
      ∃ text groups, filterText version r = .ok text ∧ Structure version r groups ∧
        readFilter? version text = some groups) ∧
    (∀ info v, quotes v = true →
      (literal version info v = .error .longInteger ∧ v.hasLongInteger = true) ∨
      ∃ l, literal version info v = .ok l ∧ unquoted? l = some v.display) ∧
    (∀ r s text groups others, Readable r → Readable s →
      filterText version r = .ok text → filterText version s = .ok text →
      Structure version r groups → Structure version s others → groups = others) := by
  refine ⟨fun r readable => readableOutcome version readable,
    fun info v quoted => quotedOutcome version info quoted, ?_⟩
  intro r s text groups others readable readable' left right groupsOf othersOf
  have read {t : Request} {gs : List (List Fragment)} (readable : Readable t)
      (same : filterText version t = .ok text) (shape : Structure version t gs) :
      readFilter? version text = some gs := by
    rcases readableOutcome version readable with ⟨failed, _⟩ | ⟨text', gs', compiled, found, back⟩
    · rw [failed] at same; contradiction
    · cases Except.ok.inj (same.symm.trans compiled)
      rw [structureUnique shape found, back]
  exact Option.some.inj ((read readable left groupsOf).symm.trans (read readable' right othersOf))

def intricate : Request :=
  { Request.everything with
    filters := [⟨[⟨"a", .text "in", .list [.text "x') or (b eq 'y", .bool true]⟩,
        ⟨"a", .text "in", .tuple [.null]⟩]⟩, ⟨[⟨"b", .text "in", .list []⟩]⟩,
      ⟨[⟨"not", .null, .text "') and ('"⟩]⟩] }

theorem intricateReadsBack : Readable intricate ∧
    ∃ text groups, filterText .v3 intricate = .ok text ∧ Structure .v3 intricate groups ∧
      readFilter? .v3 text = some groups := by
  have clauses : intricate.clauses =
      [⟨"a", .text "in", .list [.text "x') or (b eq 'y", .bool true]⟩,
        ⟨"a", .text "in", .tuple [.null]⟩, ⟨"b", .text "in", .list []⟩,
        ⟨"not", .null, .text "') and ('"⟩] := rfl
  have readable : Readable intricate := by
    intro c member
    simp only [clauses, List.mem_cons, List.not_mem_nil, or_false] at member
    rcases member with rfl | rfl | rfl | rfl
    · exact ⟨⟨.within, rfl⟩, by decide⟩
    · exact ⟨⟨.within, rfl⟩, by decide⟩
    · exact ⟨⟨.within, rfl⟩, by decide⟩
    · exact ⟨⟨.equals, rfl⟩, by decide⟩
  rcases (filterReadsBack .v3).1 intricate readable with ⟨_, c, member, long⟩ | found
  · simp only [clauses, List.mem_cons, List.not_mem_nil, or_false] at member
    rcases member with rfl | rfl | rfl | rfl <;> contradiction
  · exact ⟨readable, found⟩

end TableQuery.OData
