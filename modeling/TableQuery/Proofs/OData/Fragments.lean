import Mathlib.Data.List.Basic
import TableQuery.Proofs.OData.Reading

/-! Fragments of a filter are read back as they were written.
Each reader, set before the text of a fragment and anything that a fragment can stand before, gives
the fragment and leaves the rest. -/
namespace TableQuery.OData
open TableQuery.Text

def Stops (rest : List Char) : Prop := ∀ c ∈ rest.head?, isMark c = true

theorem stopsNil : Stops [] := by simp [Stops]

theorem stopsCons {c : Char} (mark : isMark c = true) (rest : List Char) : Stops (c :: rest) := by
  simpa [Stops] using mark

theorem expectAppend (word : String) (rest : List Char) :
    expect? word (word.toList ++ rest) = some rest :=
  List.isPrefixOf?_eq_some_iff_append_eq.mpr rfl

theorem readBareAppend {cs rest : List Char} (bare : Bare cs)
    (stops : Stops rest) : readBare (cs ++ rest) = (cs, rest) := by
  have inside : ∀ c ∈ cs, (!isMark c) = true := by intro c hc; simp [bare c hc]
  unfold readBare
  rw [List.takeWhile_append_of_pos inside, List.dropWhile_append_of_pos inside]
  cases rest with
  | nil => simp
  | cons c rest =>
    have mark : isMark c = true := stops c (by simp)
    simp [mark]

theorem Plain.bare {cs : List Char} (plain : Plain cs) : Bare cs := by
  intro c hc
  have h := plain c hc
  simp only [plainChar, Bool.and_eq_true, Bool.not_eq_true'] at h
  exact h.1

theorem doubledCons (c : Char) (cs : List Char) :
    doubled (c :: cs) = (if c = '\'' then ['\'', '\''] else [c]) ++ doubled cs := by
  simp [doubled, substitute]

theorem readQuotedAppend (cs : List Char) {rest : List Char} (stops : Stops rest) :
    readQuoted (doubled cs ++ '\'' :: rest) = some (doubled cs ++ ['\''], rest) := by
  induction cs with
  | nil =>
    have alone : ∀ tail, rest = '\'' :: tail → False := by
      rintro tail rfl
      exact absurd (stops '\'' (by simp)) (by decide)
    rw [show doubled [] = [] from rfl, List.nil_append, readQuoted, if_pos rfl]
    · rfl
    · intro tail _ same
      exact alone tail same
  | cons c cs ih =>
    rw [doubledCons]
    by_cases quote : c = '\''
    · subst quote
      simp [readQuoted, ih]
    · rw [if_neg quote, List.append_assoc, List.singleton_append, readQuoted, if_neg quote, ih]
      · rfl
      · intro tail same _
        exact quote same

theorem LiteralForm.head {cs : List Char} (form : LiteralForm cs) :
    (∃ inner, cs = '\'' :: doubled inner ++ ['\'']) ∨
      (Bare cs ∧ cs.head? ≠ some '\'') := by
  cases form with
  | quoted inner => exact .inl ⟨inner, rfl⟩
  | bare plain =>
    refine .inr ⟨plain.bare, fun first => ?_⟩
    exact absurd (plain '\'' (List.mem_of_head? first)) (by decide)
  | @dated inner plain =>
    refine .inr ⟨?_, by simp⟩
    have word : Bare "DateTime'".toList := by decide
    intro c hc
    simp only [List.mem_append, List.mem_singleton] at hc
    rcases hc with (hc | hc) | rfl
    · exact word c hc
    · exact plain.bare c hc
    · decide

theorem readLiteralAppend {literal : String} (form : LiteralForm literal.toList)
    {rest : List Char} (stops : Stops rest) :
    readLiteral (literal.toList ++ rest) = some (literal, rest) := by
  rcases form.head with ⟨inner, quoted⟩ | ⟨bare, first⟩
  · have whole : literal = String.ofList ('\'' :: (doubled inner ++ ['\''])) := by
      rw [← List.cons_append, ← quoted, String.ofList_toList]
    rw [quoted, List.append_assoc, List.cons_append, List.singleton_append]
    rw [whole, readLiteral, readQuotedAppend inner stops]
    rfl
  · unfold readLiteral
    split
    · rename_i tail same
      cases shown : literal.toList with
      | nil =>
        rw [shown, List.nil_append] at same
        exact absurd (stops '\'' (by simp [same])) (by decide)
      | cons c cs =>
        rw [shown, List.cons_append, List.cons.injEq] at same
        exact absurd (by simp [shown, same.1]) first
    · rw [readBareAppend bare stops, String.ofList_toList]

theorem readComparisonAppend {field token literal : String} {op : Operator}
    (name : Plain field.toList) (known : tokenOperator? token.toList = some op)
    (bare : Bare token.toList) (form : LiteralForm literal.toList)
    {rest : List Char} (stops : Stops rest) :
    readComparison ((comparisonText field token literal).toList ++ rest) =
      some (⟨op, field, [literal]⟩, rest) := by
  have blank (tail : List Char) : Stops (' ' :: tail) := stopsCons rfl tail
  have space (tail : List Char) : expect? " " (' ' :: tail) = some tail := expectAppend " " tail
  simp only [comparisonText, String.toList_append, List.append_assoc]
  show readComparison (field.toList ++ ' ' :: (token.toList ++ ' ' :: (literal.toList ++ rest))) = _
  simp only [readComparison, readBareAppend name.bare (blank _), space, bind, Option.bind,
    readBareAppend bare (blank _), known, readLiteralAppend form stops, String.ofList_toList]

theorem readEqualityAppend {field literal : String} (name : Plain field.toList)
    (form : LiteralForm literal.toList) {rest : List Char} (stops : Stops rest) :
    readComparison ((comparisonText field "eq" literal).toList ++ rest) =
      some (⟨.equals, field, [literal]⟩, rest) :=
  readComparisonAppend name rfl (by decide) form stops

theorem inBracketsAppend {item : Reader α} {x : α} {cs : List Char} (rest : List Char)
    (inside : item (cs ++ ')' :: rest) = some (x, ')' :: rest)) :
    inBrackets item ('(' :: (cs ++ ')' :: rest)) = some (x, rest) := by
  have opened : expect? "(" ('(' :: (cs ++ ')' :: rest)) = some (cs ++ ')' :: rest) :=
    expectAppend "(" _
  have closed : expect? ")" (')' :: rest) = some rest := expectAppend ")" rest
  simp only [inBrackets, opened, inside, closed, bind, Option.bind]

theorem readFieldFirstAppend (op : Operator) {field literal : String} (name : Plain field.toList)
    (form : LiteralForm literal.toList) {rest : List Char} (stops : Stops rest) :
    readFieldFirst op (field.toList ++ (", ".toList ++ (literal.toList ++ rest))) =
      some (⟨op, field, [literal]⟩, rest) := by
  have comma (tail : List Char) : Stops (", ".toList ++ tail) := stopsCons rfl _
  simp only [readFieldFirst, readBareAppend name.bare (comma _), expectAppend, bind, Option.bind,
    readLiteralAppend form stops, String.ofList_toList]

theorem readLiteralFirstAppend (op : Operator) {field literal : String} (name : Plain field.toList)
    (form : LiteralForm literal.toList) {rest : List Char} (stops : Stops rest) :
    readLiteralFirst op (literal.toList ++ (", ".toList ++ (field.toList ++ rest))) =
      some (⟨op, field, [literal]⟩, rest) := by
  have comma (tail : List Char) : Stops (", ".toList ++ tail) := stopsCons rfl _
  simp only [readLiteralFirst, readLiteralAppend form (comma _), expectAppend, bind, Option.bind,
    readBareAppend name.bare stops, String.ofList_toList]

theorem readNegatedAppend {field literal : String} (name : Plain field.toList)
    (form : LiteralForm literal.toList) {rest : List Char} (stops : Stops rest) :
    readNegated ((comparisonText field "eq" literal).toList ++ rest) =
      some (⟨.notEquals, field, [literal]⟩, rest) := by
  simp [readNegated, readEqualityAppend name form stops]

theorem readCallAppend {version : Version} {word : String} {body : Reader Fragment}
    (bare : Bare word.toList)
    (known : callReader? version word.toList = some body) {cs rest : List Char} {f : Fragment}
    (inside : body (cs ++ ')' :: rest) = some (f, ')' :: rest)) :
    readCall version (word.toList ++ '(' :: (cs ++ ')' :: rest)) = some (f, rest) := by
  have opens : Stops ('(' :: (cs ++ ')' :: rest)) := stopsCons rfl _
  simp only [readCall, readBareAppend bare opens, known, bind, Option.bind,
    inBracketsAppend rest inside]

theorem separatedJoin {separator : String} {item : Reader α} {text : α → String}
    (breaks : ∀ rest, Stops (separator.toList ++ rest)) {rest : List Char} (stops : Stops rest)
    (ended : expect? separator rest = none) (items : List α) {bound : Nat}
    (room : items.length ≤ bound) (nonempty : items ≠ [])
    (reads : ∀ x ∈ items, ∀ rest, Stops rest → item ((text x).toList ++ rest) = some (x, rest)) :
    separated separator item bound ((join separator (items.map text)).toList ++ rest) =
      some (items, rest) := by
  induction items generalizing bound with
  | nil => exact absurd rfl nonempty
  | cons x xs ih =>
    cases bound with
    | zero => simp at room
    | succ bound =>
      have head := reads x (by simp)
      have tail : ∀ y ∈ xs, ∀ rest, Stops rest → item ((text y).toList ++ rest) = some (y, rest) :=
        fun y hy => reads y (by simp [hy])
      cases xs with
      | nil => simp [join, separated, head rest stops, ended]
      | cons y ys =>
        have inner := ih (Nat.le_of_succ_le_succ room) (by simp) tail
        have first := head _ (breaks ((join separator ((y :: ys).map text)).toList ++ rest))
        rw [List.map_cons, joinCons, if_neg (by simp)]
        simp only [String.toList_append, List.append_assoc, separated, first, expectAppend, bind,
          Option.bind, inner]

theorem joinLength {separator : String} (long : separator ≠ "") (parts : List String) :
    parts.length ≤ (join separator parts).toList.length + 1 := by
  have size : 0 < separator.toList.length := by
    simpa [List.length_pos_iff] using long
  induction parts with
  | nil => simp
  | cons p ps ih =>
    cases ps with
    | nil => simp
    | cons q qs =>
      rw [joinCons, if_neg (by simp)]
      simp only [String.toList_append, List.length_append, List.length_cons] at ih ⊢
      omega

theorem chainJoin (separator : String) (item : Reader α) (text : α → String)
    (long : separator ≠ "") (breaks : ∀ rest, Stops (separator.toList ++ rest))
    (rest : List Char) (stops : Stops rest) (ended : expect? separator rest = none)
    (items : List α) (nonempty : items ≠ [])
    (reads : ∀ x ∈ items, ∀ rest, Stops rest → item ((text x).toList ++ rest) = some (x, rest)) :
    chain separator item ((join separator (items.map text)).toList ++ rest) =
      some (items, rest) := by
  refine separatedJoin breaks stops ended items ?_ nonempty reads
  have size := joinLength long (items.map text)
  rw [List.length_map] at size
  rw [List.length_append]
  omega

def Fragment.text (version : Version) (f : Fragment) : String :=
  if f.operator = .within then (membershipText version f.field f.literals).getD ""
  else operatorText version f.operator f.field (f.literals.headD "")

structure Fragment.Written (f : Fragment) : Prop where
  field : Plain f.field.toList
  literals : ∀ l ∈ f.literals, LiteralForm l.toList
  present : f.literals ≠ []
  alone : f.operator ≠ .within → f.literals.length = 1

theorem Fragment.Written.single {f : Fragment} (written : f.Written) (op : f.operator ≠ .within) :
    ∃ l, f.literals = [l] ∧ LiteralForm l.toList := by
  obtain ⟨l, only⟩ := List.length_eq_one_iff.mp (written.alone op)
  exact ⟨l, only, written.literals l (by simp [only])⟩

theorem headBare {cs : List Char} (bare : Bare cs) (rest : List Char)
    (front : cs ≠ [] ∨ rest.head? ≠ some '(') : (cs ++ rest).head? ≠ some '(' := by
  cases cs with
  | nil => simpa using front
  | cons c cs =>
    intro bracket
    cases Option.some.inj bracket
    exact absurd (bare '(' (by simp)) (by decide)

theorem readFragmentBare (version : Version) {cs : List Char} (front : cs.head? ≠ some '(') :
    readFragment version cs =
      match (readBare cs).2 with
      | '(' :: _ => readCall version cs
      | _ => readComparison cs := by
  unfold readFragment
  split
  · exact absurd rfl front
  · rfl

theorem readFragmentComparison (version : Version) {field token literal : String} {op : Operator}
    (name : Plain field.toList) (known : tokenOperator? token.toList = some op)
    (bare : Bare token.toList) (form : LiteralForm literal.toList)
    {rest : List Char} (stops : Stops rest) :
    readFragment version ((comparisonText field token literal).toList ++ rest) =
      some (⟨op, field, [literal]⟩, rest) := by
  have split : (comparisonText field token literal).toList ++ rest =
      field.toList ++ ' ' :: (token.toList ++ ' ' :: (literal.toList ++ rest)) := by
    simp [comparisonText]
  have front := headBare name.bare (' ' :: (token.toList ++ ' ' :: (literal.toList ++ rest)))
    (.inr (by simp))
  rw [← readComparisonAppend name known bare form stops, split, readFragmentBare version front,
    readBareAppend name.bare (stopsCons rfl _)]
  rfl

theorem readFragmentCall (version : Version) (word : String) {body : Reader Fragment}
    (long : word.toList ≠ []) (bare : Bare word.toList)
    (known : callReader? version word.toList = some body) (cs : List Char) {rest : List Char}
    {f : Fragment}
    (inside : body (cs ++ ')' :: rest) = some (f, ')' :: rest)) :
    readFragment version (word.toList ++ '(' :: (cs ++ ')' :: rest)) = some (f, rest) := by
  have front := headBare bare ('(' :: (cs ++ ')' :: rest)) (.inl long)
  rw [← readCallAppend bare known inside, readFragmentBare version front,
    readBareAppend bare (stopsCons rfl _)]
  rfl

theorem readFragmentFieldFirst (version : Version) (word : String) {op : Operator}
    (long : word.toList ≠ []) (bare : Bare word.toList)
    (known : callReader? version word.toList = some (readFieldFirst op)) {field literal : String}
    (name : Plain field.toList) (form : LiteralForm literal.toList) (rest : List Char) :
    readFragment version (word.toList ++
        '(' :: (field.toList ++ (", ".toList ++ literal.toList) ++ ')' :: rest)) =
      some (⟨op, field, [literal]⟩, rest) := by
  have inside := readFieldFirstAppend op name form (stopsCons rfl rest : Stops (')' :: rest))
  rw [← List.append_assoc, ← List.append_assoc] at inside
  exact readFragmentCall version word long bare known _ (by rwa [← List.append_assoc])

theorem membershipEqualities (field : String) {literals : List String} (present : literals ≠ []) :
    membership? (literals.map fun l => ⟨.equals, field, [l]⟩) =
      some ⟨.within, field, literals⟩ := by
  cases literals with
  | nil => exact absurd rfl present
  | cons l ls => simp [membership?, List.flatMap_map]

theorem readCandidate {field literal : String} (name : Plain field.toList)
    (form : LiteralForm literal.toList) (rest : List Char) :
    inBrackets readComparison ((operatorText .v4 .within field literal).toList ++ rest) =
      some (⟨.equals, field, [literal]⟩, rest) := by
  have split : (operatorText .v4 .within field literal).toList ++ rest =
      '(' :: ((comparisonText field "eq" literal).toList ++ ')' :: rest) := by
    simp [operatorText]
  rw [split]
  exact inBracketsAppend rest (readEqualityAppend name form (stopsCons rfl rest))

theorem readMembersSingle {cs : List Char} (front : cs.head? ≠ some '(') :
    readMembers ('(' :: cs) =
      (inBrackets readComparison ('(' :: cs)).map fun p => ([p.1], p.2) := by
  unfold readMembers
  split
  · rename_i tail same
    exact absurd (by simp [(List.cons.inj same).2]) front
  · rfl

theorem readMembersOne {field literal : String} (name : Plain field.toList)
    (form : LiteralForm literal.toList) (rest : List Char) :
    readMembers ((operatorText .v4 .within field literal).toList ++ rest) =
      some ([⟨.equals, field, [literal]⟩], rest) := by
  have split : (operatorText .v4 .within field literal).toList ++ rest =
      '(' :: (field.toList ++ ' ' :: ("eq ".toList ++ (literal.toList ++ ')' :: rest))) := by
    simp [operatorText, comparisonText]
  have front := headBare name.bare (' ' :: ("eq ".toList ++ (literal.toList ++ ')' :: rest)))
    (.inr (by simp))
  rw [split, readMembersSingle front, ← split, readCandidate name form rest]
  rfl

theorem readMembersSeveral {field : String} {literals : List String} (name : Plain field.toList)
    (forms : ∀ l ∈ literals, LiteralForm l.toList) (present : literals ≠ []) (rest : List Char) :
    readMembers ('(' :: ((join " or " (literals.map (operatorText .v4 .within field))).toList ++
      ')' :: rest)) = some (literals.map fun l => ⟨.equals, field, [l]⟩, rest) := by
  have inside := chainJoin " or " (inBrackets readComparison)
    (fun f => operatorText .v4 .within f.field (f.literals.headD "")) (by decide)
    (fun _ => stopsCons rfl _) (')' :: rest) (stopsCons rfl rest) rfl
    (literals.map fun l => ⟨.equals, field, [l]⟩) (by simpa using present)
    (by
      intro f member tail _
      obtain ⟨l, hl, rfl⟩ := List.mem_map.mp member
      exact readCandidate name (forms l hl) tail)
  simp only [List.map_map, Function.comp_def, List.headD_cons] at inside
  have outside := inBracketsAppend rest inside
  cases literals with
  | nil => exact absurd rfl present
  | cons l ls =>
    obtain ⟨tail, first⟩ : ∃ tail, (join " or " ((l :: ls).map
        (operatorText .v4 .within field))).toList ++ ')' :: rest = '(' :: tail := by
      rw [List.map_cons, joinCons]
      split <;> simp [operatorText]
    rw [first] at outside ⊢
    exact outside

theorem readMembershipAppend (version : Version) {f : Fragment} (written : f.Written)
    (op : f.operator = .within) (rest : List Char) :
    readMembership ((f.text version).toList ++ rest) = some (f, rest) := by
  obtain ⟨operator, field, literals⟩ := f
  simp only at op
  subst op
  have same : operatorText version .within field = operatorText .v4 .within field := rfl
  have members : readMembers ((Fragment.text version ⟨.within, field, literals⟩).toList ++ rest) =
      some (literals.map fun l => ⟨.equals, field, [l]⟩, rest) := by
    cases literals with
    | nil => exact absurd rfl written.present
    | cons l ls =>
      cases ls with
      | nil => exact readMembersOne written.field (written.literals l (by simp)) rest
      | cons k ks =>
        have several := readMembersSeveral written.field written.literals written.present rest
        simpa [Fragment.text, membershipText, same] using several
  simp only [readMembership, members, membershipEqualities field written.present, bind, Option.bind]

theorem readFragmentAppend (version : Version) {f : Fragment} (written : f.Written)
    {rest : List Char} (stops : Stops rest) :
    readFragment version ((f.text version).toList ++ rest) = some (f, rest) := by
  by_cases op : f.operator = .within
  · obtain ⟨tail, first⟩ : ∃ tail, (f.text version).toList ++ rest = '(' :: tail := by
      cases shown : f.literals with
      | nil => exact absurd shown written.present
      | cons l ls => cases ls <;> simp [Fragment.text, op, membershipText, shown, operatorText]
    have member := readMembershipAppend version written op rest
    rw [first] at member ⊢
    exact member
  · obtain ⟨literal, only, form⟩ := written.single op
    obtain ⟨operator, field, literals⟩ := f
    simp only at only op
    subst only
    have name : Plain field.toList := written.field
    have closes : Stops (')' :: rest) := stopsCons rfl rest
    cases operator with
    | within => exact absurd rfl op
    | equals => exact readFragmentComparison version name rfl (by decide) form stops
    | greaterThan => exact readFragmentComparison version name rfl (by decide) form stops
    | greaterOrEqual => exact readFragmentComparison version name rfl (by decide) form stops
    | lowerThan => exact readFragmentComparison version name rfl (by decide) form stops
    | lowerOrEqual => exact readFragmentComparison version name rfl (by decide) form stops
    | notEquals =>
      have call := readFragmentCall version "not" (by decide) (by decide) rfl _
        (readNegatedAppend name form closes)
      simpa [Fragment.text, operatorText] using call
    | startsWith =>
      have call := readFragmentFieldFirst version "startswith" (by decide) (by decide) rfl
        name form rest
      simpa [Fragment.text, operatorText] using call
    | endsWith =>
      have call := readFragmentFieldFirst version "endswith" (by decide) (by decide) rfl
        name form rest
      simpa [Fragment.text, operatorText] using call
    | contains =>
      cases version with
      | v3 =>
        have call := readFragmentCall .v3 "substringof" (by decide) (by decide) rfl
          (literal.toList ++ (", ".toList ++ field.toList))
          (by simpa using readLiteralFirstAppend .contains name form closes)
        simpa [Fragment.text, operatorText, containsText] using call
      | v4 =>
        have call := readFragmentFieldFirst .v4 "contains" (by decide) (by decide) rfl
          name form rest
        simpa [Fragment.text, operatorText, containsText] using call

end TableQuery.OData
