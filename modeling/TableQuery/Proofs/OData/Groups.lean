import TableQuery.Proofs.OData.Fragments

/-! Groups of a filter are read back as they were written.
Brackets and quotes of a fragment are balanced, so that what follows the first closed bracket of a
filter tells one group from several. -/
namespace TableQuery.OData
open TableQuery.Text

def Balanced (cs : List Char) : Prop :=
  ∀ depth rest, beyondBracket (depth + 1) false (cs ++ rest) = beyondBracket (depth + 1) false rest

theorem balancedNil : Balanced [] := fun _ _ => rfl

theorem Balanced.append {cs ds : List Char} (left : Balanced cs) (right : Balanced ds) :
    Balanced (cs ++ ds) := by
  intro depth rest
  rw [List.append_assoc, left depth, right depth]

theorem balancedChar {c : Char} (quote : c ≠ '\'') (opening : c ≠ '(') (closing : c ≠ ')') :
    Balanced [c] := by
  intro depth rest
  simp [beyondBracket, quote, opening, closing]

def Calm (cs : List Char) : Prop := ∀ c ∈ cs, c ≠ '\'' ∧ c ≠ '(' ∧ c ≠ ')'

instance : DecidablePred Calm := fun cs =>
  List.decidableBAll (fun c => c ≠ '\'' ∧ c ≠ '(' ∧ c ≠ ')') cs

theorem balancedCalm (cs : List Char) (calm : Calm cs) : Balanced cs := by
  induction cs with
  | nil => exact balancedNil
  | cons c cs ih =>
    have head := calm c (by simp)
    exact (balancedChar head.1 head.2.1 head.2.2).append (ih fun d hd => calm d (by simp [hd]))

theorem Plain.balanced {cs : List Char} (plain : Plain cs) : Balanced cs := by
  refine balancedCalm cs fun c hc => ⟨?_, ?_, ?_⟩ <;> rintro rfl <;>
    exact absurd (plain _ hc) (by decide)

theorem balancedBrackets {cs : List Char} (inside : Balanced cs) :
    Balanced ('(' :: (cs ++ [')'])) := by
  intro depth rest
  have opened : beyondBracket (depth + 1) false ('(' :: (cs ++ [')']) ++ rest) =
      beyondBracket (depth + 2) false (cs ++ ')' :: rest) := by
    simp [beyondBracket]
  rw [opened, inside (depth + 1)]
  simp [beyondBracket]

theorem beyondQuotes (depth : Nat) (cs rest : List Char) :
    beyondBracket depth true (doubled cs ++ '\'' :: rest) = beyondBracket depth false rest := by
  induction cs with
  | nil => simp [doubled, substitute, beyondBracket]
  | cons c cs ih =>
    rw [doubledCons]
    by_cases quote : c = '\''
    · subst quote
      simpa [beyondBracket] using ih
    · have still : (c != '\'') = true := by simpa using quote
      rw [if_neg quote, List.append_assoc, List.singleton_append, beyondBracket, still, ih]

theorem balancedQuoted (cs : List Char) : Balanced ('\'' :: (doubled cs ++ ['\''])) := by
  intro depth rest
  have opened : beyondBracket (depth + 1) false ('\'' :: (doubled cs ++ ['\'']) ++ rest) =
      beyondBracket (depth + 1) true (doubled cs ++ '\'' :: rest) := by
    simp [beyondBracket]
  rw [opened, beyondQuotes]

theorem doubledPlain {cs : List Char} (plain : Plain cs) : doubled cs = cs := by
  induction cs with
  | nil => rfl
  | cons c cs ih =>
    have ⟨head, tail⟩ := plainCons.mp plain
    have quote : c ≠ '\'' := by rintro rfl; exact absurd head (by decide)
    rw [doubledCons, if_neg quote, ih tail]
    rfl

theorem LiteralForm.balanced {cs : List Char} (form : LiteralForm cs) : Balanced cs := by
  cases form with
  | bare plain => exact plain.balanced
  | quoted inner => exact balancedQuoted inner
  | @dated inner plain =>
    have word : Balanced "DateTime".toList := Plain.balanced (by decide)
    have clock := balancedQuoted inner
    rw [doubledPlain plain] at clock
    exact word.append clock

theorem balancedComparison {field literal : String} (name : Plain field.toList) (token : String)
    (word : Plain token.toList) (form : LiteralForm literal.toList) :
    Balanced (comparisonText field token literal).toList := by
  have blank : Balanced " ".toList := balancedCalm _ (by decide)
  simp only [comparisonText, String.toList_append]
  exact (((name.balanced.append blank).append word.balanced).append blank).append form.balanced

theorem balancedJoin {separator : String} (between : Balanced separator.toList)
    {parts : List String} (inside : ∀ p ∈ parts, Balanced p.toList) :
    Balanced (join separator parts).toList := by
  induction parts with
  | nil => exact balancedNil
  | cons p ps ih =>
    have head := inside p (by simp)
    have tail := ih fun q hq => inside q (by simp [hq])
    rw [joinCons]
    split
    · exact head
    · simp only [String.toList_append]
      exact (head.append between).append tail

theorem balancedOperator (version : Version) (op : Operator) {field literal : String}
    (name : Plain field.toList) (form : LiteralForm literal.toList) :
    Balanced (operatorText version op field literal).toList := by
  have comma : Balanced ", ".toList := balancedCalm _ (by decide)
  have call (word : List Char) {inside : List Char} (plain : Plain word) (inner : Balanced inside) :
      Balanced (word ++ '(' :: (inside ++ [')'])) := plain.balanced.append (balancedBrackets inner)
  have equality := balancedComparison name "eq" (by decide) form
  have fieldFirst := (name.balanced.append comma).append form.balanced
  have literalFirst := (form.balanced.append comma).append name.balanced
  cases op with
  | equals => exact equality
  | greaterThan => exact balancedComparison name _ (by decide) form
  | greaterOrEqual => exact balancedComparison name _ (by decide) form
  | lowerThan => exact balancedComparison name _ (by decide) form
  | lowerOrEqual => exact balancedComparison name _ (by decide) form
  | within => simpa [operatorText] using balancedBrackets equality
  | notEquals => simpa [operatorText] using call "not".toList (by decide) equality
  | startsWith =>
    simpa [operatorText] using call "startswith".toList (by decide) fieldFirst
  | endsWith => simpa [operatorText] using call "endswith".toList (by decide) fieldFirst
  | contains =>
    cases version with
    | v3 =>
      simpa [operatorText, containsText] using
        call "substringof".toList (by decide) literalFirst
    | v4 =>
      simpa [operatorText, containsText] using
        call "contains".toList (by decide) fieldFirst

theorem breaksOr (rest : List Char) : Stops (" or ".toList ++ rest) := stopsCons rfl _

theorem breaksAnd (rest : List Char) : Stops (" and ".toList ++ rest) := stopsCons rfl _

theorem Fragment.Written.balancedMembership (version : Version) {f : Fragment}
    (written : f.Written) (op : f.operator = .within) :
    ∃ inside, (f.text version).toList = '(' :: (inside ++ [')']) ∧ Balanced inside := by
  have candidate {l : String} (member : l ∈ f.literals) :=
    balancedOperator version .within written.field (written.literals l member)
  have between : Balanced " or ".toList := balancedCalm _ (by decide)
  cases shown : f.literals with
  | nil => exact absurd shown written.present
  | cons l ls =>
    cases ls with
    | nil =>
      refine ⟨(comparisonText f.field "eq" l).toList, ?_, ?_⟩
      · simp [Fragment.text, op, membershipText, shown, operatorText]
      · exact balancedComparison written.field _ (by decide) (written.literals l (by simp [shown]))
    | cons k ks =>
      refine ⟨(join " or " (f.literals.map (operatorText version .within f.field))).toList, ?_, ?_⟩
      · simp [Fragment.text, op, membershipText, shown]
      · refine balancedJoin between fun p hp => ?_
        obtain ⟨m, hm, rfl⟩ := List.mem_map.mp hp
        exact candidate hm

theorem Fragment.Written.balanced (version : Version) {f : Fragment} (written : f.Written) :
    Balanced (f.text version).toList := by
  by_cases op : f.operator = .within
  · obtain ⟨inside, shown, inner⟩ := written.balancedMembership version op
    rw [shown]
    exact balancedBrackets inner
  · obtain ⟨literal, only, form⟩ := written.single op
    simpa [Fragment.text, op, only] using balancedOperator version f.operator written.field form

def groupTextOf (version : Version) (fragments : List Fragment) : String :=
  join " or " (fragments.map (Fragment.text version))

structure GroupWritten (fragments : List Fragment) : Prop where
  present : fragments ≠ []
  written : ∀ f ∈ fragments, f.Written

theorem GroupWritten.balanced (version : Version) {fragments : List Fragment}
    (group : GroupWritten fragments) : Balanced (groupTextOf version fragments).toList := by
  refine balancedJoin (balancedCalm _ (by decide)) fun p hp => ?_
  obtain ⟨f, hf, rfl⟩ := List.mem_map.mp hp
  exact (group.written f hf).balanced version

theorem readGroupAppend (version : Version) {fragments : List Fragment}
    (group : GroupWritten fragments) {rest : List Char} (stops : Stops rest)
    (ended : expect? " or " rest = none) :
    readGroup version ((groupTextOf version fragments).toList ++ rest) = some (fragments, rest) :=
  chainJoin _ _ _ (by decide) breaksOr _ stops ended _ group.present
    fun f member _ stops => readFragmentAppend version (group.written f member) stops

def bracketed (s : String) : String := "(" ++ s ++ ")"

theorem bracketedSplit (s : String) (rest : List Char) :
    (bracketed s).toList ++ rest = '(' :: (s.toList ++ ')' :: rest) := by
  simp [bracketed]

theorem headComparison {field : String} (name : Plain field.toList) (token literal : String)
    (rest : List Char) :
    ((comparisonText field token literal).toList ++ rest).head? ≠ some '(' := by
  have front := headBare name.bare (' ' :: (token.toList ++ ' ' :: (literal.toList ++ rest)))
    (.inr (by simp))
  simpa [comparisonText] using front

theorem headFragment (version : Version) {f : Fragment} (written : f.Written)
    (op : f.operator ≠ .within) (rest : List Char) :
    ((f.text version).toList ++ rest).head? ≠ some '(' := by
  have comparison := headComparison written.field
  rw [Fragment.text, if_neg op]
  cases shown : f.operator with
  | within => exact absurd shown op
  | equals => exact comparison _ _ rest
  | greaterThan => exact comparison _ _ rest
  | greaterOrEqual => exact comparison _ _ rest
  | lowerThan => exact comparison _ _ rest
  | lowerOrEqual => exact comparison _ _ rest
  | notEquals => simp [operatorText]
  | startsWith => simp [operatorText]
  | endsWith => simp [operatorText]
  | contains => cases version <;> simp [operatorText, containsText]

theorem aloneNotSeveral (version : Version) {fragments : List Fragment}
    (group : GroupWritten fragments) :
    severalGroups (groupTextOf version fragments).toList = false := by
  cases fragments with
  | nil => exact absurd rfl group.present
  | cons f fs =>
    have written := group.written f (by simp)
    obtain ⟨tail, shown, ended⟩ : ∃ tail, (groupTextOf version (f :: fs)).toList =
        (f.text version).toList ++ tail ∧ expect? " and " tail = none := by
      rw [groupTextOf, List.map_cons, joinCons]
      split
      · exact ⟨[], by simp, rfl⟩
      · exact ⟨_, by rw [String.toList_append, String.toList_append, List.append_assoc], rfl⟩
    -- A bracket at the front is that of a membership, behind which the group ends or goes on with an
    -- alternative.
    rw [shown]
    by_cases op : f.operator = .within
    · obtain ⟨inside, bracket, inner⟩ := written.balancedMembership version op
      have beyond : beyondBracket 1 false (inside ++ ')' :: tail) = tail := by
        rw [inner 0]
        simp [beyondBracket]
      simp [bracket, severalGroups, beyond, ended]
    · have front := headFragment version written op tail
      unfold severalGroups
      split
      · rename_i same
        exact absurd (by simp [same]) front
      · rfl

theorem severalSeen {cs : List Char} (inside : Balanced cs) (rest : List Char) :
    severalGroups ('(' :: (cs ++ ')' :: (" and ".toList ++ rest))) = true := by
  have beyond : beyondBracket 1 false (cs ++ ')' :: (" and ".toList ++ rest)) =
      " and ".toList ++ rest := by
    rw [inside 0]
    simp [beyondBracket]
  simp only [severalGroups, beyond, expectAppend, Option.isSome_some]

theorem readFilterConjunction (version : Version) (groups : List (List Fragment))
    (written : ∀ g ∈ groups, GroupWritten g) :
    readFilter? version (conjunction (groups.map (groupTextOf version))) = some groups := by
  cases groups with
  | nil => rfl
  | cons g gs =>
    cases gs with
    | nil =>
      have group := written g (by simp)
      have read := readGroupAppend version group stopsNil rfl
      rw [List.append_nil] at read
      simp [conjunction, readFilter?, readGroups, aloneNotSeveral version group, read]
    | cons h hs =>
      have chained := chainJoin " and " (inBrackets (readGroup version))
        (fun g => bracketed (groupTextOf version g)) (by decide) breaksAnd [] stopsNil rfl
        (g :: h :: hs) (by simp) (by
          intro group member rest _
          rw [bracketedSplit]
          exact inBracketsAppend rest
            (readGroupAppend version (written group member) (stopsCons rfl rest) rfl))
      rw [List.append_nil] at chained
      have first := (written g (by simp)).balanced version
      have several : severalGroups (join " and " ((g :: h :: hs).map
          fun g => bracketed (groupTextOf version g))).toList = true := by
        rw [List.map_cons, joinCons, if_neg (by simp)]
        simp only [String.toList_append, List.append_assoc]
        rw [bracketedSplit]
        exact severalSeen first _
      have shape : conjunction ((g :: h :: hs).map (groupTextOf version)) =
          some (join " and " ((g :: h :: hs).map fun g => bracketed (groupTextOf version g))) := by
        simp [conjunction, bracketed, Function.comp_def]
      rw [shape]
      simp only [readFilter?, readGroups, several, chained, if_true]

end TableQuery.OData
