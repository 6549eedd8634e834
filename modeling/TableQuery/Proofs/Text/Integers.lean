import TableQuery.Text.Digits
import TableQuery.Proofs.Text.Trimming

/-! Integers and their texts.
The digits of a number denote it, so that different integers have different texts. What reads as an
integer is described by a grammar: a sign or none, and digits with single underscores between them. -/
namespace TableQuery.Text

theorem digitsBelow (n : Nat) : ∀ d ∈ digits n, d < 10 := by
  suffices reversed : ∀ d ∈ digitsReversed n, d < 10 by simpa [digits] using reversed
  fun_induction digitsReversed n with
  | case1 n small => simpa using small
  | case2 n large ih =>
    intro d member
    rcases List.mem_cons.mp member with rfl | inside
    · exact Nat.mod_lt n (by decide)
    · exact ih d inside

theorem ofDigitsDigits (n : Nat) : ofDigits (digits n) = n := by
  rw [ofDigits, digits, List.foldl_reverse]
  fun_induction digitsReversed n with
  | case1 n small => simp
  | case2 n large ih =>
    rw [List.foldr_cons, ih]
    omega

theorem asciiDigitChar {d : Nat} (small : d < 10) : asciiDigit? (digitChar d) = some d := by
  have all : ∀ k < 10, asciiDigit? (digitChar k) = some k := by decide
  exact all d small

theorem readDigitChars {ds : List Nat} (small : ∀ d ∈ ds, d < 10) :
    (ds.map digitChar).filterMap asciiDigit? = ds := by
  induction ds with
  | nil => rfl
  | cons d ds ih =>
    obtain ⟨head, tail⟩ := List.forall_mem_cons.mp small
    rw [List.map_cons, List.filterMap_cons_some (asciiDigitChar head), ih tail]

theorem ofNatInjective {m n : Nat} (same : ofNat m = ofNat n) : m = n := by
  have chars : (digits m).map digitChar = (digits n).map digitChar := String.ofList_injective same
  have digitsSame := congrArg (List.filterMap asciiDigit?) chars
  rw [readDigitChars (digitsBelow m), readDigitChars (digitsBelow n)] at digitsSame
  rw [← ofDigitsDigits m, digitsSame, ofDigitsDigits]

theorem naturalFree {c : Char} (noDigit : asciiDigit? c = none) (n : Nat) :
    c ∉ (ofNat n).toList := by
  intro inside
  rw [ofNat, String.toList_ofList] at inside
  obtain ⟨d, member, rfl⟩ := List.mem_map.mp inside
  cases noDigit.symm.trans (asciiDigitChar (digitsBelow n d member))

theorem integerFree {c : Char} (noDigit : asciiDigit? c = none) (noSign : c ≠ '-') (n : Int) :
    c ∉ (ofInt n).toList := by
  unfold ofInt
  split
  · simpa [noSign] using naturalFree noDigit n.natAbs
  · exact naturalFree noDigit n.natAbs

theorem minusOfInt (n : Int) : '-' ∈ (ofInt n).toList ↔ n < 0 := by
  unfold ofInt
  split
  · rename_i negative
    simp [negative]
  · rename_i positive
    simp [positive, naturalFree (c := '-') (by decide) n.natAbs]

theorem ofIntInjective {m n : Int} (same : ofInt m = ofInt n) : m = n := by
  have signs : m < 0 ↔ n < 0 := by rw [← minusOfInt, ← minusOfInt, same]
  have sizes : m.natAbs = n.natAbs := by
    unfold ofInt at same
    by_cases negative : n < 0
    · rw [if_pos negative, if_pos (signs.mpr negative)] at same
      exact ofNatInjective (String.append_right_inj "-" |>.mp same)
    · rw [if_neg negative, if_neg fun below => negative (signs.mp below)] at same
      exact ofNatInjective same
  omega

theorem asciiDigitBelow {c : Char} {d : Nat} (digit : asciiDigit? c = some d) : d < 10 := by
  unfold asciiDigit? at digit
  split at digit
  · cases digit
    omega
  · cases digit

theorem ofDigitsBelow {ds : List Nat} (small : ∀ d ∈ ds, d < 10) :
    ofDigits ds < Number.tenTo ds.length := by
  suffices folded : ∀ a, ds.foldl (fun acc d => acc * 10 + d) a < (a + 1) * Number.tenTo ds.length by
    simpa [ofDigits] using folded 0
  induction ds with
  | nil => simp [Number.tenTo]
  | cons d ds ih =>
    obtain ⟨head, tail⟩ := List.forall_mem_cons.mp small
    intro a
    calc ds.foldl (fun acc d => acc * 10 + d) (a * 10 + d)
        < (a * 10 + d + 1) * Number.tenTo ds.length := ih tail _
      _ ≤ ((a + 1) * 10) * Number.tenTo ds.length := Nat.mul_le_mul_right _ (by omega)
      _ = (a + 1) * Number.tenTo (d :: ds).length := by
        rw [List.length_cons, Number.tenToSucc, Nat.mul_assoc, Nat.mul_comm 10]

theorem tenToMono {m n : Nat} (below : m ≤ n) : Number.tenTo m ≤ Number.tenTo n :=
  Nat.pow_le_pow_right (by decide) below

theorem withSignSize (negative : Bool) (n : Nat) : (withSign negative n).natAbs = n := by
  cases negative <;> simp [withSign]

theorem shortDigits {ds : List Nat} (negative : Bool) (small : ∀ d ∈ ds, d < 10)
    (few : ds.length ≤ digitLimit) : tooManyDigits (withSign negative (ofDigits ds)) = false := by
  have below : ofDigits ds < Number.tenTo digitLimit :=
    Nat.lt_of_lt_of_le (ofDigitsBelow small) (tenToMono few)
  rw [tooManyDigits, withSignSize]
  exact decide_eq_false (Nat.not_le.mpr below)

inductive SpacedDigits : List Char → List Nat → Prop
  | one {c : Char} {d : Nat} (digit : asciiDigit? c = some d) : SpacedDigits [c] [d]
  | next {c : Char} {d : Nat} {cs : List Char} {ds : List Nat} (digit : asciiDigit? c = some d)
      (rest : SpacedDigits cs ds) : SpacedDigits (c :: cs) (d :: ds)
  | spaced {c : Char} {d : Nat} {cs : List Char} {ds : List Nat} (digit : asciiDigit? c = some d)
      (rest : SpacedDigits cs ds) : SpacedDigits (c :: '_' :: cs) (d :: ds)

inductive IntegerText : List Char → Int → Prop
  | plain {cs : List Char} {ds : List Nat} (body : SpacedDigits cs ds) :
      IntegerText cs (ofDigits ds)
  | plus {cs : List Char} {ds : List Nat} (body : SpacedDigits cs ds) :
      IntegerText ('+' :: cs) (ofDigits ds)
  | minus {cs : List Char} {ds : List Nat} (body : SpacedDigits cs ds) :
      IntegerText ('-' :: cs) (-(ofDigits ds))

def Ascii (cs : List Char) : Prop := ∀ c ∈ cs, c.toNat < 128

instance (cs : List Char) : Decidable (Ascii cs) :=
  List.decidableBAll (fun c : Char => c.toNat < 128) cs

theorem asciiDigits {c : Char} (ascii : c.toNat < 128) : digit? c = asciiDigit? c := by
  unfold digit?
  split
  · rename_i found
    exact found.symm
  · rename_i found
    rw [if_pos ascii, found]

theorem SpacedDigits.first {cs : List Char} {ds : List Nat} (spaced : SpacedDigits cs ds) :
    ∃ c d rest, cs = c :: rest ∧ asciiDigit? c = some d := by
  cases spaced with
  | one digit | next digit | spaced digit => exact ⟨_, _, _, rfl, digit⟩

theorem SpacedDigits.length {cs : List Char} {ds : List Nat} (spaced : SpacedDigits cs ds) :
    ds.length ≤ cs.length := by
  induction spaced with
  | one digit => simp
  | next digit rest ih | spaced digit rest ih =>
    simp only [List.length_cons]
    omega

theorem spacedDigitsIff {cs : List Char} (ascii : Ascii cs) (ds : List Nat) :
    spacedDigits? digit? cs = some ds ↔ SpacedDigits cs ds := by
  induction cs using spacedDigits?.induct generalizing ds with
  | case1 =>
    refine ⟨fun found => (nomatch found), fun spaced => ?_⟩
    obtain ⟨c, d, rest, same, -⟩ := spaced.first
    cases same
  | case2 c =>
    rw [spacedDigits?, asciiDigits (ascii c (by simp))]
    constructor
    · intro found
      obtain ⟨d, digit, rfl⟩ := Option.map_eq_some_iff.mp found
      exact .one digit
    · intro spaced
      cases spaced with
      | one digit => rw [digit]; rfl
      | next digit rest => obtain ⟨_, _, _, same, -⟩ := rest.first; cases same
  | case3 c rest ih =>
    have tail : Ascii rest := fun x inside => ascii x (by simp [inside])
    rw [spacedDigits?, asciiDigits (ascii c (by simp))]
    constructor
    · intro found
      obtain ⟨d, digit, found⟩ := Option.bind_eq_some_iff.mp found
      obtain ⟨others, read, last⟩ := Option.bind_eq_some_iff.mp found
      cases last
      exact .spaced digit ((ih tail others).mp read)
    · intro spaced
      cases spaced with
      | next digit rest =>
        obtain ⟨_, _, _, same, underscore⟩ := rest.first
        cases same
        cases underscore
      | spaced digit rest =>
        rw [digit, (ih tail _).mpr rest]
        rfl
  | case4 c rest present noUnderscore ih =>
    have tail : Ascii rest := fun x inside => ascii x (by simp [inside])
    rw [spacedDigits?.eq_4 _ _ _ present noUnderscore, asciiDigits (ascii c (by simp))]
    constructor
    · intro found
      obtain ⟨d, digit, found⟩ := Option.bind_eq_some_iff.mp found
      obtain ⟨others, read, last⟩ := Option.bind_eq_some_iff.mp found
      cases last
      exact .next digit ((ih tail others).mp read)
    · intro spaced
      cases spaced with
      | one digit => exact absurd rfl present
      | next digit rest =>
        rw [digit, (ih tail _).mpr rest]
        rfl
      | spaced digit rest => exact absurd rfl (noUnderscore _)

theorem signedDigit {c : Char} {d : Nat} (digit : asciiDigit? c = some d) (rest : List Char) :
    signed (c :: rest) = (false, c :: rest) := by
  unfold signed
  split
  · rename_i same
    cases same
    cases digit
  · rename_i same
    cases same
    cases digit
  · rfl

theorem signedDigits {negative : Bool} {body : List Char} {ds : List Nat} {cs : List Char}
    (split : signed cs = (negative, body)) (spaced : SpacedDigits body ds) :
    IntegerText cs (withSign negative (ofDigits ds)) := by
  unfold signed at split
  split at split
  · cases split
    exact .minus spaced
  · cases split
    exact .plus spaced
  · cases split
    exact .plain spaced

theorem signedShort (cs : List Char) : (signed cs).2.length ≤ cs.length := by
  unfold signed
  split <;> simp

theorem signedAscii {cs : List Char} (ascii : Ascii cs) : Ascii (signed cs).2 := by
  unfold signed
  split
  · exact fun c inside => ascii c (by simp [inside])
  · exact fun c inside => ascii c (by simp [inside])
  · exact ascii

theorem IntegerText.signed {cs : List Char} {n : Int} (text : IntegerText cs n) :
    ∃ ds, SpacedDigits (signed cs).2 ds ∧ n = withSign (Text.signed cs).1 (ofDigits ds) := by
  cases text with
  | plain body =>
    obtain ⟨c, d, rest, rfl, digit⟩ := body.first
    have bare := signedDigit digit rest
    exact ⟨_, by rwa [bare], by rw [bare]; rfl⟩
  | plus body => exact ⟨_, body, rfl⟩
  | minus body => exact ⟨_, body, rfl⟩

/- White space around the text is left out before, so that none is trimmed here. A text that is short
has no more digits than may be read. -/
theorem integerIff {cs : List Char} (ascii : Ascii cs) (short : cs.length ≤ digitLimit)
    (trimmed : trimWhere isWhite cs = cs) (n : Int) : integer? cs = some n ↔ IntegerText cs n := by
  have read : integer? cs = (do
      let ds ← spacedDigits? digit? (signed cs).2
      if ds.length ≤ digitLimit then some (withSign (signed cs).1 (ofDigits ds)) else none) := by
    rw [integer?, trimmed]
  rw [read]
  constructor
  · intro found
    obtain ⟨ds, digits, found⟩ := Option.bind_eq_some_iff.mp found
    split at found
    · cases found
      exact signedDigits rfl ((spacedDigitsIff (signedAscii ascii) ds).mp digits)
    · cases found
  · intro text
    obtain ⟨ds, spaced, rfl⟩ := text.signed
    have few : ds.length ≤ digitLimit := Nat.le_trans spaced.length (Nat.le_trans (signedShort cs) short)
    rw [(spacedDigitsIff (signedAscii ascii) ds).mpr spaced]
    exact if_pos few

end TableQuery.Text
