import TableQuery.Number.Decimal
import TableQuery.Proofs.Text.Places

/-! Texts of decimals.
Digits, a point, and an exponent are read as they are written, so that the text of a finite decimal
reads as that decimal, with its sign, its coefficient and its exponent. -/
namespace TableQuery.Number
open TableQuery.Text

def pointed (fraction : List Nat) : List Char :=
  if fraction = [] then [] else '.' :: fraction.map digitChar

def exponentTail (e : Int) : List Char :=
  if e = 0 then [] else 'E' :: (Decimal.exponentText e).toList

theorem leadingDigitsRead {ds : List Nat} {rest : List Char} (small : ∀ d ∈ ds, d < 10)
    (stops : ∀ c ∈ rest.head?, asciiDigit? c = none) :
    leadingDigits (ds.map digitChar ++ rest) = (ds, rest) := by
  induction ds with
  | nil =>
    cases rest with
    | nil => rfl
    | cons c rest => simp [leadingDigits, stops c rfl]
  | cons d ds ih =>
    obtain ⟨head, tail⟩ := List.forall_mem_cons.mp small
    simp [leadingDigits, asciiDigitChar head, ih tail]

theorem exponentTextChars (e : Int) : (Decimal.exponentText e).toList =
    (if e < 0 then '-' else '+') :: (digits e.natAbs).map digitChar := by
  unfold Decimal.exponentText Text.ofInt ofNat
  split <;> simp

theorem exponentRead (e : Int) : exponentPart? (exponentTail e) = some e := by
  by_cases zero : e = 0
  · simp [exponentTail, zero, exponentPart?]
  · have read : leadingDigits ((digits e.natAbs).map digitChar ++ []) = (digits e.natAbs, []) :=
      leadingDigitsRead (digitsBelow e.natAbs) (by simp)
    have filled : (digits e.natAbs).isEmpty = false :=
      List.isEmpty_eq_false_iff.mpr (digitsPresent e.natAbs)
    rw [List.append_nil] at read
    rw [exponentTail, if_neg zero, exponentTextChars, exponentPart?, if_pos (.inr rfl)]
    by_cases negative : e < 0
    · have sized : withSign true e.natAbs = e := by
        rw [withSign, if_pos rfl]
        omega
      simp only [if_pos negative, signed, read, filled, ofDigitsDigits, sized]
      rfl
    · have sized : withSign false e.natAbs = e := by
        rw [withSign, if_neg Bool.false_ne_true]
        omega
      simp only [if_neg negative, signed, read, filled, ofDigitsDigits, sized]
      rfl

theorem exponentTailStops (e : Int) : ∀ c ∈ (exponentTail e).head?, c = 'E' := by
  unfold exponentTail
  split <;> simp

theorem fractionRead {fraction : List Nat} (small : ∀ d ∈ fraction, d < 10) (e : Int) :
    fractionPart (pointed fraction ++ exponentTail e) = (fraction, exponentTail e) := by
  have stops : ∀ c ∈ (exponentTail e).head?, asciiDigit? c = none := by
    intro c first
    rw [exponentTailStops e c first]
    decide
  by_cases bare : fraction = []
  · rw [pointed, if_pos bare, bare, List.nil_append]
    unfold fractionPart
    split
    · rename_i same
      have := exponentTailStops e '.' (by rw [same]; rfl)
      cases this
    · rfl
  · rw [pointed, if_neg bare, List.cons_append, fractionPart, leadingDigitsRead small stops]

theorem numeralRead {whole fraction : List Nat} (present : whole ≠ [])
    (small : ∀ d ∈ whole ++ fraction, d < 10) (e : Int) :
    numeral? (whole.map digitChar ++ (pointed fraction ++ exponentTail e)) =
      some ⟨ofDigits (whole ++ fraction), e - fraction.length⟩ := by
  obtain ⟨wholeSmall, fractionSmall⟩ := List.forall_mem_append.mp small
  have stops : ∀ c ∈ (pointed fraction ++ exponentTail e).head?, asciiDigit? c = none := by
    intro c first
    by_cases bare : fraction = []
    · rw [pointed, if_pos bare, List.nil_append] at first
      rw [exponentTailStops e c first]
      decide
    · rw [pointed, if_neg bare] at first
      cases first
      decide
  rw [numeral?, leadingDigitsRead wholeSmall stops]
  simp only [fractionRead fractionSmall e, exponentRead]
  simp [present]

structure Parted (ds : List Nat) (place : Int) (whole fraction : List Nat) : Prop where
  written : Decimal.placePoint (ds.map digitChar) place = whole.map digitChar ++ pointed fraction
  present : whole ≠ []
  small : ∀ d ∈ whole ++ fraction, d < 10
  denotes : ofDigits (whole ++ fraction) = ofDigits ds
  behind : (fraction.length : Int) = ds.length - place

theorem pointPlaced {ds : List Nat} (present : ds ≠ []) (small : ∀ d ∈ ds, d < 10) {place : Int}
    (within : place ≤ ds.length) : ∃ whole fraction, Parted ds place whole fraction := by
  by_cases before : place ≤ 0
  · refine ⟨[0], List.replicate (-place).toNat 0 ++ ds, ?_, by simp, ?_, ?_, ?_⟩
    · rw [Decimal.placePoint, if_pos before, pointed, if_neg (by simp [present])]
      simp [digitChar]
    · intro d member
      simp only [List.mem_append, List.mem_singleton, List.mem_replicate] at member
      rcases member with rfl | ⟨-, rfl⟩ | inside
      · decide
      · decide
      · exact small d inside
    · rw [← List.append_assoc, ← List.replicate_one, List.replicate_append_replicate, ofDigitsZeros]
    · simp
      omega
  · by_cases last : ds.length ≤ place.toNat
    · have unfilled : place.toNat - ds.length = 0 := by omega
      refine ⟨ds, [], ?_, present, by simpa using small, by simp, ?_⟩
      · rw [Decimal.placePoint, if_neg before, List.length_map, if_pos last, unfilled]
        simp [pointed]
      · simp
        omega
    · refine ⟨ds.take place.toNat, ds.drop place.toNat, ?_, ?_, ?_, ?_, ?_⟩
      · rw [Decimal.placePoint, if_neg before, List.length_map, if_neg last, pointed,
          if_neg (by simp; omega), List.map_take, List.map_drop]
      · simp [present]
        omega
      · simpa using small
      · rw [List.take_append_drop]
      · simp
        omega

def PlainChar (c : Char) : Prop := 43 ≤ c.toNat ∧ c.toNat ≤ 69

instance (c : Char) : Decidable (PlainChar c) := inferInstanceAs (Decidable (_ ∧ _))

theorem digitPlain {d : Nat} (small : d < 10) : PlainChar (digitChar d) := by
  have all : ∀ k < 10, PlainChar (digitChar k) := by decide
  exact all d small

theorem digitsPlain {ds : List Nat} (small : ∀ d ∈ ds, d < 10) :
    ∀ c ∈ ds.map digitChar, PlainChar c := by
  intro c member
  obtain ⟨d, inside, rfl⟩ := List.mem_map.mp member
  exact digitPlain (small d inside)

theorem numeralPlain {whole fraction : List Nat} (small : ∀ d ∈ whole ++ fraction, d < 10)
    (e : Int) :
    ∀ c ∈ whole.map digitChar ++ (pointed fraction ++ exponentTail e), PlainChar c := by
  obtain ⟨wholeSmall, fractionSmall⟩ := List.forall_mem_append.mp small
  have point : ∀ c ∈ pointed fraction, PlainChar c := by
    unfold pointed
    split
    · simp
    · exact List.forall_mem_cons.mpr ⟨by decide, digitsPlain fractionSmall⟩
  have tail : ∀ c ∈ exponentTail e, PlainChar c := by
    unfold exponentTail
    split
    · simp
    · rw [exponentTextChars]
      refine List.forall_mem_cons.mpr ⟨by decide, List.forall_mem_cons.mpr ⟨?_, ?_⟩⟩
      · split <;> decide
      · exact digitsPlain (digitsBelow e.natAbs)
  exact List.forall_mem_append.mpr
    ⟨digitsPlain wholeSmall, List.forall_mem_append.mpr ⟨point, tail⟩⟩

theorem plainNotBlank {c : Char} (plain : PlainChar c) : isBlank c = false := by
  obtain ⟨above, below⟩ := plain
  simp [isBlank, isWhite]
  omega

theorem trimPlain {cs : List Char} (plain : ∀ c ∈ cs, PlainChar c) : trim cs = cs :=
  trimEnds (fun c first => plainNotBlank (plain c (List.mem_of_mem_head? first)))
    fun c last => plainNotBlank (plain c (List.mem_of_getLast? last))

end TableQuery.Number

namespace TableQuery.Decimal
open TableQuery.Text TableQuery.Number

theorem plainCharsKept {cs : List Char} (plain : ∀ c ∈ cs, PlainChar c) :
    plainChars? cs = some cs := by
  induction cs with
  | nil => rfl
  | cons c cs ih =>
    obtain ⟨⟨above, below⟩, rest⟩ := List.forall_mem_cons.mp plain
    have spaced : c ≠ '_' := by
      rintro rfl
      exact absurd below (by decide)
    rw [plainChars?.eq_3 _ _ spaced, if_pos ⟨by omega, by omega⟩, ih rest]
    rfl

theorem digitNoWord {d : Nat} (small : d < 10) (cs : List Char) {word : String} {first : Char}
    (begins : word.toList.head? = some first) (letter : asciiDigit? first = none) :
    isWord word (digitChar d :: cs) = false := by
  have kept : (digitChar d).toLower = digitChar d := by
    have all : ∀ k < 10, (digitChar k).toLower = digitChar k := by decide
    exact all d small
  rw [isWord, beq_eq_false_iff_ne]
  intro same
  rw [← same, List.map_cons, kept, List.head?_cons] at begins
  cases begins
  cases (asciiDigitChar small).symm.trans letter

theorem unsignedRead {whole fraction : List Nat} (present : whole ≠ [])
    (small : ∀ d ∈ whole ++ fraction, d < 10) (negative : Bool) (e : Int) :
    ofUnsigned? negative (whole.map digitChar ++ (pointed fraction ++ exponentTail e)) =
      inRange? negative ⟨ofDigits (whole ++ fraction), e - fraction.length⟩ := by
  have read := numeralRead present small e
  obtain ⟨d, whole, rfl⟩ := List.exists_cons_of_ne_nil present
  have first : d < 10 := small d (by simp)
  rw [List.map_cons, List.cons_append] at read ⊢
  generalize whole.map digitChar ++ (pointed fraction ++ exponentTail e) = rest at read ⊢
  rw [ofUnsigned?, digitNoWord first rest rfl rfl, digitNoWord first rest rfl rfl,
    List.take_succ_cons, digitNoWord first (rest.take 2) rfl rfl,
    List.take_succ_cons, digitNoWord first (rest.take 3) rfl rfl, read]
  rfl

/-- The exponents that a decimal with these digits can have. -/
def WithinReach (coefficient : Nat) (exponent : Int) : Prop :=
  exponent + (digits coefficient).length - 1 ≤ largestExponent ∧ smallestExponent ≤ exponent

theorem signRead {d : Nat} (small : d < 10) (negative : Bool) (rest : List Char) :
    signed ((minus negative).toList ++ digitChar d :: rest) = (negative, digitChar d :: rest) := by
  cases negative with
  | true => rfl
  | false => exact signedDigit (asciiDigitChar small) rest

theorem textParted (negative : Bool) (coefficient : Nat) (exponent : Int) :
    ∃ whole fraction e, Parted (digits coefficient) ((digits coefficient).length + exponent - e)
        whole fraction ∧
      (finite negative coefficient exponent).toText.toList =
        (minus negative).toList ++ (whole.map digitChar ++ (pointed fraction ++ exponentTail e)) := by
  have first := List.length_pos_iff.mpr (digitsPresent coefficient)
  rw [toText]
  simp only [List.length_map]
  generalize same : (if exponent ≤ 0 ∧ -6 < exponent + (digits coefficient).length then
    exponent + (digits coefficient).length else 1) = place
  have within : place ≤ (digits coefficient).length := by
    split at same <;> omega
  obtain ⟨whole, fraction, parted⟩ := pointPlaced (digitsPresent coefficient)
    (digitsBelow coefficient) within
  refine ⟨whole, fraction, exponent + (digits coefficient).length - place, ?_, ?_⟩
  · rwa [show ((digits coefficient).length : Int) + exponent -
      (exponent + (digits coefficient).length - place) = place by omega]
  · rw [parted.written, exponentTail]
    by_cases plain : exponent + (digits coefficient).length = place
    · simp [plain]
    · rw [if_neg plain, if_neg (by omega)]
      simp

theorem textRead (negative : Bool) {coefficient : Nat} {exponent : Int}
    (reach : WithinReach coefficient exponent) :
    ofText? (finite negative coefficient exponent).toText =
      some (finite negative coefficient exponent) := by
  obtain ⟨whole, fraction, e, parted, text⟩ := textParted negative coefficient exponent
  have plain : ∀ c ∈ (finite negative coefficient exponent).toText.toList, PlainChar c := by
    rw [text]
    refine List.forall_mem_append.mpr ⟨?_, numeralPlain parted.small e⟩
    cases negative with
    | true => exact List.forall_mem_singleton.mpr (by decide)
    | false => exact fun c nowhere => absurd nowhere List.not_mem_nil
  have read := unsignedRead parted.present parted.small negative e
  have behind : e - fraction.length = exponent := by
    have := parted.behind
    omega
  rw [parted.denotes, ofDigitsDigits, behind] at read
  obtain ⟨d, others, begins⟩ := List.exists_cons_of_ne_nil parted.present
  have sign := signRead (parted.small d (by simp [begins])) negative
    (others.map digitChar ++ (pointed fraction ++ exponentTail e))
  rw [← List.cons_append, ← List.map_cons, ← begins] at sign
  rw [ofText?, trimPlain plain, plainCharsKept plain, text]
  simp only [Option.bind_eq_bind, Option.bind_some, sign, read]
  exact if_pos reach

end TableQuery.Decimal
