import TableQuery.Proofs.Text.Places

/-! Numbers with zeros in front. They have the digits that their width gives room for, denote what they
denote without the zeros, and stand in the order of their texts. -/
namespace TableQuery.Text
open TableQuery.Number

def zeroPadded (width n : Nat) : List Nat := List.replicate (width - (digits n).length) 0 ++ digits n

theorem paddedChars (width n : Nat) :
    (ofNatPadded width n).toList = (zeroPadded width n).map digitChar := by
  simp [ofNatPadded, padLeft, copies, ofNat, zeroPadded, digitChar]

theorem zeroPaddedSmall (width n : Nat) : ∀ d ∈ zeroPadded width n, d < 10 := by
  intro d member
  rcases List.mem_append.mp member with zero | digit
  · rw [List.eq_of_mem_replicate zero]
    decide
  · exact digitsBelow n d digit

theorem zeroPaddedDenotes (width n : Nat) : ofDigits (zeroPadded width n) = n := by
  rw [zeroPadded, ofDigitsZeros, ofDigitsDigits]

theorem zeroPaddedLength {width n : Nat} (present : 0 < width) (below : n < tenTo width) :
    (zeroPadded width n).length = width := by
  have := digitsShort present below
  rw [zeroPadded, List.length_append, List.length_replicate]
  omega

theorem paddedLength {width n : Nat} (present : 0 < width) (below : n < tenTo width) :
    (ofNatPadded width n).toList.length = width := by
  rw [paddedChars, List.length_map, zeroPaddedLength present below]

theorem paddedDigits (width n : Nat) :
    ∀ c ∈ (ofNatPadded width n).toList, (asciiDigit? c).isSome = true := by
  intro c member
  rw [paddedChars] at member
  obtain ⟨d, inside, rfl⟩ := List.mem_map.mp member
  rw [asciiDigitChar (zeroPaddedSmall width n d inside)]
  rfl

theorem paddedDenotes (width n : Nat) :
    ofDigits ((ofNatPadded width n).toList.filterMap asciiDigit?) = n := by
  rw [paddedChars, readDigitChars (zeroPaddedSmall width n), zeroPaddedDenotes]

structure FixedDigits (width n : Nat) (cs : List Char) : Prop where
  length : cs.length = width
  digits : ∀ c ∈ cs, (asciiDigit? c).isSome = true
  denotes : ofDigits (cs.filterMap asciiDigit?) = n

theorem paddedFixed {width n : Nat} (present : 0 < width) (below : n < tenTo width) :
    FixedDigits width n (ofNatPadded width n).toList :=
  ⟨paddedLength present below, paddedDigits width n, paddedDenotes width n⟩

theorem ownWidth (n : Nat) : ofNatPadded (digits n).length n = ofNat n := by
  rw [← String.toList_inj, paddedChars, zeroPadded, Nat.sub_self, ofNat, String.toList_ofList]
  rfl

theorem frontsOrder {xs ys : List Char} (long : xs.length = ys.length) (us vs : List Char) :
    xs ++ us < ys ++ vs ↔ xs < ys ∨ xs = ys ∧ us < vs := by
  induction xs generalizing ys with
  | nil =>
    rw [List.eq_nil_of_length_eq_zero long.symm]
    simp
  | cons x xs ih =>
    obtain ⟨y, others, rfl⟩ := List.exists_cons_of_length_pos (l := ys) (long ▸ Nat.succ_pos _)
    have tails := ih (Nat.succ.inj long)
    rw [List.cons_append, List.cons_append, List.cons_lt_cons_iff, List.cons_lt_cons_iff, tails,
      List.cons.injEq]
    constructor
    · rintro (less | ⟨same, less | ⟨others, less⟩⟩)
      · exact .inl (.inl less)
      · exact .inl (.inr ⟨same, less⟩)
      · exact .inr ⟨⟨same, others⟩, less⟩
    · rintro ((less | ⟨same, less⟩) | ⟨⟨same, others⟩, less⟩)
      · exact .inl less
      · exact .inr ⟨same, .inl less⟩
      · exact .inr ⟨same, .inr ⟨others, less⟩⟩

theorem digitCharOrder {d e : Nat} (small : d < 10) (otherSmall : e < 10) :
    digitChar d < digitChar e ↔ d < e := by
  have all : ∀ k < 10, ∀ l < 10, digitChar k < digitChar l ↔ k < l := by decide
  exact all d small e otherSmall

theorem leadingDigit (d : Nat) (ds : List Nat) :
    ofDigits (d :: ds) = d * tenTo ds.length + ofDigits ds := by
  have one : ofDigits [d] = d := by simp [ofDigits]
  rw [← List.singleton_append, ofDigitsAppend, one]

theorem leadingOrder {a b unit : Nat} (below : a < unit) (otherBelow : b < unit) (d e : Nat) :
    d * unit + a < e * unit + b ↔ d < e ∨ d = e ∧ a < b := by
  rcases Nat.lt_trichotomy d e with less | rfl | more
  · have := Nat.mul_le_mul_right unit (Nat.succ_le_of_lt less)
    rw [Nat.succ_mul] at this
    omega
  · omega
  · have := Nat.mul_le_mul_right unit (Nat.succ_le_of_lt more)
    rw [Nat.succ_mul] at this
    omega

theorem digitsOrder {ds es : List Nat} (small : ∀ d ∈ ds, d < 10) (otherSmall : ∀ e ∈ es, e < 10)
    (long : ds.length = es.length) :
    ds.map digitChar < es.map digitChar ↔ ofDigits ds < ofDigits es := by
  induction ds generalizing es with
  | nil =>
    rw [List.eq_nil_of_length_eq_zero long.symm]
    simp
  | cons d ds ih =>
    obtain ⟨e, es, rfl⟩ := List.exists_cons_of_length_pos (l := es) (long ▸ Nat.succ_pos _)
    obtain ⟨head, tail⟩ := List.forall_mem_cons.mp small
    obtain ⟨otherHead, otherTail⟩ := List.forall_mem_cons.mp otherSmall
    have tails := ih tail otherTail (Nat.succ.inj long)
    have heads := digitCharOrder head otherHead
    have same : digitChar d = digitChar e ↔ d = e := by
      refine ⟨fun chars => ?_, congrArg digitChar⟩
      have read := asciiDigitChar head
      rw [chars, asciiDigitChar otherHead] at read
      exact (Option.some.inj read).symm
    -- The tails have one length, so that what they denote lies below one power of ten.
    have units : tenTo ds.length = tenTo es.length := congrArg tenTo (Nat.succ.inj long)
    rw [List.map_cons, List.map_cons, List.cons_lt_cons_iff, heads, same, tails, leadingDigit,
      leadingDigit, units, leadingOrder (units ▸ ofDigitsBelow tail) (ofDigitsBelow otherTail)]

theorem paddedOrder {width m n : Nat} (present : 0 < width) (below : m < tenTo width)
    (otherBelow : n < tenTo width) :
    (ofNatPadded width m).toList < (ofNatPadded width n).toList ↔ m < n := by
  have long := (zeroPaddedLength present below).trans (zeroPaddedLength present otherBelow).symm
  rw [paddedChars, paddedChars, digitsOrder (zeroPaddedSmall width m) (zeroPaddedSmall width n) long,
    zeroPaddedDenotes, zeroPaddedDenotes]

theorem paddedInjective {width m n : Nat} :
    (ofNatPadded width m).toList = (ofNatPadded width n).toList ↔ m = n := by
  refine ⟨fun same => ?_, fun same => by rw [same]⟩
  rw [← paddedDenotes width m, same, paddedDenotes]

theorem fieldOrder {width m n : Nat} (present : 0 < width) (below : m < tenTo width)
    (otherBelow : n < tenTo width) (mark : Char) (us vs : List Char) :
    (ofNatPadded width m).toList ++ mark :: us < (ofNatPadded width n).toList ++ mark :: vs ↔
      m < n ∨ m = n ∧ us < vs := by
  have long := (paddedLength present below).trans (paddedLength present otherBelow).symm
  rw [frontsOrder long, paddedOrder present below otherBelow, paddedInjective, List.cons_lt_cons_iff]
  simp

end TableQuery.Text
