import TableQuery.Display.Types
import TableQuery.Proofs.Display.Decimals
import TableQuery.Proofs.Number.BinaryIntegers
import TableQuery.Proofs.Number.Exact
import TableQuery.Proofs.Text.Joining

/-! Integers on display.
The text of an integer is displayed digit by digit, however long it is. The integer itself goes through
the nearest binary number, so that it is displayed exactly just when it is one, and not at all beyond
their range. -/
namespace TableQuery.Number
open TableQuery.Text

theorem halfEvenTimes (count : ℕ) {den : ℕ} (positive : 0 < den) :
    halfEven (count * den) den = count := by
  simp [halfEven, Nat.mul_div_cancel count positive, positive]

theorem wholeParts (negative : Bool) (count : ℕ) {den : ℕ} (positive : 0 < den) :
    Fixed.ofRatio negative 0 (count * den) den = ⟨negative, (digits count).map digitChar, []⟩ := by
  have one : tenTo 0 = 1 := rfl
  rw [ratioParts, one, mul_one, halfEvenTimes count positive, Nat.div_one]
  rfl

theorem wholeDecimal (negative : Bool) (count : ℕ) :
    (Decimal.finite negative count 0).fixed? 0 = some ⟨negative, (digits count).map digitChar, []⟩ := by
  have parts := wholeParts negative count Nat.one_pos
  rw [Decimal.fixed?]
  split
  · rename_i nothing
    have none : count = 0 := nothing.resolve_right (by omega)
    rw [none, zero_mul] at parts
    rw [none, parts]
  · rw [if_pos le_rfl]
    exact congrArg some parts

end TableQuery.Number

namespace TableQuery.Display
open TableQuery.Text TableQuery.Number

def InThrees (n : ℤ) (thousand text : String) : Prop :=
  ∃ groups, Grouped (ofNat n.natAbs).toList groups ∧
    text = (if n < 0 then "-" else "") ++ join thousand (groups.map String.ofList)

def inThrees (thousand : String) (n : ℤ) : String :=
  (if n < 0 then "-" else "") ++
    join thousand ((groupsOfThree (ofNat n.natAbs).toList).map String.ofList)

theorem inThreesGrouped (thousand : String) (n : ℤ) : InThrees n thousand (inThrees thousand n) :=
  ⟨_, groupsGrouped (by simp [ofNat, digitsPresent]), rfl⟩

theorem wholeShown {n : ℤ} {negative : Bool} (sign : negative = true ↔ n < 0)
    (thousand separator : String) :
    (Shown.parts ⟨negative, (digits n.natAbs).map digitChar, []⟩).text thousand (.text separator) =
      .ok (inThrees thousand n) := by
  rw [partsText (List.length_nil) negative thousand separator]
  simp only [sign, if_true, String.append_empty, inThrees, ofNat, String.toList_ofList]

theorem integerTextDecimal (n : ℤ) : (Decimal.finite (n < 0) n.natAbs 0).toText = ofInt n := by
  have first := List.length_pos_iff.mpr (digitsPresent n.natAbs)
  have place : Decimal.placePoint ((digits n.natAbs).map digitChar) (digits n.natAbs).length =
      (digits n.natAbs).map digitChar := by
    rw [Decimal.placePoint, if_neg (by omega), if_pos (by simp)]
    simp
  have left : (-6 : ℤ) < (digits n.natAbs).length := by omega
  simp only [Decimal.toText, Decimal.minus, ofInt, ofNat, List.length_map, zero_add, le_refl, left,
    and_self, if_true, place, String.append_empty, decide_eq_true_eq]
  split <;> simp

theorem integerTextPlain (n : ℤ) : ∀ c ∈ (ofInt n).toList, PlainChar c := by
  have inside : ∀ c ∈ (ofNat n.natAbs).toList, PlainChar c := by
    rw [ofNat, String.toList_ofList]
    exact digitsPlain (digitsBelow n.natAbs)
  unfold ofInt
  split
  · simpa +decide using inside
  · exact inside

theorem integerSpelled {n : ℤ} (few : (digits n.natAbs).length ≤ 1000000000000000000) :
    Spells (ofInt n) (n < 0) n.natAbs 0 := by
  have comma : ',' ∉ (ofInt n).toList := integerFree (by decide) (by decide) n
  refine .inr ⟨⟨?_, ?_⟩, ?_⟩
  · unfold Decimal.largestExponent
    omega
  · unfold Decimal.smallestExponent
    decide
  · rw [integerTextDecimal, trimmed, trimPlain (integerTextPlain n), String.ofList_toList, substituted,
      substituteFree comma, String.ofList_toList]

def displayed (s : Settings) (thousand : String) (v : Value) : Except Fault String :=
  (TypeRegistry.standard s).format (some "int") v (.dict [("thousand", .text thousand)])

theorem displayedFormats (s : Settings) (thousand : String) (v : Value) :
    displayed s thousand v = (do
      if ← v.same (.int 0) then .ok "0"
      else if v.truthy then formatNumber v (.int 0) (.text thousand) (.text s.decimalSeparator)
      else .ok "") := rfl

theorem textNotZero (t : String) : (Value.text t).same (.int 0) = .ok false := by
  simp [Value.same, Value.sameScalar, Value.extent?, Value.asText?]

theorem integerNotZero {n : ℤ} (present : n ≠ 0) : (Value.int n).same (.int 0) = .ok false := by
  simp [Value.same, Value.sameScalar, Value.extent?, Value.signalling, Extent.same, present]

theorem noPlaces : tooManyDigits 0 = false := fewPlaces (Nat.zero_le _)

theorem integerTextPresent (n : ℤ) : ofInt n ≠ "" := by
  have natural : ofNat n.natAbs ≠ "" := by simp [ofNat, digitsPresent]
  unfold ofInt
  split
  · simp
  · exact natural

theorem textDisplayed (s : Settings) (thousand : String) {n : ℤ}
    (few : (digits n.natAbs).length ≤ 1000000000000000000) :
    displayed s thousand (.text (ofInt n)) = .ok (inThrees thousand n) := by
  have present : (Value.text (ofInt n)).truthy = true := by
    simpa [Value.truthy] using integerTextPresent n
  have counted : Counted n.natAbs 0 0 := ⟨Nat.zero_le _, .inr (by omega)⟩
  have asDecimal := formatDecimal (.finite (n < 0) n.natAbs 0) 0 thousand s.decimalSeparator
  calc displayed s thousand (.text (ofInt n))
      = formatNumber (.text (ofInt n)) (.int 0) (.text thousand) (.text s.decimalSeparator) := by
        rw [displayedFormats, textNotZero, okBind, if_neg (by simp), if_pos present]
    _ = formatNumber (.decimal (.finite (n < 0) n.natAbs 0)) (.int 0) (.text thousand)
          (.text s.decimalSeparator) := by
        simp only [formatNumber, Value.asText?, spelledDecimal (integerSpelled few)]
    _ = (Shown.parts ⟨n < 0, (digits n.natAbs).map digitChar, []⟩).text thousand
          (.text s.decimalSeparator) := by
        rw [shownCounted _ counted, showDecimal, wholeDecimal, Nat.cast_zero, noPlaces] at asDecimal
        rw [asDecimal, if_neg (by simp)]
        rfl
    _ = .ok (inThrees thousand n) := wholeShown (by simp) thousand s.decimalSeparator

theorem integerFormatted (s : Settings) (thousand : String) {n : ℤ} (present : n ≠ 0) :
    displayed s thousand (.int n) =
      match Binary64.ofInt? n with
      | some x => showBinary 0 x >>= fun number => number.text thousand (.text s.decimalSeparator)
      | none => .error .overflow := by
  have truthy : (Value.int n).truthy = true := by simpa [Value.truthy] using present
  have places : ¬ ((0 : ℤ) < 0 ∨ mostPlacesAsked < 0) := by decide
  rw [displayedFormats, integerNotZero present, okBind, if_neg (by simp), if_pos truthy]
  simp only [formatNumber, Value.asText?, formatPlain, placesOf, Value.asInt?, okBind, noPlaces,
    isCalendar, groupMark, shown, if_neg places]
  cases Binary64.ofInt? n <;> rfl

def nearestWhole (n : ℤ) : ℤ := withSign (n < 0) (rounded n.natAbs)

theorem nearestWholeNearest (n : ℤ) : NearestBinary n (nearestWhole n) := by
  unfold nearestWhole
  by_cases negative : n < 0
  · have size : n = -(n.natAbs : ℤ) := by omega
    rw [decide_eq_true negative, withSign, if_pos rfl]
    conv => arg 1; rw [size]
    exact (roundedNearest n.natAbs).neg
  · have size : n = (n.natAbs : ℤ) := by omega
    rw [decide_eq_false negative, withSign, if_neg (by simp)]
    conv => arg 1; rw [size]
    exact roundedNearest n.natAbs

theorem zeroDisplayed (s : Settings) (thousand : String) :
    displayed s thousand (.int 0) = .ok (inThrees thousand 0) := by
  have same : (Value.int 0).same (.int 0) = .ok true := by
    simp [Value.same, Value.sameScalar, Value.extent?, Value.signalling, Extent.same]
  have text : inThrees thousand 0 = "0" := by
    simp [inThrees, ofNat, digits, digitsReversed, groupsOfThree, join, digitChar]
  rw [displayedFormats, same, okBind, if_pos rfl, text]

theorem nearestDisplayed (s : Settings) (thousand : String) {n : ℤ}
    (within : n.natAbs < Binary64.wholeLimit) :
    displayed s thousand (.int n) = .ok (inThrees thousand (nearestWhole n)) := by
  by_cases zero : n = 0
  · have none : nearestWhole 0 = 0 := by decide
    rw [zero, none, zeroDisplayed]
  · have positive : 0 < n.natAbs := Int.natAbs_pos.mpr zero
    obtain ⟨mantissa, exponent, made, whole⟩ := (Binary64.ofRatioRounded (n < 0) positive).2 within
    have size : (nearestWhole n).natAbs = rounded n.natAbs := withSignSize _ _
    have sign : decide (n < 0) = true ↔ nearestWhole n < 0 := by
      have := roundedPositive positive
      by_cases negative : n < 0 <;> simp [nearestWhole, withSign, negative, this]
    have few : ¬ mostPlaces < 0 := by decide
    rw [integerFormatted s thousand zero, Binary64.ofInt?, made]
    simp only [showBinary, if_neg few, Int.toNat_zero, Binary64.fixed?, whole,
      wholeParts _ _ (Binary64.ratioPositive mantissa exponent), okBind]
    rw [← size]
    exact wholeShown sign thousand s.decimalSeparator

theorem beyondDisplayed (s : Settings) (thousand : String) {n : ℤ}
    (beyond : Binary64.wholeLimit ≤ n.natAbs) : displayed s thousand (.int n) = .error .overflow := by
  have positive : 0 < n.natAbs := Nat.lt_of_lt_of_le Binary64.wholeLimitPositive beyond
  rw [integerFormatted s thousand (Int.natAbs_pos.mp positive), Binary64.ofInt?,
    (Binary64.ofRatioRounded _ positive).1 beyond]

theorem fewDigitsWithin {n : ℕ} (within : n < Binary64.wholeLimit) : (digits n).length ≤ 1024 :=
  digitsShort (by decide) (Nat.lt_of_lt_of_le within Binary64.wholeLimitBelow)

theorem integersDisplayed (s : Settings) (thousand : String) (n : ℤ) :
    ((digits n.natAbs).length ≤ 1000000000000000000 →
      ∃ text, InThrees n thousand text ∧ displayed s thousand (.text (ofInt n)) = .ok text) ∧
    (n.natAbs < Binary64.wholeLimit →
      (∃ k text, NearestBinary n k ∧ InThrees k thousand text ∧
        displayed s thousand (.int n) = .ok text) ∧
      (BinaryInteger n → ∃ text, InThrees n thousand text ∧
        displayed s thousand (.int n) = .ok text ∧
        displayed s thousand (.text (ofInt n)) = .ok text)) ∧
    (Binary64.wholeLimit ≤ n.natAbs → displayed s thousand (.int n) = .error .overflow) := by
  refine ⟨fun few => ⟨_, inThreesGrouped thousand n, textDisplayed s thousand few⟩,
    fun within => ⟨?_, fun binary => ?_⟩, beyondDisplayed s thousand⟩
  · exact ⟨_, _, nearestWholeNearest n, inThreesGrouped thousand _, nearestDisplayed s thousand within⟩
  · have few := fewDigitsWithin within
    have exact := (nearestWholeNearest n).exact.mpr binary
    have shows := nearestDisplayed s thousand within
    rw [exact] at shows
    exact ⟨_, inThreesGrouped thousand n, shows, textDisplayed s thousand (by omega)⟩

theorem evenIntegerDisplayed :
    (9007199254740994 : ℤ).natAbs < Binary64.wholeLimit ∧ BinaryInteger 9007199254740994 ∧
      InThrees 9007199254740994 "." "9.007.199.254.740.994" ∧
      displayed .default "." (.int 9007199254740994) = .ok "9.007.199.254.740.994" ∧
      displayed .default "." (.text "9007199254740994") = .ok "9.007.199.254.740.994" := by
  have within : (9007199254740994 : ℤ).natAbs < Binary64.wholeLimit := by decide +kernel
  have binary : BinaryInteger 9007199254740994 := ⟨4503599627370497, 1, by decide, by decide⟩
  obtain ⟨text, threes, shows, same⟩ :=
    ((integersDisplayed .default "." 9007199254740994).2.1 within).2 binary
  have evaluated : (displayed .default "." (.text (ofInt 9007199254740994))).toOption =
      some "9.007.199.254.740.994" := by decide +kernel
  cases (congrArg Except.toOption same).symm.trans evaluated
  have written : ofInt 9007199254740994 = "9007199254740994" := by decide +kernel
  exact ⟨within, binary, threes, shows, written ▸ same⟩

theorem InThrees.digits {n : ℤ} {thousand text : String} (threes : InThrees n thousand text)
    (marks : ∀ c ∈ thousand.toList, c.isDigit = false) :
    text.toList.filter Char.isDigit = (ofNat n.natAbs).toList := by
  obtain ⟨groups, grouped, rfl⟩ := threes
  have sign : (if n < 0 then "-" else "").toList.filter Char.isDigit = [] := by split <;> rfl
  have pieces : (groups.map String.ofList).flatMap String.toList = (ofNat n.natAbs).toList := by
    simp [List.flatMap_map, grouped.joined]
  have digit : ∀ c ∈ (ofNat n.natAbs).toList, c.isDigit = true := by
    intro c member
    rw [ofNat, String.toList_ofList] at member
    obtain ⟨d, inside, rfl⟩ := List.mem_map.mp member
    exact digitCharIsDigit (digitsBelow n.natAbs d inside)
  rw [String.toList_append, List.filter_append, sign, joinKept marks, pieces, List.nil_append]
  exact List.filter_eq_self.mpr digit

theorem oddIntegerRounded :
    ¬ ∃ text, InThrees 9007199254740993 " " text ∧
      displayed .default " " (.int 9007199254740993) = .ok text := by
  rintro ⟨text, threes, shows⟩
  have evaluated : (displayed .default " " (.int 9007199254740993)).toOption =
      some "9 007 199 254 740 992" := by decide +kernel
  cases (congrArg Except.toOption shows).symm.trans evaluated
  have digits := threes.digits (List.forall_mem_singleton.mpr (by decide))
  exact absurd digits (by decide +kernel)

end TableQuery.Display
