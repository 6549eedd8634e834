import TableQuery.Display.Number
import TableQuery.Proofs.Number.DecimalText
import TableQuery.Proofs.Number.Nearest
import TableQuery.Proofs.Outcome
import TableQuery.Proofs.Text.Padding
import Mathlib.Algebra.Order.Field.Power

/-! Decimals on display.
A decimal is displayed with the digits of the multiple of its last place that is nearest to it. The
digits before the point stand in groups of three, and a text is displayed as the decimal it spells. -/
namespace TableQuery.Number
open TableQuery.Text

/-- Digits that stand for the multiple of the last of some places that is nearest to a size. -/
structure Shows (size : ℚ) (places : ℕ) (whole fraction : List Char) : Prop where
  digits : ∀ c ∈ whole ++ fraction, c.isDigit = true
  present : whole ≠ []
  lead : whole.head? = some '0' → whole = ['0']
  length : fraction.length = places
  nearest : NearestEven size places (ofDigits ((whole ++ fraction).filterMap asciiDigit?))

def behindPoint (places units : ℕ) : List ℕ :=
  if places = 0 then [] else List.replicate (places - (digits units).length) 0 ++ digits units

theorem behindPointSmall (places units : ℕ) : ∀ d ∈ behindPoint places units, d < 10 := by
  unfold behindPoint
  split
  · simp
  · exact zeroPaddedSmall places units

theorem behindPointLength {places units : ℕ} (below : units < tenTo places) :
    (behindPoint places units).length = places := by
  unfold behindPoint
  split
  · rename_i none
    exact none.symm
  · rename_i some
    exact zeroPaddedLength (Nat.pos_of_ne_zero some) below

theorem behindPointDenotes {places units : ℕ} (below : units < tenTo places) :
    ofDigits (behindPoint places units) = units := by
  unfold behindPoint
  split
  · rename_i none
    have : units = 0 := by simpa [none, tenTo] using below
    rw [this]
    rfl
  · exact zeroPaddedDenotes places units

theorem ratioParts (negative : Bool) (places num den : ℕ) :
    Fixed.ofRatio negative places num den =
      ⟨negative, (digits (halfEven (num * tenTo places) den / tenTo places)).map digitChar,
        (behindPoint places (halfEven (num * tenTo places) den % tenTo places)).map digitChar⟩ := by
  unfold Fixed.ofRatio behindPoint
  split
  · simp [*]
  · simp [*, digitChar]

theorem digitCharIsDigit {d : ℕ} (small : d < 10) : (digitChar d).isDigit = true := by
  have all : ∀ k < 10, (digitChar k).isDigit = true := by decide
  exact all d small

theorem showsUnits {size : ℚ} {places units : ℕ} (nearest : NearestEven size places units) :
    Shows size places ((digits (units / tenTo places)).map digitChar)
      ((behindPoint places (units % tenTo places)).map digitChar) := by
  have below : units % tenTo places < tenTo places := Nat.mod_lt units (tenToPos places)
  have small : ∀ d ∈ digits (units / tenTo places) ++ behindPoint places (units % tenTo places),
      d < 10 :=
    List.forall_mem_append.mpr ⟨digitsBelow _, behindPointSmall places _⟩
  have denotes : ofDigits (digits (units / tenTo places) ++
      behindPoint places (units % tenTo places)) = units := by
    rw [ofDigitsAppend, ofDigitsDigits, behindPointLength below, behindPointDenotes below,
      Nat.mul_comm, Nat.div_add_mod]
  constructor
  case digits =>
    intro c member
    rw [← List.map_append] at member
    obtain ⟨d, inside, rfl⟩ := List.mem_map.mp member
    exact digitCharIsDigit (small d inside)
  case present => simp [digitsPresent]
  case lead =>
    intro zero
    rw [List.head?_map] at zero
    obtain ⟨d, first, same⟩ := Option.map_eq_some_iff.mp zero
    have read := asciiDigitChar (digitsBelow _ d (List.mem_of_mem_head? first))
    rw [same] at read
    cases read
    rw [digitsLead first]
    rfl
  case length => rw [List.length_map, behindPointLength below]
  case nearest => rwa [← List.map_append, readDigitChars small, denotes]

theorem tenToCast (n : ℕ) : (tenTo n : ℚ) = 10 ^ n := by
  simp [tenTo]

theorem nearestOfRatio {size : ℚ} {num den : ℕ} (positive : 0 < den) (same : size = num / den)
    (places : ℕ) : NearestEven size places (halfEven (num * tenTo places) den) := by
  have scaled : size * 10 ^ places = ((num * tenTo places : ℕ) : ℚ) / den := by
    rw [same, Nat.cast_mul, tenToCast]
    ring
  obtain ⟨near, half⟩ := halfEvenHalf (num * tenTo places) positive
  exact nearestEvenOfHalf (scaled ▸ near) (scaled ▸ half)

theorem farBelow {coefficient places : ℕ} {exponent : ℤ}
    (far : coefficient = 0 ∨ (digits coefficient).length + exponent + places < 0) :
    (coefficient : ℚ) * 10 ^ exponent * 10 ^ places < 1 / 2 := by
  rcases far with rfl | far
  · norm_num
  · have ten : (0 : ℚ) < 10 := by norm_num
    have below : (coefficient : ℚ) < 10 ^ ((digits coefficient).length : ℤ) := by
      rw [zpow_natCast, ← tenToCast]
      exact_mod_cast digitsReach coefficient
    calc (coefficient : ℚ) * 10 ^ exponent * 10 ^ places
        = coefficient * 10 ^ (exponent + places) := by
          rw [mul_assoc, zpow_add₀ ten.ne', zpow_natCast]
      _ < 10 ^ ((digits coefficient).length : ℤ) * 10 ^ (exponent + places) :=
          mul_lt_mul_of_pos_right below (zpow_pos ten _)
      _ = 10 ^ ((digits coefficient).length + exponent + places) := by
          rw [← zpow_add₀ ten.ne', add_assoc]
      _ ≤ 10 ^ (-1 : ℤ) := zpow_le_zpow_right₀ (by norm_num) (by omega)
      _ < 1 / 2 := by norm_num

theorem nearestZero {size : ℚ} {places : ℕ} (positive : 0 ≤ size)
    (below : size * 10 ^ places < 1 / 2) : NearestEven size places 0 := by
  have away : |size * 10 ^ places - (0 : ℕ)| = size * 10 ^ places := by
    rw [Nat.cast_zero, sub_zero, abs_of_nonneg (by positivity)]
  refine nearestEvenOfHalf ?_ fun _ => rfl
  rw [away]
  exact below.le

theorem fixedShows (negative : Bool) (coefficient : ℕ) (exponent : ℤ) (places : ℕ) :
    ∃ whole fraction,
      (Decimal.finite negative coefficient exponent).fixed? places =
        some ⟨negative, whole, fraction⟩ ∧
      Shows (coefficient * 10 ^ exponent) places whole fraction := by
  have ten : (10 : ℚ) ≠ 0 := by norm_num
  rw [Decimal.fixed?]
  split
  case isTrue far =>
    rw [ratioParts]
    refine ⟨_, _, rfl, showsUnits ?_⟩
    have none : halfEven (0 * tenTo places) 1 = 0 := by simp [halfEven]
    rw [none]
    exact nearestZero (by positivity) (farBelow far)
  case isFalse =>
    split
    case isTrue whole =>
      rw [ratioParts]
      refine ⟨_, _, rfl, showsUnits (nearestOfRatio Nat.one_pos ?_ places)⟩
      rw [Nat.cast_mul, tenToCast, Nat.cast_one, div_one, ← zpow_natCast,
        Int.toNat_of_nonneg whole]
    case isFalse broken =>
      rw [ratioParts]
      refine ⟨_, _, rfl, showsUnits (nearestOfRatio (tenToPos _) ?_ places)⟩
      rw [tenToCast, ← zpow_natCast, Int.toNat_of_nonneg (by omega), zpow_neg, div_inv_eq_mul]

end TableQuery.Number

namespace TableQuery.Display
open TableQuery.Text TableQuery.Number

/-- The text of a number of a size: a sign, the digits before the point with marks between groups of
three, and the places behind a separator where there are any. -/
def Displays (negative : Bool) (size : ℚ) (places : ℕ) (thousand separator text : String) : Prop :=
  ∃ whole fraction groups, Shows size places whole fraction ∧ Grouped whole groups ∧
    text = (if negative then "-" else "") ++ join thousand (groups.map String.ofList) ++
      if places = 0 then "" else separator ++ String.ofList fraction

def Counted (coefficient : ℕ) (exponent : ℤ) (places : ℕ) : Prop :=
  places ≤ 999999999999999999 ∧ (coefficient = 0 ∨
    (digits coefficient).length + exponent + places ≤ 1000000000000000000)

/-- The fault for digits that cannot be counted. From 2^63 places on it depends on the zeros that would
be written. -/
structure Refused (coefficient : ℕ) (exponent : ℤ) (places : ℕ) (kind : FaultKind) : Prop where
  few : places < 9223372036854775808 → kind = .improper
  untold : tooManyDigits places = true → kind = .improper
  zero : 9223372036854775808 ≤ places → tooManyDigits places = false → coefficient = 0 →
    kind = if places = 9223372036854775808 then .foreign "MemoryError" else .overflow
  other : 9223372036854775808 ≤ places → tooManyDigits places = false → coefficient ≠ 0 →
    kind = if exponent + places < 9223372036854775808 then .foreign "MemoryError" else .overflow

theorem countableIff (coefficient : ℕ) (exponent : ℤ) (places : ℕ) :
    countable places coefficient exponent = true ↔ Counted coefficient exponent places := by
  simp only [countable, Bool.and_eq_true, Bool.or_eq_true, decide_eq_true_eq]
  unfold mostDecimalDigits Counted
  omega

def Spells (s : String) (negative : Bool) (coefficient : ℕ) (exponent : ℤ) : Prop :=
  let plain := substituted ',' "." (trimmed s)
  Decimal.ofText? plain = some (.finite negative coefficient exponent) ∨
    Decimal.WithinReach coefficient exponent ∧
      plain = (Decimal.finite negative coefficient exponent).toText

theorem spelledDecimal {s : String} {negative : Bool} {coefficient : ℕ} {exponent : ℤ}
    (spelled : Spells s negative coefficient exponent) :
    decimalOf? s = some (.finite negative coefficient exponent) := by
  have plain : decimalOf? s = Decimal.ofText? (substituted ',' "." (trimmed s)) := by
    simp [decimalOf?, substituted, trimmed]
  rw [plain]
  rcases spelled with reads | ⟨reach, written⟩
  · exact reads
  · rw [written, Decimal.textRead negative reach]

theorem formatDecimal (d : Decimal) (places : ℕ) (thousand separator : String) :
    formatNumber (.decimal d) (.int places) (.text thousand) (.text separator) =
      if tooManyDigits places then .error .longInteger
      else shown places (.decimal d) >>= fun number => number.text thousand (.text separator) := by
  simp only [formatNumber, formatPlain, placesOf, isCalendar, groupMark, Value.asText?, Value.asInt?,
    okBind, Bool.false_eq_true, if_false]

theorem fewPlaces {places : ℕ} (few : places ≤ 1000000000000000000) :
    tooManyDigits places = false := by
  have below : places < tenTo 19 := Nat.lt_of_le_of_lt few (by decide)
  rw [tooManyDigits, decide_eq_false_iff_not, Int.natAbs_natCast]
  exact Nat.not_le.mpr (Nat.lt_of_lt_of_le below (tenToMono (by decide)))

theorem shownCounted (negative : Bool) {coefficient : ℕ} {exponent : ℤ} {places : ℕ}
    (counted : Counted coefficient exponent places) :
    shown places (.decimal (.finite negative coefficient exponent)) =
      .ok (showDecimal places (.finite negative coefficient exponent)) := by
  have allowed : refusal? places (.finite negative coefficient exponent) = none :=
    if_pos ((countableIff ..).mpr counted)
  rw [shown, if_neg (by omega)]
  simp only [allowed, Int.toNat_natCast]

theorem decimalShown {negative : Bool} {coefficient : ℕ} {exponent : ℤ} {places : ℕ}
    (counted : Counted coefficient exponent places) :
    ∃ whole fraction,
      shown places (.decimal (.finite negative coefficient exponent)) =
        .ok (.parts ⟨negative, whole, fraction⟩) ∧
      Shows (coefficient * 10 ^ exponent) places whole fraction := by
  obtain ⟨whole, fraction, fixed, digitsShown⟩ := fixedShows negative coefficient exponent places
  refine ⟨whole, fraction, ?_, digitsShown⟩
  rw [shownCounted negative counted, showDecimal, fixed]

theorem decimalRefused (negative : Bool) {coefficient : ℕ} {exponent : ℤ} {places : ℕ}
    (uncounted : ¬ Counted coefficient exponent places) (told : tooManyDigits places = false) :
    ∃ fault, shown places (.decimal (.finite negative coefficient exponent)) = .error fault ∧
      Refused coefficient exponent places fault.kind := by
  have most : mostPlacesAsked = 9223372036854775807 := rfl
  have untold : tooManyDigits places ≠ true := by simp [told]
  rw [shown, if_neg (by omega)]
  simp only [refusal?, if_neg (mt (countableIff ..).mp uncounted), zerosBehind]
  by_cases few : (places : ℤ) ≤ mostPlacesAsked
  · rw [if_pos few]
    exact ⟨_, rfl, fun _ => rfl, fun _ => rfl, fun many => by omega, fun many => by omega⟩
  rw [if_neg few]
  by_cases zero : coefficient = 0
  · simp only [if_pos zero]
    by_cases last : places = 9223372036854775808
    · rw [if_neg (by omega)]
      exact ⟨_, rfl, by omega, fun long => absurd long untold, fun _ _ _ => (if_pos last).symm,
        fun _ _ some => absurd zero some⟩
    · rw [if_pos (by omega)]
      exact ⟨_, rfl, by omega, fun long => absurd long untold, fun _ _ _ => (if_neg last).symm,
        fun _ _ some => absurd zero some⟩
  · simp only [if_neg zero]
    by_cases short : exponent + places < 9223372036854775808
    · rw [if_neg (by omega)]
      exact ⟨_, rfl, by omega, fun long => absurd long untold, fun _ _ none => absurd none zero,
        fun _ _ _ => (if_pos short).symm⟩
    · rw [if_pos (by omega)]
      exact ⟨_, rfl, by omega, fun long => absurd long untold, fun _ _ none => absurd none zero,
        fun _ _ _ => (if_neg short).symm⟩

theorem partsText {places : ℕ} {whole fraction : List Char} (long : fraction.length = places)
    (negative : Bool) (thousand separator : String) :
    (Shown.parts ⟨negative, whole, fraction⟩).text thousand (.text separator) =
      .ok ((if negative then "-" else "") ++
        join thousand ((groupsOfThree whole).map String.ofList) ++
        if places = 0 then "" else separator ++ String.ofList fraction) := by
  have bare : String.ofList fraction = "" ↔ places = 0 := by
    rw [← long, List.length_eq_zero_iff, ← String.toList_inj]
    simp
  have mark : (Value.text separator).text? = .ok separator := rfl
  simp only [Shown.text, assemble, Fixed.grouped, Decimal.minus, bare, mark, okBind]
  split
  · rw [String.append_empty]
  · rw [← String.append_assoc]

theorem decimalsDisplayed (negative : Bool) (coefficient : ℕ) (exponent : ℤ) (places : ℕ)
    (thousand separator : String) :
    (Counted coefficient exponent places → ∃ text,
      formatNumber (.decimal (.finite negative coefficient exponent)) (.int places)
          (.text thousand) (.text separator) = .ok text ∧
        Displays negative (coefficient * 10 ^ exponent) places thousand separator text) ∧
    (¬ Counted coefficient exponent places → ∃ fault,
      formatNumber (.decimal (.finite negative coefficient exponent)) (.int places)
          (.text thousand) (.text separator) = .error fault ∧
        Refused coefficient exponent places fault.kind) ∧
    ∀ s, Spells s negative coefficient exponent →
      formatNumber (.text s) (.int places) (.text thousand) (.text separator) =
        formatNumber (.decimal (.finite negative coefficient exponent)) (.int places)
          (.text thousand) (.text separator) := by
  refine ⟨fun counted => ?_, fun uncounted => ?_, fun s spelled => ?_⟩
  · obtain ⟨whole, fraction, same, digitsShown⟩ := decimalShown counted
    rw [formatDecimal, fewPlaces (by have := counted.1; omega), same]
    exact ⟨_, partsText digitsShown.length negative thousand separator, whole, fraction, _, digitsShown,
      groupsGrouped digitsShown.present, rfl⟩
  · rw [formatDecimal]
    cases told : tooManyDigits places with
    | true =>
      have short : tooManyDigits places ≠ false := by simp [told]
      exact ⟨_, rfl, fun _ => rfl, fun _ => rfl, fun _ none => absurd none short,
        fun _ none => absurd none short⟩
    | false =>
      obtain ⟨fault, refused, kind⟩ := decimalRefused negative uncounted told
      exact ⟨fault, by rw [if_neg nofun, refused, errorBind], kind⟩
  · simp only [formatNumber, Value.asText?, spelledDecimal spelled]

theorem tieDisplayed :
    Spells " -1234567,995\t" true 1234567995 (-3) ∧ Counted 1234567995 (-3) 2 ∧
      formatNumber (.text " -1234567,995\t") (.int 2) (.text ".") (.text ",") =
        .ok "-1.234.568,00" ∧
      Displays true ((1234567995 : ℕ) * 10 ^ (-3 : ℤ)) 2 "." "," "-1.234.568,00" := by
  have spelled : Spells " -1234567,995\t" true 1234567995 (-3) := .inl (by decide +kernel)
  have counted : Counted 1234567995 (-3) 2 := by
    have length : (digits 1234567995).length = 10 := by decide +kernel
    rw [Counted, length]
    decide
  obtain ⟨shown, -, alike⟩ := decimalsDisplayed true 1234567995 (-3) 2 "." ","
  obtain ⟨text, formatted, displays⟩ := shown counted
  have evaluated : (formatNumber (.text " -1234567,995\t") (.int 2) (.text ".")
      (.text ",")).toOption = some "-1.234.568,00" := by decide +kernel
  have same := (alike _ spelled).trans formatted
  cases (congrArg Except.toOption same).symm.trans evaluated
  exact ⟨spelled, counted, same, displays⟩

theorem placesRunOut :
    ¬ ∃ text, formatNumber (.decimal (.finite false 1 0)) (.int 1000000000000000000) (.text " ")
        (.text ".") = .ok text ∧ Displays false 1 1000000000000000000 " " "." text := by
  have refused : shown 1000000000000000000 (.decimal (.finite false 1 0)) =
      .error (.improper "places out of range") := by
    rfl
  have asked := formatDecimal (.finite false 1 0) 1000000000000000000 " " "."
  rw [fewPlaces le_rfl, Nat.cast_ofNat, refused] at asked
  rintro ⟨text, formatted, -⟩
  cases asked.symm.trans formatted

end TableQuery.Display
