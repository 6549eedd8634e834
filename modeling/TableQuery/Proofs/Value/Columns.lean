import TableQuery.Proofs.Outcome
import TableQuery.Proofs.Sort.Orders
import TableQuery.Query
import Mathlib.Order.WithBot
import Mathlib.Algebra.Order.Ring.Rat
import Mathlib.Data.String.Basic

/-! Values that a column can be sorted by: text, or numbers of any type, and nulls among them.
On such values equality and order never fail, and both follow from the places of the values in one
order, in which the nulls are lowest. -/
namespace TableQuery.Value
open TableQuery.Sort

def TextOrNull (v : Value) : Prop := v = null ∨ ∃ s, v.asText? = some s

def NumberOrNull (v : Value) : Prop := v = null ∨ ∃ p, v.extent? = some p ∧ p.isNan = false

structure Decided (below : Value → Value → Bool) (a b : Value) : Prop where
  same : a.same b = .ok (level below a b)
  precedes : a.isNull = false → b.isNull = false → a.precedes b = .ok (below a b)
  nullsLowest : a.isNull = true ∨ b.isNull = true → below a b = !b.isNull

theorem compareDecided {below : Value → Value → Bool} {a b : Value} (decided : Decided below a b)
    (turned : Decided below b a) : compareValues a b = .ok (standing below a b) := by
  unfold compareValues standing
  rw [decided.same, okBind]
  cases aNull : a.isNull <;> cases bNull : b.isNull
  · rw [decided.precedes aNull bNull]
    cases lower : below a b <;> cases higher : below b a <;> simp [level, lower, higher]
  · simp [level, decided.nullsLowest (.inr bNull), turned.nullsLowest (.inl bNull), aNull, bNull]
  · simp [level, decided.nullsLowest (.inl aNull), turned.nullsLowest (.inr aNull), aNull, bNull]
  · simp [level, decided.nullsLowest (.inl aNull), turned.nullsLowest (.inl bNull), aNull, bNull]

theorem sameNullLeft (b : Value) : same null b = .ok b.isNull := by
  cases b <;> simp [same, sameScalar, extent?, asText?, isNull]

theorem sameNullRight (a : Value) : same a null = .ok a.isNull := by
  cases a <;> simp [same, sameScalar, extent?, asText?, isNull]

theorem notNullOfPlace {β : Type} {place : Value → Option β} {v : Value} {p : β}
    (nullPlace : place null = none) (found : place v = some p) : v.isNull = false := by
  cases v with
  | null => exact absurd (nullPlace.symm.trans found) (by simp)
  | _ => rfl

theorem decidedByPlace {β : Type} {below : β → β → Bool} {place : Value → Option β} {a b : Value}
    (nullPlace : place null = none) (first : a = null ∨ ∃ p, place a = some p)
    (second : b = null ∨ ∃ q, place b = some q)
    (agree : ∀ p q, place a = some p → place b = some q →
      a.same b = .ok (level below p q) ∧ a.precedes b = .ok (below p q)) :
    Decided (placedBelow below place) a b := by
  rcases first with rfl | ⟨p, aPlace⟩ <;> rcases second with rfl | ⟨q, bPlace⟩
  · exact ⟨by simp [sameNullLeft, level, placedBelow, nullPlace, isNull], by simp [isNull],
      by simp [placedBelow, nullPlace, isNull]⟩
  · have bThere := notNullOfPlace nullPlace bPlace
    exact ⟨by simp [sameNullLeft, level, placedBelow, nullPlace, bPlace, bThere], by simp [isNull],
      by simp [placedBelow, nullPlace, bPlace, bThere]⟩
  · have aThere := notNullOfPlace nullPlace aPlace
    exact ⟨by simp [sameNullRight, level, placedBelow, nullPlace, aPlace, aThere],
      by simp [isNull], by simp [placedBelow, nullPlace, aPlace, isNull]⟩
  · have aThere := notNullOfPlace nullPlace aPlace
    have bThere := notNullOfPlace nullPlace bPlace
    obtain ⟨same, precedes⟩ := agree p q aPlace bPlace
    exact ⟨by simp [same, level, placedBelow, aPlace, bPlace],
      by simp [precedes, placedBelow, aPlace, bPlace], by simp [aThere, bThere]⟩

theorem sameText {a b : Value} {s t : String} (first : a.asText? = some s)
    (second : b.asText? = some t) : a.same b = .ok (level lineBelow s t) := by
  have scalar : a.same b = .ok (s == t) := by
    cases a <;> simp [asText?] at first <;> cases b <;> simp [asText?] at second <;>
      simp [same, sameScalar, extent?, asText?, first, second]
  rw [scalar, lineLevel]

theorem compareText (op : Comparison) {a b : Value} {s t : String} (first : a.asText? = some s)
    (second : b.asText? = some t) : a.compare op b = .ok (op.holds (s < t) (t < s)) := by
  cases a <;> simp [asText?] at first <;> cases b <;> simp [asText?] at second <;>
    simp [compare, compareScalar, extent?, asText?, first, second]

theorem precedesText {a b : Value} {s t : String} (first : a.asText? = some s)
    (second : b.asText? = some t) : a.precedes b = .ok (lineBelow s t) :=
  compareText .less first second

theorem textDecided {a b : Value} (first : TextOrNull a) (second : TextOrNull b) :
    Decided (placedBelow lineBelow asText?) a b :=
  decidedByPlace rfl first second fun _ _ aText bText =>
    ⟨sameText aText bText, precedesText aText bText⟩

def linePlace? : Extent → Option (WithBot (WithTop Rat))
  | .finite q => some (q : WithTop Rat)
  | .infinite true => some ⊥
  | .infinite false => some (⊤ : WithTop Rat)
  | .nan => none

theorem ratBelow {p q : Rat} : p.blt q = true ↔ p < q := Iff.rfl

theorem lineOfExtents {x y : Extent} {p q : WithBot (WithTop Rat)} (first : linePlace? x = some p)
    (second : linePlace? y = some q) : x.same y = (p == q) ∧ x.below y = lineBelow p q := by
  rcases x with x | (_ | _) | _ <;> rcases y with y | (_ | _) | _ <;> cases first <;> cases second
  case finite.finite =>
    refine ⟨?_, ?_⟩ <;> rw [Bool.eq_iff_iff]
    · simp [Extent.same]
    · simpa [Extent.below, lineBelow] using ratBelow
  case finite.infinite.false =>
    have belowTop : ((x : WithTop Rat) : WithBot (WithTop Rat)) < (⊤ : WithTop Rat) :=
      WithBot.coe_lt_coe.mpr (WithTop.coe_lt_top x)
    refine ⟨?_, ?_⟩ <;> rw [Bool.eq_iff_iff]
    · simp [Extent.same]
    · simpa [Extent.below, lineBelow] using belowTop
  all_goals
    refine ⟨?_, ?_⟩ <;> rw [Bool.eq_iff_iff] <;> simp [Extent.same, Extent.below, lineBelow]

theorem compareNumbers (op : Comparison) {a b : Value} {x y : Extent} (first : a.extent? = some x)
    (second : b.extent? = some y) (firstNumber : x.isNan = false) (secondNumber : y.isNan = false) :
    a.compare op b = .ok (x.compare op y) := by
  have scalar : a.compare op b = compareScalar op a b := by
    cases a <;> simp [extent?] at first <;> simp [compare]
  simp only [scalar, compareScalar, first, second]
  simp [firstNumber, secondNumber]

theorem precedesNumbers {a b : Value} {x y : Extent} (first : a.extent? = some x)
    (second : b.extent? = some y) (firstNumber : x.isNan = false) (secondNumber : y.isNan = false) :
    a.precedes b = .ok (x.below y) :=
  compareNumbers .less first second firstNumber secondNumber

theorem notSignalling {v : Value} {x : Extent} (extent : v.extent? = some x)
    (number : x.isNan = false) : v.signalling = false := by
  rcases v with _ | _ | _ | _ | d | _ | _ | _ | _ | _ | _ | _ | _ | _ | _ | _
  case decimal =>
    cases extent
    cases d <;> first | rfl | simp [Decimal.extent, Extent.isNan] at number
  all_goals rfl

theorem sameNumbers {a b : Value} {x y : Extent} (first : a.extent? = some x)
    (second : b.extent? = some y) (firstNumber : x.isNan = false) (secondNumber : y.isNan = false) :
    a.same b = .ok (x.same y) := by
  have scalar : a.same b = sameScalar a b := by
    cases a <;> simp [extent?] at first <;> simp [same]
  simp only [scalar, sameScalar, first, second]
  simp [notSignalling first firstNumber, notSignalling second secondNumber]

def place? (v : Value) : Option (WithBot (WithTop Rat)) := v.extent?.bind linePlace?

theorem placeOfNumber {x : Extent} (number : x.isNan = false) : ∃ p, linePlace? x = some p := by
  rcases x with x | (_ | _) | _
  case nan => cases number
  all_goals exact ⟨_, rfl⟩

theorem extentPlaced {v : Value} {x : Extent} (extent : v.extent? = some x)
    (number : x.isNan = false) : ∃ p, v.place? = some p := by
  obtain ⟨p, found⟩ := placeOfNumber number
  exact ⟨p, by rw [place?, extent, Option.bind_some, found]⟩

theorem numbersDecided {a b : Value} (first : NumberOrNull a) (second : NumberOrNull b) :
    Decided (placedBelow lineBelow place?) a b := by
  have placed : ∀ {v : Value}, NumberOrNull v → v = null ∨ ∃ p, v.place? = some p :=
    fun number => number.imp_right fun ⟨_, extent, notNan⟩ => extentPlaced extent notNan
  refine decidedByPlace rfl (placed first) (placed second) fun p q aPlace bPlace => ?_
  rcases first with rfl | ⟨x, aExtent, aNumber⟩
  · cases aPlace
  rcases second with rfl | ⟨y, bExtent, bNumber⟩
  · cases bPlace
  rw [place?, aExtent, Option.bind_some] at aPlace
  rw [place?, bExtent, Option.bind_some] at bPlace
  obtain ⟨same, below⟩ := lineOfExtents aPlace bPlace
  refine ⟨?_, ?_⟩
  · rw [sameNumbers aExtent bExtent aNumber bNumber, lineLevel, same]
  · rw [precedesNumbers aExtent bExtent aNumber bNumber, below]

def Like (a b : Value) : Prop := (TextOrNull a ∧ TextOrNull b) ∨ (NumberOrNull a ∧ NumberOrNull b)

theorem Like.turned {a b : Value} (like : Like a b) : Like b a := like.imp And.symm And.symm

theorem textNotPlaced {v : Value} (text : TextOrNull v) : v.place? = none := by
  rcases text with rfl | ⟨s, text⟩
  · rfl
  · cases v <;> first | rfl | cases text

theorem numberNotText {v : Value} (number : NumberOrNull v) : v.asText? = none := by
  rcases number with rfl | ⟨x, extent, -⟩
  · rfl
  · cases v <;> first | rfl | cases extent

theorem Decided.of {below other : Value → Value → Bool} {a b : Value} (decided : Decided below a b)
    (forward : other a b = below a b) (backward : other b a = below b a) : Decided other a b where
  same := by rw [decided.same, level, level, forward, backward]
  precedes := fun first second => by rw [decided.precedes first second, forward]
  nullsLowest := fun null => by rw [forward, decided.nullsLowest null]

/- On like values one of the two orders is level, so that it does not matter which one refines the
other. In the first all numbers are below all text, in the second above. -/

def textAbove : Value → Value → Bool :=
  refinedBelow (placedBelow lineBelow asText?) (placedBelow lineBelow place?)

def numbersAbove : Value → Value → Bool :=
  refinedBelow (placedBelow lineBelow place?) (placedBelow lineBelow asText?)

theorem textAboveOrder : WeakOrder textAbove :=
  refinedOrder (placedOrder lineOrder asText?) (placedOrder lineOrder place?)

theorem numbersAboveOrder : WeakOrder numbersAbove :=
  refinedOrder (placedOrder lineOrder place?) (placedOrder lineOrder asText?)

theorem likeDecided {a b : Value} (like : Like a b) :
    Decided textAbove a b ∧ Decided numbersAbove a b := by
  rcases like with ⟨first, second⟩ | ⟨first, second⟩
  · have aPlace := textNotPlaced first
    have bPlace := textNotPlaced second
    refine ⟨(textDecided first second).of ?_ ?_, (textDecided first second).of ?_ ?_⟩ <;>
      simp [textAbove, numbersAbove, refinedBelow, level, placedBelow, aPlace, bPlace]
  · have aText := numberNotText first
    have bText := numberNotText second
    refine ⟨(numbersDecided first second).of ?_ ?_, (numbersDecided first second).of ?_ ?_⟩ <;>
      simp [textAbove, numbersAbove, refinedBelow, level, placedBelow, aText, bText]

section Unlike

variable {a b : Value} {s : String} {x : Extent} (text : a.asText? = some s)
  (extent : b.extent? = some x)
include text extent

theorem unlikeApart : a.same b = .ok false ∧ b.same a = .ok false := by
  constructor <;> cases a <;> simp [asText?] at text <;> cases b <;> simp [extent?] at extent <;>
    simp [same, sameScalar, extent?, asText?]

theorem unlikeUnordered : a.precedes b = .error (.unorderable .less a.typeName b.typeName) ∧
    b.precedes a = .error (.unorderable .less b.typeName a.typeName) := by
  constructor <;> cases a <;> simp [asText?] at text <;> cases b <;> simp [extent?] at extent <;>
    simp [precedes, compare, compareScalar, extent?, asText?, unordered]

theorem unlikeFails : compareValues a b = .error (.unorderable .less a.typeName b.typeName) ∧
    compareValues b a = .error (.unorderable .less b.typeName a.typeName) := by
  obtain ⟨aApart, bApart⟩ := unlikeApart text extent
  obtain ⟨aUnordered, bUnordered⟩ := unlikeUnordered text extent
  have aThere := notNullOfPlace (show asText? null = none from rfl) text
  have bThere := notNullOfPlace (show extent? null = none from rfl) extent
  simp [compareValues, aApart, bApart, aUnordered, bUnordered, aThere, bThere]

theorem unlikePlaced (number : x.isNan = false) :
    textAbove b a = true ∧ numbersAbove a b = true := by
  obtain ⟨p, bPlace⟩ := extentPlaced extent number
  have aPlace : a.place? = none := textNotPlaced (.inr ⟨s, text⟩)
  have bText : b.asText? = none := numberNotText (.inr ⟨x, extent, number⟩)
  simp [textAbove, numbersAbove, refinedBelow, placedBelow, text, aPlace, bText, bPlace]

end Unlike

theorem likeOrUnlike {a b : Value} (first : TextOrNull a ∨ NumberOrNull a)
    (second : TextOrNull b ∨ NumberOrNull b) :
    Like a b ∨ (∃ s x, a.asText? = some s ∧ b.extent? = some x) ∨
      ∃ s x, b.asText? = some s ∧ a.extent? = some x := by
  rcases first with (rfl | ⟨s, aText⟩) | (rfl | ⟨x, aExtent, aNumber⟩)
  · exact .inl (second.imp (⟨.inl rfl, ·⟩) (⟨.inl rfl, ·⟩))
  · rcases second with bText | rfl | ⟨y, bExtent, -⟩
    · exact .inl (.inl ⟨.inr ⟨s, aText⟩, bText⟩)
    · exact .inl (.inl ⟨.inr ⟨s, aText⟩, .inl rfl⟩)
    · exact .inr (.inl ⟨s, y, aText, bExtent⟩)
  · exact .inl (second.imp (⟨.inl rfl, ·⟩) (⟨.inl rfl, ·⟩))
  · rcases second with (rfl | ⟨t, bText⟩) | bNumber
    · exact .inl (.inr ⟨.inr ⟨x, aExtent, aNumber⟩, .inl rfl⟩)
    · exact .inr (.inr ⟨t, x, bText, aExtent⟩)
    · exact .inl (.inr ⟨.inr ⟨x, aExtent, aNumber⟩, bNumber⟩)

end TableQuery.Value
