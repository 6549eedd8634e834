import Mathlib.Data.List.Basic
import Mathlib.Order.Lattice

/-! Orders to sort by, and what they are made of.
Of two elements one is below the other, or they are level; an order is fit for sorting if the levels
are classes. Such orders come from the places of elements, can be turned, and can be refined by
another order on each of their levels. -/
namespace TableQuery.Sort

variable {α β : Type}

/-- An order whose levels are classes: what is below another is below or above any third. -/
structure WeakOrder (below : α → α → Bool) : Prop where
  oneWay : ∀ {x y}, below x y = true → below y x = false
  between : ∀ {x z} y, below x z = true → below x y = true ∨ below y z = true

def level (below : α → α → Bool) (x y : α) : Bool := !below x y && !below y x

def standing (below : α → α → Bool) (x y : α) : Ordering :=
  if below x y then .lt else if below y x then .gt else .eq

variable {below : α → α → Bool}

namespace WeakOrder

theorem notAboveTrans (order : WeakOrder below) {x y z : α} (first : below y x = false)
    (second : below z y = false) : below z x = false := by
  by_contra above
  rcases order.between y (eq_true_of_ne_false above) with lower | upper
  · exact Bool.noConfusion (second.symm.trans lower)
  · exact Bool.noConfusion (first.symm.trans upper)

theorem belowOfNotAbove (order : WeakOrder below) {x y z : α} (first : below x y = true)
    (second : below z y = false) : below x z = true := by
  rcases order.between z first with lower | upper
  · exact lower
  · exact Bool.noConfusion (second.symm.trans upper)

theorem notAboveBelow (order : WeakOrder below) {x y z : α} (first : below y x = false)
    (second : below y z = true) : below x z = true := by
  rcases order.between x second with lower | upper
  · exact Bool.noConfusion (first.symm.trans lower)
  · exact upper

theorem levelClass (order : WeakOrder below) {x y : α} (onLevel : level below x y = true) (z : α) :
    level below x z = level below y z := by
  simp only [level, Bool.and_eq_true, Bool.not_eq_true'] at onLevel
  obtain ⟨notBelow, notAbove⟩ := onLevel
  rw [Bool.eq_iff_iff]
  simp only [level, Bool.and_eq_true, Bool.not_eq_true']
  exact ⟨fun ⟨xz, zx⟩ => ⟨order.notAboveTrans xz notAbove, order.notAboveTrans notBelow zx⟩,
    fun ⟨yz, zy⟩ => ⟨order.notAboveTrans yz notBelow, order.notAboveTrans notAbove zy⟩⟩

theorem irreflexive (order : WeakOrder below) (x : α) : below x x = false := by
  by_contra self
  have once := eq_true_of_ne_false self
  exact self (order.oneWay once)

theorem levelSelf (order : WeakOrder below) (x : α) : level below x x = true := by
  simp [level, order.irreflexive x]

end WeakOrder

theorem levelIff {x y : α} : level below x y = true ↔ below x y = false ∧ below y x = false := by
  simp [level]

section Line

variable [LinearOrder β]

def lineBelow (p q : β) : Bool := p < q

theorem lineOrder : WeakOrder (lineBelow : β → β → Bool) where
  oneWay := fun lower => by
    simp only [lineBelow, decide_eq_true_eq, decide_eq_false_iff_not] at lower ⊢
    exact lt_asymm lower
  between := fun {p r} q lower => by
    simp only [lineBelow, decide_eq_true_eq] at lower ⊢
    exact (lt_or_ge p q).imp_right fun above => lt_of_le_of_lt above lower

theorem lineLevel (p q : β) : level lineBelow p q = (p == q) := by
  rw [Bool.eq_iff_iff, levelIff]
  simp only [lineBelow, decide_eq_false_iff_not, not_lt, beq_iff_eq]
  exact ⟨fun ⟨notBelow, notAbove⟩ => le_antisymm notAbove notBelow, fun same => by simp [same]⟩

end Line

def placedBelow (below : β → β → Bool) (place : α → Option β) (x y : α) : Bool :=
  match place x, place y with
  | some p, some q => below p q
  | none, some _ => true
  | _, none => false

theorem placedOrder {below : β → β → Bool} (order : WeakOrder below) (place : α → Option β) :
    WeakOrder (placedBelow below place) := by
  constructor
  · intro x y lower
    unfold placedBelow at lower ⊢
    cases first : place x <;> cases second : place y <;> simp_all
    exact order.oneWay lower
  · intro x z y lower
    unfold placedBelow at lower ⊢
    cases first : place x <;> cases second : place y <;> cases third : place z <;> simp_all
    exact order.between _ lower

theorem turnedOrder (order : WeakOrder below) : WeakOrder (flip below) where
  oneWay := order.oneWay
  between := fun y lower => (order.between y lower).symm

theorem pulledOrder {below : β → β → Bool} (order : WeakOrder below) (f : α → β) :
    WeakOrder fun x y => below (f x) (f y) where
  oneWay := order.oneWay
  between := fun y lower => order.between (f y) lower

def refinedBelow (coarse fine : α → α → Bool) (x y : α) : Bool :=
  coarse x y || level coarse x y && fine x y

theorem refinedOrder {coarse fine : α → α → Bool} (coarseOrder : WeakOrder coarse)
    (fineOrder : WeakOrder fine) : WeakOrder (refinedBelow coarse fine) := by
  have parts : ∀ {x y}, refinedBelow coarse fine x y = true ↔
      coarse x y = true ∨ (coarse x y = false ∧ coarse y x = false) ∧ fine x y = true := by
    simp [refinedBelow, level]
  constructor
  · intro x y lower
    rcases parts.mp lower with coarser | ⟨⟨notBelow, notAbove⟩, finer⟩
    · simp [refinedBelow, level, coarseOrder.oneWay coarser, coarser]
    · simp [refinedBelow, level, notAbove, notBelow, fineOrder.oneWay finer]
  · intro x z y lower
    simp only [parts]
    rcases parts.mp lower with coarser | ⟨⟨notBelow, notAbove⟩, finer⟩
    · exact (coarseOrder.between y coarser).imp .inl .inl
    · cases xy : coarse x y with
      | true => exact .inl (.inl rfl)
      | false =>
        cases yz : coarse y z with
        | true => exact .inr (.inl rfl)
        | false =>
          -- x and z are level, so y, which lies beyond neither of them, is level with both.
          have yx : coarse y x = false := by
            by_contra above
            have further := coarseOrder.belowOfNotAbove (eq_true_of_ne_false above) notAbove
            exact Bool.noConfusion (yz.symm.trans further)
          have zy : coarse z y = false := by
            by_contra above
            have further := coarseOrder.notAboveBelow notAbove (eq_true_of_ne_false above)
            exact Bool.noConfusion (xy.symm.trans further)
          exact (fineOrder.between y finer).imp (fun fine => .inr ⟨⟨rfl, yx⟩, fine⟩)
            fun fine => .inr ⟨⟨rfl, zy⟩, fine⟩

theorem levelRefined (coarse fine : α → α → Bool) (x y : α) :
    level (refinedBelow coarse fine) x y = (level coarse x y && level fine x y) := by
  unfold level refinedBelow level
  cases coarse x y <;> cases coarse y x <;> simp

theorem notAboveRefined {coarse : α → α → Bool} (order : WeakOrder coarse) (fine : α → α → Bool)
    {x y : α} : refinedBelow coarse fine y x = false ↔
      (level coarse x y = true ∧ fine y x = false) ∨ coarse x y = true := by
  unfold refinedBelow level
  cases first : coarse x y <;> cases second : coarse y x <;> simp
  exact Bool.noConfusion ((order.oneWay first).symm.trans second)

theorem standingTurned (order : WeakOrder below) (x y : α) :
    standing (flip below) x y = (standing below x y).swap := by
  unfold standing flip
  cases first : below x y <;> cases second : below y x <;> simp_all
  exact Bool.noConfusion ((order.oneWay first).symm.trans second)

theorem standingRefined (coarse fine : α → α → Bool) (x y : α) :
    standing (refinedBelow coarse fine) x y =
      match standing coarse x y with
      | .eq => standing fine x y
      | decided => decided := by
  unfold standing refinedBelow level
  cases first : coarse x y <;> cases second : coarse y x <;> simp

theorem standingNotAbove (order : WeakOrder below) (x y : α) :
    (standing below x y).isLE = true ↔ below y x = false := by
  unfold standing
  cases lower : below x y <;> cases higher : below y x <;> simp
  exact Bool.noConfusion ((order.oneWay lower).symm.trans higher)

theorem standingEq {x y : α} : standing below x y = .eq ↔ level below x y = true := by
  unfold standing level
  cases below x y <;> cases below y x <;> simp

theorem standingClass (order : WeakOrder below) {x y : α} (onLevel : level below x y = true)
    (z : α) :
    standing below x z = standing below y z ∧ standing below z x = standing below z y := by
  obtain ⟨notBelow, notAbove⟩ := levelIff.mp onLevel
  have lower : below x z = below y z := by
    rw [Bool.eq_iff_iff]
    exact ⟨order.notAboveBelow notBelow, order.notAboveBelow notAbove⟩
  have higher : below z x = below z y := by
    rw [Bool.eq_iff_iff]
    exact ⟨fun above => order.belowOfNotAbove above notAbove,
      fun above => order.belowOfNotAbove above notBelow⟩
  exact ⟨by simp only [standing, lower, higher], by simp only [standing, lower, higher]⟩

end TableQuery.Sort
