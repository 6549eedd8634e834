import TableQuery.Proofs.Sort.Orders
import Mathlib.Data.List.Pairwise

/-! Stably sorted lists.
A stable arrangement rises and keeps, of every level, the elements as they stood; there is only one.
Two rising lists are blended element by element, the first list's elements ahead of those they are
level with. -/
namespace TableQuery.Sort

variable {α : Type}

def Rising (below : α → α → Bool) (xs : List α) : Prop :=
  xs.Pairwise fun x y => below y x = false

def SameLevels (below : α → α → Bool) (xs ys : List α) : Prop :=
  ∀ x, ys.filter (level below x) = xs.filter (level below x)

structure Arranged (below : α → α → Bool) (xs ys : List α) : Prop where
  rising : Rising below ys
  sameLevels : SameLevels below xs ys

def blend (below : α → α → Bool) (xs ys : List α) : List α :=
  xs.merge ys fun x y => !below y x

variable {below : α → α → Bool}

theorem SameLevels.trans {xs ys zs : List α} (first : SameLevels below xs ys)
    (second : SameLevels below ys zs) : SameLevels below xs zs :=
  fun x => (second x).trans (first x)

theorem SameLevels.append {xs ys zs ws : List α} (front : SameLevels below xs ys)
    (back : SameLevels below zs ws) : SameLevels below (xs ++ zs) (ys ++ ws) := fun x => by
  rw [List.filter_append, List.filter_append, front x, back x]

theorem SameLevels.mem {xs ys : List α} (order : WeakOrder below) (same : SameLevels below xs ys)
    {x : α} : x ∈ ys ↔ x ∈ xs := by
  have found : ∀ zs : List α, x ∈ zs ↔ x ∈ zs.filter (level below x) := fun zs => by
    simp [List.mem_filter, order.levelSelf x]
  rw [found ys, found xs, same x]

theorem risingAgree {other : α → α → Bool} {xs : List α} {x y : α} (order : WeakOrder below)
    (rising : Rising below xs) (risingToo : Rising other xs) (first : x ∈ xs) (second : y ∈ xs)
    (lower : below x y = true) : other y x = false := by
  have apart : x ≠ y := by
    rintro rfl
    exact Bool.noConfusion ((order.irreflexive x).symm.trans lower)
  let InPlace (a b : α) : Prop := (below b a = false ∧ other b a = false) ∨
    (below a b = false ∧ other a b = false)
  have : Std.Symm InPlace := ⟨fun _ _ => Or.symm⟩
  have inPlace : xs.Pairwise InPlace := (rising.and risingToo).imp .inl
  rcases inPlace.forall first second apart with ⟨-, notAbove⟩ | ⟨notBelow, -⟩
  · exact notAbove
  · exact Bool.noConfusion (notBelow.symm.trans lower)

theorem sameLevelsOfMembers (order : WeakOrder below) {xs ys : List α} (rearranged : ys.Perm xs)
    (kept : ∀ x ∈ xs, ys.filter (level below x) = xs.filter (level below x)) :
    SameLevels below xs ys := fun k => by
  by_cases found : ∃ x ∈ xs, level below k x = true
  · obtain ⟨x, member, onLevel⟩ := found
    have same : level below k = level below x := funext (order.levelClass onLevel)
    rw [same]
    exact kept x member
  · have none : ∀ x ∈ xs, ¬ level below k x = true := fun x member onLevel =>
      found ⟨x, member, onLevel⟩
    rw [List.filter_eq_nil_iff.mpr none,
      List.filter_eq_nil_iff.mpr fun x member => none x (rearranged.mem_iff.mp member)]

theorem arrangedUnique (order : WeakOrder below) {ys zs : List α} (rising : Rising below ys)
    (risingToo : Rising below zs) (same : SameLevels below ys zs) : zs = ys := by
  induction ys generalizing zs with
  | nil =>
    cases zs with
    | nil => rfl
    | cons z zs => exact absurd ((same.mem order).mp (by simp)) (List.not_mem_nil (a := z))
  | cons y ys ih =>
    cases zs with
    | nil => exact absurd ((same.mem order).mpr (by simp)) (List.not_mem_nil (a := y))
    | cons z zs =>
      obtain ⟨aboveHead, tailRising⟩ := List.pairwise_cons.mp rising
      obtain ⟨aboveOther, otherRising⟩ := List.pairwise_cons.mp risingToo
      -- Each list has its lowest level in front, whose first element is the same in both.
      have zNotBelow : below z y = false := by
        rcases List.mem_cons.mp ((same.mem order).mp (show z ∈ z :: zs by simp)) with rfl | later
        · exact order.irreflexive z
        · exact aboveHead z later
      have yNotBelow : below y z = false := by
        rcases List.mem_cons.mp ((same.mem order).mpr (show y ∈ y :: ys by simp)) with rfl | later
        · exact order.irreflexive y
        · exact aboveOther y later
      have heads := same y
      rw [List.filter_cons_of_pos (levelIff.mpr ⟨yNotBelow, zNotBelow⟩),
        List.filter_cons_of_pos (order.levelSelf y)] at heads
      obtain ⟨rfl, -⟩ := List.cons.inj heads
      rw [ih tailRising otherRising fun x => ?_]
      have tails := same x
      simp only [List.filter_cons] at tails
      split at tails
      · exact (List.cons.inj tails).2
      · exact tails

@[simp] theorem blendNil (xs : List α) : blend below xs [] = xs := List.merge_right xs

@[simp] theorem nilBlend (ys : List α) : blend below [] ys = ys := List.nil_merge ys

theorem blendCons (x y : α) (xs ys : List α) : blend below (x :: xs) (y :: ys) =
    if below y x then y :: blend below (x :: xs) ys else x :: blend below xs (y :: ys) := by
  unfold blend
  rw [List.cons_merge_cons]
  cases below y x <;> rfl

/- Where the front parts go wholly ahead of the back parts, a blend falls into two. Neither part has
to be rising. -/
theorem blendSplit {firstFront firstBack secondFront secondBack : List α}
    (firstAhead : ∀ x ∈ firstFront, ∀ y ∈ secondBack, below y x = false)
    (secondAhead : ∀ y ∈ secondFront, ∀ x ∈ firstBack, below y x = true) :
    blend below (firstFront ++ firstBack) (secondFront ++ secondBack) =
      blend below firstFront secondFront ++ blend below firstBack secondBack := by
  induction firstFront generalizing secondFront with
  | nil =>
    induction secondFront with
    | nil => simp
    | cons y ys ih =>
      obtain ⟨yAhead, ysAhead⟩ := List.forall_mem_cons.mp secondAhead
      cases firstBack with
      | nil => simp
      | cons x xs =>
        have rest := ih ysAhead
        simp only [List.nil_append, nilBlend] at rest
        simp only [List.nil_append, nilBlend, List.cons_append, blendCons, yAhead x (by simp), rest,
          if_true]
  | cons x xs ih =>
    obtain ⟨xAhead, xsAhead⟩ := List.forall_mem_cons.mp firstAhead
    induction secondFront with
    | nil =>
      have rest := ih xsAhead secondAhead
      cases secondBack with
      | nil => simp
      | cons y ys =>
        simp only [List.nil_append, blendNil] at rest
        simp only [List.nil_append, blendNil, List.cons_append, blendCons, xAhead y (by simp), rest,
          Bool.false_eq_true, if_false]
    | cons y ys ihSecond =>
      obtain ⟨-, ysAhead⟩ := List.forall_mem_cons.mp secondAhead
      simp only [List.cons_append, blendCons]
      split
      · exact congrArg (y :: ·) (ihSecond ysAhead)
      · exact congrArg (x :: ·) (ih xsAhead secondAhead)

theorem blendFirstAhead {front xs ys : List α} (ahead : ∀ x ∈ front, ∀ y ∈ ys, below y x = false) :
    blend below (front ++ xs) ys = front ++ blend below xs ys := by
  have noOthers : ∀ y ∈ ([] : List α), ∀ x ∈ xs, below y x = true := by simp
  simpa using blendSplit ahead noOthers

theorem blendSecondAhead {front xs ys : List α} (ahead : ∀ y ∈ front, ∀ x ∈ xs, below y x = true) :
    blend below xs (front ++ ys) = front ++ blend below xs ys := by
  have noOthers : ∀ x ∈ ([] : List α), ∀ y ∈ ys, below y x = false := by simp
  simpa using blendSplit noOthers ahead

theorem blendFirstBehind {back xs ys : List α} (behind : ∀ y ∈ ys, ∀ x ∈ back, below y x = true) :
    blend below (xs ++ back) ys = blend below xs ys ++ back := by
  have noOthers : ∀ x ∈ xs, ∀ y ∈ ([] : List α), below y x = false := by simp
  simpa using blendSplit noOthers behind

theorem blendSecondBehind {back xs ys : List α} (behind : ∀ x ∈ xs, ∀ y ∈ back, below y x = false) :
    blend below xs (ys ++ back) = blend below xs ys ++ back := by
  have noOthers : ∀ y ∈ ys, ∀ x ∈ ([] : List α), below y x = true := by simp
  simpa using blendSplit behind noOthers

theorem risingBlend (order : WeakOrder below) {xs ys : List α} (first : Rising below xs)
    (second : Rising below ys) : Rising below (blend below xs ys) := by
  have transitive : ∀ x y z, (!below y x) = true → (!below z y) = true → (!below z x) = true := by
    simpa using fun x y z => order.notAboveTrans
  have total : ∀ x y, ((!below y x) || !below x y) = true := fun x y => by
    cases answer : below y x with
    | false => rfl
    | true => simp [order.oneWay answer]
  unfold Rising blend at *
  simpa using List.pairwise_merge transitive total xs ys (by simpa using first)
    (by simpa using second)

theorem blendSameLevels (order : WeakOrder below) {xs : List α} (ys : List α)
    (first : Rising below xs) : SameLevels below (xs ++ ys) (blend below xs ys) := by
  intro k
  induction xs generalizing ys with
  | nil => simp
  | cons x xs ih =>
    obtain ⟨head, tail⟩ := List.pairwise_cons.mp first
    induction ys with
    | nil => simp
    | cons y ys ihSecond =>
      rw [blendCons]
      split
      case isTrue lower =>
        have passed : level below k y = true →
            (x :: xs).filter (level below k) = [] := fun onLevel => by
          refine List.filter_eq_nil_iff.mpr fun z member zOnLevel => ?_
          have zNotBelow : below z x = false := by
            rcases List.mem_cons.mp member with rfl | later
            · exact order.irreflexive z
            · exact head z later
          have yBelow := order.belowOfNotAbove lower zNotBelow
          rcases order.between k yBelow with yk | kz
          · exact Bool.noConfusion ((levelIff.mp onLevel).2.symm.trans yk)
          · exact Bool.noConfusion ((levelIff.mp zOnLevel).1.symm.trans kz)
        by_cases onLevel : level below k y = true
        · rw [List.filter_cons_of_pos onLevel, ihSecond, List.filter_append, List.filter_append,
            passed onLevel, List.filter_cons_of_pos onLevel, List.nil_append, List.nil_append]
        · rw [List.filter_cons_of_neg onLevel, ihSecond, List.filter_append, List.filter_append,
            List.filter_cons_of_neg onLevel]
      case isFalse =>
        rw [List.filter_cons, ih (y :: ys) tail, List.cons_append, List.filter_cons]

theorem arrangedBlend (order : WeakOrder below) {xs ys : List α} (first : Rising below xs)
    (second : Rising below ys) : Arranged below (xs ++ ys) (blend below xs ys) :=
  ⟨risingBlend order first second, blendSameLevels order ys first⟩

end TableQuery.Sort
