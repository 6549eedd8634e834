import TableQuery.Proofs.Sort.Rearranging
import TableQuery.Proofs.Sort.Searching

/-! Merging two rising runs gives their blend.
Both directions, and every pace, put out elements in the order of the blend: one by one, or a whole
lead at a time where the search has found its end. -/
namespace TableQuery.Sort
open Plan

variable {α : Type} {below : α → α → Bool}

def EndsBeyond (beyond : α → α → Bool) (run others : List α) : Prop :=
  ∀ last ∈ run.getLast?, ∀ z ∈ others, beyond z last = true

namespace EndsBeyond

variable {beyond : α → α → Bool}

theorem behind {front back others : List α} (ends : EndsBeyond beyond (front ++ back) others) :
    EndsBeyond beyond back others := fun last found z member => by
  refine ends last ?_ z member
  rw [List.getLast?_append, Option.mem_def.mp found]
  rfl

theorem tail {x : α} {xs others : List α} (ends : EndsBeyond beyond (x :: xs) others) :
    EndsBeyond beyond xs others :=
  behind (show EndsBeyond beyond ([x] ++ xs) others from ends)

theorem among {run others fewer : List α} (ends : EndsBeyond beyond run others)
    (fewerAmong : ∀ z ∈ fewer, z ∈ others) : EndsBeyond beyond run fewer :=
  fun last found z member => ends last found z (fewerAmong z member)

end EndsBeyond

theorem blendLastOfAll {x : α} {second : List α} (ends : EndsBeyond below [x] second) :
    blend below [x] second = second ++ [x] := by
  have behind : ∀ y ∈ second, ∀ z ∈ [x], below y z = true := fun y member z single => by
    cases List.mem_singleton.mp single
    exact ends x rfl y member
  have parted : blend below ([] ++ [x]) second = _ := blendFirstBehind behind
  simpa using parted

theorem blendFirstOfAll {y : α} {first : List α} (ends : EndsBeyond (flip below) [y] first) :
    blend below first.reverse [y] = y :: first.reverse := by
  have ahead : ∀ z ∈ [y], ∀ x ∈ first.reverse, below z x = true := fun z single x member => by
    cases List.mem_singleton.mp single
    exact ends y rfl x (List.mem_reverse.mp member)
  have parted : blend below first.reverse ([y] ++ []) = _ := blendSecondAhead ahead
  simpa using parted

theorem mergeFrontBlends (order : WeakOrder below) (pace : Pace) (threshold : Nat)
    (first second out : List α) (firstRising : Rising below first)
    (secondRising : Rising below second) (ends : EndsBeyond below first second) :
    ((mergeFront pace threshold first second out).answer below).1 =
      out.reverse ++ blend below first second := by
  induction pace, threshold, first, second, out using mergeFront.induct with
  | case1 threshold out firstWins secondWins x xs y ys secondWinning firstWinning =>
    obtain ⟨xLowest, xsRising⟩ := List.pairwise_cons.mp firstRising
    obtain ⟨yLowest, ysRising⟩ := List.pairwise_cons.mp secondRising
    rw [mergeFront, answerQuestion, blendCons]
    split
    case isTrue lower =>
      split
      case isTrue last =>
        cases List.isEmpty_iff.mp last
        simp [List.reverseAux_eq]
      case isFalse =>
        refine (secondWinning _ _ firstRising ysRising
          (ends.among fun z member => List.mem_cons_of_mem y member)).trans ?_
        simp
    case isFalse notLower =>
      have leftEnds := ends.tail
      split
      case isTrue short =>
        rcases xs with _ | ⟨last, _ | ⟨_, _⟩⟩
        · exact absurd (ends x rfl y (by simp)) notLower
        · rw [blendLastOfAll leftEnds]
          simp [List.reverseAux_eq]
        · simp at short
      case isFalse long =>
        refine (firstWinning _ _ xsRising secondRising leftEnds).trans ?_
        simp
  | case2 threshold out first y ys searching =>
    obtain ⟨yLowest, ysRising⟩ := List.pairwise_cons.mp secondRising
    obtain ⟨lead, left, rfl, leadNotAbove, leftAbove⟩ := cutAbove order firstRising y
    obtain ⟨-, leftRising, -⟩ := List.pairwise_append.mp firstRising
    have leadAhead : ∀ x ∈ lead, ∀ z ∈ y :: ys, below z x = false := fun x member =>
      List.forall_mem_cons.mpr ⟨leadNotAbove x member, fun z later =>
        order.notAboveTrans (leadNotAbove x member) (yLowest z later)⟩
    have searching := searching lead.length
    rw [mergeFront, answerBind, countNotAboveCut leadNotAbove leftAbove, blendFirstAhead leadAhead]
    simp only [List.take_left, List.drop_left] at searching ⊢
    split
    case h_1 taken =>
      cases (List.drop_left ..).symm.trans taken
      simp [List.reverseAux_eq]
    case h_2 x taken =>
      cases (List.drop_left ..).symm.trans taken
      rw [blendLastOfAll ends.behind]
      simp [List.reverseAux_eq]
    case h_3 x xs _ taken =>
      cases (List.drop_left ..).symm.trans taken
      have leftEnds := ends.behind
      have yAhead : ∀ z ∈ [y], ∀ w ∈ x :: xs, below z w = true := by simpa using leftAbove
      rw [show y :: ys = [y] ++ ys from rfl, blendSecondAhead yAhead]
      split
      case isTrue last =>
        cases List.isEmpty_iff.mp last
        simp [List.reverseAux_eq]
      case isFalse =>
        obtain ⟨xLowest, xsRising⟩ := List.pairwise_cons.mp leftRising
        obtain ⟨trail, rest, rfl, trailBelow, restNotBelow⟩ := cutBelow order ysRising x
        obtain ⟨-, restRising, -⟩ := List.pairwise_append.mp ysRising
        have trailAhead : ∀ z ∈ trail, ∀ w ∈ x :: xs, below z w = true := fun z member =>
          List.forall_mem_cons.mpr ⟨trailBelow z member, fun w later =>
            order.belowOfNotAbove (trailBelow z member) (xLowest w later)⟩
        have xAhead : ∀ z ∈ [x], ∀ w ∈ rest, below w z = false := by simpa using restNotBelow
        have searching := searching x xs rfl trail.length
        rw [answerBind, countBelowCut trailBelow restNotBelow, blendSecondAhead trailAhead]
        simp only [List.take_left, List.drop_left] at searching ⊢
        split
        case isTrue emptied =>
          cases List.isEmpty_iff.mp emptied
          simp [List.reverseAux_eq]
        case isFalse remaining =>
          rw [show x :: xs = [x] ++ xs from rfl, blendFirstAhead xAhead]
          have restEnds : EndsBeyond below xs rest :=
            leftEnds.tail.among fun w member => by simp [member]
          split
          case isTrue short =>
            rcases xs with _ | ⟨last, _ | ⟨_, _⟩⟩
            · simp [List.reverseAux_eq]
            · rw [blendLastOfAll restEnds]
              simp [List.reverseAux_eq]
            · simp at short
          case isFalse long =>
            refine (searching long _ _ xsRising restRising restEnds).trans ?_
            simp [List.reverseAux_eq]
  | case3 pace threshold out first second notSingle notSearch =>
    rw [mergeFront.eq_3 _ _ _ _ _ notSearch notSingle]
    rcases second with _ | ⟨y, ys⟩
    · simp [List.reverseAux_eq]
    · rcases pace with ⟨firstWins, secondWins⟩ | _
      · rcases first with _ | ⟨x, xs⟩
        · simp [List.reverseAux_eq]
        · exact (notSingle firstWins secondWins x xs y ys rfl rfl rfl).elim
      · exact (notSearch y ys rfl rfl).elim

theorem cutAboveTurned (order : WeakOrder below) {run : List α} (rising : Rising below run.reverse)
    (key : α) : ∃ lead left, run = lead ++ left ∧ (∀ x ∈ lead, below key x = true) ∧
      (∀ x ∈ left, below key x = false) ∧
      ∀ hint, run.length - (countNotAbove key run.reverse hint).answer below = lead.length := by
  obtain ⟨front, back, turned, frontNotAbove, backAbove⟩ := cutAbove order rising key
  refine ⟨back.reverse, front.reverse, ?_, by simpa using backAbove, by simpa using frontNotAbove,
    fun hint => ?_⟩
  · exact (List.reverse_eq_iff.mp turned).trans List.reverse_append
  · rw [turned, countNotAboveCut frontNotAbove backAbove, ← List.length_reverse, turned]
    simp

theorem cutBelowTurned (order : WeakOrder below) {run : List α} (rising : Rising below run.reverse)
    (key : α) : ∃ lead left, run = lead ++ left ∧ (∀ x ∈ lead, below x key = false) ∧
      (∀ x ∈ left, below x key = true) ∧
      ∀ hint, run.length - (countBelow key run.reverse hint).answer below = lead.length := by
  obtain ⟨front, back, turned, frontBelow, backNotBelow⟩ := cutBelow order rising key
  refine ⟨back.reverse, front.reverse, ?_, by simpa using backNotBelow, by simpa using frontBelow,
    fun hint => ?_⟩
  · exact (List.reverse_eq_iff.mp turned).trans List.reverse_append
  · rw [turned, countBelowCut frontBelow backNotBelow, ← List.length_reverse, turned]
    simp

theorem mergeBackBlends (order : WeakOrder below) (pace : Pace) (threshold : Nat)
    (first second out : List α) (firstRising : Rising below first.reverse)
    (secondRising : Rising below second.reverse) (ends : EndsBeyond (flip below) second first) :
    ((mergeBack pace threshold first second out).answer below).1 =
      blend below first.reverse second.reverse ++ out := by
  induction pace, threshold, first, second, out using mergeBack.induct with
  | case1 threshold out firstWins secondWins x xs y ys firstWinning secondWinning =>
    rw [List.reverse_cons] at firstRising secondRising
    obtain ⟨xsRising, -, xHighest⟩ := List.pairwise_append.mp firstRising
    obtain ⟨ysRising, -, yHighest⟩ := List.pairwise_append.mp secondRising
    rw [mergeBack, answerQuestion]
    split
    case isTrue lower =>
      have xBehind : ∀ z ∈ (y :: ys).reverse, ∀ w ∈ [x], below z w = true := by
        simp only [List.reverse_cons, List.forall_mem_append, List.forall_mem_singleton]
        exact ⟨fun z member => order.notAboveBelow (yHighest z member y (by simp)) lower, lower⟩
      rw [@List.reverse_cons _ x xs, blendFirstBehind xBehind]
      split
      case isTrue last =>
        cases List.isEmpty_iff.mp last
        simp [List.reverseAux_eq]
      case isFalse =>
        refine (firstWinning _ _ xsRising (by simpa using secondRising) (ends.among fun z member =>
          List.mem_cons_of_mem x member)).trans ?_
        simp
    case isFalse notLower =>
      have xNotBelow := eq_false_of_ne_true notLower
      have yBehind : ∀ w ∈ (x :: xs).reverse, ∀ z ∈ [y], below z w = false := by
        simp only [List.reverse_cons, List.forall_mem_append, List.forall_mem_singleton]
        exact ⟨fun w member => order.notAboveTrans (xHighest w member x (by simp)) xNotBelow,
          xNotBelow⟩
      rw [@List.reverse_cons _ y ys, blendSecondBehind yBehind]
      split
      case isTrue short =>
        rcases ys with _ | ⟨lowest, _ | ⟨_, _⟩⟩
        · exact absurd (ends y rfl x (by simp)) notLower
        · rw [List.reverse_singleton, blendFirstOfAll ends.tail]
          simp [List.reverseAux_eq]
        · simp at short
      case isFalse long =>
        refine (secondWinning _ _ (by simpa using firstRising) ysRising ends.tail).trans ?_
        simp
  | case2 threshold out first y ys searching =>
    rw [List.reverse_cons] at secondRising
    obtain ⟨ysRising, -, yHighest⟩ := List.pairwise_append.mp secondRising
    obtain ⟨lead, left, rfl, leadAbove, leftNotAbove, found⟩ := cutAboveTurned order firstRising y
    rw [List.reverse_append] at firstRising
    obtain ⟨leftRising, -⟩ := List.pairwise_append.mp firstRising
    have leadBehind : ∀ z ∈ (y :: ys).reverse, ∀ w ∈ lead.reverse, below z w = true := by
      simp only [List.reverse_cons, List.forall_mem_append, List.forall_mem_singleton,
        List.mem_reverse] at yHighest ⊢
      exact ⟨fun z member w above =>
        order.notAboveBelow (yHighest z member) (leadAbove w above), leadAbove⟩
    have parted : blend below (lead ++ left).reverse (y :: ys).reverse =
        blend below left.reverse (y :: ys).reverse ++ lead.reverse := by
      rw [List.reverse_append, blendFirstBehind leadBehind]
    rw [mergeBack, answerBind, parted]
    have searching := searching
      ((countNotAbove y (lead ++ left).reverse ((lead ++ left).length - 1)).answer below)
    have drops : (lead ++ left).drop ((lead ++ left).length -
        (countNotAbove y (lead ++ left).reverse ((lead ++ left).length - 1)).answer below) =
        left := by
      rw [found, List.drop_left]
    simp only [found, List.take_left, List.drop_left] at searching ⊢
    split
    case h_1 taken =>
      cases drops.symm.trans taken
      simp [List.reverseAux_eq]
    case h_2 x xs taken =>
      cases drops.symm.trans taken
      have leftEnds : EndsBeyond (flip below) (y :: ys) (x :: xs) :=
        ends.among fun z member => List.mem_append_right lead member
      have yBehind : ∀ w ∈ (x :: xs).reverse, ∀ z ∈ [y], below z w = false := fun w member =>
        List.forall_mem_singleton.mpr (leftNotAbove w (List.mem_reverse.mp member))
      rw [@List.reverse_cons _ y ys, blendSecondBehind yBehind]
      split
      case isTrue short =>
        rcases ys with _ | ⟨lowest, _ | ⟨_, _⟩⟩
        · simp [List.reverseAux_eq]
        · rw [List.reverse_singleton, blendFirstOfAll leftEnds.tail]
          simp [List.reverseAux_eq]
        · simp at short
      case isFalse several =>
        rw [List.reverse_cons] at leftRising
        obtain ⟨xsRising, -, xHighest⟩ := List.pairwise_append.mp leftRising
        obtain ⟨trail, rest, rfl, trailNotBelow, restBelow, foundToo⟩ :=
          cutBelowTurned order ysRising x
        rw [List.reverse_append] at ysRising
        obtain ⟨restRising, -⟩ := List.pairwise_append.mp ysRising
        simp only [List.mem_reverse, List.forall_mem_singleton] at xHighest
        have trailBehind : ∀ w ∈ (x :: xs).reverse, ∀ z ∈ trail.reverse, below z w = false := by
          simp only [List.reverse_cons, List.forall_mem_append, List.forall_mem_singleton,
            List.mem_reverse]
          exact ⟨fun w member z beyond =>
            order.notAboveTrans (xHighest w member) (trailNotBelow z beyond), trailNotBelow⟩
        have xBehind : ∀ z ∈ rest.reverse, ∀ w ∈ [x], below z w = true := by simpa using restBelow
        have searching := searching x xs rfl several
          ((countBelow x (trail ++ rest).reverse ((trail ++ rest).length - 1)).answer below)
        have partedToo : blend below (x :: xs).reverse (trail ++ rest).reverse =
            blend below (x :: xs).reverse rest.reverse ++ trail.reverse := by
          rw [List.reverse_append, blendSecondBehind trailBehind]
        rw [answerBind, partedToo]
        simp only [foundToo, List.take_left, List.drop_left] at searching ⊢
        have restEnds : EndsBeyond (flip below) rest (x :: xs) := leftEnds.tail.behind
        split
        case isTrue short =>
          rcases rest with _ | ⟨lowest, _ | ⟨_, _⟩⟩
          · simp [List.reverseAux_eq]
          · rw [List.reverse_singleton, blendFirstOfAll restEnds]
            simp [List.reverseAux_eq]
          · simp at short
        case isFalse =>
          rw [@List.reverse_cons _ x xs, blendFirstBehind xBehind]
          split
          case isTrue last =>
            cases List.isEmpty_iff.mp last
            simp [List.reverseAux_eq]
          case isFalse =>
            refine (searching _ _ xsRising restRising (restEnds.among fun z member =>
              List.mem_cons_of_mem x member)).trans ?_
            simp [List.reverseAux_eq]
  | case3 pace threshold out first second notSingle notSearch =>
    rw [mergeBack.eq_3 _ _ _ _ _ notSearch notSingle]
    rcases second with _ | ⟨y, ys⟩
    · simp [List.reverseAux_eq]
    · rcases pace with ⟨firstWins, secondWins⟩ | _
      · rcases first with _ | ⟨x, xs⟩
        · simp [List.reverseAux_eq]
        · exact (notSingle firstWins secondWins x xs y ys rfl rfl rfl).elim
      · exact (notSearch y ys rfl rfl).elim

theorem mergeMiddleBlends (order : WeakOrder below) (threshold : Nat) (middle inner : List α)
    (middleRising : Rising below middle) (innerRising : Rising below inner)
    (lowest : ∀ y ∈ inner.head?, ∀ x ∈ middle, below y x = true)
    (highest : EndsBeyond below middle inner) :
    ((mergeMiddle threshold middle inner).answer below).1 = blend below middle inner := by
  unfold mergeMiddle
  -- The lowest element is the first of the one run and the highest the last of the other, so that
  -- either direction of merging may start with one element put out.
  split
  · rcases inner with _ | ⟨y, inner⟩
    · simp
    · have yAhead : ∀ z ∈ [y], ∀ x ∈ middle, below z x = true :=
        List.forall_mem_singleton.mpr (lowest y rfl)
      obtain ⟨-, othersRising⟩ := List.pairwise_cons.mp innerRising
      have othersHighest := highest.among fun z member => List.mem_cons_of_mem y member
      have parted : blend below middle (y :: inner) = [y] ++ blend below middle inner :=
        blendSecondAhead yAhead
      rw [parted]
      rcases inner with _ | ⟨z, inner⟩
      · simp
      · dsimp only
        split
        case isTrue short =>
          rcases middle with _ | ⟨last, _ | ⟨_, _⟩⟩
          · simp
          · rw [blendLastOfAll othersHighest]
            simp
          · simp at short
        case isFalse =>
          exact mergeFrontBlends order _ _ _ _ _ middleRising othersRising othersHighest
  · generalize turned : middle.reverse = back
    cases List.reverse_eq_iff.mp turned
    rcases back with _ | ⟨x, back⟩
    · simp
    · rw [List.reverse_cons] at middleRising lowest highest
      obtain ⟨othersRising, -⟩ := List.pairwise_append.mp middleRising
      have xBehind : ∀ z ∈ inner, ∀ w ∈ [x], below z w = true := fun z member =>
        List.forall_mem_singleton.mpr (highest x (by simp) z member)
      have othersLowest : EndsBeyond (flip below) inner.reverse back := fun y found z member =>
        lowest y (by simpa using found) z (by simp [member])
      rw [List.reverse_cons, blendFirstBehind xBehind]
      rcases back with _ | ⟨w, back⟩
      · simp
      · dsimp only
        split
        case isTrue short =>
          rcases inner with _ | ⟨y, _ | ⟨_, _⟩⟩
          · simp [List.reverseAux_eq]
          · rw [blendFirstOfAll othersLowest]
            simp [List.reverseAux_eq]
          · simp at short
        case isFalse =>
          have merged := mergeBackBlends order (.single 0 0) threshold (w :: back) inner.reverse [x]
            othersRising (by simpa using innerRising) othersLowest
          rw [List.reverse_reverse] at merged
          exact merged

theorem mergeBlends (order : WeakOrder below) (threshold : Nat) (xs ys : List α)
    (xsRising : Rising below xs) (ysRising : Rising below ys) :
    ((merge threshold xs ys).answer below).1 = blend below xs ys := by
  cases ys with
  | nil => simp [merge]
  | cons y ys =>
    obtain ⟨front, middle, rfl, frontNotAbove, middleAbove⟩ := cutAbove order xsRising y
    obtain ⟨yLowest, -⟩ := List.pairwise_cons.mp ysRising
    obtain ⟨-, middleRising, -⟩ := List.pairwise_append.mp xsRising
    have frontAhead : ∀ x ∈ front, ∀ z ∈ y :: ys, below z x = false := fun x member =>
      List.forall_mem_cons.mpr ⟨frontNotAbove x member, fun z later =>
        order.notAboveTrans (frontNotAbove x member) (yLowest z later)⟩
    rw [mergeAsMiddle, answerBind, countNotAboveCut frontNotAbove middleAbove, List.drop_left,
      List.take_left, blendFirstAhead frontAhead]
    split
    case h_1 emptied =>
      cases List.getLast?_eq_none_iff.mp emptied
      simp
    case h_2 last found =>
      obtain ⟨earlier, rfl⟩ := List.getLast?_eq_some_iff.mp found
      obtain ⟨-, -, lastHighest⟩ := List.pairwise_append.mp middleRising
      obtain ⟨inner, rest, whole, innerBelow, restNotBelow⟩ := cutBelow order ysRising last
      obtain ⟨innerRising, -⟩ := List.pairwise_append.mp (whole ▸ ysRising)
      have restBehind : ∀ x ∈ earlier ++ [last], ∀ z ∈ rest, below z x = false := by
        simp only [List.forall_mem_append, List.forall_mem_singleton]
        exact ⟨fun x member z beyond =>
          order.notAboveTrans (lastHighest x member last (by simp)) (restNotBelow z beyond),
          restNotBelow⟩
      have lowest : ∀ z ∈ inner.head?, ∀ x ∈ earlier ++ [last],
          below z x = true := fun z first => by
        rcases inner with _ | ⟨_, inner⟩
        · exact absurd first (by simp)
        · cases Option.mem_some_iff.mp first
          cases whole
          exact middleAbove
      have highest : EndsBeyond below (earlier ++ [last]) inner := fun highest member => by
        cases Option.some.inj (found.symm.trans member)
        exact innerBelow
      rw [whole, answerBind, countBelowCut innerBelow restNotBelow, blendSecondBehind restBehind]
      split
      case isTrue none =>
        cases List.length_eq_zero_iff.mp none
        simp
      case isFalse =>
        have blended :=
          mergeMiddleBlends order threshold _ _ middleRising innerRising lowest highest
        rw [List.take_left, List.drop_left, answerBind]
        show front ++ (answer below (mergeMiddle threshold (earlier ++ [last]) inner)).1 ++ rest = _
        rw [blended, List.append_assoc]

end TableQuery.Sort
