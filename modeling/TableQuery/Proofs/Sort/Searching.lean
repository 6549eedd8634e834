import TableQuery.Proofs.Sort.Arranged
import TableQuery.Sort.Boundary

/-! Where the searches end, when the answers are those of an order.
A property that holds of the positions below a border, and of no others, has its border found from
any hint. -/
namespace TableQuery.Sort
open Plan

variable {α : Type} {below : α → α → Bool}

section Border

variable {holds : Nat → Plan α Bool} {border : Nat}
  (answers : ∀ i, (holds i).answer below = decide (i < border))
include answers

theorem bisectBorder {lo hi : Nat} (notBefore : lo ≤ border) (notBehind : border ≤ hi) :
    (bisect holds lo hi).answer below = border := by
  induction lo, hi using bisect.induct with
  | case1 lo hi room middle upper lower =>
    rw [bisect, dif_pos room, answerBind, answers]
    by_cases inside : middle < border
    · rw [decide_eq_true inside, if_pos rfl]
      exact upper inside notBehind
    · rw [decide_eq_false inside, if_neg Bool.false_ne_true]
      exact lower notBefore (by omega)
  | case2 lo hi narrow =>
    rw [bisect, dif_neg narrow]
    show hi = border
    omega

theorem strideUpBorder (hint room : Nat) {last next : Nat} (rising : last < next)
    (inside : hint + last < border) (notBehind : border ≤ hint + room) :
    let strides := (strideUp holds hint room last next).answer below
    hint + strides.1 < border ∧ border ≤ hint + strides.2 := by
  induction last, next using strideUp.induct room with
  | case1 last next more ih =>
    rw [strideUp, dif_pos more, answerBind, answers]
    by_cases further : hint + next < border
    · rw [decide_eq_true further, if_pos rfl]
      exact ih (by omega) further
    · rw [decide_eq_false further, if_neg Bool.false_ne_true]
      exact ⟨inside, Nat.le_of_not_lt further⟩
  | case2 last next ended =>
    rw [strideUp, dif_neg ended]
    refine ⟨inside, ?_⟩
    show border ≤ hint + min next room
    omega

theorem strideDownBorder (hint : Nat) {last next : Nat} (rising : last < next)
    (outside : border ≤ hint - last) :
    let strides := (strideDown holds hint (hint + 1) last next).answer below
    border ≤ hint - strides.1 ∧ hint + 1 - strides.2 ≤ border := by
  induction last, next using strideDown.induct (hint + 1) with
  | case1 last next more ih =>
    rw [strideDown, dif_pos more, answerBind, answers]
    by_cases back : hint - next < border
    · rw [decide_eq_true back, if_pos rfl]
      refine ⟨outside, ?_⟩
      show hint + 1 - next ≤ border
      omega
    · rw [decide_eq_false back, if_neg Bool.false_ne_true]
      exact ih (by omega) (by omega)
  | case2 last next ended =>
    rw [strideDown, dif_neg ended]
    refine ⟨outside, ?_⟩
    show hint + 1 - min next (hint + 1) ≤ border
    omega

theorem boundaryBorder {count hint : Nat} (notBehind : border ≤ count) :
    (boundary holds count hint).answer below = border := by
  unfold boundary
  rw [answerBind, answers]
  by_cases inside : hint < border
  · rw [decide_eq_true inside, if_pos rfl, answerBind]
    obtain ⟨before, behind⟩ := strideUpBorder answers hint (count - hint) Nat.zero_lt_one inside
      (by omega)
    exact bisectBorder answers (by omega) behind
  · rw [decide_eq_false inside, if_neg Bool.false_ne_true, answerBind]
    obtain ⟨behind, before⟩ := strideDownBorder answers hint Nat.zero_lt_one (by omega)
    exact bisectBorder answers before behind

end Border

variable {key : α} {front back : List α}

theorem notAboveAnswers (frontNotAbove : ∀ x ∈ front, below key x = false)
    (backAbove : ∀ x ∈ back, below key x = true) (i : Nat) :
    (notAbove key (front ++ back) i).answer below = decide (i < front.length) := by
  unfold notAbove
  by_cases inside : i < front.length
  · rw [List.getElem?_append_left inside, List.getElem?_eq_getElem inside]
    show (!below key front[i]) = _
    rw [frontNotAbove _ (List.getElem_mem inside), decide_eq_true inside]
    rfl
  · rw [List.getElem?_append_right (Nat.le_of_not_lt inside), decide_eq_false inside]
    cases found : back[i - front.length]? with
    | none => rfl
    | some x =>
      show (!below key x) = false
      rw [backAbove x (List.mem_of_getElem? found)]
      rfl

theorem isBelowAnswers (frontBelow : ∀ x ∈ front, below x key = true)
    (backNotBelow : ∀ x ∈ back, below x key = false) (i : Nat) :
    (isBelow key (front ++ back) i).answer below = decide (i < front.length) := by
  unfold isBelow
  by_cases inside : i < front.length
  · rw [List.getElem?_append_left inside, List.getElem?_eq_getElem inside]
    show below front[i] key = _
    rw [frontBelow _ (List.getElem_mem inside), decide_eq_true inside]
  · rw [List.getElem?_append_right (Nat.le_of_not_lt inside), decide_eq_false inside]
    cases found : back[i - front.length]? with
    | none => rfl
    | some x =>
      show below x key = false
      exact backNotBelow x (List.mem_of_getElem? found)

theorem countNotAboveCut (frontNotAbove : ∀ x ∈ front, below key x = false)
    (backAbove : ∀ x ∈ back, below key x = true) (hint : Nat) :
    (countNotAbove key (front ++ back) hint).answer below = front.length :=
  boundaryBorder (notAboveAnswers frontNotAbove backAbove) (by simp)

theorem countBelowCut (frontBelow : ∀ x ∈ front, below x key = true)
    (backNotBelow : ∀ x ∈ back, below x key = false) (hint : Nat) :
    (countBelow key (front ++ back) hint).answer below = front.length :=
  boundaryBorder (isBelowAnswers frontBelow backNotBelow) (by simp)

theorem cutAtFall (property : α → Bool) {xs : List α}
    (falling : xs.Pairwise fun x y => property y = true → property x = true) :
    ∃ front back, xs = front ++ back ∧ (∀ x ∈ front, property x = true) ∧
      ∀ x ∈ back, property x = false := by
  induction xs with
  | nil => exact ⟨[], [], rfl, by simp, by simp⟩
  | cons x xs ih =>
    obtain ⟨head, tail⟩ := List.pairwise_cons.mp falling
    cases held : property x with
    | true =>
      obtain ⟨front, back, rfl, inFront, inBack⟩ := ih tail
      exact ⟨x :: front, back, rfl, List.forall_mem_cons.mpr ⟨held, inFront⟩, inBack⟩
    | false =>
      refine ⟨[], x :: xs, rfl, by simp, List.forall_mem_cons.mpr ⟨held, fun y member => ?_⟩⟩
      by_contra holdsLater
      exact Bool.noConfusion (held.symm.trans (head y member (eq_true_of_ne_false holdsLater)))

theorem cutAbove (order : WeakOrder below) {xs : List α} (rising : Rising below xs) (key : α) :
    ∃ front back, xs = front ++ back ∧ (∀ x ∈ front, below key x = false) ∧
      ∀ x ∈ back, below key x = true := by
  obtain ⟨front, back, whole, inFront, inBack⟩ := cutAtFall (fun x => !below key x)
    (rising.imp fun notFalling => by simpa using order.notAboveTrans notFalling)
  exact ⟨front, back, whole, by simpa using inFront, by simpa using inBack⟩

theorem cutBelow (order : WeakOrder below) {xs : List α} (rising : Rising below xs) (key : α) :
    ∃ front back, xs = front ++ back ∧ (∀ x ∈ front, below x key = true) ∧
      ∀ x ∈ back, below x key = false :=
  cutAtFall (below · key) (rising.imp fun notFalling => order.notAboveBelow notFalling)

end TableQuery.Sort
