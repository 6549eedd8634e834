import TableQuery.Proofs.Sort.Merging

/-! Sorting is stable: the result is the stable arrangement of the list, under every order whose
levels are classes. Each run rises when it is made, whether it was cut out, turned or filled up, and
the runs on the stack keep every level as it stood in the part of the list that is consumed. -/
namespace TableQuery.Sort
open Plan

variable {α : Type} {below : α → α → Bool}

theorem risingCons (order : WeakOrder below) {x y : α} {ys : List α} (step : below y x = false)
    (rising : Rising below (y :: ys)) : Rising below (x :: y :: ys) := by
  refine List.pairwise_cons.mpr ⟨?_, rising⟩
  exact List.forall_mem_cons.mpr ⟨step, fun z member =>
    order.notAboveTrans step ((List.pairwise_cons.mp rising).1 z member)⟩

theorem climbRises (order : WeakOrder below) (last : α) (xs : List α) :
    Rising below (last :: ((climb last xs).answer below).1) := by
  induction xs generalizing last with
  | nil => exact List.pairwise_singleton _ _
  | cons x xs ih =>
    rw [climb, answerQuestion]
    split
    case isTrue => exact List.pairwise_singleton _ _
    case isFalse notLower =>
      rw [answerBind]
      exact risingCons order (eq_false_of_ne_true notLower) (ih x)

def Falling (below : α → α → Bool) (xs : List α) : Prop :=
  xs.Pairwise fun x y => below y x = true

theorem fallingCons (order : WeakOrder below) {x y : α} {ys : List α} (step : below y x = true)
    (falling : Falling below (y :: ys)) : Falling below (x :: y :: ys) := by
  refine List.pairwise_cons.mpr ⟨List.forall_mem_cons.mpr ⟨step, fun z member => ?_⟩, falling⟩
  exact order.belowOfNotAbove ((List.pairwise_cons.mp falling).1 z member) (order.oneWay step)

theorem fallFalls (order : WeakOrder below) (last : α) (xs : List α) :
    Falling below (last :: ((fall last xs).answer below).1) := by
  induction xs generalizing last with
  | nil => exact List.pairwise_singleton _ _
  | cons x xs ih =>
    rw [fall, answerQuestion]
    split
    case isTrue lower =>
      rw [answerBind]
      exact fallingCons order lower (ih x)
    case isFalse => exact List.pairwise_singleton _ _

theorem fallingTurned (order : WeakOrder below) {xs : List α} (falling : Falling below xs) :
    Rising below xs.reverse :=
  List.pairwise_reverse.mpr (falling.imp fun lower => order.oneWay lower)

theorem fallingSameLevels {xs : List α} (order : WeakOrder below) (falling : Falling below xs) :
    SameLevels below xs xs.reverse := by
  intro k
  induction xs with
  | nil => rfl
  | cons x xs ih =>
    obtain ⟨head, tail⟩ := List.pairwise_cons.mp falling
    rw [List.reverse_cons, List.filter_append, ih tail]
    by_cases onLevel : level below k x = true
    · have others : xs.filter (level below k) = [] := by
        refine List.filter_eq_nil_iff.mpr fun y member yOnLevel => ?_
        have lower := order.belowOfNotAbove (head y member) (levelIff.mp onLevel).1
        exact Bool.noConfusion ((levelIff.mp yOnLevel).2.symm.trans lower)
      simp [others, onLevel]
    · simp [onLevel]

theorem nextRunArranges (order : WeakOrder below) (x : α) (xs : List α) :
    let cut := (nextRun (x :: xs)).answer below
    Rising below cut.1 ∧ SameLevels below (x :: xs) (cut.1 ++ cut.2) := by
  cases xs with
  | nil => exact ⟨List.pairwise_singleton _ _, fun k => rfl⟩
  | cons y xs =>
    have everything : ∀ z ∈ xs, (fun _ : α => True) z := fun _ _ => trivial
    rw [nextRun, answerQuestion]
    split
    case isTrue lower =>
      have whole := ensuredOfAnswer below (fallCuts y xs trivial everything)
      have falls := fallingCons order lower (fallFalls order y xs)
      rw [answerBind]
      generalize (fall y xs).answer below = cut at whole falls ⊢
      obtain ⟨run, rest⟩ := cut
      cases whole
      exact ⟨fallingTurned order falls, (fallingSameLevels order falls).append fun k => rfl⟩
    case isFalse notLower =>
      have whole := ensuredOfAnswer below (climbCuts y xs trivial everything)
      have climbs := climbRises order y xs
      rw [answerBind]
      generalize (climb y xs).answer below = cut at whole climbs ⊢
      obtain ⟨run, rest⟩ := cut
      cases whole
      exact ⟨risingCons order (eq_false_of_ne_true notLower) climbs, fun k => rfl⟩

theorem insertBlends (order : WeakOrder below) {run : List α} (rising : Rising below run) (x : α) :
    (insert run x).answer below = blend below run [x] := by
  obtain ⟨front, back, rfl, frontNotAbove, backAbove⟩ := cutAbove order rising x
  have frontAhead : ∀ y ∈ front, ∀ z ∈ [x], below z y = false := fun y member =>
    List.forall_mem_singleton.mpr (frontNotAbove y member)
  have xAhead : ∀ z ∈ [x], ∀ y ∈ back, below z y = true := List.forall_mem_singleton.mpr backAbove
  have parted : blend below back ([x] ++ []) = _ := blendSecondAhead xAhead
  have place := bisectBorder (notAboveAnswers frontNotAbove backAbove) (Nat.zero_le _)
    (show front.length ≤ (front ++ back).length by simp)
  rw [insert, answerBind, place, blendFirstAhead frontAhead]
  simpa using parted.symm

theorem insertAllArranges (order : WeakOrder below) {run : List α} (rising : Rising below run)
    (xs : List α) : Arranged below (run ++ xs) ((insertAll run xs).answer below) := by
  induction xs generalizing run with
  | nil => exact ⟨rising, by simp [insertAll, SameLevels]⟩
  | cons x xs ih =>
    have longer := arrangedBlend order rising (List.pairwise_singleton _ x)
    rw [insertAll, answerBind, insertBlends order rising]
    obtain ⟨rises, sameLevels⟩ := ih longer.rising
    refine ⟨rises, ?_⟩
    have step := longer.sameLevels.append (fun k => rfl : SameLevels below xs xs)
    exact (List.append_assoc run [x] xs ▸ step).trans sameLevels

/- The runs of a stack hold what is consumed of the list. -/
structure Waiting (below : α → α → Bool) (consumed : List α) (stack : List (Run α)) : Prop where
  rising : ∀ run ∈ stack, Rising below run.items
  sameLevels : SameLevels below consumed (laidOut stack)

theorem Waiting.blend (order : WeakOrder below) {consumed : List α} (upper : List (Run α))
    {lower : List (Run α)} {top second : Run α}
    (waiting : Waiting below consumed (upper ++ top :: second :: lower)) :
    Waiting below consumed
      (upper ++ { second with items := Sort.blend below second.items top.items } :: lower) := by
  obtain ⟨rising, sameLevels⟩ := waiting
  simp only [List.forall_mem_append, List.forall_mem_cons] at rising
  obtain ⟨upperRising, topRising, secondRising, lowerRising⟩ := rising
  have blended := arrangedBlend order secondRising topRising
  refine ⟨?_, sameLevels.trans fun k => ?_⟩
  · simp only [List.forall_mem_append, List.forall_mem_cons]
    exact ⟨upperRising, blended.rising, lowerRising⟩
  · simp only [laidOutAppend, laidOut, List.filter_append, blended.sameLevels k, List.append_assoc]

theorem settleWaits (order : WeakOrder below) (border threshold : Nat) {consumed : List α}
    {stack : List (Run α)} (waiting : Waiting below consumed stack) :
    Waiting below consumed ((settle border threshold stack).answer below).1 := by
  induction threshold, stack using settle.induct border with
  | case1 threshold top second lower weaker ih =>
    rw [settle, if_pos weaker, answerBind]
    refine ih _ _ ?_
    rw [mergeBlends order threshold _ _ (waiting.rising second (by simp))
      (waiting.rising top (by simp))]
    exact waiting.blend order []
  | case2 threshold top second lower strong =>
    rw [settle, if_neg strong]
    exact waiting
  | case3 threshold stack short =>
    rw [settle.eq_2 _ _ _ short]
    exact waiting

theorem announceWaits (order : WeakOrder below) (total length threshold : Nat) {consumed : List α}
    {stack : List (Run α)} (waiting : Waiting below consumed stack) :
    Waiting below consumed ((announce total length threshold stack).answer below).1 := by
  cases stack with
  | nil => exact waiting
  | cons top lower =>
    have settled := settleWaits order (power total (2 * top.start + top.items.length)
      (2 * top.start + 2 * top.items.length + length)) threshold waiting
    rw [announce, answerBind]
    generalize (settle _ threshold (top :: lower)).answer below = left at settled ⊢
    obtain ⟨runs, threshold⟩ := left
    cases runs with
    | nil => exact settled
    | cons top lower =>
      exact ⟨List.forall_mem_cons.mpr (List.forall_mem_cons.mp settled.rising), settled.sameLevels⟩

theorem stackRunsWait (order : WeakOrder below) (total least fuel start : Nat)
    {consumed xs : List α} {stack : List (Run α)} (threshold : Nat) (enough : xs.length ≤ fuel)
    (waiting : Waiting below consumed stack) :
    Waiting below (consumed ++ xs)
      ((stackRuns total least fuel start xs stack threshold).answer below).1 := by
  induction fuel generalizing start consumed xs stack threshold with
  | zero =>
    cases List.length_eq_zero_iff.mp (Nat.le_zero.mp enough)
    rw [List.append_nil]
    exact waiting
  | succ fuel ih =>
    cases xs with
    | nil =>
      rw [List.append_nil]
      exact waiting
    | cons x xs =>
      have everything : ∀ z ∈ xs, (fun _ : α => True) z := fun _ _ => trivial
      obtain ⟨cutPerm, someRun⟩ := ensuredOfAnswer below (nextRunCuts x xs trivial everything)
      obtain ⟨runRising, cutLevels⟩ := nextRunArranges order x xs
      rw [stackRuns, if_neg (by simp), answerBind]
      generalize (nextRun (x :: xs)).answer below = cut at cutPerm someRun runRising cutLevels ⊢
      obtain ⟨run, rest⟩ := cut
      have shorter : rest.length ≤ fuel := by
        have lengths := cutPerm.length_eq
        have taken : 0 < run.length := List.length_pos_iff.mpr someRun
        simp only [List.length_append, List.length_cons] at lengths enough
        omega
      dsimp only
      generalize least - run.length = missing
      obtain ⟨longerRising, longerLevels⟩ := insertAllArranges order runRising (rest.take missing)
      rw [answerBind]
      generalize (insertAll run (rest.take missing)).answer below = longer
        at longerRising longerLevels ⊢
      obtain ⟨waitingRising, waitingLevels⟩ :=
        announceWaits order total longer.length threshold waiting
      rw [answerBind]
      generalize (announce total longer.length threshold stack).answer below = settled
        at waitingRising waitingLevels ⊢
      have onTop : Waiting below (consumed ++ (run ++ rest.take missing))
          (⟨longer, start, 0⟩ :: settled.1) :=
        ⟨List.forall_mem_cons.mpr ⟨longerRising, waitingRising⟩, waitingLevels.append longerLevels⟩
      have fewer : (rest.drop missing).length ≤ fuel := Nat.le_trans (by simp) shorter
      obtain ⟨rising, sameLevels⟩ := ih (start + longer.length) settled.2 fewer onTop
      have recut : SameLevels below (consumed ++ x :: xs)
          (consumed ++ (run ++ rest.take missing) ++ rest.drop missing) := fun k => by
        have cut := cutLevels k
        rw [List.filter_append] at cut
        rw [List.append_assoc, List.append_assoc, List.take_append_drop]
        simp only [List.filter_append, cut]
      exact ⟨rising, recut.trans sameLevels⟩

theorem collapseArranges (order : WeakOrder below) (threshold : Nat) {consumed : List α}
    {stack : List (Run α)} (waiting : Waiting below consumed stack) :
    Arranged below consumed ((collapse threshold stack).answer below) := by
  induction threshold, stack using collapse.induct with
  | case1 threshold =>
    rw [collapse]
    exact ⟨List.Pairwise.nil, waiting.sameLevels⟩
  | case2 threshold run =>
    rw [collapse]
    exact ⟨waiting.rising run (by simp), waiting.sameLevels⟩
  | case3 threshold top second =>
    have whole := waiting.blend order []
    rw [collapse, answerBind]
    show Arranged below consumed ((merge threshold second.items top.items).answer below).1
    rw [mergeBlends order threshold _ _ (waiting.rising second (by simp))
      (waiting.rising top (by simp))]
    exact ⟨whole.rising _ (List.mem_singleton.mpr rfl), whole.sameLevels⟩
  | case4 threshold top second third lower smaller ih =>
    rw [collapse, if_pos smaller, answerBind]
    refine ih _ _ ?_
    rw [mergeBlends order threshold _ _ (waiting.rising third (by simp))
      (waiting.rising second (by simp))]
    exact waiting.blend order [top]
  | case5 threshold top second third lower larger ih =>
    rw [collapse, if_neg larger, answerBind]
    refine ih _ _ ?_
    rw [mergeBlends order threshold _ _ (waiting.rising second (by simp))
      (waiting.rising top (by simp))]
    exact waiting.blend order []

theorem sortArranges (order : WeakOrder below) (xs : List α) :
    Arranged below xs ((sort xs).answer below) := by
  unfold sort
  split
  case isTrue short =>
    refine ⟨?_, fun k => rfl⟩
    rcases xs with _ | ⟨x, _ | ⟨_, _⟩⟩
    · exact List.Pairwise.nil
    · exact List.pairwise_singleton _ x
    · simp only [List.length_cons] at short
      omega
  case isFalse =>
    rw [answerBind]
    have empty : Waiting below [] ([] : List (Run α)) := ⟨by simp, fun k => rfl⟩
    exact collapseArranges order _
      (stackRunsWait order _ _ _ _ leadWorthSearching (Nat.le_refl xs.length) empty)

theorem sortRuns {ε : Type} {order : α → α → Except ε Bool} {xs : List α}
    (answers : ∀ x y, x ∈ xs → y ∈ xs → order x y = .ok (below x y)) :
    (sort xs).run order = .ok ((sort xs).answer below) :=
  runOfAnswersAmong (sortGathers xs) answers

/- What an order sorted without a failure is sorted under every order that agrees with it, so that
no list is sorted on which such orders disagree. -/
theorem sortFailsApart {ε : Type} {order : α → α → Except ε Bool} {other : α → α → Bool}
    {xs : List α} {x y : α} (weak : WeakOrder below) (weakToo : WeakOrder other)
    (agrees : ∀ a b r, a ∈ xs → b ∈ xs → order a b = .ok r → below a b = r ∧ other a b = r)
    (first : x ∈ xs) (second : y ∈ xs) (lower : below x y = true) (higher : other y x = true) :
    ∃ e, (sort xs).run order = .error e := by
  cases ran : (sort xs).run order with
  | error e => exact ⟨e, rfl⟩
  | ok sorted =>
    have permuted := ensuredOfRun (sortGathers xs) ran
    have rises : ∀ {total : α → α → Bool}, WeakOrder total →
        (∀ a b r, a ∈ xs → b ∈ xs → order a b = .ok r → total a b = r) →
        Rising total sorted := fun order agree =>
      answerOfRunAmong (sortGathers xs) agree ran ▸ (sortArranges order xs).rising
    have rising := rises weak fun a b r left right answered => (agrees a b r left right answered).1
    have risingToo := rises weakToo fun a b r left right answered =>
      (agrees a b r left right answered).2
    have ordered := risingAgree weak rising risingToo (permuted.mem_iff.mpr first)
      (permuted.mem_iff.mpr second) lower
    exact Bool.noConfusion (ordered.symm.trans higher)

end TableQuery.Sort
