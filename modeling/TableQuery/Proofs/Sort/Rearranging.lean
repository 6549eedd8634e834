import TableQuery.Proofs.Sort.Questions
import TableQuery.Sort.Runs
import Mathlib.Data.List.Perm.Basic

/-! Sorting rearranges a list and asks about nothing but its elements, whatever the answers are. -/
namespace TableQuery.Sort
open Plan

variable {α : Type} {among : α → Prop}

theorem bisectAsks {holds : Nat → Plan α Bool} (asks : ∀ i, (holds i).Ensures among fun _ => True)
    (lo hi : Nat) : (bisect holds lo hi).Ensures among fun _ => True := by
  induction lo, hi using bisect.induct with
  | case1 lo hi room middle upper lower =>
    rw [bisect, dif_pos room]
    refine ensuresBind (asks middle) fun r _ => ?_
    cases r with
    | true => exact upper
    | false => exact lower
  | case2 lo hi narrow =>
    rw [bisect, dif_neg narrow]
    trivial

theorem strideUpAsks {holds : Nat → Plan α Bool} (asks : ∀ i, (holds i).Ensures among fun _ => True)
    (hint room last next : Nat) :
    (strideUp holds hint room last next).Ensures among fun _ => True := by
  induction last, next using strideUp.induct room with
  | case1 last next inside ih =>
    rw [strideUp, dif_pos inside]
    refine ensuresBind (asks _) fun r _ => ?_
    cases r with
    | true => exact ih
    | false => trivial
  | case2 last next outside =>
    rw [strideUp, dif_neg outside]
    trivial

theorem strideDownAsks {holds : Nat → Plan α Bool}
    (asks : ∀ i, (holds i).Ensures among fun _ => True) (hint room last next : Nat) :
    (strideDown holds hint room last next).Ensures among fun _ => True := by
  induction last, next using strideDown.induct room with
  | case1 last next inside ih =>
    rw [strideDown, dif_pos inside]
    refine ensuresBind (asks _) fun r _ => ?_
    cases r with
    | true => trivial
    | false => exact ih
  | case2 last next outside =>
    rw [strideDown, dif_neg outside]
    trivial

theorem boundaryAsks {holds : Nat → Plan α Bool} (asks : ∀ i, (holds i).Ensures among fun _ => True)
    (count hint : Nat) : (boundary holds count hint).Ensures among fun _ => True := by
  refine ensuresBind (asks hint) fun r _ => ?_
  cases r with
  | true => exact ensuresBind (strideUpAsks asks ..) fun _ _ => bisectAsks asks ..
  | false => exact ensuresBind (strideDownAsks asks ..) fun _ _ => bisectAsks asks ..

theorem notAboveAsks {key : α} {xs : List α} (keyAmong : among key) (members : ∀ x ∈ xs, among x)
    (i : Nat) : (notAbove key xs i).Ensures among fun _ => True := by
  unfold notAbove
  split
  case h_1 x found => exact ⟨keyAmong, members x (List.mem_of_getElem? found), fun _ => trivial⟩
  case h_2 => trivial

theorem isBelowAsks {key : α} {xs : List α} (keyAmong : among key) (members : ∀ x ∈ xs, among x)
    (i : Nat) : (isBelow key xs i).Ensures among fun _ => True := by
  unfold isBelow
  split
  case h_1 x found => exact ⟨members x (List.mem_of_getElem? found), keyAmong, fun _ => trivial⟩
  case h_2 => trivial

theorem countNotAboveAsks {key : α} {xs : List α} (keyAmong : among key)
    (members : ∀ x ∈ xs, among x) (hint : Nat) :
    (countNotAbove key xs hint).Ensures among fun _ => True :=
  boundaryAsks (notAboveAsks keyAmong members) ..

theorem countBelowAsks {key : α} {xs : List α} (keyAmong : among key)
    (members : ∀ x ∈ xs, among x) (hint : Nat) :
    (countBelow key xs hint).Ensures among fun _ => True :=
  boundaryAsks (isBelowAsks keyAmong members) ..

/- Merging: what a merge puts out is what it was given. Permutations are shown by counting, so that
the parts of a run add up wherever they went. -/

def Gathers (among : α → Prop) (parts : List α) (p : Plan α (List α × Nat)) : Prop :=
  p.Ensures among fun merged => merged.1.Perm parts

theorem permOfCounts {xs ys : List α} (counts : ∀ q : α → Bool, xs.countP q = ys.countP q) :
    xs.Perm ys := by
  classical
  exact List.perm_iff_count.mpr fun a => counts (· == a)

theorem amongOfPerm {xs ys : List α} (rearranged : xs.Perm ys) (members : ∀ y ∈ ys, among y) :
    ∀ x ∈ xs, among x := fun x member => members x (rearranged.mem_iff.mp member)

theorem gathersDone {merged parts : List α} {threshold : Nat}
    (counts : ∀ q : α → Bool, merged.countP q = parts.countP q) :
    Gathers among parts (.done (merged, threshold)) := permOfCounts counts

theorem gathersOn {p : Plan α (List α × Nat)} {parts whole : List α} (rest : Gathers among parts p)
    (counts : ∀ q : α → Bool, parts.countP q = whole.countP q) : Gathers among whole p :=
  ensuresWeaken rest fun _ rearranged => rearranged.trans (permOfCounts counts)

theorem countTakeDrop (q : α → Bool) (n : Nat) (xs : List α) :
    (xs.take n).countP q + (xs.drop n).countP q = xs.countP q := by
  rw [← List.countP_append, List.take_append_drop]

theorem mergeFrontGathers (pace : Pace) (threshold : Nat) (first second out : List α)
    (firstAmong : ∀ x ∈ first, among x) (secondAmong : ∀ y ∈ second, among y) :
    Gathers among (out ++ (first ++ second)) (mergeFront pace threshold first second out) := by
  induction pace, threshold, first, second, out using mergeFront.induct with
  | case1 threshold out firstWins secondWins x xs y ys secondWinning firstWinning =>
    obtain ⟨xAmong, xsAmong⟩ := List.forall_mem_cons.mp firstAmong
    obtain ⟨yAmong, ysAmong⟩ := List.forall_mem_cons.mp secondAmong
    rw [mergeFront]
    refine ensuresQuestion yAmong xAmong fun r => ?_
    split
    · split
      case isTrue last =>
        cases List.isEmpty_iff.mp last
        exact gathersDone fun q => by simp [List.reverseAux_eq, List.countP_cons]; omega
      case isFalse =>
        exact gathersOn (secondWinning _ _ firstAmong ysAmong) fun q => by
          simp [List.countP_cons]; omega
    · split
      case isTrue =>
        exact gathersDone fun q => by
          simp only [List.reverseAux_eq, List.countP_append, List.countP_reverse, List.countP_cons]
          omega
      case isFalse =>
        exact gathersOn (firstWinning _ _ xsAmong secondAmong) fun q => by
          simp [List.countP_cons]; omega
  | case2 threshold out first y ys searching =>
    obtain ⟨yAmong, ysAmong⟩ := List.forall_mem_cons.mp secondAmong
    rw [mergeFront]
    refine ensuresBind (countNotAboveAsks yAmong firstAmong _) fun lead _ => ?_
    have cut : out ++ (first ++ y :: ys) =
        out ++ (first.take lead ++ first.drop lead ++ y :: ys) := by rw [List.take_append_drop]
    have leftAmong : ∀ z ∈ first.drop lead, among z := fun z member =>
      firstAmong z (List.mem_of_mem_drop member)
    rw [cut]
    dsimp only
    split
    case h_1 left =>
      exact gathersDone fun q => by simp [left, List.reverseAux_eq]
    case h_2 x left =>
      exact gathersDone fun q => by simp [left, List.reverseAux_eq, List.countP_cons]; omega
    case h_3 x xs _ left =>
      rw [left] at leftAmong ⊢
      obtain ⟨xAmong, xsAmong⟩ := List.forall_mem_cons.mp leftAmong
      split
      case isTrue last =>
        cases List.isEmpty_iff.mp last
        exact gathersDone fun q => by simp [List.reverseAux_eq, List.countP_cons]; omega
      case isFalse =>
        refine ensuresBind (countBelowAsks xAmong ysAmong _) fun trail _ => ?_
        have cutAgain : out ++ (first.take lead ++ x :: xs ++ y :: ys) =
            out ++ (first.take lead ++ x :: xs ++ y :: (ys.take trail ++ ys.drop trail)) := by
          rw [List.take_append_drop]
        rw [cutAgain]
        split
        case isTrue emptied =>
          exact gathersDone fun q => by
            simp [List.isEmpty_iff.mp emptied, List.reverseAux_eq, List.countP_cons]
            omega
        case isFalse =>
          split
          case isTrue =>
            exact gathersDone fun q => by
              simp [List.reverseAux_eq, List.countP_cons, -List.take_append_drop]
              omega
          case isFalse long =>
            exact gathersOn (searching lead x xs left trail long _ _ xsAmong fun z member =>
              ysAmong z (List.mem_of_mem_drop member)) fun q => by
                simp [List.reverseAux_eq, List.countP_cons, -List.take_append_drop]
                omega
  | case3 pace threshold out first second notSingle notSearch =>
    rw [mergeFront.eq_3 _ _ _ _ _ notSearch notSingle]
    exact gathersDone fun q => by simp [List.reverseAux_eq]; omega

theorem mergeBackGathers (pace : Pace) (threshold : Nat) (first second out : List α)
    (firstAmong : ∀ x ∈ first, among x) (secondAmong : ∀ y ∈ second, among y) :
    Gathers among (first ++ second ++ out) (mergeBack pace threshold first second out) := by
  induction pace, threshold, first, second, out using mergeBack.induct with
  | case1 threshold out firstWins secondWins x xs y ys firstWinning secondWinning =>
    obtain ⟨xAmong, xsAmong⟩ := List.forall_mem_cons.mp firstAmong
    obtain ⟨yAmong, ysAmong⟩ := List.forall_mem_cons.mp secondAmong
    rw [mergeBack]
    refine ensuresQuestion yAmong xAmong fun r => ?_
    split
    · split
      case isTrue last =>
        cases List.isEmpty_iff.mp last
        exact gathersDone fun q => by simp [List.reverseAux_eq, List.countP_cons]; omega
      case isFalse =>
        exact gathersOn (firstWinning _ _ xsAmong secondAmong) fun q => by
          simp [List.countP_cons]; omega
    · split
      case isTrue =>
        exact gathersDone fun q => by
          simp only [List.reverseAux_eq, List.countP_append, List.countP_reverse, List.countP_cons]
          omega
      case isFalse =>
        exact gathersOn (secondWinning _ _ firstAmong ysAmong) fun q => by
          simp [List.countP_cons]; omega
  | case2 threshold out first y ys searching =>
    obtain ⟨yAmong, ysAmong⟩ := List.forall_mem_cons.mp secondAmong
    rw [mergeBack]
    refine ensuresBind (countNotAboveAsks yAmong (fun z member =>
      firstAmong z (List.mem_reverse.mp member)) _) fun kept _ => ?_
    have searching := searching kept
    dsimp only at searching ⊢
    generalize first.length - kept = lead at searching ⊢
    have cut : first ++ y :: ys ++ out =
        first.take lead ++ first.drop lead ++ y :: ys ++ out := by rw [List.take_append_drop]
    have leftAmong : ∀ z ∈ first.drop lead, among z := fun z member =>
      firstAmong z (List.mem_of_mem_drop member)
    rw [cut]
    split
    case h_1 left =>
      exact gathersDone fun q => by simp [left, List.reverseAux_eq, List.countP_cons]; omega
    case h_2 x xs left =>
      rw [left] at leftAmong ⊢
      obtain ⟨xAmong, xsAmong⟩ := List.forall_mem_cons.mp leftAmong
      split
      case isTrue =>
        exact gathersDone fun q => by simp [List.reverseAux_eq, List.countP_cons]; omega
      case isFalse several =>
        refine ensuresBind (countBelowAsks xAmong (fun z member =>
          ysAmong z (List.mem_reverse.mp member)) _) fun kept _ => ?_
        have searching := searching x xs left several kept
        generalize ys.length - kept = trail at searching ⊢
        have cutAgain : first.take lead ++ x :: xs ++ y :: ys ++ out =
            first.take lead ++ x :: xs ++ y :: (ys.take trail ++ ys.drop trail) ++ out := by
          rw [List.take_append_drop]
        rw [cutAgain]
        split
        case isTrue =>
          exact gathersDone fun q => by
            simp [List.reverseAux_eq, List.countP_cons, -List.take_append_drop]
            omega
        case isFalse =>
          split
          case isTrue last =>
            cases List.isEmpty_iff.mp last
            exact gathersDone fun q => by
              simp [List.reverseAux_eq, List.countP_cons, -List.take_append_drop]
              omega
          case isFalse long =>
            exact gathersOn (searching _ _ xsAmong fun z member =>
              ysAmong z (List.mem_of_mem_drop member)) fun q => by
                simp [List.reverseAux_eq, List.countP_cons, -List.take_append_drop]
                omega
  | case3 pace threshold out first second notSingle notSearch =>
    rw [mergeBack.eq_3 _ _ _ _ _ notSearch notSingle]
    exact gathersDone fun q => by simp [List.reverseAux_eq]; omega

def mergeMiddle (threshold : Nat) (middle inner : List α) : Plan α (List α × Nat) :=
  if middle.length ≤ inner.length then
    match inner with
    | [] => .done (middle, threshold)
    | [y] => .done (y :: middle, threshold)
    | y :: inner =>
      if middle.length ≤ 1 then .done (y :: inner ++ middle, threshold)
      else mergeFront (.single 0 0) threshold middle inner [y]
  else
    match middle.reverse with
    | [] => .done (inner, threshold)
    | [x] => .done (inner ++ [x], threshold)
    | x :: middle =>
      if inner.length ≤ 1 then .done (inner ++ middle.reverseAux [x], threshold)
      else mergeBack (.single 0 0) threshold middle inner.reverse [x]

theorem mergeAsMiddle (threshold : Nat) (xs : List α) (y : α) (ys : List α) :
    merge threshold xs (y :: ys) = (do
      let front ← countNotAbove y xs 0
      match (xs.drop front).getLast? with
      | none => .done (xs ++ y :: ys, threshold)
      | some last => do
        let count ← countBelow last (y :: ys) ys.length
        if count = 0 then .done (xs ++ y :: ys, threshold)
        else do
          let (merged, threshold) ← mergeMiddle threshold (xs.drop front) ((y :: ys).take count)
          .done (xs.take front ++ merged ++ (y :: ys).drop count, threshold)) := by
  simp only [merge, mergeMiddle, List.length_cons, Nat.add_sub_cancel]
  refine bind_congr fun front => ?_
  generalize (xs.drop front).getLast? = found
  cases found with
  | none => rfl
  | some last =>
    refine bind_congr fun count => ?_
    generalize (y :: ys).take count = inner
    generalize (xs.drop front).reverse = back
    split
    · rfl
    · split
      · rcases inner with _ | ⟨first, _ | ⟨second, inner⟩⟩
        · rfl
        · rfl
        · dsimp only
          split <;> rfl
      · rcases back with _ | ⟨first, _ | ⟨second, back⟩⟩
        · rfl
        · rfl
        · dsimp only
          split <;> rfl

theorem mergeMiddleGathers (threshold : Nat) (middle inner : List α)
    (middleAmong : ∀ x ∈ middle, among x) (innerAmong : ∀ y ∈ inner, among y) :
    Gathers among (middle ++ inner) (mergeMiddle threshold middle inner) := by
  unfold mergeMiddle
  split
  · split
    case h_1 => exact gathersDone fun q => by simp
    case h_2 => exact gathersDone fun q => by simp [List.countP_cons]
    case h_3 y inner _ =>
      split
      · exact gathersDone fun q => by simp [List.countP_cons]; omega
      · obtain ⟨-, othersAmong⟩ := List.forall_mem_cons.mp innerAmong
        exact gathersOn (mergeFrontGathers _ _ _ _ _ middleAmong othersAmong) fun q => by
          simp [List.countP_cons]; omega
  · generalize turned : middle.reverse = back
    cases List.reverse_eq_iff.mp turned
    split
    case h_1 => exact gathersDone fun q => by simp
    case h_2 => exact gathersDone fun q => by simp [List.countP_cons]
    case h_3 x back _ _ =>
      split
      · exact gathersDone fun q => by simp [List.reverseAux_eq, List.countP_cons]; omega
      · have backAmong : ∀ z ∈ back, among z := fun z member =>
          middleAmong z (List.mem_reverse.mpr (List.mem_cons_of_mem x member))
        exact gathersOn (mergeBackGathers _ _ _ _ _ backAmong fun z member =>
          innerAmong z (List.mem_reverse.mp member)) fun q => by
            simp [List.countP_cons]

theorem mergeGathers (threshold : Nat) (xs ys : List α) (xsAmong : ∀ x ∈ xs, among x)
    (ysAmong : ∀ y ∈ ys, among y) : Gathers among (xs ++ ys) (merge threshold xs ys) := by
  cases ys with
  | nil => exact gathersDone fun q => by simp
  | cons y ys =>
    rw [mergeAsMiddle]
    refine ensuresBind (countNotAboveAsks (ysAmong y (by simp)) xsAmong _) fun front _ => ?_
    split
    case h_1 => exact gathersDone fun q => rfl
    case h_2 last found =>
      have lastAmong := xsAmong last (List.mem_of_mem_drop (List.mem_of_getLast? found))
      refine ensuresBind (countBelowAsks lastAmong ysAmong _) fun count _ => ?_
      split
      case isTrue => exact gathersDone fun q => rfl
      case isFalse =>
        have middleAmong : ∀ z ∈ xs.drop front, among z := fun z member =>
          xsAmong z (List.mem_of_mem_drop member)
        have innerAmong : ∀ z ∈ (y :: ys).take count, among z := fun z member =>
          ysAmong z (List.mem_of_mem_take member)
        refine ensuresBind (mergeMiddleGathers _ _ _ middleAmong innerAmong)
          fun merged rearranged => gathersDone fun q => ?_
        have parts := countTakeDrop q front xs
        have others := countTakeDrop q count (y :: ys)
        have between := rearranged.countP_eq q
        simp only [List.countP_append] at parts others between ⊢
        omega

theorem climbCuts (last : α) (xs : List α) (lastAmong : among last) (xsAmong : ∀ x ∈ xs, among x) :
    (climb last xs).Ensures among fun cut => cut.1 ++ cut.2 = xs := by
  induction xs generalizing last with
  | nil => exact rfl
  | cons x xs ih =>
    obtain ⟨xAmong, restAmong⟩ := List.forall_mem_cons.mp xsAmong
    refine ensuresQuestion xAmong lastAmong fun r => ?_
    cases r with
    | true => exact rfl
    | false =>
      refine ensuresBind (ih x xAmong restAmong) fun cut whole => ?_
      exact congrArg (x :: ·) whole

theorem fallCuts (last : α) (xs : List α) (lastAmong : among last) (xsAmong : ∀ x ∈ xs, among x) :
    (fall last xs).Ensures among fun cut => cut.1 ++ cut.2 = xs := by
  induction xs generalizing last with
  | nil => exact rfl
  | cons x xs ih =>
    obtain ⟨xAmong, restAmong⟩ := List.forall_mem_cons.mp xsAmong
    refine ensuresQuestion xAmong lastAmong fun r => ?_
    cases r with
    | true =>
      refine ensuresBind (ih x xAmong restAmong) fun cut whole => ?_
      exact congrArg (x :: ·) whole
    | false => exact rfl

theorem nextRunCuts (x : α) (xs : List α) (xAmong : among x) (xsAmong : ∀ y ∈ xs, among y) :
    (nextRun (x :: xs)).Ensures among fun cut => (cut.1 ++ cut.2).Perm (x :: xs) ∧ cut.1 ≠ [] := by
  cases xs with
  | nil => exact ⟨.refl _, by simp⟩
  | cons y xs =>
    obtain ⟨yAmong, restAmong⟩ := List.forall_mem_cons.mp xsAmong
    refine ensuresQuestion yAmong xAmong fun r => ?_
    cases r with
    | true =>
      refine ensuresBind (fallCuts y xs yAmong restAmong) fun cut whole => ⟨?_, by simp⟩
      subst whole
      exact (List.reverse_perm _).append_right cut.2
    | false =>
      refine ensuresBind (climbCuts y xs yAmong restAmong) fun cut whole => ⟨?_, by simp⟩
      subst whole
      exact .refl _

theorem insertGathers (run : List α) (x : α) (runAmong : ∀ y ∈ run, among y) (xAmong : among x) :
    (insert run x).Ensures among fun longer => longer.Perm (run ++ [x]) := by
  refine ensuresBind (bisectAsks (notAboveAsks xAmong runAmong) _ _) fun place _ =>
    permOfCounts fun q => ?_
  have parts := countTakeDrop q place run
  simp [List.countP_cons] at parts ⊢
  omega

theorem insertAllGathers (run xs : List α) (runAmong : ∀ y ∈ run, among y)
    (xsAmong : ∀ x ∈ xs, among x) :
    (insertAll run xs).Ensures among fun longer => longer.Perm (run ++ xs) := by
  induction xs generalizing run with
  | nil =>
    rw [List.append_nil]
    exact List.Perm.refl run
  | cons x xs ih =>
    obtain ⟨xAmong, restAmong⟩ := List.forall_mem_cons.mp xsAmong
    refine ensuresBind (insertGathers run x runAmong xAmong) fun longer rearranged => ?_
    have longerAmong := amongOfPerm rearranged
      (List.forall_mem_append.mpr ⟨runAmong, List.forall_mem_singleton.mpr xAmong⟩)
    refine ensuresWeaken (ih longer longerAmong restAmong) fun whole rest => rest.trans ?_
    simpa using rearranged.append_right xs

def laidOut : List (Run α) → List α
  | [] => []
  | run :: below => laidOut below ++ run.items

theorem laidOutAppend (upper stack : List (Run α)) :
    laidOut (upper ++ stack) = laidOut stack ++ laidOut upper := by
  induction upper with
  | nil => simp [laidOut]
  | cons run upper ih => rw [List.cons_append, laidOut, laidOut, ih, List.append_assoc]

theorem laidOutMerged (upper lower : List (Run α)) {top second : Run α} {items : List α}
    (rearranged : items.Perm (second.items ++ top.items)) :
    (laidOut (upper ++ { second with items } :: lower)).Perm
      (laidOut (upper ++ top :: second :: lower)) := by
  have inPlace := (rearranged.append_left (laidOut lower)).append_right (laidOut upper)
  simpa [laidOutAppend, laidOut] using inPlace

theorem settleGathers (border threshold : Nat) (stack : List (Run α))
    (stackAmong : ∀ x ∈ laidOut stack, among x) :
    (settle border threshold stack).Ensures among
      fun settled => (laidOut settled.1).Perm (laidOut stack) := by
  induction threshold, stack using settle.induct border with
  | case1 threshold top second below weaker ih =>
    rw [settle, if_pos weaker]
    obtain ⟨lowerAmong, topAmong⟩ := List.forall_mem_append.mp stackAmong
    obtain ⟨-, secondAmong⟩ := List.forall_mem_append.mp lowerAmong
    refine ensuresBind (mergeGathers threshold _ _ secondAmong topAmong) fun merged rearranged => ?_
    have mergedRuns := laidOutMerged [] below rearranged
    exact ensuresWeaken (ih merged.1 merged.2 (amongOfPerm mergedRuns stackAmong))
      fun settled rest => rest.trans mergedRuns
  | case2 threshold top second below strong =>
    rw [settle, if_neg strong]
    exact .refl _
  | case3 threshold stack short =>
    rw [settle.eq_2 _ _ _ short]
    exact .refl _

theorem announceGathers (total length threshold : Nat) (stack : List (Run α))
    (stackAmong : ∀ x ∈ laidOut stack, among x) :
    (announce total length threshold stack).Ensures among
      fun announced => (laidOut announced.1).Perm (laidOut stack) := by
  cases stack with
  | nil => exact .refl _
  | cons top below =>
    refine ensuresBind (settleGathers _ _ _ stackAmong) fun settled rearranged => ?_
    obtain ⟨runs, threshold⟩ := settled
    cases runs with
    | nil => exact rearranged
    | cons top below => exact rearranged

theorem stackRunsGathers (total least fuel start : Nat) (xs : List α) (stack : List (Run α))
    (threshold : Nat) (enough : xs.length ≤ fuel) (stackAmong : ∀ x ∈ laidOut stack, among x)
    (xsAmong : ∀ x ∈ xs, among x) :
    (stackRuns total least fuel start xs stack threshold).Ensures among
      fun stacked => (laidOut stacked.1).Perm (laidOut stack ++ xs) := by
  induction fuel generalizing start xs stack threshold with
  | zero =>
    cases List.length_eq_zero_iff.mp (Nat.le_zero.mp enough)
    rw [List.append_nil]
    exact .refl _
  | succ fuel ih =>
    cases xs with
    | nil =>
      rw [List.append_nil]
      exact .refl _
    | cons x xs =>
      obtain ⟨xAmong, restAmong⟩ := List.forall_mem_cons.mp xsAmong
      refine ensuresBind (nextRunCuts x xs xAmong restAmong) fun (run, rest) cut => ?_
      obtain ⟨cutPerm, someRun⟩ := cut
      obtain ⟨runAmong, restAmong⟩ := List.forall_mem_append.mp (amongOfPerm cutPerm xsAmong)
      have shorter : rest.length ≤ fuel := by
        have lengths := cutPerm.length_eq
        have taken : 0 < run.length := List.length_pos_iff.mpr someRun
        simp only [List.length_append, List.length_cons] at lengths enough
        omega
      refine ensuresBind (insertAllGathers run _ runAmong fun y member =>
        restAmong y (List.mem_of_mem_take member)) fun longer filled => ?_
      refine ensuresBind (announceGathers _ _ _ _ stackAmong)
        fun (waiting, threshold) settled => ?_
      have cutAgain : (laidOut (⟨longer, start, 0⟩ :: waiting) ++ rest.drop (least - run.length)).Perm
          (laidOut stack ++ x :: xs) := by
        refine permOfCounts fun q => ?_
        have waitingCounts := settled.countP_eq q
        have longerCounts := filled.countP_eq q
        have cutCounts := cutPerm.countP_eq q
        have restCounts := countTakeDrop q (least - run.length) rest
        simp only [laidOut, List.countP_append] at waitingCounts longerCounts cutCounts ⊢
        omega
      obtain ⟨laidAmong, remainingAmong⟩ := List.forall_mem_append.mp
        (amongOfPerm cutAgain (List.forall_mem_append.mpr ⟨stackAmong, xsAmong⟩))
      refine ensuresWeaken (ih _ _ _ threshold ?_ laidAmong remainingAmong)
        fun stacked whole => whole.trans cutAgain
      exact Nat.le_trans (by simp) shorter

theorem collapseGathers (threshold : Nat) (stack : List (Run α))
    (stackAmong : ∀ x ∈ laidOut stack, among x) :
    (collapse threshold stack).Ensures among fun merged => merged.Perm (laidOut stack) := by
  induction threshold, stack using collapse.induct with
  | case1 threshold =>
    rw [collapse]
    exact .refl _
  | case2 threshold run =>
    rw [collapse]
    exact .refl _
  | case3 threshold top second =>
    rw [collapse]
    obtain ⟨secondAmong, topAmong⟩ := List.forall_mem_append.mp stackAmong
    exact ensuresBind (mergeGathers threshold _ _ secondAmong topAmong)
      fun merged rearranged => rearranged
  | case4 threshold top second third below smaller ih =>
    rw [collapse, if_pos smaller]
    obtain ⟨lowerAmong, -⟩ := List.forall_mem_append.mp stackAmong
    obtain ⟨bottomAmong, secondAmong⟩ := List.forall_mem_append.mp lowerAmong
    obtain ⟨-, thirdAmong⟩ := List.forall_mem_append.mp bottomAmong
    refine ensuresBind (mergeGathers threshold _ _ thirdAmong secondAmong)
      fun merged rearranged => ?_
    have mergedRuns := laidOutMerged [top] below rearranged
    exact ensuresWeaken (ih merged.1 merged.2 (amongOfPerm mergedRuns stackAmong))
      fun settled rest => rest.trans mergedRuns
  | case5 threshold top second third below larger ih =>
    rw [collapse, if_neg larger]
    obtain ⟨lowerAmong, topAmong⟩ := List.forall_mem_append.mp stackAmong
    obtain ⟨-, secondAmong⟩ := List.forall_mem_append.mp lowerAmong
    refine ensuresBind (mergeGathers threshold _ _ secondAmong topAmong) fun merged rearranged => ?_
    have mergedRuns := laidOutMerged [] (third :: below) rearranged
    exact ensuresWeaken (ih merged.1 merged.2 (amongOfPerm mergedRuns stackAmong))
      fun settled rest => rest.trans mergedRuns

theorem sortGathers (xs : List α) :
    (sort xs).Ensures (· ∈ xs) fun sorted => sorted.Perm xs := by
  unfold sort
  split
  · exact .refl _
  · refine ensuresBind (stackRunsGathers _ _ _ 0 xs [] _ (Nat.le_refl _) (by simp [laidOut])
      fun x member => member) fun (stack, threshold) stacked => ?_
    exact ensuresWeaken (collapseGathers threshold stack fun x member => stacked.mem_iff.mp member)
      fun sorted rearranged => rearranged.trans stacked

end TableQuery.Sort
