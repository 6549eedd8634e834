import TableQuery.Sort.Boundary

/-! Merging two sorted runs, the first of which stands before the second.
Elements are compared one by one until one run wins so often in a row that it pays to search for the
end of its lead. How often is enough is a threshold that adapts, and is handed from merge to
merge. -/
namespace TableQuery.Sort

def leadWorthSearching : Nat := 7

inductive Pace where
  | single (firstWins secondWins : Nat)
  | search
  deriving DecidableEq, Repr

def eased (threshold : Nat) : Nat := if 1 < threshold then threshold - 1 else threshold

def paceAfter (threshold wins : Nat) (single : Pace) : Pace × Nat :=
  if threshold ≤ wins then (.search, threshold + 1) else (single, threshold)

def paceAfterSearch (threshold first second : Nat) : Pace × Nat :=
  if leadWorthSearching ≤ first ∨ leadWorthSearching ≤ second then (.search, threshold)
  else (.single 0 0, threshold + 1)

/-- Merges from the front. `out` holds what is merged, last element first; the last element of the
first run is known to be the last of all. -/
def mergeFront (pace : Pace) (threshold : Nat) (first second out : List α) :
    Plan α (List α × Nat) :=
  match pace, first, second with
  | .single firstWins secondWins, x :: xs, y :: ys => do
    if ← .precedes y x then
      if ys.isEmpty then .done (out.reverseAux (y :: x :: xs), threshold)
      else
        let (pace, threshold) := paceAfter threshold (secondWins + 1) (.single 0 (secondWins + 1))
        mergeFront pace threshold (x :: xs) ys (y :: out)
    else if xs.length ≤ 1 then .done (out.reverseAux (x :: y :: ys ++ xs), threshold)
    else
      let (pace, threshold) := paceAfter threshold (firstWins + 1) (.single (firstWins + 1) 0)
      mergeFront pace threshold xs (y :: ys) (x :: out)
  | .search, first, y :: ys => do
    let threshold := eased threshold
    let lead ← countNotAbove y first 0
    let out := (first.take lead).reverseAux out
    match _h : first.drop lead with
    | [] => .done (out.reverseAux (y :: ys), threshold)
    | [x] => .done (out.reverseAux (y :: ys ++ [x]), threshold)
    | x :: xs =>
      if ys.isEmpty then .done (out.reverseAux (y :: x :: xs), threshold)
      else do
        let trail ← countBelow x ys 0
        let out := (ys.take trail).reverseAux (y :: out)
        let rest := ys.drop trail
        if rest.isEmpty then .done (out.reverseAux (x :: xs), threshold)
        else if xs.length ≤ 1 then .done (out.reverseAux (x :: rest ++ xs), threshold)
        else
          let (pace, threshold) := paceAfterSearch threshold lead trail
          mergeFront pace threshold xs rest (x :: out)
  | _, first, second => .done (out.reverseAux (second ++ first), threshold)
termination_by first.length + second.length
decreasing_by
  · simp
  · simp
  · have := congrArg List.length _h
    simp at this ⊢; omega

/-- Merges from the back. The runs are given last element first, `out` holds what is merged; the
first element of the second run is known to be the first of all. -/
def mergeBack (pace : Pace) (threshold : Nat) (first second out : List α) :
    Plan α (List α × Nat) :=
  match pace, first, second with
  | .single firstWins secondWins, x :: xs, y :: ys => do
    if ← .precedes y x then
      if xs.isEmpty then .done ((y :: ys).reverseAux (x :: out), threshold)
      else
        let (pace, threshold) := paceAfter threshold (firstWins + 1) (.single (firstWins + 1) 0)
        mergeBack pace threshold xs (y :: ys) (x :: out)
    else if ys.length ≤ 1 then .done (ys ++ (x :: xs).reverseAux (y :: out), threshold)
    else
      let (pace, threshold) := paceAfter threshold (secondWins + 1) (.single 0 (secondWins + 1))
      mergeBack pace threshold (x :: xs) ys (y :: out)
  | .search, first, y :: ys => do
    let threshold := eased threshold
    let kept ← countNotAbove y first.reverse (first.length - 1)
    let lead := first.length - kept
    let out := (first.take lead).reverseAux out
    match _h : first.drop lead with
    | [] => .done ((y :: ys).reverseAux out, threshold)
    | x :: xs =>
      if ys.length ≤ 1 then .done (ys ++ (x :: xs).reverseAux (y :: out), threshold)
      else do
        let kept ← countBelow x ys.reverse (ys.length - 1)
        let trail := ys.length - kept
        let out := (ys.take trail).reverseAux (y :: out)
        let rest := ys.drop trail
        if rest.length ≤ 1 then .done (rest ++ (x :: xs).reverseAux out, threshold)
        else if xs.isEmpty then .done (rest.reverseAux (x :: out), threshold)
        else
          let (pace, threshold) := paceAfterSearch threshold lead trail
          mergeBack pace threshold xs rest (x :: out)
  | _, first, second => .done (second.reverseAux (first.reverseAux out), threshold)
termination_by first.length + second.length
decreasing_by
  · simp
  · simp
  · have := congrArg List.length _h
    simp at this ⊢; omega

/-- The merge of two runs, the smaller of which is taken aside: what of the first run stays in front
and what of the second stays behind is found first. -/
def merge (threshold : Nat) (xs ys : List α) : Plan α (List α × Nat) :=
  match ys with
  | [] => .done (xs, threshold)
  | y :: _ => do
    let front ← countNotAbove y xs 0
    match (xs.drop front).getLast? with
    | none => .done (xs ++ ys, threshold)
    | some last => do
      let count ← countBelow last ys (ys.length - 1)
      let middle := xs.drop front
      let inner := ys.take count
      if count = 0 then .done (xs ++ ys, threshold)
      else do
        let (merged, threshold) ←
          if middle.length ≤ inner.length then
            match inner with
            | [] => .done (middle, threshold)
            | [y] => .done (y :: middle, threshold)
            | y :: inner =>
              if middle.length ≤ 1 then .done (y :: inner ++ middle, threshold)
              else mergeFront (.single 0 0) threshold middle inner [y]
          else
            match middle.reverse with
            | [] => .done (inner, threshold)
            | [x] => .done (inner ++ [x], threshold)
            | x :: middle =>
              if inner.length ≤ 1 then .done (inner ++ middle.reverseAux [x], threshold)
              else mergeBack (.single 0 0) threshold middle inner.reverse [x]
        .done (xs.take front ++ merged ++ ys.drop count, threshold)

end TableQuery.Sort
