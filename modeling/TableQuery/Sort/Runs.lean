import TableQuery.Sort.Merge

/-! Stable sorting by natural runs.
The list is cut into runs that are sorted already, or strictly falling and then reversed; short runs
are filled up by insertion. Runs wait on a stack, and neighbours are merged as their place in the
whole list demands. -/
namespace TableQuery.Sort

def climb (last : α) : List α → Plan α (List α × List α)
  | [] => .done ([], [])
  | x :: xs => do
    if ← .precedes x last then .done ([], x :: xs)
    else
      let (run, rest) ← climb x xs
      .done (x :: run, rest)

def fall (last : α) : List α → Plan α (List α × List α)
  | [] => .done ([], [])
  | x :: xs => do
    if ← .precedes x last then
      let (run, rest) ← fall x xs
      .done (x :: run, rest)
    else .done ([], x :: xs)

def nextRun : List α → Plan α (List α × List α)
  | [] => .done ([], [])
  | [x] => .done ([x], [])
  | x :: y :: xs => do
    if ← .precedes y x then
      let (run, rest) ← fall y xs
      .done ((x :: y :: run).reverse, rest)
    else
      let (run, rest) ← climb y xs
      .done (x :: y :: run, rest)

def insert (run : List α) (x : α) : Plan α (List α) := do
  let place ← bisect (notAbove x run) 0 run.length
  .done (run.take place ++ x :: run.drop place)

def insertAll (run : List α) : List α → Plan α (List α)
  | [] => .done run
  | x :: xs => do insertAll (← insert run x) xs

/-- The length that short runs are filled up to: the list's leading six bits, one more if any bit
below them is set. -/
def leastRun (count : Nat) : Nat :=
  let rec halve : Nat → Nat → Nat → Nat
    | 0, n, odd => n + odd
    | fuel + 1, n, odd => if n < 64 then n + odd else halve fuel (n / 2) (max odd (n % 2))
  halve count count 0

structure Run (α : Type) where
  items : List α
  start : Nat
  power : Nat

/-- The power of the border between two runs: the number of leading binary places, up to the first
in which the runs' midpoints differ as fractions of the whole. Midpoints are given doubled. -/
def power (total first second : Nat) : Nat :=
  let rec places : Nat → Nat → Nat → Nat → Nat
    | 0, _, _, count => count
    | fuel + 1, a, b, count =>
      if total ≤ a then places fuel (2 * (a - total)) (2 * (b - total)) (count + 1)
      else if total ≤ b then count + 1
      else places fuel (2 * a) (2 * b) (count + 1)
  places (total + 2) first second 0

def settle (border threshold : Nat) : List (Run α) → Plan α (List (Run α) × Nat)
  | top :: second :: below =>
    if border < second.power then do
      let (items, threshold) ← merge threshold second.items top.items
      settle border threshold ({ second with items } :: below)
    else .done (top :: second :: below, threshold)
  | stack => .done (stack, threshold)
termination_by stack => stack.length
decreasing_by simp

def announce (total length threshold : Nat) :
    List (Run α) → Plan α (List (Run α) × Nat)
  | [] => .done ([], threshold)
  | top :: below => do
    let count := top.items.length
    let border := power total (2 * top.start + count) (2 * top.start + 2 * count + length)
    let (stack, threshold) ← settle border threshold (top :: below)
    match stack with
    | [] => .done ([], threshold)
    | top :: below => .done ({ top with power := border } :: below, threshold)

def stackRuns (total least : Nat) : Nat → Nat → List α → List (Run α) → Nat →
    Plan α (List (Run α) × Nat)
  | 0, _, _, stack, threshold => .done (stack, threshold)
  | fuel + 1, start, xs, stack, threshold =>
    if xs.isEmpty then .done (stack, threshold)
    else do
      let (run, rest) ← nextRun xs
      let missing := least - run.length
      let run ← insertAll run (rest.take missing)
      let (stack, threshold) ← announce total run.length threshold stack
      stackRuns total least fuel (start + run.length) (rest.drop missing)
        (⟨run, start, 0⟩ :: stack) threshold

def collapse (threshold : Nat) : List (Run α) → Plan α (List α)
  | [] => .done []
  | [run] => .done run.items
  | [top, second] => do
    let (items, _) ← merge threshold second.items top.items
    .done items
  | top :: second :: third :: below =>
    if third.items.length < top.items.length then do
      let (items, threshold) ← merge threshold third.items second.items
      collapse threshold (top :: { third with items } :: below)
    else do
      let (items, threshold) ← merge threshold second.items top.items
      collapse threshold ({ second with items } :: third :: below)
termination_by stack => stack.length
decreasing_by all_goals simp

def sort (xs : List α) : Plan α (List α) :=
  if xs.length < 2 then .done xs
  else do
    let (stack, threshold) ←
      stackRuns xs.length (leastRun xs.length) xs.length 0 xs [] leadWorthSearching
    collapse threshold stack

end TableQuery.Sort
