import TableQuery.Sort.Plan

/-! Searching for the place where a property of positions ends.
The property holds of a front part of the positions. Bisection halves an interval; the search from
a hint first doubles its strides away from the hint, then bisects the last stride. -/
namespace TableQuery.Sort

def bisect (holds : Nat → Plan α Bool) (lo hi : Nat) : Plan α Nat :=
  if h : lo < hi then do
    let middle := lo + (hi - lo) / 2
    if ← holds middle then bisect holds (middle + 1) hi else bisect holds lo middle
  else .done hi
termination_by hi - lo
decreasing_by all_goals omega

/-- Strides upward from a hint that has the property: the last stride with it and the first without
it, or the room there is. -/
def strideUp (holds : Nat → Plan α Bool) (hint room last next : Nat) : Plan α (Nat × Nat) :=
  if h : last < next ∧ next < room then do
    if ← holds (hint + next) then strideUp holds hint room next (2 * next + 1)
    else .done (last, next)
  else .done (last, min next room)
termination_by room - next
decreasing_by omega

def strideDown (holds : Nat → Plan α Bool) (hint room last next : Nat) : Plan α (Nat × Nat) :=
  if h : last < next ∧ next < room then do
    if ← holds (hint - next) then .done (last, next)
    else strideDown holds hint room next (2 * next + 1)
  else .done (last, min next room)
termination_by room - next
decreasing_by omega

def boundary (holds : Nat → Plan α Bool) (count hint : Nat) : Plan α Nat := do
  if ← holds hint then
    let (last, next) ← strideUp holds hint (count - hint) 0 1
    bisect holds (hint + last + 1) (hint + next)
  else
    let (last, next) ← strideDown holds hint (hint + 1) 0 1
    bisect holds (hint + 1 - next) (hint - last)

def notAbove (key : α) (xs : List α) (i : Nat) : Plan α Bool :=
  match xs[i]? with
  | some x => .ask key x fun r => .done !r
  | none => .done false

def isBelow (key : α) (xs : List α) (i : Nat) : Plan α Bool :=
  match xs[i]? with
  | some x => .ask x key .done
  | none => .done false

def countNotAbove (key : α) (xs : List α) (hint : Nat) : Plan α Nat :=
  boundary (notAbove key xs) xs.length hint

def countBelow (key : α) (xs : List α) (hint : Nat) : Plan α Nat :=
  boundary (isBelow key xs) xs.length hint

end TableQuery.Sort
