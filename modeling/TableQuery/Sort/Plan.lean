/-! Comparison plans: computations that may only ask whether one element is below another.
A sorting method is written once, as a plan. A plan can be carried out with an order that may fail
and with one that may not, and the two agree as far as the first one answers. -/
namespace TableQuery.Sort

inductive Plan (α β : Type) where
  | done (result : β)
  | ask (x y : α) (next : Bool → Plan α β)

namespace Plan

def bind (p : Plan α β) (f : β → Plan α γ) : Plan α γ :=
  match p with
  | done b => f b
  | ask x y next => ask x y fun r => (next r).bind f

instance : Monad (Plan α) where
  pure := done
  bind := bind

def precedes (x y : α) : Plan α Bool := ask x y done

def run (order : α → α → Except ε Bool) : Plan α β → Except ε β
  | done b => .ok b
  | ask x y next =>
    match order x y with
    | .ok r => (next r).run order
    | .error e => .error e

def answer (order : α → α → Bool) : Plan α β → β
  | done b => b
  | ask x y next => (next (order x y)).answer order

theorem answerBind (order : α → α → Bool) (p : Plan α β) (f : β → Plan α γ) :
    (p >>= f).answer order = (f (p.answer order)).answer order := by
  show (p.bind f).answer order = _
  induction p with
  | done b => rfl
  | ask x y next ih => exact ih _

end Plan
end TableQuery.Sort
