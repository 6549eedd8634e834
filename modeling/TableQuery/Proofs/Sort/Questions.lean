import TableQuery.Sort.Plan
import TableQuery.Proofs.Outcome

/-! What a comparison plan asks about, and what its result satisfies whatever the answers are.
Such a statement carries over to every order that the plan is carried out with: an order that fails
cannot spoil the result, and an order that answers on the elements asked about answers the plan. -/
namespace TableQuery.Sort.Plan

variable {α β γ ε : Type} {among : α → Prop}

/- Both answers of every question are followed, so that nothing is assumed of the order. -/
def Ensures (among : α → Prop) (post : β → Prop) : Plan α β → Prop
  | done b => post b
  | ask x y next => among x ∧ among y ∧ ∀ r, (next r).Ensures among post

theorem ensuresWeaken {p : Plan α β} {strong weak : β → Prop} (ensured : p.Ensures among strong)
    (weaken : ∀ b, strong b → weak b) : p.Ensures among weak := by
  induction p with
  | done b => exact weaken b ensured
  | ask x y next ih =>
    obtain ⟨left, right, rest⟩ := ensured
    exact ⟨left, right, fun r => ih r (rest r)⟩

theorem ensuresBind {p : Plan α β} {f : β → Plan α γ} {middle : β → Prop} {post : γ → Prop}
    (first : p.Ensures among middle) (second : ∀ b, middle b → (f b).Ensures among post) :
    (p >>= f).Ensures among post := by
  show (p.bind f).Ensures among post
  induction p with
  | done b => exact second b first
  | ask x y next ih =>
    obtain ⟨left, right, rest⟩ := first
    exact ⟨left, right, fun r => ih r (rest r)⟩

theorem ensuresQuestion {x y : α} {f : Bool → Plan α γ} {post : γ → Prop} (left : among x)
    (right : among y) (rest : ∀ r, (f r).Ensures among post) :
    (precedes x y >>= f).Ensures among post := ⟨left, right, rest⟩

theorem ensuredOfRun {order : α → α → Except ε Bool} {p : Plan α β} {post : β → Prop} {b : β}
    (ensured : p.Ensures among post) (ran : p.run order = .ok b) : post b := by
  induction p with
  | done c =>
    cases ran
    exact ensured
  | ask x y next ih =>
    obtain ⟨-, -, rest⟩ := ensured
    simp only [run] at ran
    cases answered : order x y with
    | error e => simp [answered] at ran
    | ok r =>
      simp only [answered] at ran
      exact ih r (rest r) ran

theorem runOfAnswersAmong {order : α → α → Except ε Bool} {total : α → α → Bool} {p : Plan α β}
    {post : β → Prop} (ensured : p.Ensures among post)
    (answers : ∀ x y, among x → among y → order x y = .ok (total x y)) :
    p.run order = .ok (p.answer total) := by
  induction p with
  | done b => rfl
  | ask x y next ih =>
    obtain ⟨left, right, rest⟩ := ensured
    simp only [run, answer, answers x y left right]
    exact ih _ (rest _)

theorem answerOfRunAmong {order : α → α → Except ε Bool} {total : α → α → Bool} {p : Plan α β}
    {post : β → Prop} {b : β} (ensured : p.Ensures among post)
    (agrees : ∀ x y r, among x → among y → order x y = .ok r → total x y = r)
    (ran : p.run order = .ok b) : p.answer total = b := by
  induction p with
  | done c => exact Except.ok.inj ran
  | ask x y next ih =>
    obtain ⟨left, right, rest⟩ := ensured
    simp only [run] at ran
    cases answered : order x y with
    | error e => simp [answered] at ran
    | ok r =>
      simp only [answered] at ran
      rw [answer, agrees x y r left right answered]
      exact ih r (rest r) ran

theorem runFails {allowed : ε → Prop} {order : α → α → Except ε Bool} {p : Plan α β}
    {post : β → Prop} (ensured : p.Ensures among post)
    (each : ∀ x y, among x → among y → FailsWithin allowed (order x y)) :
    FailsWithin allowed (p.run order) := by
  induction p with
  | done b => exact okFails b
  | ask x y next ih =>
    obtain ⟨left, right, rest⟩ := ensured
    rw [run]
    split
    · rename_i r answered
      exact ih r (rest r)
    · rename_i e failed
      exact errorFails (each x y left right e failed)

theorem ensuredOfAnswer (total : α → α → Bool) {p : Plan α β} {post : β → Prop}
    (ensured : p.Ensures among post) : post (p.answer total) := by
  induction p with
  | done b => exact ensured
  | ask x y next ih =>
    obtain ⟨-, -, rest⟩ := ensured
    exact ih _ (rest _)

@[simp] theorem answerDone (total : α → α → Bool) (b : β) : (done b).answer total = b := rfl

theorem answerQuestion (total : α → α → Bool) (x y : α) (f : Bool → Plan α β) :
    (precedes x y >>= f).answer total = (f (total x y)).answer total := rfl

end TableQuery.Sort.Plan
