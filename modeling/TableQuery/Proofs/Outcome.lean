/-! Sequences of steps that may fail: what their success and their failure say of the steps. -/
namespace TableQuery

variable {ε α β : Type}

@[simp] theorem okBind (a : α) (f : α → Except ε β) : (Except.ok a >>= f) = f a := rfl

@[simp] theorem errorBind (e : ε) (f : α → Except ε β) :
    (Except.error e >>= f) = Except.error e := rfl

theorem mapErrorOk {x : Except ε α} {f : ε → β} {a : α} : x.mapError f = .ok a ↔ x = .ok a := by
  cases x with
  | error e => exact iff_of_false nofun nofun
  | ok b =>
    exact ⟨fun same => congrArg _ (Except.ok.inj same), fun same => congrArg _ (Except.ok.inj same)⟩

theorem bindOk {x : Except ε α} {f : α → Except ε β} {b : β} :
    (x >>= f) = .ok b ↔ ∃ a, x = .ok a ∧ f a = .ok b := by
  cases x with
  | error e => simp
  | ok a => simp

theorem bindError {x : Except ε α} {f : α → Except ε β} {e : ε} :
    (x >>= f) = .error e ↔ x = .error e ∨ ∃ a, x = .ok a ∧ f a = .error e := by
  cases x with
  | error e => simp
  | ok a => simp

def FailsWithin (allowed : ε → Prop) (x : Except ε α) : Prop := ∀ e, x = .error e → allowed e

variable {allowed : ε → Prop}

theorem okFails (a : α) : FailsWithin allowed (.ok a : Except ε α) := fun _ failed => nomatch failed

theorem errorFails {e : ε} (one : allowed e) : FailsWithin allowed (.error e : Except ε α) :=
  fun _ failed => Except.error.inj failed ▸ one

theorem FailsWithin.mono {x : Except ε α} {wider : ε → Prop} (fails : FailsWithin allowed x)
    (weaken : ∀ e, allowed e → wider e) : FailsWithin wider x :=
  fun e failed => weaken e (fails e failed)

theorem bindFails {x : Except ε α} {f : α → Except ε β} (first : FailsWithin allowed x)
    (rest : ∀ a, x = .ok a → FailsWithin allowed (f a)) : FailsWithin allowed (x >>= f) :=
  fun e failed => (bindError.mp failed).elim (first e) fun ⟨a, found, later⟩ => rest a found e later

theorem branchFails {test : Except ε Bool} {yes no : Except ε α} (tested : FailsWithin allowed test)
    (first : FailsWithin allowed yes) (second : FailsWithin allowed no) :
    FailsWithin allowed (do if ← test then yes else no) :=
  bindFails tested fun b _ => by
    cases b with
    | true => exact first
    | false => exact second

theorem anyFails {test : α → Except ε Bool} {xs : List α}
    (each : ∀ x ∈ xs, FailsWithin allowed (test x)) : FailsWithin allowed (xs.anyM test) := by
  induction xs with
  | nil => exact okFails false
  | cons x xs ih =>
    obtain ⟨head, tail⟩ := List.forall_mem_cons.mp each
    rw [List.anyM_cons]
    exact branchFails head (okFails true) (ih tail)

theorem allFails {test : α → Except ε Bool} {xs : List α}
    (each : ∀ x ∈ xs, FailsWithin allowed (test x)) : FailsWithin allowed (xs.allM test) := by
  induction xs with
  | nil => exact okFails true
  | cons x xs ih =>
    obtain ⟨head, tail⟩ := List.forall_mem_cons.mp each
    rw [List.allM_cons]
    exact branchFails head (ih tail) (okFails false)

theorem answers {x : Except ε α} (fails : FailsWithin (fun _ => False) x) : ∃ a, x = .ok a := by
  cases x with
  | error e => exact (fails e rfl).elim
  | ok a => exact ⟨a, rfl⟩

theorem searchAnswers {test : α → Except ε Bool} {xs : List α} {b : Bool}
    (answered : xs.anyM test = .ok b) : b = true ↔ ∃ x ∈ xs, test x = .ok true := by
  induction xs with
  | nil =>
    cases answered
    simp
  | cons x rest ih =>
    rw [List.anyM_cons] at answered
    obtain ⟨first, tested, remaining⟩ := bindOk.mp answered
    cases first with
    | true =>
      cases remaining
      simp [tested]
    | false => simp [ih remaining, tested]

end TableQuery
