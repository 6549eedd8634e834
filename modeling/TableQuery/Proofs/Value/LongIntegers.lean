import TableQuery.Value.Display

/-! Integers that are too long to be told, wherever they stand in a value. -/
namespace TableQuery.Value

theorem noLongInteger (items : List Value) :
    anyLongInteger items = false ↔ ∀ v ∈ items, v.hasLongInteger = false := by
  induction items with
  | nil => simp [anyLongInteger]
  | cons v items ih => simp [anyLongInteger, ih]

theorem anyLongMember {items : List Value} {v : Value} (member : v ∈ items)
    (long : v.hasLongInteger = true) : anyLongInteger items = true :=
  eq_true_of_ne_false fun short =>
    absurd ((noLongInteger items).mp short v member) (by simp [long])

theorem noLongEntry (es : List (String × Value)) :
    anyLongEntry es = false ↔ ∀ e ∈ es, e.2.hasLongInteger = false := by
  induction es with
  | nil => simp [anyLongEntry]
  | cons e es ih => simp [anyLongEntry, ih]

theorem putShort {key : String} {value : Value} {entries : List (String × Value)}
    (short : value.hasLongInteger = false) (others : anyLongEntry entries = false) :
    anyLongEntry (put key value entries) = false := by
  induction entries with
  | nil => simp [put, anyLongEntry, short]
  | cons e entries ih =>
    obtain ⟨k, v⟩ := e
    simp only [anyLongEntry, Bool.or_eq_false_iff] at others
    unfold put
    split
    · simp [anyLongEntry, short, others.2]
    · simp [anyLongEntry, others.1, ih others.2]

theorem getShort {entries : List (String × Value)} (short : anyLongEntry entries = false)
    (key : String) : (get key entries).hasLongInteger = false := by
  induction entries with
  | nil => rfl
  | cons e entries ih =>
    obtain ⟨k, v⟩ := e
    simp only [anyLongEntry, Bool.or_eq_false_iff] at short
    unfold get find?
    split
    · exact short.1
    · exact ih short.2

end TableQuery.Value
