import TableQuery.Json.Plain
import TableQuery.Proofs.Text.Integers
import TableQuery.Proofs.Value.Faults
import TableQuery.Proofs.Value.LongIntegers

/-! The values that a text of JSON can denote without numbers that are not finite or very long.
They are their own plain form, and all that can go wrong with them is that two of them have no
order. -/
namespace TableQuery.Value
open TableQuery.Text

inductive JsonLike : Value → Prop
  | null : JsonLike .null
  | bool (b : Bool) : JsonLike (.bool b)
  | int {n : Int} (short : n.natAbs < Number.tenTo 1999) : JsonLike (.int n)
  | float {x : Binary64} (finite : x.isFinite = true) : JsonLike (.float x)
  | text (s : String) : JsonLike (.text s)
  | list {items : List Value} (members : ∀ v ∈ items, JsonLike v) : JsonLike (.list items)
  | dict {es : List (String × Value)} (members : ∀ e ∈ es, JsonLike e.2) : JsonLike (.dict es)

theorem plainMembers {items : List Value} (plain : ∀ v ∈ items, v.plain? = some v) :
    plainAll? items = some items := by
  induction items with
  | nil => rfl
  | cons v items ih =>
    obtain ⟨first, others⟩ := List.forall_mem_cons.mp plain
    simp [plainAll?, first, ih others]

theorem plainEntries {es : List (String × Value)} (plain : ∀ e ∈ es, e.2.plain? = some e.2) :
    plainEntries? es = some es := by
  induction es with
  | nil => rfl
  | cons e es ih =>
    obtain ⟨first, others⟩ := List.forall_mem_cons.mp plain
    simp [plainEntries?, first, ih others]

theorem JsonLike.plain {v : Value} (like : JsonLike v) : v.plain? = some v := by
  induction like with
  | float finite => simp [plain?, finite]
  | list _ ih => simp [plain?, plainMembers ih]
  | dict _ ih => simp [plain?, plainEntries ih]
  | _ => rfl

theorem allFiniteIff {items : List Value} :
    allFinite items = true ↔ ∀ v ∈ items, v.finite = true := by
  induction items with
  | nil => simp [allFinite]
  | cons v items ih => rw [allFinite, Bool.and_eq_true, ih, List.forall_mem_cons]

theorem entriesFiniteIff {es : List (String × Value)} :
    entriesFinite es = true ↔ ∀ e ∈ es, e.2.finite = true := by
  induction es with
  | nil => simp [entriesFinite]
  | cons e es ih => rw [entriesFinite, Bool.and_eq_true, ih, List.forall_mem_cons]

theorem JsonLike.finite {v : Value} (like : JsonLike v) : v.finite = true := by
  induction like with
  | float finite => exact finite
  | list _ ih => exact allFiniteIff.mpr ih
  | dict _ ih => exact entriesFiniteIff.mpr ih
  | _ => rfl

theorem tooManyBelow {n : Int} (count : Nat) (few : count ≤ digitLimit)
    (below : n.natAbs < Number.tenTo count) : tooManyDigits n = false :=
  decide_eq_false (Nat.not_le.mpr (Nat.lt_of_lt_of_le below (tenToMono few)))

theorem JsonLike.short {v : Value} (like : JsonLike v) : v.hasLongInteger = false := by
  induction like with
  | int below => exact tooManyBelow 1999 (by decide) below
  | list _ ih => rw [hasLongInteger, noLongInteger]; exact ih
  | dict _ ih => rw [hasLongInteger, noLongEntry]; exact ih
  | _ => rfl

theorem JsonLike.quiet {v : Value} (like : JsonLike v) :
    v.signalling = false ∧ v.isDecimal = false := by
  cases like <;> exact ⟨rfl, rfl⟩

theorem shortTold {v : Value} (short : v.hasLongInteger = false) : v.text? = .ok v.display := by
  simp [text?, short]

theorem JsonLike.told {v : Value} (like : JsonLike v) : v.text? = .ok v.display :=
  shortTold like.short

def Mismatch (f : Fault) : Prop := f.kind = .unsuitable

theorem sameScalarQuiet {a b : Value} (left : JsonLike a) (right : JsonLike b) :
    FailsWithin Mismatch (sameScalar a b) := by
  unfold sameScalar
  simp only [left.quiet.1, right.quiet.1]
  split
  · exact okFails _
  · split
    · exact okFails _
    · split <;> exact okFails _

theorem compareScalarQuiet {a b : Value} (op : Comparison) (left : JsonLike a)
    (right : JsonLike b) : FailsWithin Mismatch (compareScalar op a b) := by
  unfold compareScalar
  simp only [left.quiet.2, right.quiet.2]
  split
  · exact okFails _
  · split
    · exact okFails _
    · cases left <;> exact errorFails rfl

theorem jsonTame : Tame JsonLike Mismatch where
  null := .null
  members like found := by
    cases like with
    | list inside => cases found; exact inside
    | _ => cases found
  entries like := by
    cases like with
    | dict inside => exact inside
  attributes like := nomatch like
  same left right := sameScalarQuiet left right
  compare op left right := compareScalarQuiet op left right
  unordered op a b := errorFails rfl
  told like := like.told ▸ okFails _

end TableQuery.Value
