import TableQuery.Proofs.Outcome
import TableQuery.Query

/-! What can go wrong where values are compared, ordered or written out.
Values that do not suit each other, undefined numbers, and integers too long to be written: never a
word of the request that no one knows. All of it goes wrong at single values, so that it is told for
any class of values that has the members of its members, from what is known of single ones. -/
namespace TableQuery

def Fault.OfValues (f : Fault) : Prop := f.kind ∈ [.unsuitable, .arithmetic, .improper]

instance (f : Fault) : Decidable f.OfValues :=
  inferInstanceAs (Decidable (f.kind ∈ [.unsuitable, .arithmetic, .improper]))

namespace Value

theorem findMem {key : String} {entries : List (String × Value)} {v : Value}
    (found : find? key entries = some v) : (key, v) ∈ entries := by
  induction entries with
  | nil => cases found
  | cons e entries ih =>
    obtain ⟨k, w⟩ := e
    unfold find? at found
    split at found
    · next same =>
      cases found
      exact same ▸ .head _
    · exact .tail _ (ih found)

/- A class of values with their members, and the faults of their equality where neither has any. -/
structure Equatable (fits : Value → Prop) (allowed : Fault → Prop) : Prop where
  members : ∀ {v : Value} {vs : List Value}, fits v → v.members? = some vs → ∀ w ∈ vs, fits w
  entries : ∀ {es : List (String × Value)}, fits (.dict es) → ∀ e ∈ es, fits e.2
  attributes : ∀ {es : List (String × Value)}, fits (.record es) → ∀ e ∈ es, fits e.2
  same : ∀ {a b : Value}, fits a → fits b → FailsWithin allowed (sameScalar a b)

structure Tame (fits : Value → Prop) (allowed : Fault → Prop) : Prop
    extends Equatable fits allowed where
  null : fits .null
  compare : ∀ {a b : Value} (op : Comparison), fits a → fits b →
    FailsWithin allowed (compareScalar op a b)
  unordered : ∀ (op : Comparison) (a b : Value), FailsWithin allowed (unordered op a b)
  told : ∀ {v : Value}, fits v → FailsWithin allowed v.text?

variable {fits : Value → Prop} {allowed : Fault → Prop}

theorem Tame.get (tame : Tame fits allowed) {es : List (String × Value)}
    (inside : ∀ e ∈ es, fits e.2) (key : String) : fits (get key es) := by
  unfold Value.get
  cases found : find? key es with
  | none => exact tame.null
  | some v => exact inside _ (findMem found)

theorem Tame.fieldOf (tame : Tame fits allowed) {row : Value} (fit : fits row) (name : String) :
    fits (row.fieldOf name) := by
  cases row with
  | dict es => exact tame.get (tame.entries fit) name
  | record es => exact tame.get (tame.attributes fit) name
  | _ => exact tame.null

theorem Tame.candidates (tame : Tame fits allowed) {v : Value} (fit : fits v) :
    ∀ c ∈ v.candidates, fits c := by
  intro c member
  unfold Value.candidates at member
  split at member
  · cases member
  · next found => exact tame.members fit found c member
  · rwa [List.mem_singleton.mp member]

theorem guardFails {p : Prop} [Decidable p] {x : Except Fault Bool}
    (inner : FailsWithin allowed x) : FailsWithin allowed (if p then x else .ok false) := by
  split
  · exact inner
  · exact okFails false

/- One case for each type of members, since each is gone through by a recursion of its own. -/
mutual
theorem sameFails (sound : Equatable fits allowed) (a b : Value) (left : fits a) (right : fits b) :
    FailsWithin allowed (a.same b) := by
  cases a with
  | list xs =>
    cases b with
    | list ys =>
      rw [same]
      exact guardFails (sameAllFails sound xs ys (sound.members left rfl) (sound.members right rfl))
    | _ =>
      simp only [same]
      exact okFails false
  | tuple xs =>
    cases b with
    | tuple ys =>
      rw [same]
      exact guardFails (sameAllFails sound xs ys (sound.members left rfl) (sound.members right rfl))
    | _ =>
      simp only [same]
      exact okFails false
  | set xs =>
    cases b with
    | set ys =>
      rw [same]
      exact guardFails
        (allAmongFails sound xs ys (sound.members left rfl) (sound.members right rfl))
    | _ =>
      simp only [same]
      exact okFails false
  | dict xs =>
    cases b with
    | dict ys =>
      rw [same]
      exact guardFails (sameEntriesFails sound xs ys (sound.entries left) (sound.entries right))
    | _ =>
      simp only [same]
      exact okFails false
  | record xs =>
    cases b with
    | record ys =>
      rw [same]
      exact guardFails
        (sameEntriesFails sound xs ys (sound.attributes left) (sound.attributes right))
    | _ =>
      simp only [same]
      exact okFails false
  | _ =>
    simp only [same]
    exact sound.same left right
termination_by sizeOf a

theorem sameAllFails (sound : Equatable fits allowed) (xs ys : List Value)
    (left : ∀ x ∈ xs, fits x) (right : ∀ y ∈ ys, fits y) :
    FailsWithin allowed (sameAll xs ys) := by
  match xs, ys with
  | x :: xs, y :: ys =>
    obtain ⟨first, lefts⟩ := List.forall_mem_cons.mp left
    obtain ⟨second, rights⟩ := List.forall_mem_cons.mp right
    rw [sameAll]
    exact branchFails (sameFails sound x y first second) (sameAllFails sound xs ys lefts rights)
      (okFails false)
  | [], _ =>
    simp only [sameAll]
    exact okFails true
  | _ :: _, [] =>
    simp only [sameAll]
    exact okFails true
termination_by sizeOf xs

theorem allAmongFails (sound : Equatable fits allowed) (xs ys : List Value)
    (left : ∀ x ∈ xs, fits x) (right : ∀ y ∈ ys, fits y) :
    FailsWithin allowed (allAmong xs ys) := by
  match xs with
  | x :: xs =>
    obtain ⟨first, lefts⟩ := List.forall_mem_cons.mp left
    rw [allAmong]
    exact branchFails (anyFails fun y member => sameFails sound x y first (right y member))
      (allAmongFails sound xs ys lefts right) (okFails false)
  | [] =>
    simp only [allAmong]
    exact okFails true
termination_by sizeOf xs

theorem sameEntriesFails (sound : Equatable fits allowed) (xs ys : List (String × Value))
    (left : ∀ e ∈ xs, fits e.2) (right : ∀ e ∈ ys, fits e.2) :
    FailsWithin allowed (sameEntries xs ys) := by
  match xs with
  | (key, x) :: xs =>
    obtain ⟨first, lefts⟩ := List.forall_mem_cons.mp left
    rw [sameEntries]
    split
    · exact okFails false
    · next y found =>
      exact branchFails (sameFails sound x y first (right _ (findMem found)))
        (sameEntriesFails sound xs ys lefts right) (okFails false)
  | [] =>
    simp only [sameEntries]
    exact okFails true
termination_by sizeOf xs
end

theorem strictlySameFails (sound : Equatable fits allowed) {a b : Value} (left : fits a)
    (right : fits b) : FailsWithin allowed (a.strictlySame b) :=
  guardFails (sameFails sound a b left right)

theorem compareSetsFails (sound : Equatable fits allowed) (op : Comparison) {xs ys : List Value}
    (left : ∀ x ∈ xs, fits x) (right : ∀ y ∈ ys, fits y) :
    FailsWithin allowed (compareSets op xs ys) := by
  cases op with
  | less => exact guardFails (allAmongFails sound xs ys left right)
  | lessOrEqual => exact allAmongFails sound xs ys left right
  | greater => exact guardFails (allAmongFails sound ys xs right left)
  | greaterOrEqual => exact allAmongFails sound ys xs right left

mutual
theorem compareFails (tame : Tame fits allowed) (op : Comparison) (a b : Value) (left : fits a)
    (right : fits b) : FailsWithin allowed (compare op a b) := by
  cases a with
  | list xs =>
    cases b with
    | list ys =>
      simp only [compare]
      exact compareAllFails tame op xs ys (tame.members left rfl) (tame.members right rfl)
    | _ => exact tame.unordered op _ _
  | tuple xs =>
    cases b with
    | tuple ys =>
      simp only [compare]
      exact compareAllFails tame op xs ys (tame.members left rfl) (tame.members right rfl)
    | _ => exact tame.unordered op _ _
  | set xs =>
    cases b with
    | set ys =>
      exact compareSetsFails tame.toEquatable op (tame.members left rfl) (tame.members right rfl)
    | _ => exact tame.unordered op _ _
  | _ =>
    simp only [compare]
    exact tame.compare op left right
termination_by sizeOf a

theorem compareAllFails (tame : Tame fits allowed) (op : Comparison) (xs ys : List Value)
    (left : ∀ x ∈ xs, fits x) (right : ∀ y ∈ ys, fits y) :
    FailsWithin allowed (compareAll op xs ys) := by
  match xs, ys with
  | x :: xs, y :: ys =>
    obtain ⟨first, lefts⟩ := List.forall_mem_cons.mp left
    obtain ⟨second, rights⟩ := List.forall_mem_cons.mp right
    rw [compareAll]
    exact branchFails (sameFails tame.toEquatable x y first second)
      (compareAllFails tame op xs ys lefts rights) (compareFails tame op x y first second)
  | [], _ => exact okFails _
  | _ :: _, [] => exact okFails _
termination_by sizeOf xs
end

theorem compareValuesFails (tame : Tame fits allowed) {a b : Value} (left : fits a)
    (right : fits b) : FailsWithin allowed (compareValues a b) := by
  refine branchFails (sameFails tame.toEquatable a b left right) (okFails _) ?_
  split
  · exact okFails _
  · split
    · exact okFails _
    · exact branchFails (compareFails tame .less a b left right) (okFails _) (okFails _)

theorem orderHoldsFails (tame : Tame fits allowed) (op : Comparison) {value operand : Value}
    (left : fits value) (right : fits operand) :
    FailsWithin allowed (orderHolds op value operand) := by
  unfold orderHolds
  split
  · exact okFails false
  · exact compareFails tame op value operand left right

theorem textHoldsFails (tame : Tame fits allowed) (relation : List Char → List Char → Bool)
    {value operand : Value} (left : fits value) (right : fits operand) :
    FailsWithin allowed (textHolds relation value operand) := by
  unfold textHolds
  split
  · exact okFails false
  · exact bindFails (tame.told right) fun _ _ => bindFails (tame.told left) fun _ _ => okFails _

theorem sameScalarFails (a b : Value) : FailsWithin Fault.OfValues (sameScalar a b) := by
  unfold sameScalar
  split
  · split
    · exact errorFails (by decide)
    · exact okFails _
  · split
    · exact okFails _
    · split <;> exact okFails _

theorem compareMomentsFails (op : Comparison) (a b : Moment) :
    FailsWithin Fault.OfValues (compareMoments op a b) := by
  unfold compareMoments
  split
  · exact okFails _
  · exact errorFails (by decide)

theorem compareScalarFails (op : Comparison) (a b : Value) :
    FailsWithin Fault.OfValues (compareScalar op a b) := by
  unfold compareScalar
  split
  · split
    · exact errorFails (by decide)
    · exact okFails _
  · split
    · exact okFails _
    · split
      · exact okFails _
      · exact compareMomentsFails op _ _
      · exact errorFails (by decide)
      · exact errorFails (by decide)
      · exact errorFails (.head _)
      · exact errorFails (.head _)

theorem textFails (v : Value) : FailsWithin Fault.OfValues v.text? := by
  unfold text?
  split
  · exact errorFails (by decide)
  · exact okFails _

theorem anyTame : Tame (fun _ => True) Fault.OfValues where
  members _ _ _ _ := trivial
  entries _ _ _ := trivial
  attributes _ _ _ := trivial
  same _ _ := sameScalarFails _ _
  null := trivial
  compare op _ _ := compareScalarFails op _ _
  unordered _ _ _ := errorFails (.head _)
  told _ := textFails _

end Value

theorem Operator.holdsFails {fits : Value → Prop} {allowed : Fault → Prop}
    (tame : Value.Tame fits allowed) (op : Operator) {value operand : Value} (left : fits value)
    (right : fits operand) : FailsWithin allowed (op.holds value operand) := by
  cases op with
  | equals => exact Value.strictlySameFails tame.toEquatable left right
  | notEquals =>
    exact bindFails (Value.strictlySameFails tame.toEquatable left right) fun _ _ => okFails _
  | within =>
    exact anyFails fun c member =>
      Value.strictlySameFails tame.toEquatable (tame.candidates right c member) left
  | greaterOrEqual | greaterThan | lowerThan | lowerOrEqual =>
    exact Value.orderHoldsFails tame _ left right
  | contains =>
    exact Value.textHoldsFails tame (fun text pattern => Text.occursIn pattern text) left right
  | startsWith => exact Value.textHoldsFails tame Text.startsWith left right
  | endsWith => exact Value.textHoldsFails tame Text.endsWith left right

end TableQuery
