import Mathlib
import TableQuery.Proofs.Value.Columns

/-! The comparison operators on one field and one operand.
Two texts, or two numbers of any types, have places in one order; equality and the four order
operators all tell of those places, so that each of them is known from the others. -/
namespace TableQuery
open TableQuery.Sort

def Operator.comparing : List Operator :=
  [equals, notEquals, greaterThan, greaterOrEqual, lowerThan, lowerOrEqual]

def Operator.tells (op : Operator) (o : Ordering) : Bool :=
  match op with
  | equals => o == .eq
  | notEquals => o != .eq
  | greaterThan => o == .gt
  | greaterOrEqual => o != .lt
  | lowerThan => o == .lt
  | lowerOrEqual => o != .gt
  | _ => false

def Operator.mirrored : Operator → Operator
  | greaterThan => lowerThan
  | greaterOrEqual => lowerOrEqual
  | lowerThan => greaterThan
  | lowerOrEqual => greaterOrEqual
  | op => op

def Comparison.operator : Comparison → Operator
  | less => .lowerThan
  | lessOrEqual => .lowerOrEqual
  | greater => .greaterThan
  | greaterOrEqual => .greaterOrEqual

section
variable {β : Type} [LinearOrder β] (p q : β)

theorem standingHolds (op : Comparison) :
    op.holds (p < q) (q < p) = op.operator.tells (cmp p q) := by
  rcases lt_trichotomy p q with lower | rfl | higher
  · rw [(cmp_eq_lt_iff p q).mpr lower]
    cases op <;> simp [Comparison.holds, Comparison.operator, Operator.tells, lower, lower.not_gt]
  · rw [cmp_self_eq_eq]
    cases op <;> simp [Comparison.holds, Comparison.operator, Operator.tells]
  · rw [(cmp_eq_gt_iff p q).mpr higher]
    cases op <;> simp [Comparison.holds, Comparison.operator, Operator.tells, higher, higher.not_gt]

theorem standingSame : (p == q) = (cmp p q == .eq) := by
  rw [Bool.eq_iff_iff, beq_iff_eq, beq_iff_eq, cmp_eq_eq_iff]

end

namespace Value

structure Stand (a b : Value) (o : Ordering) : Prop where
  first : a.isNull = false
  second : b.isNull = false
  same : a.strictlySame b = .ok (o == .eq)
  compare : ∀ op, a.compare op b = .ok (op.operator.tells o)

theorem textUntrue {v : Value} {s : String} (text : v.asText? = some s) : v.isBool = false := by
  cases v with
  | bool => cases text
  | _ => rfl

theorem textsStand {a b : Value} {s t : String} (first : a.asText? = some s)
    (second : b.asText? = some t) : Stand a b (cmp s t) where
  first := notNullOfPlace rfl first
  second := notNullOfPlace rfl second
  same := by
    rw [strictlySame, textUntrue first, textUntrue second, if_pos rfl, sameText first second,
      lineLevel, standingSame]
  compare op := by rw [compareText op first second, standingHolds]

structure Number (v : Value) : Prop where
  defined : ∃ x, v.extent? = some x ∧ x.isNan = false
  untrue : v.isBool = false

theorem numberPlaced {v : Value} (number : Number v) : ∃ p, v.place? = some p := by
  obtain ⟨x, extent, defined⟩ := number.defined
  exact extentPlaced extent defined

theorem extentStands (op : Comparison) {x y : Extent} {p q : WithBot (WithTop Rat)}
    (first : linePlace? x = some p) (second : linePlace? y = some q) :
    x.compare op y = op.operator.tells (cmp p q) := by
  obtain ⟨same, below⟩ := lineOfExtents first second
  obtain ⟨-, above⟩ := lineOfExtents second first
  rw [← standingHolds]
  cases op with
  | less | greater => assumption
  | lessOrEqual =>
    rw [Bool.eq_iff_iff, Extent.compare, below, same]
    simpa [lineBelow, Comparison.holds] using le_iff_lt_or_eq.symm
  | greaterOrEqual =>
    rw [Bool.eq_iff_iff, Extent.compare, above, same]
    simpa [lineBelow, Comparison.holds] using (le_iff_lt_or_eq.trans (or_congr_right eq_comm)).symm

theorem numbersStand {a b : Value} {p q : WithBot (WithTop Rat)} (first : Number a)
    (second : Number b) (firstPlace : a.place? = some p) (secondPlace : b.place? = some q) :
    Stand a b (cmp p q) := by
  obtain ⟨x, firstExtent, firstNumber⟩ := first.defined
  obtain ⟨y, secondExtent, secondNumber⟩ := second.defined
  have there : a.isNull = false := notNullOfPlace rfl firstPlace
  have thereToo : b.isNull = false := notNullOfPlace rfl secondPlace
  rw [place?, firstExtent, Option.bind_some] at firstPlace
  rw [place?, secondExtent, Option.bind_some] at secondPlace
  refine ⟨there, thereToo, ?_, fun op => ?_⟩
  · rw [strictlySame, first.untrue, second.untrue, if_pos rfl,
      sameNumbers firstExtent secondExtent firstNumber secondNumber,
      (lineOfExtents firstPlace secondPlace).1, standingSame]
  · rw [compareNumbers op firstExtent secondExtent firstNumber secondNumber,
      extentStands op firstPlace secondPlace]

inductive Commensurable (a b : Value) : Prop
  | texts {s t : String} (first : a.asText? = some s) (second : b.asText? = some t)
  | numbers (first : Number a) (second : Number b)

theorem commensurableStand {a b : Value} (pair : Commensurable a b) :
    ∃ o, Stand a b o ∧ Stand b a o.swap := by
  cases pair with
  | @texts s t first second =>
    exact ⟨cmp s t, textsStand first second, cmp_swap s t ▸ textsStand second first⟩
  | numbers first second =>
    obtain ⟨p, firstPlace⟩ := numberPlaced first
    obtain ⟨q, secondPlace⟩ := numberPlaced second
    exact ⟨cmp p q, numbersStand first second firstPlace secondPlace,
      cmp_swap p q ▸ numbersStand second first secondPlace firstPlace⟩

end Value

theorem orderOperator (op : Comparison) (v e : Value) :
    op.operator.holds v e = orderHolds op v e := by cases op <;> rfl

theorem orderOfNull (op : Comparison) {v e : Value} (missing : v = .null ∨ e = .null) :
    op.operator.holds v e = .ok false := by
  rw [orderOperator, orderHolds, if_pos]
  rcases missing with rfl | rfl
  · rfl
  · exact Bool.or_true _

theorem notEqualsNegates {v e : Value} {b : Bool} (equal : Operator.equals.holds v e = .ok b) :
    Operator.notEquals.holds v e = .ok !b := by
  have same : v.strictlySame e = .ok b := equal
  rw [Operator.holds, same]
  rfl

def Told (answer : Operator → Except Fault Bool) (o : Ordering) : Prop :=
  ∀ op ∈ Operator.comparing, answer op = .ok (op.tells o)

theorem standTold {v e : Value} {o : Ordering} (stand : Value.Stand v e o) :
    Told (·.holds v e) o := by
  have order (op : Comparison) : op.operator.holds v e = .ok (op.operator.tells o) := by
    rw [orderOperator, orderHolds, stand.first, stand.second, ← stand.compare op]
    rfl
  simp only [Told, Operator.comparing, List.forall_mem_cons, List.not_mem_nil, false_implies,
    implies_true, and_true]
  exact ⟨stand.same, notEqualsNegates stand.same, order .greater, order .greaterOrEqual,
    order .less, order .lessOrEqual⟩

structure Trichotomy (answer : Operator → Except Fault Bool) : Prop where
  answered : ∀ op ∈ Operator.comparing, ∃ b, answer op = .ok b
  one : ∃! op, op ∈ [Operator.lowerThan, .equals, .greaterThan] ∧ answer op = .ok true
  atLeast : answer .greaterOrEqual = .ok true ↔
    answer .greaterThan = .ok true ∨ answer .equals = .ok true
  atMost : answer .lowerOrEqual = .ok true ↔
    answer .lowerThan = .ok true ∨ answer .equals = .ok true

def deciding : Ordering → Operator
  | .lt => .lowerThan
  | .eq => .equals
  | .gt => .greaterThan

variable {answer turned : Operator → Except Fault Bool} {o : Ordering}

theorem toldHolds (told : Told answer o) {op : Operator} (compares : op ∈ Operator.comparing) :
    answer op = .ok true ↔ op.tells o = true := by
  rw [told op compares, Except.ok.injEq]

theorem toldTrichotomy (told : Told answer o) : Trichotomy answer where
  answered op compares := ⟨_, told op compares⟩
  one := by
    have decided : ∀ op ∈ [Operator.lowerThan, .equals, .greaterThan],
        op ∈ Operator.comparing ∧ (op.tells o = true ↔ op = deciding o) := by
      cases o <;> decide
    refine ⟨deciding o, ⟨by cases o <;> decide, ?_⟩, fun op ⟨listed, holds⟩ => ?_⟩
    · obtain ⟨compares, tells⟩ := decided (deciding o) (by cases o <;> decide)
      exact (toldHolds told compares).mpr (tells.mpr rfl)
    · obtain ⟨compares, tells⟩ := decided op listed
      exact tells.mp ((toldHolds told compares).mp holds)
  atLeast := by
    rw [toldHolds told (by decide), toldHolds told (by decide), toldHolds told (by decide)]
    cases o <;> decide
  atMost := by
    rw [toldHolds told (by decide), toldHolds told (by decide), toldHolds told (by decide)]
    cases o <;> decide

theorem mirroredTells (o : Ordering) : ∀ op ∈ Operator.comparing,
    op.mirrored ∈ Operator.comparing ∧ op.tells o.swap = op.mirrored.tells o := by
  cases o <;> decide

theorem comparisonsAgree {spelled : Operator → Value}
    (known : ∀ op, Operator.resolve (spelled op) = .ok op) (field : String) (row e : Value) :
    let v := row.fieldOf field
    let answer := fun op => FilterClause.matches ⟨field, spelled op, e⟩ row
    (∀ b, answer .equals = .ok b → answer .notEquals = .ok !b) ∧
    (v = .null ∨ e = .null → ∀ op : Comparison, answer op.operator = .ok false) ∧
    (Value.Commensurable v e → Trichotomy answer ∧
      ∀ other : Value, other.fieldOf field = e → ∀ op ∈ Operator.comparing,
        FilterClause.matches ⟨field, spelled op, v⟩ other = answer op.mirrored) := by
  intro v answer
  have each (op : Operator) (e row : Value) :
      FilterClause.matches ⟨field, spelled op, e⟩ row = op.holds (row.fieldOf field) e := by
    rw [FilterClause.matches, known, okBind]
  have answers : answer = (·.holds v e) := funext fun op => each op e row
  rw [answers]
  refine ⟨fun b => notEqualsNegates, fun missing op => orderOfNull op missing, fun pair => ?_⟩
  obtain ⟨o, forth, back⟩ := Value.commensurableStand pair
  have told := standTold forth
  refine ⟨toldTrichotomy told, fun other same op compares => ?_⟩
  obtain ⟨comparesToo, tells⟩ := mirroredTells o op compares
  have turned : op.holds e v = .ok (op.tells o.swap) := standTold back op compares
  have mirrored : op.mirrored.holds v e = .ok (op.mirrored.tells o) := told _ comparesToo
  rw [each, same, turned, tells, ← mirrored]

/- The integer lies between two neighbouring floats, the lower of which it would be rounded to. -/
def largeRow : Value := .dict [("size", .int 9007199254740993)]

def largeFloat : Value := .float (.finite false 4503599627370496 1)

theorem largeCompared :
    let answer := fun op : Operator =>
      FilterClause.matches ⟨"size", .text op.wire, largeFloat⟩ largeRow
    Trichotomy answer ∧ answer .equals = .ok false ∧ answer .notEquals = .ok true ∧
      FilterClause.matches ⟨"size", .text "lt", .int 9007199254740993⟩
        (.record [("size", largeFloat)]) = answer .greaterThan ∧
      FilterClause.matches ⟨"length", .text "lte", largeFloat⟩ largeRow = .ok false := by
  intro answer
  have known (op : Operator) : Operator.resolve (.text op.wire) = .ok op := by cases op <;> rfl
  have numbers : (largeRow.fieldOf "size").Commensurable largeFloat :=
    .numbers ⟨⟨_, rfl, rfl⟩, rfl⟩ ⟨⟨_, rfl, rfl⟩, rfl⟩
  obtain ⟨negates, -, pair⟩ := comparisonsAgree known "size" largeRow largeFloat
  obtain ⟨-, missing, -⟩ := comparisonsAgree known "length" largeRow largeFloat
  obtain ⟨trichotomy, turned⟩ := pair numbers
  have unequal : FilterClause.matches ⟨"size", .text "eq", largeFloat⟩ largeRow = .ok false := by
    cbv
  exact ⟨trichotomy, unequal, negates false unequal,
    turned (.record [("size", largeFloat)]) rfl .lowerThan (by decide),
    missing (.inl rfl) .lessOrEqual⟩

end TableQuery
