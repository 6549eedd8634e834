import TableQuery.Proofs.Query.Sorting

/-! Sorting by a field that holds both text and numbers.
Two orders agree with every comparison that does not fail, and they put text and numbers opposite
ways. A sort that met no text beside a number would sort the rows in both orders at once, so every
sort meets such a pair, however the rows come and whatever page is asked for. -/
namespace TableQuery
open TableQuery.Sort

def Mixed (field : String) (rows : List Value) : Prop :=
  ∀ row ∈ rows, (row.fieldOf field).TextOrNull ∨ (row.fieldOf field).NumberOrNull

def Unordered (f : Fault) : Prop := ∃ left right, f = .unorderable .less left right

def rowsBelow (key : OrderKey) (column : Value → Value → Bool) : Value → Value → Bool :=
  refinedBelow
    (fun a b => directedBelow key.direction column (a.fieldOf key.field) (b.fieldOf key.field))
    fun _ _ => false

theorem rowsBelowOrder (key : OrderKey) {column : Value → Value → Bool} (order : WeakOrder column) :
    WeakOrder (rowsBelow key column) :=
  refinedOrder (pulledOrder (directedOrder key.direction order) _) ⟨by simp, by simp⟩

theorem rowsBelowColumn (key : OrderKey) {column : Value → Value → Bool} {a b : Value}
    (below : directedBelow key.direction column (a.fieldOf key.field) (b.fieldOf key.field) = true) :
    rowsBelow key column a b = true := by
  simp [rowsBelow, refinedBelow, below]

theorem rowPrecedesColumn {key : OrderKey} {column : Value → Value → Bool} {a b : Value}
    (order : WeakOrder column)
    (decided : Value.Decided column (a.fieldOf key.field) (b.fieldOf key.field))
    (turned : Value.Decided column (b.fieldOf key.field) (a.fieldOf key.field)) :
    rowPrecedes [key] a b = .ok (rowsBelow key column a b) :=
  rowPrecedesDecided (rowsDecidedCons order decided turned
    ⟨rfl, by simp [level, OnLevel], by simp [InOrder]⟩)

theorem rowPrecedesFails {key : OrderKey} {a b : Value} {f : Fault}
    (failed : compareValues (a.fieldOf key.field) (b.fieldOf key.field) = .error f) :
    rowPrecedes [key] a b = .error f := by
  rw [rowPrecedes, compareRows, failed, errorBind, errorBind]

theorem mixedPrecedes {key : OrderKey} {rows : List Value} (mixed : Mixed key.field rows)
    {a b : Value} (first : a ∈ rows) (second : b ∈ rows) :
    (rowPrecedes [key] a b = .ok (rowsBelow key Value.textAbove a b) ∧
      rowPrecedes [key] a b = .ok (rowsBelow key Value.numbersAbove a b)) ∨
    ∃ f, rowPrecedes [key] a b = .error f ∧ Unordered f := by
  rcases Value.likeOrUnlike (mixed a first) (mixed b second) with
    like | ⟨s, x, text, extent⟩ | ⟨s, x, text, extent⟩
  · obtain ⟨textFirst, numbersFirst⟩ := Value.likeDecided like
    obtain ⟨textTurned, numbersTurned⟩ := Value.likeDecided like.turned
    exact .inl ⟨rowPrecedesColumn Value.textAboveOrder textFirst textTurned,
      rowPrecedesColumn Value.numbersAboveOrder numbersFirst numbersTurned⟩
  · exact .inr ⟨_, rowPrecedesFails (Value.unlikeFails text extent).1, _, _, rfl⟩
  · exact .inr ⟨_, rowPrecedesFails (Value.unlikeFails text extent).2, _, _, rfl⟩

theorem mixedSortFails (key : OrderKey) {rows : List Value} (mixed : Mixed key.field rows)
    {a b : Value} {s : String} {x : Extent} (first : a ∈ rows) (second : b ∈ rows)
    (text : (a.fieldOf key.field).asText? = some s) (extent : (b.fieldOf key.field).extent? = some x)
    (number : x.isNan = false) : ∃ f, sortRows [key] rows = .error f ∧ Unordered f := by
  have agrees : ∀ y z r, y ∈ rows → z ∈ rows → rowPrecedes [key] y z = .ok r →
      rowsBelow key Value.textAbove y z = r ∧ rowsBelow key Value.numbersAbove y z = r := by
    intro y z r left right answered
    rcases mixedPrecedes mixed left right with ⟨textOrder, numberOrder⟩ | ⟨f, failed, -⟩
    · exact ⟨Except.ok.inj (textOrder.symm.trans answered),
        Except.ok.inj (numberOrder.symm.trans answered)⟩
    · cases failed.symm.trans answered
  have textWeak := rowsBelowOrder key Value.textAboveOrder
  have numbersWeak := rowsBelowOrder key Value.numbersAboveOrder
  obtain ⟨numberBelow, textBelow⟩ := Value.unlikePlaced text extent number
  have fails : ∃ f, (sort rows).run (rowPrecedes [key]) = .error f := by
    cases way : key.direction with
    | ascending =>
      exact sortFailsApart textWeak numbersWeak agrees second first
        (rowsBelowColumn key (by rw [way]; exact numberBelow))
        (rowsBelowColumn key (by rw [way]; exact textBelow))
    | descending =>
      exact sortFailsApart textWeak numbersWeak agrees first second
        (rowsBelowColumn key (by rw [way]; exact numberBelow))
        (rowsBelowColumn key (by rw [way]; exact textBelow))
  obtain ⟨f, failed⟩ := fails
  have within : FailsWithin Unordered ((sort rows).run (rowPrecedes [key])) :=
    Plan.runFails (sortGathers rows) fun y z left right g compared => by
      rcases mixedPrecedes mixed left right with ⟨answered, -⟩ | ⟨h, failure, unordered⟩
      · cases answered.symm.trans compared
      · cases failure.symm.trans compared
        exact unordered
  exact ⟨f, failed, within f failed⟩

theorem mixedFieldUnsortable {r : Request} {entry : SortKey} {rows kept : List Value}
    (single : r.sorting = [entry]) (direction : ∃ d, Direction.resolve entry.direction = .ok d)
    (operators : checkOperators r.clauses = .ok ()) (matched : matching r.filters rows = .ok kept)
    (mixed : Mixed entry.field kept)
    (text : ∃ row ∈ kept, ∃ s, (row.fieldOf entry.field).asText? = some s)
    (number : ∃ row ∈ kept, ∃ x, (row.fieldOf entry.field).extent? = some x ∧ x.isNan = false) :
    ∃ f, r.run rows = .error f ∧ f.kind = .unsuitable ∧
      ∃ left right, f = .unorderable .less left right := by
  obtain ⟨d, resolved⟩ := direction
  obtain ⟨a, first, s, text⟩ := text
  obtain ⟨b, second, x, extent, number⟩ := number
  obtain ⟨f, failed, left, right, rfl⟩ :=
    mixedSortFails ⟨entry.field, d⟩ mixed first second text extent number
  have keys : resolveSorting [entry] = .ok [⟨entry.field, d⟩] := by
    simp [resolveSorting, SortKey.resolve, resolved]
  have arranged : arrange r.sorting kept = .error (.unorderable .less left right) := by
    rw [single, arrange, if_neg (by simp), keys, okBind, failed]
  refine ⟨_, ?_, rfl, left, right, rfl⟩
  rw [Request.run, operators, okBind, matched, okBind, arranged, errorBind]

def byLabel : Request :=
  { page := some 3, pageSize := some 1, sorting := [⟨"label", .text "desc"⟩],
    filters := [⟨[⟨"label", .operator .notEquals, .text "z"⟩]⟩], fields := [], args := none }

def labelledRow (label : Value) : Value := .dict [("label", label)]

def labelledRows : List Value :=
  [labelledRow (.text "a"), labelledRow .null, labelledRow (.text "z"), labelledRow (.text "a"),
    labelledRow .null, labelledRow (.int 2)]

theorem labelsUnsortable :
    (∃ kept, matching byLabel.filters labelledRows = .ok kept ∧ kept.length = 5 ∧
      Mixed "label" kept) ∧
    ∃ f, byLabel.run labelledRows = .error f ∧ f.kind = .unsuitable := by
  let kept := [labelledRow (.text "a"), labelledRow .null, labelledRow (.text "a"),
    labelledRow .null, labelledRow (.int 2)]
  have matched : matching byLabel.filters labelledRows = .ok kept := by cbv
  have mixed : Mixed "label" kept := by
    simp only [Mixed, kept, List.forall_mem_cons]
    exact ⟨.inl (.inr ⟨_, rfl⟩), .inl (.inl rfl), .inl (.inr ⟨_, rfl⟩), .inl (.inl rfl),
      .inr (.inr ⟨_, rfl, rfl⟩), by simp⟩
  have text : ∃ row ∈ kept, ∃ s, (row.fieldOf "label").asText? = some s :=
    ⟨labelledRow (.text "a"), by simp [kept], _, rfl⟩
  have number : ∃ row ∈ kept, ∃ x, (row.fieldOf "label").extent? = some x ∧ x.isNan = false :=
    ⟨labelledRow (.int 2), by simp [kept], _, rfl, rfl⟩
  have single : byLabel.sorting = [⟨"label", .text "desc"⟩] := rfl
  obtain ⟨f, failed, kind, -⟩ :=
    mixedFieldUnsortable single ⟨_, rfl⟩ rfl matched mixed text number
  exact ⟨⟨kept, matched, rfl, mixed⟩, f, failed, kind⟩

end TableQuery
