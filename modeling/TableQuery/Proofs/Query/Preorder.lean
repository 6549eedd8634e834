import TableQuery.Proofs.Query.Sorting

/-! The comparison of rows by which they are sorted.
On rows whose sort fields are columns of text or of numbers it never fails, and it is a total
preorder: turned round it answers the opposite, what is not above carries over, and two rows that
are level compare alike with every third. -/
namespace TableQuery
open TableQuery.Sort

def NotAbove (keys : List OrderKey) (a b : Value) : Prop :=
  ∃ o, compareRows a b keys = .ok o ∧ o.isLE = true

structure Preordered (keys : List OrderKey) (rows : List Value) : Prop where
  opposite : ∀ a ∈ rows, ∀ b ∈ rows,
    ∃ o, compareRows a b keys = .ok o ∧ compareRows b a keys = .ok o.swap
  transitive : ∀ a ∈ rows, ∀ b ∈ rows, ∀ c ∈ rows,
    NotAbove keys a b → NotAbove keys b c → NotAbove keys a c
  alike : ∀ a ∈ rows, ∀ b ∈ rows, compareRows a b keys = .ok .eq → ∀ c ∈ rows,
    compareRows a c keys = compareRows b c keys ∧ compareRows c a keys = compareRows c b keys

theorem notAboveDecided {below : Value → Value → Bool} {keys : List OrderKey} {a b : Value}
    (order : WeakOrder below) (decided : RowsDecided below keys a b) :
    NotAbove keys a b ↔ below b a = false := by
  rw [NotAbove, ← standingNotAbove order]
  simp [decided.compared]

theorem decidedPreordered {below : Value → Value → Bool} {keys : List OrderKey} {rows : List Value}
    (order : WeakOrder below)
    (decided : ∀ a ∈ rows, ∀ b ∈ rows, RowsDecided below keys a b) : Preordered keys rows where
  opposite := fun a aRow b bRow => by
    have turned : standing below b a = (standing below a b).swap := standingTurned order a b
    exact ⟨standing below a b, (decided a aRow b bRow).compared,
      turned ▸ (decided b bRow a aRow).compared⟩
  transitive := fun a aRow b bRow c cRow first second => by
    rw [notAboveDecided order (decided a aRow b bRow)] at first
    rw [notAboveDecided order (decided b bRow c cRow)] at second
    exact (notAboveDecided order (decided a aRow c cRow)).mpr (order.notAboveTrans first second)
  alike := fun a aRow b bRow same c cRow => by
    rw [(decided a aRow b bRow).compared] at same
    have onLevel : level below a b = true := standingEq.mp (Except.ok.inj same)
    obtain ⟨left, right⟩ := standingClass order onLevel c
    rw [(decided a aRow c cRow).compared, (decided b bRow c cRow).compared,
      (decided c cRow a aRow).compared, (decided c cRow b bRow).compared, left, right]
    exact ⟨rfl, rfl⟩

theorem rowsPreordered {sorting : List SortKey} {rows : List Value}
    (directions : ∀ entry ∈ sorting, ∃ d, Direction.resolve entry.direction = .ok d)
    (sortable : ∀ entry ∈ sorting, Sortable entry.field rows) :
    ∃ keys, resolveSorting sorting = .ok keys ∧ Preordered keys rows := by
  obtain ⟨keys, resolved, keysSortable⟩ := sortingKeys directions sortable
  obtain ⟨below, order, decided⟩ := keysOrder keysSortable
  exact ⟨keys, resolved, decidedPreordered order decided⟩

def borderInteger : Value := scoredRow (.int 9007199254740993) "u"

def borderDecimal : Value := scoredRow (.decimal (.finite false 90071992547409930 (-1))) "u"

def borderFloat : Value := scoredRow (.float (.finite false 4503599627370496 1)) "t"

def borderRows : List Value :=
  [borderInteger, borderDecimal, borderFloat, scoredRow (.float (.infinite true)) "s",
    scoredRow .null "v"]

def borderKeys : List OrderKey := [⟨"score", .descending⟩, ⟨"name", .ascending⟩]

theorem borderPreordered :
    resolveSorting byScoreAndName.sorting = .ok borderKeys ∧
      (∀ entry ∈ byScoreAndName.sorting, Sortable entry.field borderRows) ∧
      compareRows borderInteger borderFloat borderKeys = .ok .lt ∧
      compareRows borderFloat borderInteger borderKeys = .ok .gt ∧
      NotAbove borderKeys borderInteger (scoredRow .null "v") ∧
      ∀ row ∈ borderRows,
        compareRows row borderInteger borderKeys = compareRows row borderDecimal borderKeys := by
  have resolved : resolveSorting byScoreAndName.sorting = .ok borderKeys := by rfl
  have directions : ∀ entry ∈ byScoreAndName.sorting,
      ∃ d, Direction.resolve entry.direction = .ok d := by
    simp only [byScoreAndName, List.forall_mem_cons]
    exact ⟨⟨_, rfl⟩, ⟨_, rfl⟩, by simp⟩
  have scores : ∀ row ∈ borderRows, (row.fieldOf "score").NumberOrNull := by
    simp only [borderRows, List.forall_mem_cons]
    exact ⟨.inr ⟨_, rfl, rfl⟩, .inr ⟨_, rfl, rfl⟩, .inr ⟨_, rfl, rfl⟩, .inr ⟨_, rfl, rfl⟩, .inl rfl,
      by simp⟩
  have names : ∀ row ∈ borderRows, (row.fieldOf "name").TextOrNull := by
    simp only [borderRows, List.forall_mem_cons]
    exact ⟨.inr ⟨_, rfl⟩, .inr ⟨_, rfl⟩, .inr ⟨_, rfl⟩, .inr ⟨_, rfl⟩, .inr ⟨_, rfl⟩, by simp⟩
  have sortable : ∀ entry ∈ byScoreAndName.sorting, Sortable entry.field borderRows := by
    simp only [byScoreAndName, List.forall_mem_cons]
    exact ⟨.inr scores, .inl names, by simp⟩
  obtain ⟨keys, found, preordered⟩ := rowsPreordered directions sortable
  cases resolved.symm.trans found
  have integer : borderInteger ∈ borderRows := by simp [borderRows]
  have decimal : borderDecimal ∈ borderRows := by simp [borderRows]
  have float : borderFloat ∈ borderRows := by simp [borderRows]
  have null : scoredRow .null "v" ∈ borderRows := by simp [borderRows]
  have ahead : compareRows borderInteger borderFloat borderKeys = .ok .lt := by cbv
  have further : compareRows borderFloat (scoredRow .null "v") borderKeys = .ok .lt := by cbv
  have level : compareRows borderInteger borderDecimal borderKeys = .ok .eq := by cbv
  obtain ⟨o, answer, turned⟩ := preordered.opposite _ integer _ float
  cases ahead.symm.trans answer
  exact ⟨resolved, sortable, ahead, turned,
    preordered.transitive _ integer _ float _ null ⟨_, ahead, rfl⟩ ⟨_, further, rfl⟩,
    fun row member => (preordered.alike _ integer _ decimal level row member).2⟩

end TableQuery
