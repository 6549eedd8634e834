import TableQuery.Proofs.Query.Filtering
import TableQuery.Proofs.Sort.Stability
import TableQuery.Proofs.Value.Columns

/-! The rows in the order of a request.
Where every sort field is a column of text or of numbers, with nulls or without, comparing rows
never fails, and the rows come out in the one stable ordering that the keys ask for: the first field
on which two rows differ puts them in its direction, and rows that differ on none stay as they were. -/
namespace TableQuery
open TableQuery.Sort

def Sortable (field : String) (rows : List Value) : Prop :=
  (∀ row ∈ rows, (row.fieldOf field).TextOrNull) ∨ (∀ row ∈ rows, (row.fieldOf field).NumberOrNull)

def Lower (x y : Value) : Prop :=
  (x.isNull = true ∧ y.isNull = false) ∨
    (x.isNull = false ∧ y.isNull = false ∧ x.precedes y = .ok true)

def Direction.Puts (d : Direction) (x y : Value) : Prop :=
  match d with
  | ascending => Lower x y
  | descending => Lower y x

def InOrder : List OrderKey → Value → Value → Prop
  | [], _, _ => True
  | key :: rest, a, b =>
    ((a.fieldOf key.field).same (b.fieldOf key.field) = .ok true ∧ InOrder rest a b) ∨
    ((a.fieldOf key.field).same (b.fieldOf key.field) = .ok false ∧
      key.direction.Puts (a.fieldOf key.field) (b.fieldOf key.field))

def OnLevel (keys : List OrderKey) (a b : Value) : Prop :=
  ∀ key ∈ keys, (a.fieldOf key.field).same (b.fieldOf key.field) = .ok true

instance (keys : List OrderKey) (a : Value) : DecidablePred (OnLevel keys a) := fun b =>
  inferInstanceAs
    (Decidable (∀ key ∈ keys, (a.fieldOf key.field).same (b.fieldOf key.field) = .ok true))

structure StableOrdering (keys : List OrderKey) (rows items : List Value) : Prop where
  permuted : items.Perm rows
  inOrder : items.Pairwise (InOrder keys)
  stable : ∀ row ∈ rows, items.filter (OnLevel keys row ·) = rows.filter (OnLevel keys row ·)

structure RowsDecided (below : Value → Value → Bool) (keys : List OrderKey) (a b : Value) :
    Prop where
  compared : compareRows a b keys = .ok (standing below a b)
  onLevel : level below a b = true ↔ OnLevel keys a b
  inOrder : below b a = false ↔ InOrder keys a b

def directedBelow (d : Direction) (below : Value → Value → Bool) : Value → Value → Bool :=
  match d with
  | .ascending => below
  | .descending => flip below

theorem directedOrder (d : Direction) {below : Value → Value → Bool} (order : WeakOrder below) :
    WeakOrder (directedBelow d below) := by
  cases d with
  | ascending => exact order
  | descending => exact turnedOrder order

theorem standingDirected (d : Direction) {below : Value → Value → Bool} (order : WeakOrder below)
    (x y : Value) : standing (directedBelow d below) x y = d.apply (standing below x y) := by
  cases d with
  | ascending => rfl
  | descending => exact standingTurned order x y

theorem levelDirected (d : Direction) (below : Value → Value → Bool) (x y : Value) :
    level (directedBelow d below) x y = level below x y := by
  cases d with
  | ascending => rfl
  | descending => exact Bool.and_comm _ _

theorem lowerDecided {below : Value → Value → Bool} {x y : Value}
    (decided : Value.Decided below x y) : Lower x y ↔ below x y = true := by
  unfold Lower
  cases xNull : x.isNull <;> cases yNull : y.isNull
  · simp [decided.precedes xNull yNull]
  · simp [decided.nullsLowest (.inr yNull), yNull]
  · simp [decided.nullsLowest (.inl xNull), yNull]
  · simp [decided.nullsLowest (.inl xNull), yNull]

theorem putsDecided (d : Direction) {below : Value → Value → Bool} {x y : Value}
    (decided : Value.Decided below x y) (turned : Value.Decided below y x) :
    d.Puts x y ↔ directedBelow d below x y = true := by
  cases d with
  | ascending => exact lowerDecided decided
  | descending => exact lowerDecided turned

theorem columnOrder {field : String} {rows : List Value} (sortable : Sortable field rows) :
    ∃ below, WeakOrder below ∧ ∀ a ∈ rows, ∀ b ∈ rows,
      Value.Decided below (a.fieldOf field) (b.fieldOf field) := by
  rcases sortable with text | numbers
  · exact ⟨_, placedOrder lineOrder Value.asText?, fun a aRow b bRow =>
      Value.textDecided (text a aRow) (text b bRow)⟩
  · exact ⟨_, placedOrder lineOrder Value.place?, fun a aRow b bRow =>
      Value.numbersDecided (numbers a aRow) (numbers b bRow)⟩

theorem rowsDecidedCons {column fine : Value → Value → Bool} {key : OrderKey} {rest : List OrderKey}
    {a b : Value} (order : WeakOrder column)
    (decided : Value.Decided column (a.fieldOf key.field) (b.fieldOf key.field))
    (turned : Value.Decided column (b.fieldOf key.field) (a.fieldOf key.field))
    (others : RowsDecided fine rest a b) :
    RowsDecided (refinedBelow
      (fun x y => directedBelow key.direction column (x.fieldOf key.field) (y.fieldOf key.field))
      fine) (key :: rest) a b := by
  have directed := directedOrder key.direction order
  generalize coarse : (fun x y : Value =>
    directedBelow key.direction column (x.fieldOf key.field) (y.fieldOf key.field)) = first
  have firstOrder : WeakOrder first := coarse ▸ pulledOrder directed _
  have firstStanding : standing first a b =
      key.direction.apply (standing column (a.fieldOf key.field) (b.fieldOf key.field)) := by
    rw [← standingDirected key.direction order, ← coarse]
    rfl
  have firstLevel : level first a b = level column (a.fieldOf key.field) (b.fieldOf key.field) := by
    rw [← levelDirected key.direction column, ← coarse]
    rfl
  have firstPuts : key.direction.Puts (a.fieldOf key.field) (b.fieldOf key.field) ↔
      first a b = true := by
    rw [putsDecided key.direction decided turned, ← coarse]
  refine ⟨?_, ?_, ?_⟩
  · rw [compareRows, Value.compareDecided decided turned, standingRefined, firstStanding, okBind]
    cases standing column (a.fieldOf key.field) (b.fieldOf key.field) with
    | eq => cases key.direction <;> exact others.compared
    | lt => cases key.direction <;> rfl
    | gt => cases key.direction <;> rfl
  · rw [levelRefined, Bool.and_eq_true, others.onLevel, firstLevel]
    simp [OnLevel, decided.same]
  · have apart : first a b = true → level first a b = false := fun lower => by simp [level, lower]
    rw [← firstPuts, firstLevel] at apart
    rw [notAboveRefined firstOrder, firstLevel, others.inOrder, ← firstPuts]
    simp only [InOrder, decided.same, Except.ok.injEq]
    exact or_congr_right ⟨fun puts => ⟨apart puts, puts⟩, And.right⟩

theorem keysOrder {keys : List OrderKey} {rows : List Value}
    (sortable : ∀ key ∈ keys, Sortable key.field rows) :
    ∃ below, WeakOrder below ∧ ∀ a ∈ rows, ∀ b ∈ rows, RowsDecided below keys a b := by
  induction keys with
  | nil =>
    refine ⟨fun _ _ => false, ⟨by simp, by simp⟩, fun a _ b _ => ⟨rfl, ?_, ?_⟩⟩
    · simp [level, OnLevel]
    · simp [InOrder]
  | cons key rest ih =>
    obtain ⟨first, others⟩ := List.forall_mem_cons.mp sortable
    obtain ⟨column, columnWeak, decided⟩ := columnOrder first
    obtain ⟨fine, fineWeak, rowsDecided⟩ := ih others
    exact ⟨_, refinedOrder (pulledOrder (directedOrder key.direction columnWeak) _) fineWeak,
      fun a aRow b bRow => rowsDecidedCons columnWeak (decided a aRow b bRow)
        (decided b bRow a aRow) (rowsDecided a aRow b bRow)⟩

theorem rowPrecedesDecided {below : Value → Value → Bool} {keys : List OrderKey} {a b : Value}
    (decided : RowsDecided below keys a b) : rowPrecedes keys a b = .ok (below a b) := by
  rw [rowPrecedes, decided.compared, okBind, standing]
  cases below a b <;> cases below b a <;> rfl

theorem filterOnLevel {below : Value → Value → Bool} {keys : List OrderKey}
    {rows items : List Value} (decided : ∀ a ∈ rows, ∀ b ∈ rows, RowsDecided below keys a b)
    {row : Value} (member : row ∈ rows) (among : ∀ item ∈ items, item ∈ rows) :
    items.filter (level below row) = items.filter (OnLevel keys row ·) :=
  List.filter_congr fun item found => by
    rw [Bool.eq_iff_iff, decide_eq_true_eq]
    exact (decided row member item (among item found)).onLevel

theorem stableOrderingIff {below : Value → Value → Bool} {keys : List OrderKey}
    {rows items : List Value} (order : WeakOrder below)
    (decided : ∀ a ∈ rows, ∀ b ∈ rows, RowsDecided below keys a b) :
    StableOrdering keys rows items ↔ items.Perm rows ∧ Arranged below rows items := by
  constructor
  · rintro ⟨permuted, inOrder, stable⟩
    have among : ∀ item ∈ items, item ∈ rows := fun item found => permuted.mem_iff.mp found
    refine ⟨permuted, inOrder.imp_of_mem fun {a b} aFound bFound ordered => ?_,
      sameLevelsOfMembers order permuted fun row member => ?_⟩
    · exact (decided a (among a aFound) b (among b bFound)).inOrder.mpr ordered
    · rw [filterOnLevel decided member among, filterOnLevel decided member fun _ found => found]
      exact stable row member
  · rintro ⟨permuted, rising, sameLevels⟩
    have among : ∀ item ∈ items, item ∈ rows := fun item found => permuted.mem_iff.mp found
    refine ⟨permuted, rising.imp_of_mem fun {a b} aFound bFound notAbove => ?_,
      fun row member => ?_⟩
    · exact (decided a (among a aFound) b (among b bFound)).inOrder.mp notAbove
    · rw [← filterOnLevel decided member among, ← filterOnLevel decided member fun _ found => found]
      exact sameLevels row

theorem resolvedField {sorting : List SortKey} {keys : List OrderKey}
    (resolved : resolveSorting sorting = .ok keys) :
    ∀ key ∈ keys, ∃ entry ∈ sorting, entry.field = key.field := by
  induction sorting generalizing keys with
  | nil =>
    cases resolved
    simp
  | cons entry rest ih =>
    obtain ⟨first, found, remaining⟩ := bindOk.mp resolved
    obtain ⟨others, restResolved, whole⟩ := bindOk.mp remaining
    obtain ⟨direction, -, made⟩ := bindOk.mp found
    cases whole
    cases made
    refine List.forall_mem_cons.mpr ⟨⟨entry, by simp, rfl⟩, fun key member => ?_⟩
    obtain ⟨source, inRest, same⟩ := ih restResolved key member
    exact ⟨source, List.mem_cons_of_mem entry inRest, same⟩

theorem sortingResolves {sorting : List SortKey}
    (directions : ∀ entry ∈ sorting, ∃ d, Direction.resolve entry.direction = .ok d) :
    ∃ keys, resolveSorting sorting = .ok keys := by
  induction sorting with
  | nil => exact ⟨[], rfl⟩
  | cons entry rest ih =>
    obtain ⟨⟨d, found⟩, others⟩ := List.forall_mem_cons.mp directions
    obtain ⟨keys, resolved⟩ := ih others
    exact ⟨⟨entry.field, d⟩ :: keys, by simp [resolveSorting, SortKey.resolve, found, resolved]⟩

theorem sortingKeys {sorting : List SortKey} {rows : List Value}
    (directions : ∀ entry ∈ sorting, ∃ d, Direction.resolve entry.direction = .ok d)
    (sortable : ∀ entry ∈ sorting, Sortable entry.field rows) :
    ∃ keys, resolveSorting sorting = .ok keys ∧ ∀ key ∈ keys, Sortable key.field rows := by
  obtain ⟨keys, resolved⟩ := sortingResolves directions
  refine ⟨keys, resolved, fun key member => ?_⟩
  obtain ⟨entry, inSorting, same⟩ := resolvedField resolved key member
  exact same ▸ sortable entry inSorting

theorem arrangeStably {sorting : List SortKey} {keys : List OrderKey} {rows : List Value}
    (resolved : resolveSorting sorting = .ok keys)
    (sortable : ∀ key ∈ keys, Sortable key.field rows) :
    ∃ items, arrange sorting rows = .ok items ∧ StableOrdering keys rows items ∧
      ∀ other, StableOrdering keys rows other → other = items := by
  obtain ⟨below, order, decided⟩ := keysOrder sortable
  have unique : ∀ {items other}, StableOrdering keys rows items → StableOrdering keys rows other →
      other = items := fun stable stableToo => by
    obtain ⟨-, rising, sameLevels⟩ := (stableOrderingIff order decided).mp stable
    obtain ⟨-, risingToo, sameLevelsToo⟩ := (stableOrderingIff order decided).mp stableToo
    exact arrangedUnique order rising risingToo fun k => (sameLevelsToo k).trans (sameLevels k).symm
  cases sorting with
  | nil =>
    cases resolved
    have stable : StableOrdering [] rows rows :=
      ⟨.refl _, List.pairwise_of_forall fun _ _ => trivial, fun _ _ => rfl⟩
    exact ⟨rows, rfl, stable, fun other => unique stable⟩
  | cons entry rest =>
    have permuted := Plan.ensuredOfAnswer below (sortGathers rows)
    have stable := (stableOrderingIff order decided).mpr ⟨permuted, sortArranges order rows⟩
    have ran : (sort rows).run (rowPrecedes keys) = .ok ((sort rows).answer below) :=
      sortRuns fun a b aRow bRow => rowPrecedesDecided (decided a aRow b bRow)
    refine ⟨_, ?_, stable, fun other => unique stable⟩
    rw [arrange, if_neg (by simp), resolved, okBind, sortRows, ran]

theorem unpagedRunSortsStably {r : Request} {rows kept : List Value} (unpaged : r.pageSize = none)
    (operators : checkOperators r.clauses = .ok ()) (matched : matching r.filters rows = .ok kept)
    (directions : ∀ entry ∈ r.sorting, ∃ d, Direction.resolve entry.direction = .ok d)
    (sortable : ∀ entry ∈ r.sorting, Sortable entry.field kept) :
    ∃ keys items, resolveSorting r.sorting = .ok keys ∧ r.run rows = .ok ⟨items, kept.length⟩ ∧
      StableOrdering keys kept items ∧ ∀ other, StableOrdering keys kept other → other = items := by
  obtain ⟨keys, resolved⟩ := sortingResolves directions
  have keysSortable : ∀ key ∈ keys, Sortable key.field kept := fun key member => by
    obtain ⟨entry, inSorting, same⟩ := resolvedField resolved key member
    exact same ▸ sortable entry inSorting
  obtain ⟨items, arranged, stable, unique⟩ := arrangeStably resolved keysSortable
  refine ⟨keys, items, resolved, ?_, stable, unique⟩
  rw [Request.run, operators, okBind, matched, okBind, arranged, okBind, windowUnpaged unpaged,
    stable.permuted.length_eq]

def byScoreAndName : Request :=
  { page := none, pageSize := none, filters := [], fields := [], args := none,
    sorting := [⟨"score", .direction .descending⟩, ⟨"name", .direction .ascending⟩] }

def scoredRow (score : Value) (name : String) : Value :=
  .dict [("score", score), ("name", .text name)]

def scoredRows : List Value :=
  [scoredRow (.int 1) "u", scoredRow .null "v", scoredRow (.bool true) "t",
    scoredRow (.decimal (.finite false 25 (-1))) "w", .dict [("name", .text "v")]]

def scoresInOrder : List Value :=
  [scoredRow (.decimal (.finite false 25 (-1))) "w", scoredRow (.bool true) "t",
    scoredRow (.int 1) "u", scoredRow .null "v", .dict [("name", .text "v")]]

theorem scoresSortStably :
    matching byScoreAndName.filters scoredRows = .ok scoredRows ∧
      (∀ entry ∈ byScoreAndName.sorting, Sortable entry.field scoredRows) ∧
      byScoreAndName.run scoredRows = .ok ⟨scoresInOrder, 5⟩ ∧
      ∃ keys, resolveSorting byScoreAndName.sorting = .ok keys ∧
        StableOrdering keys scoredRows scoresInOrder := by
  have matched : matching byScoreAndName.filters scoredRows = .ok scoredRows := by rfl
  have directions : ∀ entry ∈ byScoreAndName.sorting,
      ∃ d, Direction.resolve entry.direction = .ok d := by
    simp only [byScoreAndName, List.forall_mem_cons]
    exact ⟨⟨_, rfl⟩, ⟨_, rfl⟩, by simp⟩
  have scores : ∀ row ∈ scoredRows, (row.fieldOf "score").NumberOrNull := by
    simp only [scoredRows, List.forall_mem_cons]
    exact ⟨.inr ⟨_, rfl, rfl⟩, .inl rfl, .inr ⟨_, rfl, rfl⟩, .inr ⟨_, rfl, rfl⟩, .inl rfl, by simp⟩
  have names : ∀ row ∈ scoredRows, (row.fieldOf "name").TextOrNull := by
    simp only [scoredRows, List.forall_mem_cons]
    exact ⟨.inr ⟨_, rfl⟩, .inr ⟨_, rfl⟩, .inr ⟨_, rfl⟩, .inr ⟨_, rfl⟩, .inr ⟨_, rfl⟩, by simp⟩
  have sortable : ∀ entry ∈ byScoreAndName.sorting, Sortable entry.field scoredRows := by
    simp only [byScoreAndName, List.forall_mem_cons]
    exact ⟨.inr scores, .inl names, by simp⟩
  have computed : byScoreAndName.run scoredRows = .ok ⟨scoresInOrder, 5⟩ := by cbv
  obtain ⟨keys, items, resolved, ran, stable, -⟩ :=
    unpagedRunSortsStably rfl rfl matched directions sortable
  cases computed.symm.trans ran
  exact ⟨matched, sortable, computed, keys, resolved, stable⟩

end TableQuery
