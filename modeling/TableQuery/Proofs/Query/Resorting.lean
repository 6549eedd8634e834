import TableQuery.Proofs.Query.Sorting

/-! Sorts of one another's results.
What a filter keeps of sorted rows is what sorting gives of the rows it keeps, ties included, and to
sort by several keys is to sort by the last one, then by the one before it, and so on to the first.
Both come from the one stable ordering: parts of it are stable orderings, and so is a stable
ordering by one key of a stable ordering by others. -/
namespace TableQuery

def Request.unfiltered (r : Request) : Request := { r with filters := [] }

def Request.sortedBy (r : Request) (sorting : List SortKey) : Request := { r with sorting }

theorem unpagedRun {r : Request} {rows kept items : List Value} (unpaged : r.pageSize = none)
    (operators : checkOperators r.clauses = .ok ()) (matched : matching r.filters rows = .ok kept)
    (arranged : arrange r.sorting kept = .ok items) : r.run rows = .ok ⟨items, items.length⟩ := by
  rw [Request.run, operators, okBind, matched, okBind, arranged, okBind, windowUnpaged unpaged]

theorem matchingEverything (rows : List Value) : matching [] rows = .ok rows := by
  induction rows with
  | nil => rfl
  | cons row rows ih => simp [matching, matchesAll, ih]

theorem unfilteredRun {r : Request} {rows items : List Value} (unpaged : r.pageSize = none)
    (unfiltered : r.filters = []) (arranged : arrange r.sorting rows = .ok items) :
    r.run rows = .ok ⟨items, items.length⟩ := by
  have operators : checkOperators r.clauses = .ok () := by
    simp [Request.clauses, unfiltered, checkOperators]
  exact unpagedRun unpaged operators (unfiltered ▸ matchingEverything rows) arranged

theorem matchingIff {groups : List FilterGroup} {rows : List Value} :
    (∃ kept, matching groups rows = .ok kept) ↔
      ∀ row ∈ rows, ∃ b, matchesAll groups row = .ok b := by
  induction rows with
  | nil => simp [matching]
  | cons row rows ih =>
    rw [List.forall_mem_cons, ← ih]
    constructor
    · rintro ⟨kept, matched⟩
      obtain ⟨b, answered, remaining⟩ := bindOk.mp matched
      cases b with
      | true =>
        obtain ⟨rest, restMatched, -⟩ := bindOk.mp remaining
        exact ⟨⟨true, answered⟩, rest, restMatched⟩
      | false => exact ⟨⟨false, answered⟩, kept, remaining⟩
    · rintro ⟨⟨b, answered⟩, rest, restMatched⟩
      cases b with
      | true => exact ⟨row :: rest, by simp [matching, answered, restMatched]⟩
      | false => exact ⟨rest, by simp [matching, answered, restMatched]⟩

theorem matchingPermuted {groups : List FilterGroup} {rows kept items : List Value}
    (matched : matching groups rows = .ok kept) (permuted : items.Perm rows) :
    matching groups items = .ok (items.filter (Keeps groups ·)) := by
  have each := matchingIff.mp ⟨kept, matched⟩
  obtain ⟨found, matchedToo⟩ : ∃ found, matching groups items = .ok found :=
    matchingIff.mpr fun row member => each row (permuted.mem_iff.mp member)
  rw [matchedToo, matchingKeeps matchedToo]

theorem Sortable.part {field : String} {rows part : List Value} (sortable : Sortable field rows)
    (within : ∀ row ∈ part, row ∈ rows) : Sortable field part :=
  sortable.imp (fun text row member => text row (within row member))
    fun numbers row member => numbers row (within row member)

theorem StableOrdering.filter {keys : List OrderKey} {rows items : List Value}
    (stable : StableOrdering keys rows items) (p : Value → Bool) :
    StableOrdering keys (rows.filter p) (items.filter p) where
  permuted := stable.permuted.filter p
  inOrder := stable.inOrder.filter p
  stable := fun row member => by
    rw [List.filter_comm, stable.stable row (List.mem_of_mem_filter member), List.filter_comm]

theorem filtersCommuteWithSorting {r : Request} {rows kept : List Value}
    (unpaged : r.pageSize = none) (operators : checkOperators r.clauses = .ok ())
    (matched : matching r.filters rows = .ok kept)
    (directions : ∀ entry ∈ r.sorting, ∃ d, Direction.resolve entry.direction = .ok d)
    (sortable : ∀ entry ∈ r.sorting, Sortable entry.field rows) :
    ∃ whole, r.unfiltered.run rows = .ok ⟨whole, rows.length⟩ ∧
      r.run rows = .ok ⟨whole.filter (Keeps r.filters ·), kept.length⟩ ∧
      (r.sortedBy []).run whole = r.run rows := by
  obtain ⟨keys, resolved, keysSortable⟩ := sortingKeys directions sortable
  have keptRows := matchingKeeps matched
  have keptSortable : ∀ key ∈ keys, Sortable key.field kept := fun key member =>
    (keysSortable key member).part fun row found => by
      rw [keptRows] at found
      exact List.mem_of_mem_filter found
  obtain ⟨whole, wholeArranged, wholeStable, -⟩ := arrangeStably resolved keysSortable
  obtain ⟨items, arranged, stable, unique⟩ := arrangeStably resolved keptSortable
  have itemsKept : whole.filter (Keeps r.filters ·) = items :=
    unique _ (keptRows ▸ wholeStable.filter (Keeps r.filters ·))
  have ran : r.run rows = .ok ⟨items, items.length⟩ := unpagedRun unpaged operators matched arranged
  have wholeMatched := matchingPermuted matched wholeStable.permuted
  rw [itemsKept] at wholeMatched
  refine ⟨whole, ?_, by rw [ran, itemsKept, stable.permuted.length_eq], ?_⟩
  · rw [← wholeStable.permuted.length_eq]
    exact unfilteredRun unpaged rfl wholeArranged
  · rw [ran]
    exact unpagedRun unpaged operators wholeMatched rfl

def dearByPrice : Request :=
  { page := none, pageSize := none, sorting := [⟨"price", .text "desc"⟩],
    filters := [⟨[⟨"name", .text "neq", .text "z"⟩, ⟨"price", .operator .greaterThan, .int 2⟩]⟩],
    fields := [], args := none }

theorem dearFilteredEitherWay :
    let rows := [pricedRow 1 "x", pricedRow 2 "z", pricedRow 2 "y", pricedRow 3 "z"]
    dearByPrice.run rows = .ok ⟨[pricedRow 3 "z", pricedRow 2 "y", pricedRow 1 "x"], 3⟩ ∧
      ∃ whole, dearByPrice.unfiltered.run rows = .ok ⟨whole, 4⟩ ∧
        (dearByPrice.sortedBy []).run whole = dearByPrice.run rows := by
  intro rows
  have matched : matching dearByPrice.filters rows =
      .ok [pricedRow 1 "x", pricedRow 2 "y", pricedRow 3 "z"] := by cbv
  have directions : ∀ entry ∈ dearByPrice.sorting,
      ∃ d, Direction.resolve entry.direction = .ok d := by
    simp only [dearByPrice, List.forall_mem_singleton]
    exact ⟨_, rfl⟩
  have prices : ∀ row ∈ rows, (row.fieldOf "price").NumberOrNull := by
    simp only [rows, List.forall_mem_cons]
    exact ⟨.inr ⟨_, rfl, rfl⟩, .inr ⟨_, rfl, rfl⟩, .inr ⟨_, rfl, rfl⟩, .inr ⟨_, rfl, rfl⟩, by simp⟩
  have sortable : ∀ entry ∈ dearByPrice.sorting, Sortable entry.field rows := by
    simp only [dearByPrice, List.forall_mem_singleton]
    exact .inr prices
  obtain ⟨whole, ranUnfiltered, -, filtered⟩ :=
    filtersCommuteWithSorting rfl rfl matched directions sortable
  exact ⟨by cbv, whole, ranUnfiltered, filtered⟩

theorem unsortedStable (rows : List Value) : StableOrdering [] rows rows :=
  ⟨.refl _, List.pairwise_of_forall fun _ _ => trivial, fun _ _ => rfl⟩

theorem onLevelSingle {key : OrderKey} {a b : Value} : OnLevel [key] a b ↔
    (a.fieldOf key.field).same (b.fieldOf key.field) = .ok true := by
  simp [OnLevel]

theorem onLevelCons (key : OrderKey) (rest : List OrderKey) (row : Value) (rows : List Value) :
    rows.filter (OnLevel (key :: rest) row ·) =
      (rows.filter (OnLevel [key] row ·)).filter (OnLevel rest row ·) := by
  rw [List.filter_filter]
  refine List.filter_congr fun other _ => ?_
  have both : OnLevel (key :: rest) row other ↔ OnLevel [key] row other ∧ OnLevel rest row other :=
    List.forall_mem_cons.trans (and_congr_left' onLevelSingle.symm)
  rw [Bool.eq_iff_iff, Bool.and_eq_true, decide_eq_true_eq, decide_eq_true_eq, decide_eq_true_eq,
    both, and_comm]

theorem StableOrdering.refined {key : OrderKey} {rest : List OrderKey} {rows items sorted : List Value}
    (reflexive : ∀ row ∈ rows, OnLevel [key] row row) (first : StableOrdering rest rows items)
    (second : StableOrdering [key] items sorted) : StableOrdering (key :: rest) rows sorted where
  permuted := second.permuted.trans first.permuted
  inOrder := by
    refine List.pairwise_iff_forall_sublist.mpr fun {a b} inSorted => ?_
    have keyOrder := List.pairwise_iff_forall_sublist.mp second.inOrder inSorted
    rcases keyOrder with ⟨level, -⟩ | apart
    · -- On a level of the key the rows stand as the other keys had put them: the second ordering has
      -- moved none of them.
      have aItem : a ∈ items := second.permuted.mem_iff.mp (inSorted.subset (by simp))
      have aLevel := reflexive a (first.permuted.mem_iff.mp aItem)
      have bLevel := onLevelSingle.mpr level
      have inLevel := inSorted.filter (OnLevel [key] a ·)
      rw [List.filter_cons_of_pos (by simpa using aLevel),
        List.filter_cons_of_pos (by simpa using bLevel), List.filter_nil,
        second.stable a aItem] at inLevel
      have inItems := inLevel.trans List.filter_sublist
      exact .inl ⟨level, List.pairwise_iff_forall_sublist.mp first.inOrder inItems⟩
    · exact .inr apart
  stable := fun row member => by
    have rowItem := first.permuted.mem_iff.mpr member
    calc sorted.filter (OnLevel (key :: rest) row ·)
        = (sorted.filter (OnLevel [key] row ·)).filter (OnLevel rest row ·) := onLevelCons ..
      _ = (items.filter (OnLevel [key] row ·)).filter (OnLevel rest row ·) := by
        rw [second.stable row rowItem]
      _ = (items.filter (OnLevel rest row ·)).filter (OnLevel [key] row ·) := List.filter_comm ..
      _ = (rows.filter (OnLevel rest row ·)).filter (OnLevel [key] row ·) := by
        rw [first.stable row member]
      _ = (rows.filter (OnLevel [key] row ·)).filter (OnLevel rest row ·) := List.filter_comm ..
      _ = rows.filter (OnLevel (key :: rest) row ·) := (onLevelCons ..).symm

theorem onLevelSelf {key : OrderKey} {rows : List Value} (sortable : Sortable key.field rows) :
    ∀ row ∈ rows, OnLevel [key] row row := fun row member => by
  obtain ⟨column, order, decided⟩ := columnOrder sortable
  rw [onLevelSingle, (decided row member row member).same, order.levelSelf]

def Request.cascade (r : Request) : List SortKey → List Value → Except Fault (List Value)
  | [], rows => .ok rows
  | entry :: rest, rows => do
    let sorted ← r.cascade rest rows
    let page ← (r.sortedBy [entry]).run sorted
    .ok page.items

theorem cascadeStable {r : Request} {sorting : List SortKey} {keys : List OrderKey}
    {rows : List Value} (unpaged : r.pageSize = none) (unfiltered : r.filters = [])
    (resolved : resolveSorting sorting = .ok keys)
    (sortable : ∀ key ∈ keys, Sortable key.field rows) :
    ∃ items, r.cascade sorting rows = .ok items ∧ StableOrdering keys rows items := by
  induction sorting generalizing keys with
  | nil =>
    cases resolved
    exact ⟨rows, rfl, unsortedStable rows⟩
  | cons entry rest ih =>
    obtain ⟨key, found, remaining⟩ := bindOk.mp resolved
    obtain ⟨others, restResolved, whole⟩ := bindOk.mp remaining
    cases whole
    obtain ⟨keySortable, othersSortable⟩ := List.forall_mem_cons.mp sortable
    obtain ⟨items, cascaded, first⟩ := ih restResolved othersSortable
    have single : resolveSorting [entry] = .ok [key] := by simp [resolveSorting, found]
    have itemsSortable : ∀ k ∈ [key], Sortable k.field items := List.forall_mem_singleton.mpr
      (keySortable.part fun row member => first.permuted.mem_iff.mp member)
    obtain ⟨sorted, arranged, second, -⟩ := arrangeStably single itemsSortable
    have ran : (r.sortedBy [entry]).run items = .ok ⟨sorted, sorted.length⟩ :=
      unfilteredRun unpaged unfiltered arranged
    exact ⟨sorted, by rw [Request.cascade, cascaded, okBind, ran, okBind],
      first.refined (onLevelSelf keySortable) second⟩

theorem sortingCascades {r : Request} {rows : List Value} (unpaged : r.pageSize = none)
    (unfiltered : r.filters = [])
    (directions : ∀ entry ∈ r.sorting, ∃ d, Direction.resolve entry.direction = .ok d)
    (sortable : ∀ entry ∈ r.sorting, Sortable entry.field rows) :
    ∃ items, r.run rows = .ok ⟨items, rows.length⟩ ∧ r.cascade r.sorting rows = .ok items := by
  obtain ⟨keys, resolved, keysSortable⟩ := sortingKeys directions sortable
  obtain ⟨items, arranged, stable, unique⟩ := arrangeStably resolved keysSortable
  obtain ⟨others, cascaded, stableToo⟩ := cascadeStable unpaged unfiltered resolved keysSortable
  have ran : r.run rows = .ok ⟨items, items.length⟩ := unfilteredRun unpaged unfiltered arranged
  exact ⟨items, by rw [ran, stable.permuted.length_eq], by rw [cascaded, unique others stableToo]⟩

def byPriceAndName : Request :=
  { page := none, pageSize := none, filters := [], fields := [], args := none,
    sorting := [⟨"price", .direction .descending⟩, ⟨"name", .text "asc"⟩, ⟨"price", .text "asc"⟩] }

theorem pricesCascade :
    let rows := [pricedRow 1 "x", pricedRow 2 "z", pricedRow 2 "y", pricedRow 3 "z"]
    let sorted := [pricedRow 3 "z", pricedRow 2 "y", pricedRow 2 "z", pricedRow 1 "x"]
    byPriceAndName.run rows = .ok ⟨sorted, 4⟩ ∧
      byPriceAndName.cascade byPriceAndName.sorting rows = .ok sorted := by
  intro rows sorted
  have directions : ∀ entry ∈ byPriceAndName.sorting,
      ∃ d, Direction.resolve entry.direction = .ok d := by
    simp only [byPriceAndName, List.forall_mem_cons]
    exact ⟨⟨_, rfl⟩, ⟨_, rfl⟩, ⟨_, rfl⟩, by simp⟩
  have prices : ∀ row ∈ rows, (row.fieldOf "price").NumberOrNull := by
    simp only [rows, List.forall_mem_cons]
    exact ⟨.inr ⟨_, rfl, rfl⟩, .inr ⟨_, rfl, rfl⟩, .inr ⟨_, rfl, rfl⟩, .inr ⟨_, rfl, rfl⟩, by simp⟩
  have names : ∀ row ∈ rows, (row.fieldOf "name").TextOrNull := by
    simp only [rows, List.forall_mem_cons]
    exact ⟨.inr ⟨_, rfl⟩, .inr ⟨_, rfl⟩, .inr ⟨_, rfl⟩, .inr ⟨_, rfl⟩, by simp⟩
  have sortable : ∀ entry ∈ byPriceAndName.sorting, Sortable entry.field rows := by
    simp only [byPriceAndName, List.forall_mem_cons]
    exact ⟨.inr prices, .inl names, .inr prices, by simp⟩
  have computed : byPriceAndName.run rows = .ok ⟨sorted, 4⟩ := by cbv
  obtain ⟨items, ran, cascaded⟩ := sortingCascades rfl rfl directions sortable
  cases computed.symm.trans ran
  exact ⟨computed, cascaded⟩

end TableQuery
