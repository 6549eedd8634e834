import TableQuery.Proofs.Query.Filtering

/-! The pages of a request.
Every page is a run of its own, which filters and sorts the rows anew. The pages of one size, put one
behind the other, are the whole result. -/
namespace TableQuery

def Request.ordered (r : Request) (rows : List Value) : Except Fault (List Value) := do
  checkOperators r.clauses
  let kept ← matching r.filters rows
  arrange r.sorting kept

theorem runOrdered (r : Request) (rows : List Value) :
    r.run rows = (do
      let sorted ← r.ordered rows
      .ok ⟨r.window sorted, sorted.length⟩) := by
  simp only [Request.run, Request.ordered, bind_assoc]

def Request.atPage (r : Request) (page : Option Nat) (size : Nat) : Request :=
  { r with page := page, pageSize := some size }

theorem orderedAtPage (r : Request) (page : Option Nat) (size : Nat) (rows : List Value) :
    (r.atPage page size).ordered rows = r.ordered rows := rfl

theorem windowAtPage (r : Request) (page : Option Nat) (size : Nat) (rows : List Value) :
    (r.atPage page size).window rows =
      rows.extract (page.getD 0 * size) ((page.getD 0 + 1) * size) := by
  simp only [Request.window, Request.atPage, List.extract_eq_take_drop, Nat.add_one_mul,
    Nat.add_sub_cancel_left]

theorem extractLength (rows : List Value) (size k : Nat) :
    (rows.extract (k * size) ((k + 1) * size)).length =
      if k * size < rows.length then min size (rows.length - k * size) else 0 := by
  simp only [List.extract_eq_take_drop, List.length_take, List.length_drop, Nat.add_one_mul,
    Nat.add_sub_cancel_left]
  split <;> omega

theorem extractsJoin (rows : List Value) (size count : Nat) :
    (List.range count).flatMap (fun k => rows.extract (k * size) ((k + 1) * size)) =
      rows.take (count * size) := by
  induction count with
  | zero => simp
  | succ count ih =>
    rw [List.range_succ, List.flatMap_append, ih, Nat.add_one_mul, List.take_add]
    simp [List.extract_eq_take_drop, Nat.add_one_mul]

theorem allWithin {total size : Nat} (positive : 0 < size) :
    total ≤ (total + size - 1) / size * size := by
  have cut := Nat.div_add_mod (total + size - 1) size
  have small := Nat.mod_lt (total + size - 1) positive
  rw [Nat.mul_comm] at cut
  omega

theorem pagesTileResult {r : Request} {rows : List Value} {whole : Page} {size : Nat}
    (unpaged : r.pageSize = none) (ran : r.run rows = .ok whole) (positive : 0 < size) :
    (∀ k, ∃ page, (r.atPage (some k) size).run rows = .ok page ∧ page.total = whole.total ∧
      page.items = whole.items.extract (k * size) ((k + 1) * size) ∧
      page.items.length = if k * size < whole.total then min size (whole.total - k * size) else 0) ∧
    (r.atPage none size).run rows = (r.atPage (some 0) size).run rows ∧
    ∃ pages, (List.range ((whole.total + size - 1) / size)).mapM
        (fun k => (r.atPage (some k) size).run rows) = .ok pages ∧
      pages.flatMap (·.items) = whole.items := by
  obtain ⟨sorted, ordered, same⟩ := bindOk.mp (runOrdered r rows ▸ ran)
  cases same
  rw [windowUnpaged unpaged]
  have cutPage (page : Option Nat) : (r.atPage page size).run rows =
      .ok ⟨sorted.extract (page.getD 0 * size) ((page.getD 0 + 1) * size), sorted.length⟩ := by
    rw [runOrdered, orderedAtPage, ordered, okBind, windowAtPage]
  refine ⟨fun k => ⟨_, cutPage (some k), rfl, rfl, extractLength sorted size k⟩, ?_, ?_⟩
  · rw [cutPage, cutPage]
    rfl
  · have each : (fun k => (r.atPage (some k) size).run rows) = fun k =>
        pure (⟨sorted.extract (k * size) ((k + 1) * size), sorted.length⟩ : Page) :=
      funext fun k => cutPage (some k)
    refine ⟨_, by rw [each, List.mapM_pure]; rfl, ?_⟩
    rw [List.flatMap_map, extractsJoin, List.take_of_length_le (allWithin positive)]

def byPrice : Request :=
  { page := some 9, pageSize := none, sorting := [⟨"price", .text "asc"⟩],
    filters := [⟨[⟨"name", .text "neq", .text "z"⟩]⟩], fields := [], args := none }

theorem threeRowsTwoPages :
    let rows := [pricedRow 3 "x", pricedRow 1 "z", pricedRow 1 "y", pricedRow 2 "u"]
    let whole : Page := ⟨[pricedRow 1 "y", pricedRow 2 "u", pricedRow 3 "x"], 3⟩
    byPrice.run rows = .ok whole ∧
      (∃ page, (byPrice.atPage (some 1) 2).run rows = .ok page ∧ page.total = 3 ∧
        page.items = [pricedRow 3 "x"]) ∧
      (∃ page, (byPrice.atPage (some 7) 2).run rows = .ok page ∧ page.items.length = 0) ∧
      ∃ pages, (List.range 2).mapM (fun k => (byPrice.atPage (some k) 2).run rows) = .ok pages ∧
        pages.flatMap (·.items) = whole.items := by
  intro rows whole
  have ran : byPrice.run rows = .ok whole := by cbv
  obtain ⟨each, -, joined⟩ := pagesTileResult rfl ran (show 0 < 2 by decide)
  have count : (whole.total + 2 - 1) / 2 = 2 := by simp [whole]
  rw [count] at joined
  obtain ⟨second, secondRan, secondTotal, secondItems, -⟩ := each 1
  obtain ⟨eighth, eighthRan, -, -, eighthLength⟩ := each 7
  exact ⟨ran, ⟨second, secondRan, secondTotal, secondItems⟩, ⟨eighth, eighthRan, eighthLength⟩, joined⟩

end TableQuery
