import TableQuery.OData.Url
import TableQuery.Proofs.Query.Paging

/-! One page of rows, from memory and from a remote service.
A page with a number is the same from both. A size without a number is not told to the service, which
then answers with every row; in memory it means the first page. -/
namespace TableQuery.OData

def numberOf? (name : String) (pairs : List Pair) : Option Nat :=
  (Value.find? name pairs).bind fun v => v.asInt?.map Int.toNat

/-- What a service answers with, out of the rows that a query finds without paging: the rows behind
the first `$skip`, and `$top` of them. -/
def served (pairs : List Pair) (rows : List Value) : List Value :=
  let rest := rows.drop ((numberOf? "$skip" pairs).getD 0)
  match numberOf? "$top" pairs with
  | some top => rest.take top
  | none => rest

theorem servedPage (version : Version) {r : Request} {page size : Nat} (numbered : r.page = some page)
    (sized : r.pageSize = some size) (rows : List Value) :
    served (pagePairs version r) rows = (rows.drop (page * size)).take size := by
  have top : numberOf? "$top" (pagePairs version r) = some size := by
    rw [pagePairs, numbered, sized]
    rfl
  have skip : numberOf? "$skip" (pagePairs version r) = some (page * size) := by
    rw [pagePairs, numbered, sized]
    rfl
  simp [served, top, skip]

theorem servedWhole (version : Version) {r : Request} (unpaged : r.page = none ∨ r.pageSize = none)
    (rows : List Value) : served (pagePairs version r) rows = rows := by
  have counted : pagePairs version r = [((countParam version).1, .text (countParam version).2)] := by
    unfold pagePairs
    split
    · simp_all
    · rfl
  rw [counted]
  cases version <;> simp [served, numberOf?, Value.find?, countParam]

theorem pageServedAlike (version : Version) {r : Request} {rows : List Value} {whole : Page}
    (ran : { r with pageSize := none }.run rows = .ok whole) :
    ∃ page, r.run rows = .ok page ∧ page.total = whole.total ∧
      (r.page.isSome ∨ r.pageSize = none →
        page.items = served (pagePairs version r) whole.items) ∧
      (∀ size, r.page = none → r.pageSize = some size →
        served (pagePairs version r) whole.items = whole.items ∧
          page.items = whole.items.take size) := by
  obtain ⟨sorted, ordered, same⟩ := bindOk.mp (runOrdered { r with pageSize := none } rows ▸ ran)
  cases same
  have found : r.ordered rows = .ok sorted := ordered
  have all : { r with pageSize := none }.window sorted = sorted := windowUnpaged rfl sorted
  refine ⟨⟨r.window sorted, sorted.length⟩, by rw [runOrdered, found, okBind], rfl, ?_, ?_⟩
  · intro told
    rw [all]
    cases sized : r.pageSize with
    | none => rw [windowUnpaged sized, servedWhole version (.inr sized)]
    | some size =>
      obtain ⟨page, numbered⟩ := Option.isSome_iff_exists.mp (told.resolve_right (by simp [sized]))
      simp only [Request.window, sized, numbered, Option.getD_some,
        servedPage version numbered sized]
  · intro size unnumbered sized
    rw [all]
    exact ⟨servedWhole version (.inl unnumbered) sorted, by simp [Request.window, sized, unnumbered]⟩

theorem secondPageServedAlike :
    let r : Request := { Request.everything with page := some 1, pageSize := some 2 }
    let rows := [pricedRow 1 "x", pricedRow 2 "y", pricedRow 3 "z"]
    { r with pageSize := none }.run rows = .ok ⟨rows, 3⟩ ∧
      ∃ page, r.run rows = .ok page ∧ page.total = 3 ∧ page.items = served (pagePairs .v4 r) rows := by
  intro r rows
  have ran : { r with pageSize := none }.run rows = .ok ⟨rows, 3⟩ := rfl
  obtain ⟨page, paged, total, alike, -⟩ := pageServedAlike .v4 ran
  exact ⟨ran, page, paged, total, alike (.inl rfl)⟩

theorem unnumberedPageDiffers :
    let r : Request := { Request.everything with page := none, pageSize := some 1 }
    let rows := [pricedRow 1 "x", pricedRow 2 "y"]
    { r with pageSize := none }.run rows = .ok ⟨rows, 2⟩ ∧
      ∀ version, ∃ page, r.run rows = .ok page ∧ page.items ≠ served (pagePairs version r) rows := by
  intro r rows
  refine ⟨rfl, fun version => ⟨⟨rows.take 1, 2⟩, rfl, fun same => ?_⟩⟩
  rw [servedWhole version (.inl rfl)] at same
  cases congrArg List.length same

end TableQuery.OData
