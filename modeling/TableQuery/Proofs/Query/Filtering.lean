import Mathlib
import TableQuery.Proofs.Outcome
import TableQuery.Proofs.Sort.Rearranging
import TableQuery.Query

/-! Which rows a request keeps: every group has to match, each by one of its clauses.
Clauses and groups behind the deciding one are never tried. Of a search that came to an answer it is
known all the same what holds of its whole list. -/
namespace TableQuery

theorem conjunctionAnswers {γ : Type} {test : γ → Except Fault Bool} {holds : γ → Prop}
    (meaning : ∀ g b, test g = .ok b → (b = true ↔ holds g)) {groups : List γ} {b : Bool}
    (answered : groups.allM test = .ok b) : b = true ↔ ∀ g ∈ groups, holds g := by
  induction groups with
  | nil =>
    cases answered
    simp
  | cons g rest ih =>
    rw [List.allM_cons] at answered
    obtain ⟨first, tested, remaining⟩ := bindOk.mp answered
    -- The answer of a group is known only where the search has come to it.
    have firstMeaning := meaning g first tested
    cases first with
    | true => simp [ih remaining, ← firstMeaning]
    | false =>
      cases remaining
      simp [← firstMeaning]

instance answersYes (answer : Except Fault Bool) : Decidable (answer = .ok true) :=
  match answer with
  | .ok true => .isTrue rfl
  | .ok false => .isFalse (by simp)
  | .error _ => .isFalse (by simp)

def Keeps (groups : List FilterGroup) (row : Value) : Prop :=
  ∀ group ∈ groups, ∃ clause ∈ group.clauses, clause.matches row = .ok true

instance (groups : List FilterGroup) : DecidablePred (Keeps groups) := fun row =>
  inferInstanceAs
    (Decidable (∀ group ∈ groups, ∃ clause ∈ group.clauses, clause.matches row = .ok true))

theorem matchesAllKeeps {groups : List FilterGroup} {row : Value} {b : Bool}
    (answered : matchesAll groups row = .ok b) : b = true ↔ Keeps groups row :=
  conjunctionAnswers (fun _ _ tested => searchAnswers tested) answered

theorem matchingKeeps {groups : List FilterGroup} {rows kept : List Value}
    (matched : matching groups rows = .ok kept) : kept = rows.filter (Keeps groups ·) := by
  induction rows generalizing kept with
  | nil =>
    cases matched
    rfl
  | cons row rows ih =>
    obtain ⟨b, answered, remaining⟩ := bindOk.mp matched
    have keeps := matchesAllKeeps answered
    cases b with
    | true =>
      obtain ⟨rest, restMatched, whole⟩ := bindOk.mp remaining
      cases whole
      rw [List.filter_cons_of_pos (by simpa using keeps), ih restMatched]
    | false => rw [List.filter_cons_of_neg (by simpa using keeps), ih remaining]

theorem keepsWithoutGroups (row : Value) : Keeps [] row := by simp [Keeps]

theorem keepsOfEmptyGroup {groups : List FilterGroup} (empty : ⟨[]⟩ ∈ groups) (row : Value) :
    ¬ Keeps groups row := fun keeps => by
  obtain ⟨clause, member, -⟩ := keeps _ empty
  exact List.not_mem_nil member

theorem runSteps {r : Request} {rows : List Value} {page : Page} (ran : r.run rows = .ok page) :
    ∃ kept sorted, matching r.filters rows = .ok kept ∧ arrange r.sorting kept = .ok sorted ∧
      page = ⟨r.window sorted, sorted.length⟩ := by
  obtain ⟨-, -, ran⟩ := bindOk.mp ran
  obtain ⟨kept, matched, ran⟩ := bindOk.mp ran
  obtain ⟨sorted, arranged, ran⟩ := bindOk.mp ran
  cases ran
  exact ⟨kept, sorted, matched, arranged, rfl⟩

theorem windowUnpaged {r : Request} (unpaged : r.pageSize = none) (rows : List Value) :
    r.window rows = rows := by
  simp only [Request.window, unpaged]

theorem arrangePermutes {sorting : List SortKey} {rows sorted : List Value}
    (arranged : arrange sorting rows = .ok sorted) : sorted.Perm rows := by
  unfold arrange at arranged
  split at arranged
  · cases arranged
    exact .refl _
  · obtain ⟨keys, -, ran⟩ := bindOk.mp arranged
    have permuted := Sort.Plan.ensuredOfRun (Sort.sortGathers rows) ran
    exact permuted

theorem unpagedRunFilters {r : Request} {rows : List Value} {page : Page}
    (unpaged : r.pageSize = none) (ran : r.run rows = .ok page) :
    (r.sorting = [] → page.items = rows.filter (Keeps r.filters ·)) ∧
    page.items.Perm (rows.filter (Keeps r.filters ·)) ∧
    page.total = (rows.filter (Keeps r.filters ·)).length ∧
    (r.filters = [] → rows.filter (Keeps r.filters ·) = rows) ∧
    (⟨[]⟩ ∈ r.filters → rows.filter (Keeps r.filters ·) = []) := by
  obtain ⟨kept, sorted, matched, arranged, rfl⟩ := runSteps ran
  have permuted := arrangePermutes arranged
  rw [← matchingKeeps matched, windowUnpaged unpaged]
  refine ⟨fun unsorted => ?_, permuted, permuted.length_eq, fun everything => ?_, fun empty => ?_⟩
  · rw [unsorted] at arranged
    exact (Except.ok.inj arranged).symm
  · rw [matchingKeeps matched, everything]
    exact List.filter_eq_self.mpr fun row _ => decide_eq_true (keepsWithoutGroups row)
  · rw [matchingKeeps matched]
    exact List.filter_eq_nil_iff.mpr fun row _ => by simpa using keepsOfEmptyGroup empty row

def twoGroups : Request :=
  { page := none, pageSize := none, sorting := [⟨"price", .direction .descending⟩],
    filters := [
      ⟨[⟨"price", .operator .equals, .int 1⟩, ⟨"name", .operator .contains, .text "y"⟩]⟩,
      ⟨[⟨"name", .operator .notEquals, .text "z"⟩]⟩],
    fields := [], args := none }

def pricedRow (price : Int) (name : String) : Value :=
  .dict [("price", .int price), ("name", .text name)]

theorem twoGroupsFilter :
    let rows := [pricedRow 1 "x", pricedRow 2 "y", pricedRow 1 "z", pricedRow 3 "u"]
    let page : Page := ⟨[pricedRow 2 "y", pricedRow 1 "x"], 2⟩
    twoGroups.run rows = .ok page ∧
      page.items.Perm (rows.filter (Keeps twoGroups.filters ·)) ∧
      page.total = (rows.filter (Keeps twoGroups.filters ·)).length := by
  intro rows page
  have ran : twoGroups.run rows = .ok page := by cbv
  obtain ⟨-, permuted, counted, -⟩ := unpagedRunFilters rfl ran
  exact ⟨ran, permuted, counted⟩

end TableQuery
