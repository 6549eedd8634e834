import TableQuery.Proofs.Load.Exchange
import TableQuery.Proofs.OData.Answers
import TableQuery.Proofs.Query.Filtering

/-! The pages that loads deliver, and the totals that they tell of.
Rows in memory are cut from the rows that are counted, and where rows are counted for want of a count
the total is theirs. A count that a service tells of is taken as it is, so that a page has more rows
than its total just when the service counts fewer rows than it sends. -/
namespace TableQuery

inductive Delivered (f : Fetched) (page : Page) : Prop
  | replied (ok : f.reply = .ok (.ok page))
  | told {tag : String} (event : .succeeded tag page ∈ f.events)

/-- A remote service that answers a request with more rows than it counts. -/
inductive Understated {ρ : Type} : Source ρ → Request → Prop
  | counted {s : RemoteSource} {r : Request} {url : String} {payload raw : Value} {items : List Value}
      {n : Nat} (asked : OData.requestUrl s.version s.url r = .ok url)
      (answered : s.transport.answer url = .ok payload)
      (rows : OData.Answers s.version payload items raw) (count : OData.count? raw = some n)
      (fewer : n < items.length) : Understated (.remote s) r

theorem windowWithin (r : Request) (rows : List Value) : (r.window rows).length ≤ rows.length := by
  unfold Request.window
  split
  · exact Nat.le_refl _
  · exact ((List.take_sublist _ _).trans (List.drop_sublist _ _)).length_le

theorem runCounted {r : Request} {rows : List Value} {page : Page} (ran : r.run rows = .ok page) :
    page.items.length ≤ page.total := by
  obtain ⟨kept, sorted, -, -, rfl⟩ := runSteps ran
  exact windowWithin r sorted

namespace OData

theorem pageTotal {version : Version} {fallback : Bool} {payload : Value} {page : Page}
    {log : List LogEntry} (read : OData.page version fallback payload = .ok (page, log)) :
    ∃ raw, Answers version payload page.items raw ∧
      (count? raw = some page.total ∨ count? raw = none ∧ page.total = page.items.length) := by
  unfold OData.page at read
  split at read
  · cases read
  · rename_i items raw found
    have answers := (contentsIff version payload items raw).mp found
    split at read
    · rename_i total counted
      cases read
      exact ⟨raw, answers, .inl counted⟩
    · rename_i uncounted
      split at read
      · cases read
        exact ⟨raw, answers, .inr ⟨uncounted, rfl⟩⟩
      · cases read

theorem answersUnique {version : Version} {payload : Value} {items others : List Value}
    {raw other : Value} (answers : Answers version payload items raw)
    (answersToo : Answers version payload others other) :
    items = others ∧ raw = other := by
  have same := ((contentsIff version payload items raw).mpr answers).symm.trans
    ((contentsIff version payload others other).mpr answersToo)
  cases same
  exact ⟨rfl, rfl⟩

end OData

theorem remoteOutcome {s : RemoteSource} {r : Request} {url : String}
    (asked : OData.requestUrl s.version s.url r = .ok url) :
    (s.resolve r).outcome = s.delivered (s.transport.answer url) := by
  simp only [RemoteSource.resolve, RemoteSource.resolveWith, asked]
  exact (s.resolutionDelivered url _).1

theorem remoteResolved {s : RemoteSource} {r : Request} {page : Page}
    (resolved : (s.resolve r).outcome = .ok page) : ∃ url payload log,
      OData.requestUrl s.version s.url r = .ok url ∧ s.transport.answer url = .ok payload ∧
        OData.page s.version s.countFallback payload = .ok (page, log) := by
  cases asked : OData.requestUrl s.version s.url r with
  | error f =>
    simp only [RemoteSource.resolve, RemoteSource.resolveWith, asked] at resolved
    cases resolved
  | ok url =>
    obtain ⟨payload, answered, read⟩ := bindOk.mp ((remoteOutcome asked).symm.trans resolved)
    obtain ⟨⟨page, log⟩, read, same⟩ := bindOk.mp read
    cases same
    exact ⟨url, payload, log, rfl, mapErrorOk.mp answered, read⟩

theorem remoteCounted {ρ : Type} {s : RemoteSource} {r : Request} {page : Page}
    (resolved : (s.resolve r).outcome = .ok page) :
    page.items.length ≤ page.total ↔ ¬ Understated (.remote s : Source ρ) r := by
  obtain ⟨url, payload, log, asked, answered, read⟩ := remoteResolved resolved
  obtain ⟨raw, answers, total⟩ := OData.pageTotal read
  constructor
  · rintro enough ⟨askedToo, answeredToo, answersToo, count, fewer⟩
    cases asked.symm.trans askedToo
    cases answered.symm.trans answeredToo
    obtain ⟨rfl, rfl⟩ := OData.answersUnique answers answersToo
    rcases total with counted | ⟨uncounted, -⟩
    · cases counted.symm.trans count
      exact absurd enough (Nat.not_le.mpr fewer)
    · cases uncounted.symm.trans count
  · intro honest
    rcases total with counted | ⟨-, same⟩
    · exact Nat.le_of_not_lt fun fewer => honest (.counted asked answered answers counted fewer)
    · exact Nat.le_of_eq same.symm

theorem resolvedCounted {ρ : Type} {rowsOf : ρ → List Value} {source : Source ρ} {r : Request}
    {page : Page} (resolved : (source.resolve rowsOf r).outcome = .ok page) :
    page.items.length ≤ page.total ↔ ¬ Understated source r := by
  cases source with
  | empty =>
    cases resolved
    exact iff_of_true (Nat.le_refl _) nofun
  | rows reference => exact iff_of_true (runCounted resolved) nofun
  | remote s => exact remoteCounted resolved

namespace Load

theorem reportedPage {load : Load} {resolution : Resolution} {page : Page}
    (delivered : Delivered (load.report resolution) page) : resolution.outcome = .ok page := by
  cases delivered with
  | replied ok =>
    simp only [report] at ok
    split at ok
    · cases ok
    · cases ok
    · exact Except.ok.inj ok
  | told event =>
    simp only [report, List.mem_append, Option.mem_toList, Option.map_eq_some_iff] at event
    rcases event with ⟨s, -, same⟩ | ⟨s, -, same⟩
    · cases outcome : resolution.outcome with
      | ok other =>
        rw [outcome] at same
        cases same
        rfl
      | error f =>
        rw [outcome] at same
        cases same
    · cases same

theorem callDelivers {load : Load} {resolution : Resolution} {c : Call} {f : Fetched} {page : Page}
    (answered : (Id.run (load.call (pure resolution) c)).2 = some f) (delivered : Delivered f page) :
    resolution.outcome = .ok page := by
  cases c with
  | subscribe kind s => cases answered
  | fetch =>
    cases fetched : load.fetched with
    | true =>
      rw [callQuiet (.inl fetched)] at answered
      cases answered
      cases delivered with
      | replied ok => cases ok
      | told event => cases event
    | false =>
      rw [callFirst _ fetched] at answered
      cases answered
      exact reportedPage delivered

theorem callsDeliver {load : Load} {resolution : Resolution} {cs : List Call} {f : Fetched}
    {page : Page} (answered : some f ∈ (Id.run (load.calls (pure resolution) cs)).2)
    (delivered : Delivered f page) : resolution.outcome = .ok page := by
  induction cs generalizing load with
  | nil => cases answered
  | cons c rest ih =>
    rcases List.mem_cons.mp answered with first | later
    · exact callDelivers first.symm delivered
    · exact ih later

end Load

theorem understatedResolved {ρ : Type} (rowsOf : ρ → List Value) {source : Source ρ} {r : Request}
    (understated : Understated source r) :
    ∃ page, (source.resolve rowsOf r).outcome = .ok page ∧ page.total < page.items.length := by
  obtain @⟨s, r, url, payload, raw, items, n, asked, answered, rows, count, fewer⟩ := understated
  refine ⟨⟨items, n⟩, (remoteOutcome asked).trans ?_, fewer⟩
  rw [answered, RemoteSource.delivered, mapErrorOk.mpr rfl, okBind, OData.pageCounted rows count, okBind]

theorem pagesCounted {ρ : Type} (rowsOf : ρ → List Value) (source : Source ρ) (r : Request) :
    (∀ {load : Load} {cs : List Load.Call} {f : Fetched} {page : Page},
      some f ∈ (Id.run (load.calls (pure (source.resolve rowsOf r)) cs)).2 → Delivered f page →
        (page.items.length ≤ page.total ↔ ¬ Understated source r)) ∧
    (Understated source r →
      ∃ page, (source.resolve rowsOf r).outcome = .ok page ∧ page.total < page.items.length) :=
  ⟨fun answered delivered => resolvedCounted (Load.callsDeliver answered delivered),
    understatedResolved rowsOf⟩

def twoRows (count : Int) : Source Unit :=
  .remote ⟨"/rows", .v4, false,
    .constant (.ok (.dict [("value", .list [.int 1, .int 2]), ("@odata.count", .int count)]))⟩

def twoRowsFetched (count : Int) : List (Option Fetched) :=
  (Id.run ((Load.start "odata").calls
    (pure ((twoRows count).resolve (fun _ => []) .everything)) [.fetch])).2

def twoRowsAnswer (count : Int) : Fetched :=
  (Load.start "odata").report ((twoRows count).resolve (fun _ => []) .everything)

theorem countedRowsDelivered :
    (some (twoRowsAnswer 5) ∈ twoRowsFetched 5 ∧ Delivered (twoRowsAnswer 5) ⟨[.int 1, .int 2], 5⟩ ∧
      ¬ Understated (twoRows 5) .everything) ∧
    Understated (twoRows 1) .everything ∧
      ∃ page, ((twoRows 1).resolve (fun _ => []) .everything).outcome = .ok page ∧
        page.total < page.items.length := by
  have answered : some (twoRowsAnswer 5) ∈ twoRowsFetched 5 := List.mem_cons_self
  have delivered : Delivered (twoRowsAnswer 5) ⟨[.int 1, .int 2], 5⟩ := .replied (by cbv)
  have asked : OData.requestUrl .v4 "/rows" .everything = .ok "/rows?$count=true" := by cbv
  have understated : Understated (twoRows 1) .everything :=
    .counted asked rfl (.rows rfl) rfl (by decide)
  exact ⟨⟨answered, delivered,
      ((pagesCounted (fun _ => []) (twoRows 5) .everything).1 answered delivered).mp (by decide)⟩,
    understated, (pagesCounted (fun _ => []) (twoRows 1) .everything).2 understated⟩

theorem understatedRowsDelivered :
    ¬ ∀ f page, some f ∈ twoRowsFetched 1 → Delivered f page → page.items.length ≤ page.total := by
  intro enough
  have answered : some (twoRowsAnswer 1) ∈ twoRowsFetched 1 := List.mem_cons_self
  have delivered : Delivered (twoRowsAnswer 1) ⟨[.int 1, .int 2], 1⟩ := .replied (by cbv)
  exact absurd (enough _ _ answered delivered) (by decide)

end TableQuery
