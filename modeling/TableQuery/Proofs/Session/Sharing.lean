import TableQuery.Session
import TableQuery.Proofs.Load.History
import TableQuery.Proofs.Outcome

/-! Lists that sources refer to.
A list is known by its address, and rows are looked up when a load is fetched. A load keeps the source
that it was made from, so what becomes of the source's name does not matter to it; what becomes of the
list does. -/
namespace TableQuery.Session

@[simp] theorem findSet {α : Type} (r : Registry α) (name other : String) (a : α) :
    (r.set name a).find? other = if name = other then some a else r.find? other :=
  Registry.lookupUpdate name other a r.entries

def Idle (s : Session) : Step → Prop
  | .create .. => False
  | .append id _ => s.names.find? id = none
  | .pop id => ∀ a, s.names.find? id = some a → s.rowsAt a = []
  | .subscribe id .. | .fetch id => s.loads.find? id = none
  | _ => True

inductive Moves (s : Session) : Step → Session → Prop
  | still {t : Step} (idle : s.Idle t) : Moves s t s
  | create (id : String) (rows : List Value) :
      Moves s (.create id rows)
        { s with shelf := s.shelf ++ [rows], names := s.names.set id s.shelf.length }
  | append {id : String} {a : Address} (found : s.names.find? id = some a) (row : Value) :
      Moves s (.append id row) (s.replace a (s.rowsAt a ++ [row]))
  | pop {id : String} {a : Address} (found : s.names.find? id = some a) :
      Moves s (.pop id) (s.replace a (s.rowsAt a).dropLast)
  | bind {id : String} {a : Address} (found : s.names.find? id = some a) (name : Value)
      (key : String) : Moves s (.bind name id) { s with sources := s.sources.set key (.rows a) }
  | registerRows (name source options : Value) (settings : Settings)
      (connection : Connection) (key : String) (rows : List Value) :
      Moves s (.register name source options settings connection)
        { s with shelf := s.shelf ++ [rows], sources := s.sources.set key (.rows s.shelf.length) }
  | registerRowless (name source options : Value) (settings : Settings)
      (connection : Connection) (key : String) {made : Source Address}
      (rowless : ∀ a, made ≠ .rows a) :
      Moves s (.register name source options settings connection)
        { s with sources := s.sources.set key made }
  | load {name : Value} {source : Source Address} (found : s.sources.get name = .ok (some source))
      (id : String) (request : Request) :
      Moves s (.load id name request)
        { s with loads := s.loads.set id ⟨.start source.kind, source, request⟩ }
  | subscribe {id : String} {p : PendingLoad} (found : s.loads.find? id = some p)
      (kind : EventKind) (subscriber : Subscriber) :
      Moves s (.subscribe id kind subscriber)
        { s with loads := s.loads.set id { p with load := p.load.subscribe kind subscriber } }
  | fetch {id : String} {p : PendingLoad} (found : s.loads.find? id = some p) (events : List Event) :
      Moves s (.fetch id)
        { s with loads := s.loads.set id { p with load := p.load.next .fetch }, events := events }

theorem fetchNext (load : Load) (resolution : Resolution) :
    (load.fetch resolution).1 = load.next .fetch := by
  cases fetched : load.fetched with
  | true =>
    cases load
    simp_all [Load.fetch, Load.fetchWith, Load.next]
  | false => simp [Load.fetch, Load.fetchWith, Load.next, fetched]

theorem stepFetch {s : Session} {id : String} {p : PendingLoad}
    (found : s.loads.find? id = some p) :
    let fetched := (p.load.fetch (p.source.resolve s.rowsAt p.request)).2
    s.step (.fetch id) =
      ({ s with loads := s.loads.set id { p with load := p.load.next .fetch },
                events := fetched.events }, .ok (.fetched fetched)) := by
  simp [step, attempt, pending, found, fetchNext]

theorem registered {r sources : SourceRegistry Address} {name : Value}
    {made source : Source Address} {log : List LogEntry}
    (ok : r.register name (.ok made) = .ok (sources, source, log)) :
    ∃ key, sources = r.set key made := by
  obtain ⟨key, -, chosen⟩ := bindOk.mp ok
  split at chosen
  · cases chosen
  · cases chosen
    exact ⟨key, rfl⟩

theorem bindMoves (s : Session) (name : Value) (id : String) :
    Moves s (.bind name id) (s.step (.bind name id)).1 := by
  unfold step
  split
  · rename_i s' reply ran
    obtain ⟨a, address, ran⟩ := bindOk.mp ran
    obtain ⟨⟨sources, source, log⟩, ok, last⟩ := bindOk.mp ran
    obtain ⟨key, rfl⟩ := registered ok
    cases last
    unfold Session.address at address
    split at address
    · rename_i b found
      cases address
      exact .bind found name key
    · cases address
  · exact .still trivial

theorem registerMoves (s : Session) (name source options : Value) (settings : Settings)
    (connection : Connection) :
    Moves s (.register name source options settings connection)
      (s.step (.register name source options settings connection)).1 := by
  unfold step
  split
  · rename_i s' reply ran
    obtain ⟨_, -, ran⟩ := bindOk.mp ran
    split at ran
    · cases ran
    · obtain ⟨made, -, ran⟩ := bindOk.mp ran
      obtain ⟨⟨sources, kept, log⟩, ok, last⟩ := bindOk.mp ran
      obtain ⟨key, rfl⟩ := registered ok
      cases last
      cases made with
      | rows rows => exact .registerRows name source options settings connection key rows
      | empty | remote =>
        exact .registerRowless name source options settings connection key fun a => by simp
  · exact .still trivial

theorem stillMoves {s : Session} {t : Step} (idle : s.Idle t) (same : (s.step t).1 = s) :
    Moves s t (s.step t).1 := by
  rw [same]
  exact .still idle

theorem stepMoves (s : Session) (t : Step) : Moves s t (s.step t).1 := by
  cases t with
  | create id rows => exact .create id rows
  | append id row =>
    cases found : s.names.find? id with
    | none => exact stillMoves found (by simp [step, attempt, address, found])
    | some a => simpa [step, attempt, address, found] using Moves.append found row
  | pop id =>
    cases found : s.names.find? id with
    | none => exact stillMoves (by simp [Idle, found]) (by simp [step, attempt, address, found])
    | some a =>
      cases last : (s.rowsAt a).getLast? with
      | none =>
        have vacant : s.rowsAt a = [] := List.getLast?_eq_none_iff.mp last
        exact stillMoves (by simp [Idle, found, vacant])
          (by simp [step, attempt, address, found, last])
      | some row => simpa [step, attempt, address, found, last] using Moves.pop found
  | bind name id => exact bindMoves s name id
  | register name source options settings connection =>
    exact registerMoves s name source options settings connection
  | rows id =>
    cases found : s.names.find? id <;>
      exact stillMoves trivial (by simp [step, attempt, address, found])
  | find name =>
    cases found : s.sources.get name <;> exact stillMoves trivial (by simp [step, attempt, found])
  | names | describe => exact .still trivial
  | load id name request =>
    cases found : s.sources.get name with
    | error f => exact stillMoves trivial (by simp [step, attempt, found])
    | ok source =>
      cases source with
      | none => exact stillMoves trivial (by simp [step, attempt, found])
      | some source => simpa [step, attempt, found] using Moves.load found id request
  | subscribe id kind subscriber =>
    cases found : s.loads.find? id with
    | none => exact stillMoves found (by simp [step, attempt, pending, found])
    | some p => simpa [step, attempt, pending, found] using Moves.subscribe found kind subscriber
  | fetch id =>
    cases found : s.loads.find? id with
    | none => exact stillMoves found (by simp [step, attempt, pending, found])
    | some p =>
      rw [stepFetch found]
      exact .fetch found _

structure Placed (s : Session) : Prop where
  names : ∀ id a, s.names.find? id = some a → a < s.shelf.length
  sources : ∀ key a, s.sources.find? key = some (.rows a) → a < s.shelf.length

theorem placedEmpty : Placed empty := by
  constructor <;> intro _ _ found <;> cases found

theorem placedReplace {s : Session} (placed : s.Placed) (a : Address) (rows : List Value) :
    (s.replace a rows).Placed := by
  have size : (s.replace a rows).shelf.length = s.shelf.length := List.length_set
  exact ⟨fun id b found => size ▸ placed.names id b found,
    fun key b found => size ▸ placed.sources key b found⟩

theorem placedShelve {s : Session} (placed : s.Placed) (rows : List Value) :
    Placed (s.shelve rows).1 := by
  have grown : (s.shelve rows).1.shelf.length = s.shelf.length + 1 := by simp [shelve]
  exact ⟨fun id a found => grown ▸ Nat.lt_succ_of_lt (placed.names id a found),
    fun key a found => grown ▸ Nat.lt_succ_of_lt (placed.sources key a found)⟩

theorem placedSource {s : Session} (placed : s.Placed) (key : String) {source : Source Address}
    (shelved : ∀ a, source = .rows a → a < s.shelf.length) :
    Placed { s with sources := s.sources.set key source } := by
  refine ⟨placed.names, fun other a found => ?_⟩
  rw [findSet] at found
  split at found
  · exact shelved a (Option.some.inj found)
  · exact placed.sources other a found

theorem placedName {s : Session} (placed : s.Placed) (id : String) {a : Address}
    (shelved : a < s.shelf.length) : Placed { s with names := s.names.set id a } := by
  refine ⟨fun other b found => ?_, placed.sources⟩
  rw [findSet] at found
  split at found
  · cases found
    exact shelved
  · exact placed.names other b found

theorem movesPlaced {s s' : Session} {t : Step} (moves : Moves s t s') (placed : s.Placed) :
    s'.Placed := by
  cases moves with
  | still => exact placed
  | create id rows => exact placedName (placedShelve placed rows) id (by simp [shelve])
  | append | pop => exact placedReplace placed _ _
  | bind found name key =>
    exact placedSource placed key fun b same => by
      cases same
      exact placed.names _ _ found
  | registerRows name source options settings connection key rows =>
    exact placedSource (placedShelve placed rows) key fun b same => by
      cases same
      simp [shelve]
  | registerRowless name source options settings connection key rowless =>
    exact placedSource placed key fun a same => absurd same (rowless a)
  | load | subscribe | fetch => exact ⟨placed.names, placed.sources⟩

theorem runPlaced {s : Session} (placed : s.Placed) (ts : List Step) : (s.run ts).1.Placed := by
  induction ts generalizing s with
  | nil => exact placed
  | cons t rest ih => exact ih (movesPlaced (s.stepMoves t) placed)

def edited (s : Session) (a : Address) : Step → List Value
  | .append id row => if s.names.find? id = some a then s.rowsAt a ++ [row] else s.rowsAt a
  | .pop id => if s.names.find? id = some a then (s.rowsAt a).dropLast else s.rowsAt a
  | _ => s.rowsAt a

theorem rowsAtShelve {s : Session} {a : Address} (shelved : a < s.shelf.length)
    (rows : List Value) : (s.shelve rows).1.rowsAt a = s.rowsAt a := by
  simp [shelve, rowsAt, List.getElem?_append_left shelved]

theorem rowsAtReplace {s : Session} {a : Address} (shelved : a < s.shelf.length) (b : Address)
    (edit : List Value → List Value) : (s.replace b (edit (s.rowsAt b))).rowsAt a =
      if b = a then edit (s.rowsAt a) else s.rowsAt a := by
  by_cases same : b = a
  · subst same
    simp [replace, rowsAt, shelved]
  · simp [replace, rowsAt, same]

theorem movesRows {s s' : Session} {t : Step} (moves : Moves s t s') {a : Address}
    (shelved : a < s.shelf.length) : s'.rowsAt a = s.edited a t := by
  cases moves with
  | still idle =>
    cases t with
    | append id row => simp [edited, show s.names.find? id = none from idle]
    | pop id =>
      rw [edited]
      split
      · rename_i found
        simp [idle a found]
      · rfl
    | _ => rfl
  | @append id b found row => simpa [edited, found] using rowsAtReplace shelved b (· ++ [row])
  | @pop id b found => simpa [edited, found] using rowsAtReplace shelved b List.dropLast
  | create id rows => exact rowsAtShelve shelved rows
  | registerRows name source options settings connection key rows => exact rowsAtShelve shelved rows
  | bind | registerRowless | load | subscribe | fetch => rfl

def Step.onLoads : Step → Bool
  | .load .. | .subscribe .. | .fetch .. => true
  | _ => false

structure Undisturbed (s s' : Session) : Prop where
  shelf : s'.shelf = s.shelf
  names : s'.names = s.names
  sources : s'.sources = s.sources

theorem movesUndisturbed {s s' : Session} {t : Step} (moves : Moves s t s')
    (onLoads : t.onLoads = true) : Undisturbed s s' := by
  cases moves with
  | still | load | subscribe | fetch => exact ⟨rfl, rfl, rfl⟩
  | _ => cases onLoads

def Step.callOn? (id : String) : Step → Option Load.Call
  | .subscribe other kind s => if other = id then some (.subscribe kind s) else none
  | .fetch other => if other = id then some .fetch else none
  | _ => none

def calls (id : String) (ts : List Step) : List Load.Call := ts.filterMap (Step.callOn? id)

/-- No step puts another load in the place of the one of this id. -/
def Kept (id : String) : Session → List Step → Prop
  | _, [] => True
  | s, t :: rest =>
    (∀ name request, t = .load id name request → ∀ source, s.sources.get name ≠ .ok (some source)) ∧
      Kept id (s.step t).1 rest

theorem movesPending {s s' : Session} {t : Step} (moves : Moves s t s') {id : String}
    {p : PendingLoad} (there : s.loads.find? id = some p)
    (kept : ∀ name request, t = .load id name request →
      ∀ source, s.sources.get name ≠ .ok (some source)) :
    s'.loads.find? id = some { p with load := (t.callOn? id).elim p.load p.load.next } := by
  cases moves with
  | still idle =>
    cases t with
    | subscribe other | fetch other =>
      have different : other ≠ id := by
        rintro rfl
        cases there.symm.trans idle
      simpa [Step.callOn?, different] using there
    | _ => exact there
  | load found other request =>
    have different : other ≠ id := by
      rintro rfl
      exact kept _ request rfl _ found
    rw [findSet, if_neg different]
    exact there
  | @subscribe other q found kind subscriber =>
    rw [findSet]
    by_cases same : other = id
    · subst same
      cases found.symm.trans there
      simp [Step.callOn?, Load.next]
    · simpa [Step.callOn?, same] using there
  | @fetch other q found events =>
    rw [findSet]
    by_cases same : other = id
    · subst same
      cases found.symm.trans there
      simp [Step.callOn?]
    · simpa [Step.callOn?, same] using there
  | _ => exact there

theorem runPending {s : Session} {id : String} {p : PendingLoad} {ts : List Step}
    (there : s.loads.find? id = some p) (kept : Kept id s ts) :
    (s.run ts).1.loads.find? id = some { p with load := (calls id ts).foldl Load.next p.load } := by
  induction ts generalizing s p with
  | nil => exact there
  | cons t rest ih =>
    have next := movesPending (s.stepMoves t) there kept.1
    have later := ih next kept.2
    rw [show (s.run (t :: rest)).1 = ((s.step t).1.run rest).1 from rfl, later, calls, calls,
      List.filterMap_cons]
    cases t.callOn? id <;> rfl

theorem runAppend (s : Session) (before after : List Step) :
    (s.run (before ++ after)).1 = ((s.run before).1.run after).1 := by
  induction before generalizing s with
  | nil => rfl
  | cons t rest ih => exact ih (s.step t).1

theorem sourceOfName {s : Session} {name : Value} {source : Source Address}
    (bound : s.sources.get name = .ok (some source)) :
    ∃ key, s.sources.find? key = some source := by
  obtain ⟨key, -, found⟩ := bindOk.mp bound
  exact ⟨key, Except.ok.inj found⟩

theorem pendingLoad {s : Session} {name : Value} {source : Source Address}
    (bound : s.sources.get name = .ok (some source)) (id : String) (request : Request) :
    (s.step (.load id name request)).1.loads.find? id =
      some ⟨.start source.kind, source, request⟩ := by
  simp [step, attempt, bound]

theorem fetchLoaded {s : Session} {id : String} {name : Value} {request : Request}
    {source : Source Address} {between : List Step}
    (bound : s.sources.get name = .ok (some source))
    (kept : Kept id (s.step (.load id name request)).1 between) (first : .fetch ∉ calls id between) :
    let last := (s.run (.load id name request :: between)).1
    ∃ f, (last.step (.fetch id)).2 = .ok (.fetched f) ∧
      Load.Concluded (Load.latest (calls id between)) (source.resolve last.rowsAt request) f := by
  intro last
  have there := runPending (pendingLoad bound id request) kept
  have unfetched := Load.unfetchedAfter source.kind first
  generalize (calls id between).foldl Load.next (.start source.kind) = load at there unfetched
  refine ⟨load.report (source.resolve last.rowsAt request), ?_, ?_⟩
  · rw [stepFetch (s := last) there]
    simp [Load.fetch, Load.fetchWith, unfetched.fresh]
  · rw [← unfetched.heard]
    exact Load.reportConcludes load _

theorem callsFetch {id : String} {ts : List Step} (absent : .fetch id ∉ ts) :
    .fetch ∉ calls id ts := by
  intro called
  obtain ⟨t, member, calling⟩ := List.mem_filterMap.mp called
  cases t with
  | fetch other =>
    by_cases same : other = id
    · exact absent (same ▸ member)
    · simp [Step.callOn?, same] at calling
  | subscribe other kind subscriber =>
    simp only [Step.callOn?] at calling
    split at calling <;> cases calling
  | _ => cases calling

theorem bindRefers {s : Session} {id : String} {a : Address} (found : s.names.find? id = some a)
    {name : Value} {key : String} (named : nameOf name = .ok key) (present : key ≠ "") :
    (s.step (.bind name id)).1.sources.get name = .ok (some (.rows a)) := by
  simp [step, attempt, address, found, SourceRegistry.register, SourceRegistry.get, named, present]

/- A source refers to the list that it was registered with; lists change by what is added to them and
taken from them; and loads change neither. A load therefore finds what the list of its source holds
when it is fetched. -/
theorem rowsReadWhenFetched {earlier between : List Step} {id : String} {name : Value}
    {request : Request} {a : Address}
    (bound : (empty.run earlier).1.sources.get name = .ok (some (.rows a)))
    (kept : Kept id ((empty.run earlier).1.step (.load id name request)).1 between)
    (first : .fetch id ∉ between) :
    let last := (empty.run (earlier ++ .load id name request :: between)).1
    (a < (empty.run earlier).1.shelf.length ∧
      ∃ f, (last.step (.fetch id)).2 = .ok (.fetched f) ∧
        Load.Concluded (Load.latest (calls id between)) ⟨request.run (last.rowsAt a), [], []⟩ f) ∧
    (∀ (s : Session) (list : String) (b : Address) (other : Value) (key : String),
      s.names.find? list = some b → nameOf other = .ok key → key ≠ "" →
      (s.step (.bind other list)).1.sources.get other = .ok (some (.rows b))) ∧
    (∀ (s : Session) (b : Address) (t : Step), b < s.shelf.length →
      (s.step t).1.rowsAt b = s.edited b t) ∧
    ∀ (s : Session) (t : Step), t.onLoads = true → Undisturbed s (s.step t).1 := by
  intro last
  refine ⟨⟨?_, ?_⟩, fun s list b other key found named present => bindRefers found named present,
    fun s b t shelved => movesRows (s.stepMoves t) shelved,
    fun s t onLoads => movesUndisturbed (s.stepMoves t) onLoads⟩
  · obtain ⟨key, found⟩ := sourceOfName bound
    exact (runPlaced placedEmpty earlier).sources key a found
  · have fetched := fetchLoaded bound kept (callsFetch first)
    rw [← runAppend] at fetched
    exact fetched

theorem grownListRead :
    let row (n : Int) : Value := .dict [("n", .int n)]
    let earlier : List Step :=
      [.create "xs" [row 1], .create "ys" [], .bind (.text " rows ") "xs"]
    let between : List Step :=
      [.append "xs" (row 2), .bind (.text "rows") "ys", .create "zs" [row 9],
        .subscribe "first" .success ⟨"seen", none⟩, .load "other" (.text "rows") .everything,
        .fetch "other", .append "xs" (row 3), .pop "xs", .create "xs" []]
    let last := (empty.run (earlier ++ .load "first" (.text "rows") .everything :: between)).1
    ∃ f, (last.step (.fetch "first")).2 = .ok (.fetched f) ∧
      f.events = [.succeeded "seen" ⟨[row 1, row 2], 2⟩] := by
  intro row earlier between last
  have bound : (empty.run earlier).1.sources.get (.text "rows") = .ok (some (.rows 0)) := rfl
  have kept : Kept "first"
      ((empty.run earlier).1.step (.load "first" (.text "rows") .everything)).1 between := by
    simp [Kept, between]
  have first : Step.fetch "first" ∉ between := by simp [between]
  obtain ⟨⟨-, f, fetched, concluded⟩, -⟩ := rowsReadWhenFetched bound kept first
  have rows : Request.everything.run (last.rowsAt 0) = .ok ⟨[row 1, row 2], 2⟩ := rfl
  exact ⟨f, fetched, concluded.succeeded _ rows⟩

end TableQuery.Session
