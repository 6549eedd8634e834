import TableQuery.Load

/-! The history of one load: subscriptions and fetches in any order.
Up to the first fetch nothing runs and no one is told anything. The first fetch runs the query once
and tells the latest subscribers; whatever is called after it runs nothing and tells no one.
The query is an action of any monad, so that running it twice, or not at all, would show. -/
namespace TableQuery.Load

inductive Call where
  | subscribe (kind : EventKind) (s : Subscriber)
  | fetch

variable {m : Type → Type} [Monad m]

def call (query : m Resolution) (load : Load) : Call → m (Load × Option Fetched)
  | .subscribe kind s => pure (load.subscribe kind s, none)
  | .fetch => do
    let (load, fetched) ← load.fetchWith query
    pure (load, some fetched)

def calls (query : m Resolution) (load : Load) : List Call → m (Load × List (Option Fetched))
  | [] => pure (load, [])
  | c :: rest => do
    let (load, answer) ← load.call query c
    let (load, answers) ← load.calls query rest
    pure (load, answer :: answers)

def next (load : Load) : Call → Load
  | .subscribe kind s => load.subscribe kind s
  | .fetch => { load with fetched := true }

def quietAnswer (kind : String) : Call → Option Fetched
  | .subscribe .. => none
  | .fetch => some ⟨.error (.alreadyFetched kind), [], [], []⟩

theorem nextKind (load : Load) (c : Call) : (load.next c).kind = load.kind := by
  rcases c with ⟨_ | _ | _, _⟩ | _ <;> rfl

theorem callQuiet {query : m Resolution} [LawfulMonad m] {load : Load} {c : Call}
    (quiet : load.fetched = true ∨ c ≠ .fetch) :
    load.call query c = pure (load.next c, quietAnswer load.kind c) := by
  cases c with
  | subscribe kind s => rfl
  | fetch =>
    have fetched : load.fetched = true := quiet.resolve_right (· rfl)
    have unchanged : load.next .fetch = load := by
      cases load
      simp_all [next]
    simp [call, fetchWith, fetched, refusal, quietAnswer, unchanged]

theorem callFirst [LawfulMonad m] (query : m Resolution) {load : Load}
    (fresh : load.fetched = false) :
    load.call query .fetch = (do
      let resolution ← query
      pure (load.next .fetch, some (load.report resolution))) := by
  simp [call, fetchWith, fresh, next]

def subscriber (load : Load) : EventKind → Option Subscriber
  | .success => load.onSuccess
  | .error => load.onError
  | .always => load.onAlways

def latest (cs : List Call) (kind : EventKind) : Option Subscriber :=
  (cs.filterMap fun
    | .subscribe k s => if k = kind then some s else none
    | .fetch => none).getLast?

theorem nextSubscriber (load : Load) (c : Call) (kind : EventKind) :
    (load.next c).subscriber kind = (latest [c] kind).or (load.subscriber kind) := by
  cases c with
  | fetch => cases kind <;> rfl
  | subscribe k s => cases k <;> cases kind <;> rfl

theorem latestCons (c : Call) (cs : List Call) (kind : EventKind) :
    latest (c :: cs) kind = (latest cs kind).or (latest [c] kind) := by
  cases c with
  | fetch => simp [latest]
  | subscribe k s => by_cases same : k = kind <;> simp [latest, same, List.getLast?_cons]

theorem subscriberLatest (load : Load) (cs : List Call) (kind : EventKind) :
    (cs.foldl next load).subscriber kind = (latest cs kind).or (load.subscriber kind) := by
  induction cs generalizing load with
  | nil => rfl
  | cons c cs ih =>
    rw [List.foldl_cons, ih, nextSubscriber, latestCons c cs, Option.or_assoc]

def outcomeKind : Except Fault Page → EventKind
  | .ok _ => .success
  | .error _ => .error

/- What a fetch answers that ran the query. A subscriber that faults does not keep the last one from
being told, and what is told does not depend on any fault. -/
structure Concluded (subscriber : EventKind → Option Subscriber) (resolution : Resolution)
    (f : Fetched) : Prop where
  succeeded : ∀ page, resolution.outcome = .ok page → f.events =
    ((subscriber .success).map fun s => .succeeded s.tag page).toList ++
      ((subscriber .always).map fun s => .finished s.tag).toList
  failed : ∀ fault, resolution.outcome = .error fault → f.events =
    ((subscriber .error).map fun s => .failed s.tag fault).toList ++
      ((subscriber .always).map fun s => .finished s.tag).toList
  lastFault : ∀ fault, faultOf (subscriber .always) = some fault → f.reply = .error fault.escaped
  firstFault : faultOf (subscriber .always) = none → ∀ fault,
    faultOf (subscriber (outcomeKind resolution.outcome)) = some fault → f.reply = .error fault.escaped
  faultless : faultOf (subscriber .always) = none →
    faultOf (subscriber (outcomeKind resolution.outcome)) = none → f.reply = .ok resolution.outcome

theorem reportConcludes (load : Load) (resolution : Resolution) :
    Concluded load.subscriber resolution (load.report resolution) := by
  have listener : load.listener resolution.outcome =
      load.subscriber (outcomeKind resolution.outcome) := by
    cases resolution.outcome <;> rfl
  refine ⟨fun page ok => ?_, fun fault failed => ?_, fun fault last => ?_, fun calm fault first => ?_,
    fun calm calmToo => ?_⟩
  · simp [report, ok, Load.listener, subscriber, tell]
  · simp [report, failed, Load.listener, subscriber, tell]
  · simp only [report, show faultOf load.onAlways = some fault from last]
  · simp only [report, show faultOf load.onAlways = none from calm, listener, first]
  · simp only [report, show faultOf load.onAlways = none from calm, listener, calmToo]

theorem replyNotEnding {subscriber : EventKind → Option Subscriber} {resolution : Resolution}
    {f : Fetched} (concluded : Concluded subscriber resolution f) {fault : Fault}
    (failed : f.reply = .error fault) : fault.kind.root ≠ Fault.exhausted := by
  cases last : faultOf (subscriber .always) with
  | some g =>
    cases (concluded.lastFault g last).symm.trans failed
    exact g.escapedNever
  | none =>
    cases first : faultOf (subscriber (outcomeKind resolution.outcome)) with
    | some g =>
      cases (concluded.firstFault last g first).symm.trans failed
      exact g.escapedNever
    | none => cases (concluded.faultless last first).symm.trans failed

theorem keptKind (load : Load) (cs : List Call) : (cs.foldl next load).kind = load.kind := by
  induction cs generalizing load with
  | nil => rfl
  | cons c cs ih => rw [List.foldl_cons, ih, nextKind]

theorem keptFetched {cs : List Call} (absent : .fetch ∉ cs) (load : Load) :
    (cs.foldl next load).fetched = load.fetched := by
  induction cs generalizing load with
  | nil => rfl
  | cons c cs ih =>
    rw [List.foldl_cons, ih fun member => absent (List.mem_cons_of_mem c member)]
    cases c with
    | subscribe kind s => exact subscribeFetched load kind s
    | fetch => exact absurd List.mem_cons_self absent

structure Unfetched (kind : String) (before : List Call) (load : Load) : Prop where
  kind : load.kind = kind
  fresh : load.fetched = false
  heard : load.subscriber = latest before

theorem unfetchedAfter (kind : String) {before : List Call} (early : .fetch ∉ before) :
    Unfetched kind before (before.foldl next (start kind)) := by
  refine ⟨keptKind (start kind) before, keptFetched early (start kind), funext fun k => ?_⟩
  rw [subscriberLatest]
  cases k <;> simp [start, subscriber]

def counted (resolution : Resolution) : StateM Nat Resolution := do
  modify (· + 1)
  pure resolution

end TableQuery.Load
