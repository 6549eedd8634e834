import TableQuery.Proofs.OData.FilterReading
import TableQuery.Proofs.Sort.Rearranging
import TableQuery.Proofs.Value.Faults
import TableQuery.Query

/-! Requests that are rejected for a word that no one knows: an operator or a direction.
Rows in memory and the remote query reject the same requests, both for the first such word. Rows in
memory do so before any row is looked at, or compared with another one. -/
namespace TableQuery
open OData

def strayWord {γ : Type} (resolve : Value → Except Fault γ) (v : Value) : Option Value :=
  match resolve v with
  | .ok _ => none
  | .error _ => some v

theorem strayIsWord {γ : Type} {resolve : Value → Except Fault γ} {v w : Value}
    (stray : strayWord resolve v = some w) : w = v := by
  unfold strayWord at stray
  split at stray
  · cases stray
  · exact (Option.some.inj stray).symm

def FilterClause.stray (c : FilterClause) : Option Value := strayWord Operator.resolve c.operator

def FilterGroup.stray (g : FilterGroup) : Option Value := g.clauses.findSome? (·.stray)

theorem firstOfCons {γ : Type} (stray : γ → Option Value) (c : γ) (cs : List γ) :
    (c :: cs).findSome? stray = (stray c).or (cs.findSome? stray) := by
  cases found : stray c <;> simp [found]

theorem strayOfGroups (r : Request) :
    r.clauses.findSome? (·.stray) = r.filters.findSome? (·.stray) := by
  rw [Request.clauses]
  induction r.filters with
  | nil => rfl
  | cons g groups ih =>
    rw [List.flatMap_cons, List.findSome?_append, ih, firstOfCons, FilterGroup.stray]

def SortKey.stray (k : SortKey) : Option Value := strayWord Direction.resolve k.direction

variable {α β : Type} {make : Value → Fault} {word other : Option Value}

structure StopsAt (make : Value → Fault) (word : Option Value) (x : Except Fault α) : Prop where
  stray : ∀ v, word = some v → x = .error (.about make v)
  clear : word = none → ∃ a, x = .ok a

theorem StopsAt.known {x : Except Fault α} (stops : StopsAt make word x) {a : α} (done : x = .ok a) :
    word = none := by
  cases found : word with
  | none => rfl
  | some w => cases done.symm.trans (stops.stray w found)

theorem StopsAt.fails {allowed : Fault → Prop} {x : Except Fault α} (stops : StopsAt make word x)
    (short : ∀ w, word = some w → w.hasLongInteger = false) (made : ∀ w, allowed (make w)) :
    FailsWithin allowed x := by
  cases found : word with
  | none =>
    obtain ⟨a, done⟩ := stops.clear found
    exact done ▸ okFails a
  | some w =>
    rw [stops.stray w found, Fault.aboutShort (short w found)]
    exact errorFails (made w)

theorem stopsNowhere {x : Except Fault α} (done : ∃ a, x = .ok a) : StopsAt make none x :=
  ⟨fun _ found => (nomatch found), fun _ => done⟩

theorem stopsBind {x : Except Fault α} {f : α → Except Fault β} (first : StopsAt make word x)
    (rest : ∀ a, StopsAt make other (f a)) : StopsAt make (word.or other) (x >>= f) := by
  cases found : word with
  | some v =>
    refine ⟨fun w same => ?_, fun none => nomatch none⟩
    cases same
    rw [first.stray v found, errorBind]
  | none =>
    obtain ⟨a, done⟩ := first.clear found
    rw [done, okBind, Option.none_or]
    exact rest a

theorem stopsDone {x : Except Fault α} {f : α → Except Fault β} (first : StopsAt make word x)
    (done : ∀ a, ∃ b, f a = .ok b) : StopsAt make word (x >>= f) := by
  rw [← word.or_none]
  exact stopsBind first fun a => stopsNowhere (done a)

theorem stopsResolve {resolve : Value → Except Fault α}
    (faults : ∀ v f, resolve v = .error f → f = .about make v) (v : Value) :
    StopsAt make (strayWord resolve v) (resolve v) := by
  unfold strayWord
  cases resolved : resolve v with
  | ok a => exact stopsNowhere ⟨a, rfl⟩
  | error f =>
    refine ⟨fun w same => ?_, fun none => nomatch none⟩
    cases same
    rw [faults v f resolved]

theorem stopsAlong {γ : Type} {stray : γ → Option Value} {one : γ → Except Fault α}
    (all : List γ → Except Fault β) {finish : α → β → β} (none : ∃ b, all [] = .ok b)
    (cons : ∀ c cs, all (c :: cs) = (do
      let first ← one c
      let rest ← all cs
      .ok (finish first rest)))
    {cs : List γ} (each : ∀ c ∈ cs, StopsAt make (stray c) (one c)) :
    StopsAt make (cs.findSome? stray) (all cs) := by
  induction cs with
  | nil => exact stopsNowhere none
  | cons c cs ih =>
    obtain ⟨head, tail⟩ := List.forall_mem_cons.mp each
    rw [firstOfCons, cons]
    exact stopsBind head fun a => stopsDone (ih tail) fun b => ⟨finish a b, rfl⟩

theorem operatorFault (v : Value) (f : Fault) (failed : Operator.resolve v = .error f) :
    f = .about .unknownOperator v := by
  unfold Operator.resolve at failed
  split at failed
  · cases failed
  · cases failed
  · split at failed
    · cases failed
    · split at failed
      · cases failed
      · exact (Except.error.inj failed).symm
  · exact (Except.error.inj failed).symm

theorem directionFault (v : Value) (f : Fault) (failed : Direction.resolve v = .error f) :
    f = .about .unknownDirection v := by
  unfold Direction.resolve at failed
  split at failed
  · cases failed
  · exact (Except.error.inj failed).symm

theorem checkStops (cs : List FilterClause) :
    StopsAt .unknownOperator (cs.findSome? (·.stray)) (checkOperators cs) := by
  have traversed (c : FilterClause) (cs : List FilterClause) : checkOperators (c :: cs) = (do
      let _ ← Operator.resolve c.operator
      let checked ← checkOperators cs
      .ok checked) := congrArg _ (funext fun _ => (bind_pure (checkOperators cs)).symm)
  exact stopsAlong checkOperators ⟨(), rfl⟩ traversed fun c _ =>
    stopsResolve operatorFault c.operator

theorem sortingStops (ks : List SortKey) :
    StopsAt .unknownDirection (ks.findSome? (·.stray)) (resolveSorting ks) := by
  have key (k : SortKey) : StopsAt .unknownDirection k.stray k.resolve :=
    stopsDone (stopsResolve directionFault k.direction) fun d => ⟨⟨k.field, d⟩, rfl⟩
  exact stopsAlong resolveSorting ⟨[], rfl⟩ (fun _ _ => rfl) fun k _ => key k

theorem remoteStops (v : Value) :
    StopsAt .unknownRemoteOperator (strayWord Operator.resolve v) (resolveOperator v) := by
  unfold strayWord resolveOperator
  cases resolved : Operator.resolve v with
  | ok op => exact stopsNowhere ⟨op, rfl⟩
  | error f =>
    refine ⟨fun w same => ?_, fun none => nomatch none⟩
    cases same
    cases operatorFault v f resolved
    cases long : v.hasLongInteger <;> simp [Fault.about, long]

theorem literalShort (version : Version) (info : Option FieldInfo) {v : Value}
    (short : v.hasLongInteger = false) : ∃ l, literal version info v = .ok l := by
  rcases literalOutcome version info v with ⟨_, long⟩ | ⟨l, shown, _⟩
  · cases short.symm.trans long
  · exact ⟨l, shown⟩

theorem candidatesShort (version : Version) (info : Option FieldInfo) {v : Value}
    (short : v.hasLongInteger = false) : ∃ ls, literals version info v.candidates = .ok ls := by
  rcases literalsOutcome version info v.candidates with ⟨_, w, member, long⟩ | ⟨ls, shown, _⟩
  · cases short.symm.trans (longCandidate member long)
  · exact ⟨ls, shown⟩

theorem clauseStops (version : Version) (r : Request) {c : FilterClause}
    (short : c.operand.hasLongInteger = false) :
    StopsAt .unknownRemoteOperator c.stray (clauseText version r c) := by
  refine stopsDone (remoteStops c.operator) fun op => ?_
  obtain ⟨l, shown⟩ := literalShort version (r.fieldInfo? c.field) short
  obtain ⟨ls, allShown⟩ := candidatesShort version (r.fieldInfo? c.field) short
  cases op with
  | within => exact ⟨membershipText version c.field ls, by simp [allShown]⟩
  | _ => exact ⟨_, by rw [shown]; rfl⟩

theorem groupStops (version : Version) (r : Request) {g : FilterGroup}
    (short : ∀ c ∈ g.clauses, c.operand.hasLongInteger = false) :
    StopsAt .unknownRemoteOperator g.stray (groupText version r g) := by
  have clauses : StopsAt .unknownRemoteOperator g.stray (clauseTexts version r g.clauses) :=
    stopsAlong (clauseTexts version r) ⟨[], rfl⟩ (fun _ _ => rfl) fun c member =>
      clauseStops version r (short c member)
  exact stopsDone clauses fun texts => ⟨_, rfl⟩

theorem filterStops (version : Version) {r : Request}
    (short : ∀ c ∈ r.clauses, c.operand.hasLongInteger = false) :
    StopsAt .unknownRemoteOperator (r.clauses.findSome? (·.stray)) (filterText version r) := by
  rw [strayOfGroups]
  have groups : StopsAt .unknownRemoteOperator (r.filters.findSome? (·.stray))
      (groupTexts version r r.filters) :=
    stopsAlong (groupTexts version r) ⟨[], rfl⟩ (fun _ _ => rfl) fun g member =>
      groupStops version r fun c inside => short c (List.mem_flatMap.mpr ⟨g, member, inside⟩)
  exact stopsDone groups fun texts => ⟨conjunction texts, rfl⟩

theorem orderStops (r : Request) :
    StopsAt .unknownDirection (r.sorting.findSome? (·.stray)) (orderText r) := by
  have key (k : SortKey) : StopsAt .unknownDirection k.stray (keyText k) :=
    stopsDone (stopsResolve directionFault k.direction) fun d => ⟨_, rfl⟩
  have keys : StopsAt .unknownDirection (r.sorting.findSome? (·.stray)) (keyTexts r.sorting) :=
    stopsAlong keyTexts ⟨[], rfl⟩ (fun _ _ => rfl) fun k _ => key k
  exact stopsDone keys fun texts => ⟨_, rfl⟩

section
variable {fits : Value → Prop} {allowed : Fault → Prop}

theorem clauseFails (tame : Value.Tame fits allowed) {c : FilterClause} (known : c.stray = none)
    (operand : fits c.operand) {row : Value} (fit : fits row) :
    FailsWithin allowed (c.matches row) := by
  obtain ⟨op, resolved⟩ := (stopsResolve operatorFault c.operator).clear known
  rw [FilterClause.matches, resolved, okBind]
  exact op.holdsFails tame (tame.fieldOf fit c.field) operand

theorem matchingFails (tame : Value.Tame fits allowed) {groups : List FilterGroup}
    (known : (groups.flatMap (·.clauses)).findSome? (·.stray) = none)
    (operands : ∀ c ∈ groups.flatMap (·.clauses), fits c.operand) {rows : List Value}
    (fit : ∀ row ∈ rows, fits row) : FailsWithin allowed (matching groups rows) := by
  rw [List.findSome?_eq_none_iff] at known
  induction rows with
  | nil => exact okFails []
  | cons row rows ih =>
    obtain ⟨first, others⟩ := List.forall_mem_cons.mp fit
    have group : ∀ g ∈ groups, FailsWithin allowed (g.matches row) := fun g member =>
      anyFails fun c inside => by
        have clause : c ∈ groups.flatMap (·.clauses) := List.mem_flatMap.mpr ⟨g, member, inside⟩
        exact clauseFails tame (known c clause) (operands c clause) first
    have rest := ih others
    exact branchFails (allFails group) (bindFails rest fun _ _ => okFails _) rest

theorem rowsFail (tame : Value.Tame fits allowed) (keys : List OrderKey) {a b : Value}
    (left : fits a) (right : fits b) : FailsWithin allowed (compareRows a b keys) := by
  induction keys with
  | nil => exact okFails _
  | cons key keys ih =>
    refine bindFails (Value.compareValuesFails tame (tame.fieldOf left _) (tame.fieldOf right _))
      fun o _ => ?_
    cases o with
    | eq => exact ih
    | lt => exact okFails _
    | gt => exact okFails _

theorem sortFails (tame : Value.Tame fits allowed) (keys : List OrderKey) {rows : List Value}
    (fit : ∀ row ∈ rows, fits row) : FailsWithin allowed (sortRows keys rows) :=
  Sort.Plan.runFails (Sort.sortGathers rows) fun a b left right =>
    bindFails (rowsFail tame keys (fit a left) (fit b right)) fun _ _ => okFails _

theorem arrangeFails (tame : Value.Tame fits allowed) {sorting : List SortKey}
    (known : sorting.findSome? (·.stray) = none) {rows : List Value} (fit : ∀ row ∈ rows, fits row) :
    FailsWithin allowed (arrange sorting rows) := by
  obtain ⟨keys, resolved⟩ := (sortingStops sorting).clear known
  unfold arrange
  split
  · exact okFails rows
  · rw [resolved, okBind]
    exact sortFails tame keys fit

end

theorem arrangeStops {sorting : List SortKey} {rows : List Value} {d : Value}
    (stray : sorting.findSome? (·.stray) = some d) :
    arrange sorting rows = .error (.about .unknownDirection d) := by
  cases sorting with
  | nil => cases stray
  | cons k ks => rw [arrange, if_neg (by simp), (sortingStops (k :: ks)).stray d stray, errorBind]

def Raises (kind : FaultKind) (x : Except Fault α) : Prop := ∃ f, x = .error f ∧ f.kind = kind

structure Rejects (kind : FaultKind) (make : Value → Fault) (word : Option Value)
    (x : Except Fault α) : Prop where
  stray : ∀ v, word = some v → x = .error (.about make v)
  clear : word = none → FailsWithin (·.kind ≠ kind) x
  kinds : ∀ v, (make v).kind = kind
  own : kind ≠ .improper

theorem Rejects.raises {kind : FaultKind} {x : Except Fault α} (rejects : Rejects kind make word x) :
    Raises kind x ↔ ∃ v, word = some v ∧ v.hasLongInteger = false := by
  refine ⟨fun ⟨f, failed, same⟩ => ?_, fun ⟨v, found, short⟩ => ?_⟩
  · cases found : word with
    | none => exact absurd same (rejects.clear found f failed)
    | some v =>
      refine ⟨v, rfl, Bool.eq_false_iff.mpr fun long => rejects.own ?_⟩
      cases (rejects.stray v found).symm.trans failed
      rw [← same, Fault.about, if_pos long]
      rfl
  · exact ⟨make v, by rw [rejects.stray v found, Fault.aboutShort short], rejects.kinds v⟩

/- Two steps that fail for the same word, each with a fault of its own kind. A word too long to be
told is no word that either of them can fail for. -/
structure RejectedAlike (word : Option Value) (kind kind' : FaultKind) (make make' : Value → Fault)
    (x : Except Fault α) (y : Except Fault β) : Prop where
  agree : Raises kind x ↔ Raises kind' y
  carried : Raises kind x → ∃ v, word = some v ∧ x = .error (make v) ∧ y = .error (make' v)
  certain : ∀ v, word = some v → v.hasLongInteger = false → Raises kind x

theorem rejectedAlike {kind kind' : FaultKind} {make' : Value → Fault} {x : Except Fault α}
    {y : Except Fault β} (first : Rejects kind make word x) (second : Rejects kind' make' word y) :
    RejectedAlike word kind kind' make make' x y := by
  refine ⟨first.raises.trans second.raises.symm, fun raised => ?_,
    fun v found short => first.raises.mpr ⟨v, found, short⟩⟩
  obtain ⟨v, found, short⟩ := first.raises.mp raised
  exact ⟨v, found, by rw [first.stray v found, Fault.aboutShort short],
    by rw [second.stray v found, Fault.aboutShort short]⟩

theorem rejectsOfStops {kind : FaultKind} {x : Except Fault α} (stops : StopsAt make word x)
    (kinds : ∀ v, (make v).kind = kind) (own : kind ≠ .improper) : Rejects kind make word x := by
  refine ⟨stops.stray, fun none => ?_, kinds, own⟩
  obtain ⟨a, done⟩ := stops.clear none
  exact done ▸ okFails a

theorem ofOtherKind {kind : FaultKind} {x : Except Fault α}
    (other : kind ∉ [.unsuitable, .arithmetic, .improper]) (fails : FailsWithin Fault.OfValues x) :
    FailsWithin (·.kind ≠ kind) x := fun f failed same => other (same ▸ fails f failed)

def Request.strayOperator (r : Request) : Option Value := r.clauses.findSome? (·.stray)

def Request.strayDirection (r : Request) : Option Value := r.sorting.findSome? (·.stray)

theorem runRejectsOperator (r : Request) (rows : List Value) :
    Rejects .unknownOperator .unknownOperator r.strayOperator (r.run rows) := by
  refine ⟨fun v found => ?_, fun known => ?_, fun _ => rfl, by decide⟩
  · rw [Request.run, (checkStops r.clauses).stray v found, errorBind]
  · obtain ⟨_, checked⟩ := (checkStops r.clauses).clear known
    rw [Request.run, checked, okBind]
    have matched := matchingFails Value.anyTame known (fun _ _ => trivial) fun row (_ : row ∈ rows) =>
      trivial
    refine bindFails (ofOtherKind (by decide) matched) fun kept _ =>
      bindFails ?_ fun sorted _ => okFails _
    cases directions : r.sorting.findSome? (·.stray) with
    | some d =>
      rw [arrangeStops directions, Fault.about]
      split <;> exact errorFails (by simp [Fault.kind])
    | none =>
      exact ofOtherKind (by decide) (arrangeFails Value.anyTame directions fun _ _ => trivial)

theorem runRejectsDirection {r : Request} {rows kept : List Value} (known : r.strayOperator = none)
    (matched : matching r.filters rows = .ok kept) :
    Rejects .unknownDirection .unknownDirection r.strayDirection (r.run rows) := by
  obtain ⟨_, checked⟩ := (checkStops r.clauses).clear known
  have ran : r.run rows = (do
      let sorted ← arrange r.sorting kept
      .ok ⟨r.window sorted, sorted.length⟩) := by
    rw [Request.run, checked, okBind, matched, okBind]
  rw [ran]
  refine ⟨fun v found => ?_, fun directions => ?_, fun _ => rfl, by decide⟩
  · rw [arrangeStops found, errorBind]
  · exact bindFails (ofOtherKind (by decide)
      (arrangeFails Value.anyTame directions fun _ _ => trivial)) fun _ _ => okFails _

theorem wordsRejectedAlike (version : Version) {r : Request}
    (short : ∀ c ∈ r.clauses, c.operand.hasLongInteger = false) :
    (∀ rows, RejectedAlike r.strayOperator .unknownOperator .unknownRemoteOperator
      .unknownOperator .unknownRemoteOperator (r.run rows) (filterText version r)) ∧
    (r.strayOperator = none → ∀ rows kept, matching r.filters rows = .ok kept →
      RejectedAlike r.strayDirection .unknownDirection .unknownDirection
        .unknownDirection .unknownDirection (r.run rows) (orderText r)) :=
  ⟨fun rows => rejectedAlike (runRejectsOperator r rows)
      (rejectsOfStops (filterStops version short) (fun _ => rfl) (by decide)),
    fun known _ _ matched => rejectedAlike (runRejectsDirection known matched)
      (rejectsOfStops (orderStops r) (fun _ => rfl) (by decide))⟩

def misspelt : Request :=
  { Request.everything with
    filters := [⟨[⟨"price", .text "lt", .decimal (.finite false 5 0)⟩,
      ⟨"price", .text "=~", .text "5"⟩]⟩] }

def misdirected : Request :=
  { Request.everything with sorting := [⟨"price", .text "desc"⟩, ⟨"name", .text "up"⟩] }

def unlikePrices : List Value := [.dict [("price", .text "x")], .dict [("price", .bool true)]]

theorem misspeltRejected :
    (∀ c ∈ misspelt.clauses, c.operand.hasLongInteger = false) ∧
      (∀ rows, misspelt.run rows = .error (.unknownOperator (.text "=~"))) ∧
      filterText .v3 misspelt = .error (.unknownRemoteOperator (.text "=~")) ∧
      matching misdirected.filters unlikePrices = .ok unlikePrices ∧
      misdirected.run unlikePrices = .error (.unknownDirection (.text "up")) ∧
      orderText misdirected = .error (.unknownDirection (.text "up")) := by
  have short : ∀ c ∈ misspelt.clauses, c.operand.hasLongInteger = false := by
    simp only [show misspelt.clauses = [⟨"price", .text "lt", .decimal (.finite false 5 0)⟩,
      ⟨"price", .text "=~", .text "5"⟩] from rfl, List.forall_mem_cons]
    exact ⟨rfl, rfl, by simp⟩
  have rejected : ∀ rows, misspelt.run rows = .error (.unknownOperator (.text "=~")) ∧
      filterText .v3 misspelt = .error (.unknownRemoteOperator (.text "=~")) := fun rows => by
    have alike := (wordsRejectedAlike .v3 short).1 rows
    obtain ⟨v, found, ran, remote⟩ := alike.carried (alike.certain (.text "=~") rfl rfl)
    cases found
    exact ⟨ran, remote⟩
  refine ⟨short, fun rows => (rejected rows).1, (rejected []).2, rfl, ?_⟩
  have none : ∀ c ∈ misdirected.clauses, c.operand.hasLongInteger = false := fun c member =>
    absurd member List.not_mem_nil
  have alike := (wordsRejectedAlike .v3 none).2 rfl unlikePrices unlikePrices rfl
  obtain ⟨v, found, ran, remote⟩ := alike.carried (alike.certain (.text "up") rfl rfl)
  cases found
  exact ⟨ran, remote⟩

end TableQuery
