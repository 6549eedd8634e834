import TableQuery.Proofs.OData.FilterReading
import TableQuery.Proofs.Query.Filtering

/-! Requests without the parts that say nothing: memberships without candidates, and the groups that
their loss leaves empty.
The remote query is the same without them. Rows in memory see no difference as long as every group
keeps a clause; a group that is lost matched nothing, so that its loss lets more rows through. -/
namespace TableQuery
open OData

def prunedGroups (groups : List FilterGroup) : List FilterGroup :=
  (survivors groups).map FilterGroup.mk

def Request.pruned (r : Request) : Request := { r with filters := prunedGroups r.filters }

theorem prunedLost {g : FilterGroup} (lost : remaining g = []) (groups : List FilterGroup) :
    prunedGroups (g :: groups) = prunedGroups groups := by
  simp [prunedGroups, survivors, lost]

theorem prunedStays {g : FilterGroup} (stays : remaining g ≠ []) (groups : List FilterGroup) :
    prunedGroups (g :: groups) = ⟨remaining g⟩ :: prunedGroups groups := by
  simp [prunedGroups, survivors, stays]

theorem noneSurvive {groups : List FilterGroup} :
    prunedGroups groups = [] ↔ ∀ g ∈ groups, remaining g = [] := by
  simp [prunedGroups, survivors]

theorem vacantIff {c : FilterClause} : vacant c = true ↔
    Operator.resolve c.operator = .ok .within ∧ c.operand.candidates = [] := by
  unfold vacant
  split
  · rename_i known
    simp [known]
  · rename_i other
    simpa using fun known => absurd known other

theorem knownOperator {v : Value} {op : Operator} (resolved : resolveOperator v = .ok op) :
    Operator.resolve v = .ok op := by
  unfold resolveOperator at resolved
  split at resolved
  · cases resolved
  · exact resolved

theorem membershipAbsent {version : Version} {field : String} {ls : List String}
    (absent : membershipText version field ls = none) : ls = [] := by
  rcases ls with _ | ⟨l, _ | ⟨k, rest⟩⟩
  · rfl
  all_goals cases absent

theorem clauseAbsent {version : Version} {r : Request} {c : FilterClause} :
    clauseText version r c = .ok none ↔ vacant c = true := by
  rw [vacantIff]
  refine ⟨fun absent => ?_, fun ⟨known, empty⟩ => ?_⟩
  · obtain ⟨op, resolved, written⟩ := bindOk.mp absent
    have known := knownOperator resolved
    cases op with
    | within =>
      obtain ⟨ls, shown, text⟩ := bindOk.mp written
      refine ⟨known, ?_⟩
      rcases literalsOutcome version (r.fieldInfo? c.field) c.operand.candidates with
        ⟨failed, _⟩ | ⟨ls', same, pairs, _⟩
      · rw [failed] at shown
        cases shown
      · cases shown.symm.trans same
        have nothing : ls = [] := membershipAbsent (Except.ok.inj text)
        subst nothing
        exact List.forall₂_nil_right_iff.mp pairs
    | _ =>
      obtain ⟨l, _, text⟩ := bindOk.mp written
      cases text
  · simp [clauseText, resolvedOperator known, empty, literals, membershipText]

structure Collects {γ : Type} (one : γ → Except Fault (Option String))
    (all : List γ → Except Fault (List String)) : Prop where
  nil : all [] = .ok []
  cons : ∀ c cs, all (c :: cs) = (do
    let first ← one c
    let others ← all cs
    .ok (first.toList ++ others))

section
variable {γ : Type} {one : γ → Except Fault (Option String)}
  {all : List γ → Except Fault (List String)} (collects : Collects one all)
include collects

theorem Collects.skip {c : γ} (silent : one c = .ok none) (cs : List γ) :
    all (c :: cs) = all cs := by
  rw [collects.cons, silent, okBind]
  cases all cs <;> rfl

theorem Collects.silent {cs : List γ} (nothing : all cs = .ok []) : ∀ c ∈ cs, one c = .ok none := by
  induction cs with
  | nil => exact List.forall_mem_nil _
  | cons c cs ih =>
    rw [collects.cons] at nothing
    obtain ⟨first, shown, nothing⟩ := bindOk.mp nothing
    obtain ⟨others, rest, empty⟩ := bindOk.mp nothing
    obtain ⟨none, nil⟩ := List.append_eq_nil_iff.mp (Except.ok.inj empty)
    cases nil
    cases Option.toList_eq_nil_iff.mp none
    exact List.forall_mem_cons.mpr ⟨shown, ih rest⟩

theorem Collects.unique {all' : List γ → Except Fault (List String)} (other : Collects one all')
    (cs : List γ) : all cs = all' cs := by
  induction cs with
  | nil => rw [collects.nil, other.nil]
  | cons c cs ih => rw [collects.cons, other.cons, ih]

end

theorem clausesCollect (version : Version) (r : Request) :
    Collects (clauseText version r) (clauseTexts version r) := ⟨rfl, fun _ _ => rfl⟩

theorem groupsCollect (version : Version) (r : Request) :
    Collects (groupText version r) (groupTexts version r) := ⟨rfl, fun _ _ => rfl⟩

theorem textsRemaining (version : Version) (r : Request) (cs : List FilterClause) :
    clauseTexts version r (cs.filter (!vacant ·)) = clauseTexts version r cs := by
  induction cs with
  | nil => rfl
  | cons c cs ih =>
    by_cases empty : vacant c = true
    · rw [List.filter_cons_of_neg (by simp [empty]), ih,
        (clausesCollect version r).skip (clauseAbsent.mpr empty)]
    · rw [List.filter_cons_of_pos (by simp [empty]), clauseTexts, clauseTexts, ih]

theorem textsAbsent {version : Version} {r : Request} {cs : List FilterClause}
    (absent : clauseTexts version r cs = .ok []) : cs.filter (!vacant ·) = [] := by
  have silent := (clausesCollect version r).silent absent
  exact List.filter_eq_nil_iff.mpr fun c member => by simp [clauseAbsent.mp (silent c member)]

theorem groupRemaining (version : Version) (r : Request) (g : FilterGroup) :
    groupText version r ⟨remaining g⟩ = groupText version r g := by
  rw [groupText, groupText, remaining, textsRemaining]

theorem groupAbsent {version : Version} {r : Request} {g : FilterGroup} :
    groupText version r g = .ok none ↔ remaining g = [] := by
  refine ⟨fun absent => ?_, fun lost => ?_⟩
  · obtain ⟨texts, shown, nothing⟩ := bindOk.mp absent
    cases texts with
    | nil => exact textsAbsent shown
    | cons text texts => cases nothing
  · rw [← groupRemaining, lost]
    rfl

theorem groupsPruned (version : Version) (r : Request) (groups : List FilterGroup) :
    groupTexts version r (prunedGroups groups) = groupTexts version r groups := by
  induction groups with
  | nil => rfl
  | cons g groups ih =>
    by_cases lost : remaining g = []
    · rw [prunedLost lost, ih, (groupsCollect version r).skip (groupAbsent.mpr lost)]
    · rw [prunedStays lost, groupTexts, groupTexts, ih, groupRemaining]

theorem groupsAbsent (version : Version) (r : Request) {groups : List FilterGroup} :
    groupTexts version r groups = .ok [] ↔ prunedGroups groups = [] := by
  refine ⟨fun absent => ?_, fun lost => ?_⟩
  · have silent := (groupsCollect version r).silent absent
    exact noneSurvive.mpr fun g member => groupAbsent.mp (silent g member)
  · rw [← groupsPruned, lost]
    rfl

theorem textsKept (version : Version) (r : Request) (cs : List FilterClause) :
    clauseTexts version r.pruned cs = clauseTexts version r cs :=
  (clausesCollect version r.pruned).unique (clausesCollect version r) cs

theorem groupsKept (version : Version) (r : Request) (groups : List FilterGroup) :
    groupTexts version r.pruned groups = groupTexts version r groups := by
  have same : groupText version r.pruned = groupText version r := funext fun g => by
    rw [groupText, groupText, textsKept]
  exact (groupsCollect version r.pruned).unique (same ▸ groupsCollect version r) groups

theorem filterAbsent {version : Version} {r : Request} :
    filterText version r = .ok none ↔ r.pruned.filters = [] := by
  refine Iff.trans ⟨fun absent => ?_, fun absent => ?_⟩ (groupsAbsent version r)
  · obtain ⟨texts, shown, nothing⟩ := bindOk.mp absent
    rcases texts with _ | ⟨t, _ | ⟨s, rest⟩⟩
    · exact shown
    all_goals cases nothing
  · rw [filterText, absent]
    rfl

theorem vacantMatches {c : FilterClause} (empty : vacant c = true) (row : Value) :
    c.matches row = .ok false := by
  obtain ⟨known, candidates⟩ := vacantIff.mp empty
  simp only [FilterClause.matches, known, okBind, Operator.holds, amongCandidates, candidates]
  rfl

theorem remainingMatches (g : FilterGroup) (row : Value) :
    FilterGroup.matches ⟨remaining g⟩ row = g.matches row := by
  obtain ⟨clauses⟩ := g
  simp only [FilterGroup.matches, remaining]
  induction clauses with
  | nil => rfl
  | cons c clauses ih =>
    by_cases empty : vacant c = true
    · rw [List.filter_cons_of_neg (by simp [empty]), ih, List.anyM_cons, vacantMatches empty]
      rfl
    · rw [List.filter_cons_of_pos (by simp [empty]), List.anyM_cons, List.anyM_cons, ih]

theorem lostMatches {g : FilterGroup} (lost : remaining g = []) (row : Value) :
    g.matches row = .ok false := by
  rw [← remainingMatches, lost]
  rfl

theorem prunedMatches (groups : List FilterGroup) (row : Value) :
    (∀ b, matchesAll (prunedGroups groups) row = .ok b → ∃ b', matchesAll groups row = .ok b') ∧
    (matchesAll groups row = .ok true → matchesAll (prunedGroups groups) row = .ok true) := by
  induction groups with
  | nil => exact ⟨fun b answered => ⟨b, answered⟩, id⟩
  | cons g groups ih =>
    obtain ⟨answers, keeps⟩ := ih
    by_cases lost : remaining g = []
    · -- The request keeps no row, and no later group is tried for any.
      have none : matchesAll (g :: groups) row = .ok false := by
        rw [matchesAll, List.allM_cons, lostMatches lost]
        rfl
      exact ⟨fun _ _ => ⟨false, none⟩, fun kept => by rw [none] at kept; cases kept⟩
    · rw [prunedStays lost, matchesAll, matchesAll, List.allM_cons, List.allM_cons,
        remainingMatches]
      cases g.matches row with
      | error f =>
        simp only [errorBind]
        exact ⟨fun _ failed => absurd failed (by simp), fun failed => absurd failed (by simp)⟩
      | ok first =>
        cases first with
        | true => exact ⟨answers, keeps⟩
        | false => exact ⟨fun _ _ => ⟨false, rfl⟩, fun kept => by cases kept⟩

theorem prunedMatchesSame {groups : List FilterGroup} (stay : ∀ g ∈ groups, remaining g ≠ [])
    (row : Value) : matchesAll (prunedGroups groups) row = matchesAll groups row := by
  induction groups with
  | nil => rfl
  | cons g groups ih =>
    obtain ⟨first, others⟩ := List.forall_mem_cons.mp stay
    rw [prunedStays first, matchesAll, List.allM_cons, remainingMatches, matchesAll,
      List.allM_cons]
    exact congrArg _ (funext fun b => by cases b; rfl; exact ih others)

theorem matchingPruned {groups : List FilterGroup} {rows kept : List Value}
    (matched : matching (prunedGroups groups) rows = .ok kept) :
    ∃ fewer, matching groups rows = .ok fewer ∧ fewer.Sublist kept := by
  induction rows generalizing kept with
  | nil => exact ⟨[], rfl, List.nil_sublist _⟩
  | cons row rows ih =>
    obtain ⟨b, answered, rest⟩ := bindOk.mp matched
    obtain ⟨answers, keeps⟩ := prunedMatches groups row
    obtain ⟨b', answered'⟩ := answers b answered
    rw [matching, answered', okBind]
    cases b with
    | true =>
      obtain ⟨others, othersMatched, whole⟩ := bindOk.mp rest
      cases whole
      obtain ⟨fewer, fewerMatched, part⟩ := ih othersMatched
      cases b' with
      | true => exact ⟨row :: fewer, by simp [fewerMatched], part.cons_cons row⟩
      | false => exact ⟨fewer, fewerMatched, part.cons row⟩
    | false =>
      cases b' with
      | true => cases (keeps answered').symm.trans answered
      | false => exact ih rest

theorem pruningWidens (r : Request) :
    (∀ version, filterText version r.pruned = filterText version r ∧
      (filterText version r = .ok none ↔ r.pruned.filters = [])) ∧
    (∀ row b, matchesAll r.pruned.filters row = .ok b → ∃ b', matchesAll r.filters row = .ok b') ∧
    (∀ row, matchesAll r.filters row = .ok true → matchesAll r.pruned.filters row = .ok true) ∧
    (∀ rows kept, matching r.pruned.filters rows = .ok kept →
      ∃ fewer, matching r.filters rows = .ok fewer ∧ fewer.Sublist kept) ∧
    ((∀ g ∈ r.filters, remaining g ≠ []) →
      ∀ row, matchesAll r.pruned.filters row = matchesAll r.filters row) := by
  refine ⟨fun version => ⟨?_, filterAbsent⟩, fun row => (prunedMatches r.filters row).1,
    fun row => (prunedMatches r.filters row).2, fun _ _ => matchingPruned, prunedMatchesSame⟩
  rw [filterText, groupsKept, Request.pruned, groupsPruned, filterText]

def partlyVacant : Request :=
  { Request.everything with
    filters := [⟨[⟨"name", .text "in", .list []⟩, ⟨"name", .null, .text "x"⟩]⟩,
      ⟨[⟨"price", .operator .within, .null⟩]⟩, ⟨[⟨"name", .text "neq", .text "y"⟩]⟩] }

theorem partlyVacantWidens :
    let rows := [pricedRow 1 "x", pricedRow 1 "y", pricedRow 2 "z"]
    filterText .v4 partlyVacant.pruned = .ok (some "(name eq 'x') and (not(name eq 'y'))") ∧
      filterText .v4 partlyVacant.pruned = filterText .v4 partlyVacant ∧
      matching partlyVacant.pruned.filters rows = .ok [pricedRow 1 "x"] ∧
      ∃ fewer, matching partlyVacant.filters rows = .ok fewer ∧ fewer.Sublist [pricedRow 1 "x"] := by
  intro rows
  obtain ⟨texts, -, -, lists, -⟩ := pruningWidens partlyVacant
  have matched : matching partlyVacant.pruned.filters rows = .ok [pricedRow 1 "x"] := by cbv
  exact ⟨by cbv, (texts .v4).1, matched, lists rows _ matched⟩

end TableQuery
