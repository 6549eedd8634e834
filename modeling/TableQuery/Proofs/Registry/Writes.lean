import TableQuery.Registry
import Mathlib.Data.String.Basic
import Mathlib.Data.List.Induction

/-! What a registry holds after a history of events of which some write a name.
Of each name the last write counts, and the names that were written are listed in their order, each
of them once. -/
namespace TableQuery.Registry

variable {α ι : Type}

theorem findSetIff (r : Registry α) (name other : String) (a b : α) :
    (r.set name a).find? other = some b ↔
      (name = other ∧ a = b) ∨ (name ≠ other ∧ r.find? other = some b) := by
  rw [find?, set, lookupUpdate, ← find?]
  by_cases same : name = other <;> simp [same]

theorem lookupPresent (name : String) (entries : List (String × α)) :
    (∃ a, lookup name entries = some a) ↔ name ∈ entries.map (·.1) := by
  induction entries with
  | nil => simp [lookup]
  | cons e rest ih =>
    obtain ⟨n, a⟩ := e
    by_cases here : n = name
    · simp [lookup, here]
    · simp [lookup, here, Ne.symm here, ← ih]

theorem updateNames (name : String) (a : α) (entries : List (String × α)) :
    (update name a entries).map (·.1) =
      if name ∈ entries.map (·.1) then entries.map (·.1) else entries.map (·.1) ++ [name] := by
  induction entries with
  | nil => rfl
  | cons e rest ih =>
    obtain ⟨n, b⟩ := e
    by_cases here : n = name
    · simp [update, here]
    · simp only [update, if_neg here, List.map_cons, ih, List.mem_cons, Ne.symm here, false_or]
      split <;> simp

def Distinct (r : Registry α) : Prop := (r.entries.map (·.1)).Nodup

theorem emptyDistinct : Distinct (empty : Registry α) := List.nodup_nil

theorem setDistinct {r : Registry α} (distinct : r.Distinct) (name : String) (a : α) :
    (r.set name a).Distinct := by
  unfold Distinct
  rw [set, updateNames]
  split
  · exact distinct
  · rename_i fresh
    refine List.nodup_append.mpr ⟨distinct, List.pairwise_singleton _ name, ?_⟩
    intro n known m new same
    cases List.mem_singleton.mp new
    exact fresh (same ▸ known)

theorem insertedNames (name n : String) (ns : List String) :
    n ∈ insertName name ns ↔ n = name ∨ n ∈ ns := by
  induction ns with
  | nil => simp [insertName]
  | cons m rest ih =>
    unfold insertName
    split
    · simp
    · simp only [List.mem_cons, ih]
      exact or_left_comm

theorem insertedRising {name : String} {ns : List String} (rising : ns.Pairwise (· < ·))
    (fresh : name ∉ ns) : (insertName name ns).Pairwise (· < ·) := by
  induction ns with
  | nil => exact List.pairwise_singleton _ name
  | cons n rest ih =>
    obtain ⟨least, others⟩ := List.pairwise_cons.mp rising
    obtain ⟨apart, freshBehind⟩ := not_or.mp (List.mem_cons.not.mp fresh)
    unfold insertName
    split
    · rename_i below
      refine List.pairwise_cons.mpr ⟨fun m member => ?_, rising⟩
      rcases List.mem_cons.mp member with rfl | behind
      · exact below
      · exact below.trans (least m behind)
    · rename_i notBelow
      refine List.pairwise_cons.mpr ⟨fun m member => ?_, ih others freshBehind⟩
      rcases (insertedNames name m rest).mp member with rfl | behind
      · exact lt_of_le_of_ne (not_lt.mp notBelow) (Ne.symm apart)
      · exact least m behind

theorem namesOfEntries (entries : List (String × α)) (n : String) :
    n ∈ (Registry.mk entries).names ↔ n ∈ entries.map (·.1) := by
  induction entries with
  | nil => rfl
  | cons e rest ih =>
    rw [List.map_cons, List.mem_cons, ← ih]
    exact insertedNames e.1 n _

theorem namesPresent (r : Registry α) (n : String) : n ∈ r.names ↔ ∃ a, r.find? n = some a :=
  (namesOfEntries r.entries n).trans (lookupPresent n r.entries).symm

theorem setNames {r : Registry α} {name : String} {b : α} (known : r.find? name = some b) (a : α) :
    (r.set name a).names = r.names := by
  have namesOfKeys (r : Registry α) : r.names = (r.entries.map (·.1)).foldr insertName [] := by
    rw [names, List.foldr_map]
  have stored : name ∈ r.entries.map (·.1) := (lookupPresent name r.entries).mp ⟨b, known⟩
  rw [namesOfKeys, namesOfKeys, set, updateNames, if_pos stored]

theorem namesRising {r : Registry α} (distinct : r.Distinct) : r.names.Pairwise (· < ·) := by
  obtain ⟨entries⟩ := r
  induction entries with
  | nil => exact .nil
  | cons e rest ih =>
    obtain ⟨fresh, others⟩ := List.nodup_cons.mp distinct
    exact insertedRising (ih others) fun member => fresh ((namesOfEntries rest e.1).mp member)

def written (r : Registry α) : Option (String × α) → Registry α
  | some (name, a) => r.set name a
  | none => r

def after (write? : ι → Option (String × α)) (history : List ι) : Registry α :=
  history.foldl (fun r e => r.written (write? e)) empty

def LastWrite (write? : ι → Option (String × α)) (history : List ι) (name : String) (a : α) :
    Prop :=
  ∃ before e behind, history = before ++ e :: behind ∧ write? e = some (name, a) ∧
    ∀ later ∈ behind, ∀ b, write? later ≠ some (name, b)

variable {write? : ι → Option (String × α)} {history : List ι}

theorem afterOneMore (write? : ι → Option (String × α)) (history : List ι) (e : ι) :
    after write? (history ++ [e]) = (after write? history).written (write? e) := by
  simp [after]

theorem lastWriteOneMore (e : ι) (name : String) (a : α) :
    LastWrite write? (history ++ [e]) name a ↔
      write? e = some (name, a) ∨
        (∀ b, write? e ≠ some (name, b)) ∧ LastWrite write? history name a := by
  constructor
  · rintro ⟨before, last, behind, whole, writes, silent⟩
    rcases List.eq_nil_or_concat behind with rfl | ⟨earlier, newest, rfl⟩
    · obtain ⟨-, same⟩ := List.append_inj' whole rfl
      cases same
      exact .inl writes
    · have regrouped : history ++ [e] = (before ++ last :: earlier) ++ [newest] := by simp [whole]
      obtain ⟨rfl, same⟩ := List.append_inj' regrouped rfl
      cases same
      exact .inr ⟨silent e (by simp), before, last, earlier, rfl, writes,
        fun later member => silent later (by simp [member])⟩
  · rintro (writes | ⟨quiet, before, last, behind, rfl, writes, silent⟩)
    · exact ⟨history, e, [], rfl, writes, by simp⟩
    · refine ⟨before, last, behind ++ [e], by simp, writes, fun later member => ?_⟩
      rcases List.mem_append.mp member with old | new
      · exact silent later old
      · rw [List.mem_singleton.mp new]
        exact quiet

theorem lastWriteNow (history : List ι) {e : ι} {name : String} {a : α}
    (writes : write? e = some (name, a)) (b : α) :
    LastWrite write? (history ++ [e]) name b ↔ b = a := by
  simp [lastWriteOneMore, writes, eq_comm]

theorem lastWriteKept (history : List ι) {e : ι} {name : String}
    (quiet : ∀ b, write? e ≠ some (name, b)) (a : α) :
    LastWrite write? (history ++ [e]) name a ↔ LastWrite write? history name a := by
  simp [lastWriteOneMore, quiet]

theorem findAfter (name : String) (a : α) :
    (after write? history).find? name = some a ↔ LastWrite write? history name a := by
  induction history using List.reverseRecOn with
  | nil => simp [after, LastWrite, find?, empty, lookup]
  | append_singleton earlier e ih =>
    rw [afterOneMore, lastWriteOneMore, ← ih]
    cases written? : write? e with
    | none => simp [written]
    | some w =>
      obtain ⟨key, b⟩ := w
      simp only [written, findSetIff, Option.some.injEq, Prod.mk.injEq, ne_eq, not_and]
      by_cases same : key = name <;> simp [same]

theorem lastWriteUnique {name : String} {a b : α} (first : LastWrite write? history name a)
    (second : LastWrite write? history name b) : a = b :=
  Option.some.inj (((findAfter name a).mpr first).symm.trans ((findAfter name b).mpr second))

theorem afterDistinct (write? : ι → Option (String × α)) (history : List ι) :
    (after write? history).Distinct := by
  induction history using List.reverseRecOn with
  | nil => exact emptyDistinct
  | append_singleton earlier e ih =>
    rw [afterOneMore]
    cases write? e with
    | none => exact ih
    | some w => exact setDistinct ih w.1 w.2

theorem someLastWrite (name : String) :
    (∃ a, LastWrite write? history name a) ↔ ∃ e ∈ history, ∃ a, write? e = some (name, a) := by
  induction history using List.reverseRecOn with
  | nil => simp [LastWrite]
  | append_singleton earlier e ih =>
    simp only [lastWriteOneMore, List.mem_append, List.mem_singleton, or_and_right, exists_or,
      exists_eq_left, ← ih]
    by_cases now : ∃ a, write? e = some (name, a)
    · simp [now]
    · simp [not_exists.mp now]

theorem namesAfter (write? : ι → Option (String × α)) (history : List ι) :
    (after write? history).names.Pairwise (· < ·) ∧
    ∀ n, n ∈ (after write? history).names ↔ ∃ e ∈ history, ∃ a, write? e = some (n, a) := by
  refine ⟨namesRising (afterDistinct write? history), fun n => ?_⟩
  rw [namesPresent, ← someLastWrite]
  exact exists_congr fun a => findAfter n a

end TableQuery.Registry
