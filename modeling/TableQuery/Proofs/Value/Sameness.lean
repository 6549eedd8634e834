import TableQuery.Proofs.Value.Faults
import Mathlib.Data.List.Forall2

/-! Equality of values as a relation.
Between values without signalling decimals inside it always has an answer, and it is transitive.
That it is symmetric takes more where it goes through one side and looks for each on the other: the
members of a set and the keys of a dict must not repeat themselves, so that nothing of the other side
is left over. -/
namespace TableQuery.Value

def parts : Value → List Value
  | list items => items
  | tuple items => items
  | set members => members
  | dict entries => entries.map (·.2)
  | record attributes => attributes.map (·.2)
  | _ => []

inductive Throughout (fits : Value → Prop) : Value → Prop
  | intro {v : Value} (here : fits v) (inside : ∀ w ∈ v.parts, Throughout fits w) :
      Throughout fits v

def Quiet : Value → Prop := Throughout fun v => v.signalling = false

def Same (a b : Value) : Prop := a.same b = .ok true

def Unrepeated : Value → Prop
  | set members => members.Pairwise fun v w => ¬ Same v w
  | dict entries => (entries.map (·.1)).Nodup
  | record attributes => (attributes.map (·.1)).Nodup
  | _ => True

def Built : Value → Prop := Throughout Unrepeated

structure Sound (v : Value) : Prop where
  built : Built v
  quiet : Quiet v

theorem Throughout.here {fits : Value → Prop} {v : Value} (all : Throughout fits v) : fits v :=
  match all with
  | .intro here _ => here

theorem Throughout.inside {fits : Value → Prop} {v w : Value} (all : Throughout fits v)
    (member : w ∈ v.parts) : Throughout fits w :=
  match all with
  | .intro _ inside => inside w member

theorem partsMembers {v : Value} {vs : List Value} (members : v.members? = some vs) :
    v.parts = vs := by
  cases v with
  | list | tuple | set => exact Option.some.inj members
  | _ => cases members

theorem quietEquatable : Equatable Quiet (fun _ => False) where
  members quiet found _ member := quiet.inside (partsMembers found ▸ member)
  entries quiet _ member := quiet.inside (List.mem_map_of_mem member)
  attributes quiet _ member := quiet.inside (List.mem_map_of_mem member)
  same {a b} left right := by
    unfold sameScalar
    split
    · rw [left.here, right.here]
      exact okFails _
    · split
      · exact okFails _
      · split <;> exact okFails _

theorem sameAnswers {a b : Value} (left : Quiet a) (right : Quiet b) :
    ∃ answer, a.same b = .ok answer := answers (sameFails quietEquatable a b left right)

theorem searchAmong {x : Value} {ys : List Value} (left : Quiet x) (right : ∀ y ∈ ys, Quiet y) :
    ys.anyM (same x) = .ok true ↔ ∃ y ∈ ys, Same x y := by
  obtain ⟨answer, answered⟩ :=
    answers (anyFails fun y member => sameFails quietEquatable x y left (right y member))
  have meaning : answer = true ↔ ∃ y ∈ ys, Same x y := searchAnswers answered
  rw [answered, ← meaning, Except.ok.injEq]

theorem sameAllIff {xs ys : List Value} (lengths : xs.length = ys.length) :
    sameAll xs ys = .ok true ↔ List.Forall₂ Same xs ys := by
  induction xs generalizing ys with
  | nil =>
    cases List.length_eq_zero_iff.mp lengths.symm
    simp [sameAll]
  | cons x xs ih =>
    cases ys with
    | nil => cases lengths
    | cons y ys =>
      rw [sameAll, List.forall₂_cons, ← ih (Nat.succ.inj lengths), Same]
      cases x.same y with
      | error f => simp
      | ok answer => cases answer <;> simp

theorem allAmongIff {xs ys : List Value} (left : ∀ x ∈ xs, Quiet x) (right : ∀ y ∈ ys, Quiet y) :
    allAmong xs ys = .ok true ↔ ∀ x ∈ xs, ∃ y ∈ ys, Same x y := by
  induction xs with
  | nil => simp [allAmong]
  | cons x xs ih =>
    obtain ⟨first, others⟩ := List.forall_mem_cons.mp left
    rw [allAmong, List.forall_mem_cons, ← ih others, ← searchAmong first right]
    cases ys.anyM (same x) with
    | error f => simp
    | ok answer => cases answer <;> simp

theorem sameEntriesIff {xs ys : List (String × Value)} : sameEntries xs ys = .ok true ↔
    ∀ e ∈ xs, ∃ y, find? e.1 ys = some y ∧ Same e.2 y := by
  induction xs with
  | nil => simp [sameEntries]
  | cons e xs ih =>
    obtain ⟨key, x⟩ := e
    rw [sameEntries, List.forall_mem_cons, ← ih]
    cases found : find? key ys with
    | none => simp
    | some y =>
      simp only [Option.some.injEq, exists_eq_left', Same]
      cases x.same y with
      | error f => simp
      | ok answer => cases answer <;> simp

inductive Mark where
  | nothing
  | number (x : Extent)
  | text (s : String)
  | date (d : Date)
  | moment (aware : Bool) (instant : Int)
  deriving DecidableEq

def numberMark? : Extent → Option Mark
  | .nan => none
  | x => some (.number x)

def mark? (v : Value) : Option Mark :=
  match v.extent? with
  | some x => numberMark? x
  | none =>
    match v.asText? with
    | some s => some (.text s)
    | none =>
      match v with
      | null => some .nothing
      | date d => some (.date d)
      | moment m => some (.moment m.offset.isSome m.instant)
      | _ => none

theorem numberMarkIff {x : Extent} {m : Mark} :
    numberMark? x = some m ↔ m = .number x ∧ x ≠ .nan := by
  cases x <;> simp [numberMark?, eq_comm]

theorem markNumberIff {x : Extent} {m : Mark} :
    some m = numberMark? x ↔ m = .number x ∧ x ≠ .nan := eq_comm.trans numberMarkIff

theorem numbersMarked {x y : Extent} :
    x.same y = true ↔ numberMark? x = numberMark? y ∧ numberMark? x ≠ none := by
  cases x <;> cases y <;> simp [Extent.same, numberMark?]

theorem sameMarked {a b : Value} (left : a.signalling = false) (right : b.signalling = false) :
    sameScalar a b = .ok true ↔ a.mark? = b.mark? ∧ a.mark? ≠ none := by
  cases a <;> cases b <;>
    simp [sameScalar, mark?, extent?, asText?, left, right, numberMarkIff, markNumberIff,
      numbersMarked, sameMoment]

structure EntriesAlike (xs ys : List (String × Value)) : Prop where
  lengths : xs.length = ys.length
  each : ∀ e ∈ xs, ∃ y, find? e.1 ys = some y ∧ Same e.2 y

inductive Alike : Value → Value → Prop
  | lists {xs ys : List Value} (each : List.Forall₂ Same xs ys) : Alike (list xs) (list ys)
  | tuples {xs ys : List Value} (each : List.Forall₂ Same xs ys) : Alike (tuple xs) (tuple ys)
  | sets {xs ys : List Value} (lengths : xs.length = ys.length)
      (each : ∀ x ∈ xs, ∃ y ∈ ys, Same x y) : Alike (set xs) (set ys)
  | dicts {xs ys : List (String × Value)} (entries : EntriesAlike xs ys) :
      Alike (dict xs) (dict ys)
  | records {xs ys : List (String × Value)} (entries : EntriesAlike xs ys) :
      Alike (record xs) (record ys)
  | single {a b : Value} {m : Mark} (left : a.mark? = some m) (right : b.mark? = some m) :
      Alike a b

theorem guardedIff {lengths : Prop} [Decidable lengths] {x : Except Fault Bool} :
    (if lengths then x else .ok false) = .ok true ↔ lengths ∧ x = .ok true := by
  split <;> simp [*]

theorem entriesAlikeIff {xs ys : List (String × Value)} :
    (if xs.length = ys.length then sameEntries xs ys else .ok false) = .ok true ↔
      EntriesAlike xs ys := by
  rw [guardedIff, sameEntriesIff]
  exact ⟨fun ⟨lengths, each⟩ => ⟨lengths, each⟩, fun alike => ⟨alike.lengths, alike.each⟩⟩

theorem singleSame {a b : Value} (left : Quiet a) (right : Quiet b) :
    sameScalar a b = .ok true ↔ ∃ m, a.mark? = some m ∧ b.mark? = some m := by
  rw [sameMarked left.here right.here]
  cases a.mark? <;> simp [eq_comm]

theorem alikeOfSame {a b : Value} (left : Quiet a) (right : Quiet b) (same : Same a b) :
    Alike a b := by
  unfold Same at same
  cases a with
  | list xs =>
    cases b with
    | list ys =>
      rw [Value.same, guardedIff] at same
      exact .lists ((sameAllIff same.1).mp same.2)
    | _ => simp [Value.same] at same
  | tuple xs =>
    cases b with
    | tuple ys =>
      rw [Value.same, guardedIff] at same
      exact .tuples ((sameAllIff same.1).mp same.2)
    | _ => simp [Value.same] at same
  | set xs =>
    cases b with
    | set ys =>
      rw [Value.same, guardedIff] at same
      exact .sets same.1 ((allAmongIff (fun _ => left.inside) (fun _ => right.inside)).mp same.2)
    | _ => simp [Value.same] at same
  | dict xs =>
    cases b with
    | dict ys =>
      rw [Value.same, entriesAlikeIff] at same
      exact .dicts same
    | _ => simp [Value.same] at same
  | record xs =>
    cases b with
    | record ys =>
      rw [Value.same, entriesAlikeIff] at same
      exact .records same
    | _ => simp [Value.same] at same
  | _ =>
    simp only [Value.same] at same
    obtain ⟨m, first, second⟩ := (singleSame left right).mp same
    exact .single first second

theorem sameOfAlike {a b : Value} (left : Quiet a) (right : Quiet b) (alike : Alike a b) :
    Same a b := by
  unfold Same
  cases alike with
  | lists each =>
    rw [same, guardedIff]
    exact ⟨each.length_eq, (sameAllIff each.length_eq).mpr each⟩
  | tuples each =>
    rw [same, guardedIff]
    exact ⟨each.length_eq, (sameAllIff each.length_eq).mpr each⟩
  | sets lengths each =>
    rw [same, guardedIff]
    exact ⟨lengths, (allAmongIff (fun _ => left.inside) (fun _ => right.inside)).mpr each⟩
  | dicts entries | records entries => rwa [same, entriesAlikeIff]
  | single first second =>
    have marked := (singleSame left right).mpr ⟨_, first, second⟩
    cases a with
    | list | tuple | set | dict | record => cases first
    | _ => simpa only [same] using marked

theorem membersTrans {α : Type} {R : α → α → Prop} {xs ys zs : List α}
    (step : ∀ x ∈ xs, ∀ y ∈ ys, ∀ z ∈ zs, R x y → R y z → R x z) (first : List.Forall₂ R xs ys)
    (second : List.Forall₂ R ys zs) : List.Forall₂ R xs zs := by
  induction first generalizing zs with
  | nil =>
    cases second
    exact .nil
  | cons front rest ih =>
    cases second with
    | cons next others =>
      exact .cons (step _ (.head _) _ (.head _) _ (.head _) front next)
        (ih (fun x hx y hy z hz => step x (.tail _ hx) y (.tail _ hy) z (.tail _ hz)) others)

theorem entriesTrans {xs ys zs : List (String × Value)}
    (step : ∀ e ∈ xs, ∀ f ∈ ys, ∀ g ∈ zs, Same e.2 f.2 → Same f.2 g.2 → Same e.2 g.2)
    (first : EntriesAlike xs ys) (second : EntriesAlike ys zs) : EntriesAlike xs zs where
  lengths := first.lengths.trans second.lengths
  each e he := by
    obtain ⟨y, found, front⟩ := first.each e he
    obtain ⟨z, next, back⟩ := second.each _ (findMem found)
    exact ⟨z, next, step e he _ (findMem found) _ (findMem next) front back⟩

theorem sameTrans {a b c : Value} (left : Quiet a) (middle : Quiet b) (right : Quiet c)
    (first : Same a b) (second : Same b c) : Same a c := by
  -- By induction on the first value; the others have their members wherever it has any.
  induction left generalizing b c with
  | @intro a here inside ih =>
    have left : Quiet a := .intro here inside
    refine sameOfAlike left right ?_
    have second := alikeOfSame middle right second
    cases alikeOfSame left middle first with
    | lists each =>
      cases second with
      | lists next =>
        refine .lists (membersTrans (fun x hx y hy z hz => ?_) each next)
        exact ih x hx (middle.inside hy) (right.inside hz)
      | single none => cases none
    | tuples each =>
      cases second with
      | tuples next =>
        refine .tuples (membersTrans (fun x hx y hy z hz => ?_) each next)
        exact ih x hx (middle.inside hy) (right.inside hz)
      | single none => cases none
    | sets lengths each =>
      cases second with
      | sets others next =>
        refine .sets (lengths.trans others) fun x hx => ?_
        obtain ⟨y, hy, front⟩ := each x hx
        obtain ⟨z, hz, back⟩ := next y hy
        exact ⟨z, hz, ih x hx (middle.inside hy) (right.inside hz) front back⟩
      | single none => cases none
    | dicts entries =>
      cases second with
      | dicts others =>
        refine .dicts (entriesTrans (fun e he f hf g hg => ?_) entries others)
        exact ih e.2 (List.mem_map_of_mem he) (middle.inside (List.mem_map_of_mem hf))
          (right.inside (List.mem_map_of_mem hg))
      | single none => cases none
    | records entries =>
      cases second with
      | records others =>
        refine .records (entriesTrans (fun e he f hf g hg => ?_) entries others)
        exact ih e.2 (List.mem_map_of_mem he) (middle.inside (List.mem_map_of_mem hf))
          (right.inside (List.mem_map_of_mem hg))
      | single none => cases none
    | single first' second' =>
      cases second with
      | single third fourth =>
        cases second'.symm.trans third
        exact .single first' fourth
      | _ => cases second'

theorem membersSymm {α : Type} {R : α → α → Prop} {xs ys : List α}
    (step : ∀ x ∈ xs, ∀ y ∈ ys, R x y → R y x) (pairs : List.Forall₂ R xs ys) :
    List.Forall₂ R ys xs := by
  induction pairs with
  | nil => exact .nil
  | cons front rest ih =>
    exact .cons (step _ (.head _) _ (.head _) front)
      (ih fun x hx y hy => step x (.tail _ hx) y (.tail _ hy))

/- As many as there are, no two of which go with the same one: then every one is gone with. -/
theorem everyTaken {α β : Type} {R : α → β → Prop} {xs : List α} {ys : List β}
    (lengths : xs.length = ys.length) (each : ∀ x ∈ xs, ∃ y ∈ ys, R x y)
    (apart : xs.Pairwise fun x x' => ∀ y ∈ ys, R x y → ¬ R x' y) : ∀ y ∈ ys, ∃ x ∈ xs, R x y := by
  induction xs generalizing ys with
  | nil => simp [List.length_eq_zero_iff.mp lengths.symm]
  | cons x xs ih =>
    obtain ⟨first, others⟩ := List.forall_mem_cons.mp each
    obtain ⟨alone, apart⟩ := List.pairwise_cons.mp apart
    obtain ⟨y, taken, pair⟩ := first
    obtain ⟨before, after, rfl⟩ := List.append_of_mem taken
    have kept {w : β} (member : w ∈ before ++ after) : w ∈ before ++ y :: after := by
      simp only [List.mem_append, List.mem_cons] at member ⊢
      exact member.imp_right .inr
    have fewer : xs.length = (before ++ after).length := by
      simp only [List.length_append, List.length_cons] at lengths ⊢
      omega
    have rest := ih fewer ?_ (apart.imp fun separate w hw => separate w (kept hw))
    · intro w member
      rcases List.mem_append.mp member with front | back
      · obtain ⟨x', hx', same⟩ := rest w (List.mem_append_left _ front)
        exact ⟨x', .tail _ hx', same⟩
      · rcases List.mem_cons.mp back with rfl | behind
        · exact ⟨x, .head _, pair⟩
        · obtain ⟨x', hx', same⟩ := rest w (List.mem_append_right _ behind)
          exact ⟨x', .tail _ hx', same⟩
    · intro x' hx'
      obtain ⟨w, member, same⟩ := others x' hx'
      refine ⟨w, ?_, same⟩
      rcases List.mem_append.mp member with front | back
      · exact List.mem_append_left _ front
      · rcases List.mem_cons.mp back with rfl | behind
        · exact absurd same (alone x' hx' _ taken pair)
        · exact List.mem_append_right _ behind

theorem findUnique {es : List (String × Value)} (distinct : (es.map (·.1)).Nodup)
    {e : String × Value} (member : e ∈ es) : find? e.1 es = some e.2 := by
  induction es with
  | nil => cases member
  | cons f es ih =>
    obtain ⟨k, v⟩ := f
    obtain ⟨fresh, distinct⟩ := List.nodup_cons.mp distinct
    rcases List.mem_cons.mp member with rfl | behind
    · simp [find?]
    · have other : k ≠ e.1 := by
        rintro rfl
        exact fresh (List.mem_map.mpr ⟨e, behind, rfl⟩)
      rw [find?, if_neg other, ih distinct behind]

theorem entriesSymm {xs ys : List (String × Value)} (distinct : (xs.map (·.1)).Nodup)
    (step : ∀ e ∈ xs, ∀ f ∈ ys, Same e.2 f.2 → Same f.2 e.2) (alike : EntriesAlike xs ys) :
    EntriesAlike ys xs where
  lengths := alike.lengths.symm
  each f hf := by
    let Meets (e f : String × Value) := e.1 = f.1 ∧ Same e.2 f.2
    have met : ∀ e ∈ xs, ∃ f ∈ ys, Meets e f := fun e he => by
      obtain ⟨w, found, pair⟩ := alike.each e he
      exact ⟨(e.1, w), findMem found, rfl, pair⟩
    have apart := (List.pairwise_map.mp distinct).imp
      fun {e e'} different f (_ : f ∈ ys) (first : Meets e f) (second : Meets e' f) =>
        different (first.1.trans second.1.symm)
    obtain ⟨e, he, key, pair⟩ := everyTaken alike.lengths met apart f hf
    exact ⟨e.2, key ▸ findUnique distinct he, step e he f hf pair⟩

theorem sameSymm {a b : Value} (built : Built a) (left : Quiet a) (right : Quiet b)
    (same : Same a b) : Same b a := by
  induction built generalizing b with
  | @intro a unrepeated inside ih =>
    refine sameOfAlike right left ?_
    have turned {v w : Value} (hv : v ∈ a.parts) (hw : w ∈ b.parts) : Same v w → Same w v :=
      ih v hv (left.inside hv) (right.inside hw)
    cases alikeOfSame left right same with
    | lists each => exact .lists (membersSymm (fun v hv w hw => turned hv hw) each)
    | tuples each => exact .tuples (membersSymm (fun v hv w hw => turned hv hw) each)
    | @sets xs ys lengths each =>
      refine .sets lengths.symm fun w hw => ?_
      have apart : xs.Pairwise fun v v' => ∀ y ∈ ys, Same v y → ¬ Same v' y := by
        refine List.Pairwise.imp_of_mem (fun {v v'} hv hv' different y hy first second => ?_)
          unrepeated
        exact different (sameTrans (left.inside hv) (right.inside hy) (left.inside hv') first
          (turned hv' hy second))
      obtain ⟨v, hv, pair⟩ := everyTaken lengths each apart w hw
      exact ⟨v, hv, turned hv hw pair⟩
    | dicts entries =>
      exact .dicts (entriesSymm unrepeated (fun e he f hf =>
        turned (List.mem_map_of_mem he) (List.mem_map_of_mem hf)) entries)
    | records entries =>
      exact .records (entriesSymm unrepeated (fun e he f hf =>
        turned (List.mem_map_of_mem he) (List.mem_map_of_mem hf)) entries)
    | single first second => exact .single second first

theorem Sound.of {v : Value} (unrepeated : Unrepeated v) (calm : v.signalling = false)
    (inside : ∀ w ∈ v.parts, Sound w) : Sound v :=
  ⟨.intro unrepeated fun w member => (inside w member).built,
    .intro calm fun w member => (inside w member).quiet⟩

theorem sameCommutes {a b : Value} (left : Sound a) (right : Sound b) : a.same b = b.same a := by
  obtain ⟨x, first⟩ := sameAnswers left.quiet right.quiet
  obtain ⟨y, second⟩ := sameAnswers right.quiet left.quiet
  have turned : Same a b ↔ Same b a :=
    ⟨sameSymm left.built left.quiet right.quiet, sameSymm right.built right.quiet left.quiet⟩
  rw [Same, Same, first, second, Except.ok.injEq, Except.ok.injEq] at turned
  rw [first, second, Bool.eq_iff_iff.mpr turned]

theorem strictlyCommutes {a b : Value} (left : Sound a) (right : Sound b) :
    a.strictlySame b = b.strictlySame a := by
  simp only [strictlySame, sameCommutes left right, eq_comm]

theorem distinctUnrepeated (vs : List Value) : Unrepeated (set (distinct vs)) := by
  unfold distinct
  suffices grown : ∀ kept : List Value, kept.Pairwise (fun v w => ¬ Same v w) →
      (vs.foldl (fun kept v => if kept.any fun w => (same w v).toOption == some true then kept
        else kept ++ [v]) kept).Pairwise fun v w => ¬ Same v w from grown [] .nil
  induction vs with
  | nil => exact fun _ apart => apart
  | cons v vs ih =>
    intro kept apart
    rw [List.foldl_cons]
    refine ih _ ?_
    split
    · exact apart
    · rename_i fresh
      refine List.pairwise_append.mpr ⟨apart, List.pairwise_singleton _ v, fun w hw u hu same => ?_⟩
      rw [List.mem_singleton.mp hu] at same
      exact fresh (List.any_eq_true.mpr ⟨w, hw, by rw [same]; rfl⟩)

end TableQuery.Value
