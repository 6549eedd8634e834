import TableQuery.Proofs.Registry.Sources
import TableQuery.Proofs.Registry.Writes
import TableQuery.Proofs.Text.Trimming

/-! Sequences of registrations, some of which fail.
Of each name without its blanks the last registration that succeeded counts. A registration fails
for its name, or for a value that stands for no source, and then nothing comes of it. -/
namespace TableQuery
open TableQuery.Text

structure Registration where
  name : Value
  source : Value
  options : Value
  settings : Settings
  connection : Connection

structure Registration.Puts (g : Registration) (key : String) (source : Source (List Value)) :
    Prop where
  named : nameOf g.name = .ok key
  present : key ≠ ""
  stands : Source.Stands g.settings g.connection g.source g.options source

def Registration.Nameless (g : Registration) : Prop := ∀ key, nameOf g.name = .ok key → key = ""

def Registration.Untold (g : Registration) : Prop := Source.Untold g.settings g.source g.options

def Registration.made? (g : Registration) : Option (String × Source (List Value)) :=
  match nameOf g.name, Source.ofValue g.settings g.connection g.source g.options with
  | .ok key, .ok source => if key = "" then none else some (key, source)
  | _, _ => none

theorem madeIff (g : Registration) (key : String) (source : Source (List Value)) :
    g.made? = some (key, source) ↔ g.Puts key source := by
  constructor
  · intro made
    unfold Registration.made? at made
    split at made
    · next named found =>
      split at made
      · cases made
      · next present =>
        cases made
        exact ⟨named, present, standsIff.mp found⟩
    · cases made
  · rintro ⟨named, present, stands⟩
    rw [Registration.made?, named, standsIff.mpr stands]
    exact if_neg present

theorem nameFault {name : Value} {f : Fault} (failed : nameOf name = .error f) :
    f = .longInteger := by
  unfold nameOf at failed
  split at failed
  · rcases bindError.mp failed with untold | ⟨_, _, done⟩
    · unfold Value.text? at untold
      split at untold <;> cases untold
      rfl
    · cases done
  · cases failed

theorem nameTrimmed {name : Value} {key : String} (named : nameOf name = .ok key) :
    trimmed key = key := by
  unfold nameOf at named
  split at named
  · obtain ⟨s, -, made⟩ := bindOk.mp named
    cases made
    exact trimmedAgain s
  · cases named
    rfl

theorem nameOfKey {key : String} (present : key ≠ "") (kept : trimmed key = key) :
    nameOf (.text key) = .ok key := by
  have told : (Value.text key).text? = .ok key := rfl
  rw [nameOf, if_pos (by simpa [Value.truthy] using present), told, okBind, kept]

def LastPut (gs : List Registration) (key : String) (source : Source (List Value)) : Prop :=
  ∃ before g behind, gs = before ++ g :: behind ∧ g.Puts key source ∧
    ∀ later ∈ behind, ∀ other, ¬ later.Puts key other

theorem lastPutIff (gs : List Registration) (key : String) (source : Source (List Value)) :
    Registry.LastWrite Registration.made? gs key source ↔ LastPut gs key source := by
  simp only [Registry.LastWrite, LastPut, madeIff, ne_eq]

namespace SourceRegistry

def attempt (r : SourceRegistry (List Value)) (g : Registration) :
    Except Fault (SourceRegistry (List Value) × Source (List Value) × List LogEntry) :=
  r.register g.name (Source.ofValue g.settings g.connection g.source g.options)

def follow (state : SourceRegistry (List Value) × List LogEntry) (g : Registration) :
    SourceRegistry (List Value) × List LogEntry :=
  match state.1.attempt g with
  | .ok (r, _, entries) => (r, state.2 ++ entries)
  | .error _ => state

def followAll (gs : List Registration) : SourceRegistry (List Value) × List LogEntry :=
  gs.foldl follow (.empty, [])

theorem attemptOutcome (r : SourceRegistry (List Value)) (g : Registration) :
    (∃ key source, g.Puts key source ∧
      r.attempt g = .ok (r.set key source, source, [registeredEntry key source.kind])) ∨
    (∃ f, r.attempt g = .error f ∧ (∀ made : String × Source (List Value), ¬ g.Puts made.1 made.2) ∧
      ((g.Nameless ∨ g.Untold) ∧ f.kind = .improper ∨
       ¬ (g.Nameless ∨ g.Untold) ∧ f.kind ∈ FaultKind.configurations)) := by
  unfold attempt register
  cases named : nameOf g.name with
  | error f =>
    have nameless : g.Nameless := fun key found => nomatch named.symm.trans found
    exact .inr ⟨f, rfl, fun made puts => puts.present (nameless made.1 puts.named),
      .inl ⟨.inl nameless, nameFault named ▸ rfl⟩⟩
  | ok key =>
    rw [okBind]
    by_cases blank : key = ""
    · have nameless : g.Nameless := fun other found => by
        cases named.symm.trans found
        exact blank
      exact .inr ⟨.blankName, if_pos blank,
        fun made puts => puts.present (nameless made.1 puts.named), .inl ⟨.inl nameless, rfl⟩⟩
    · rw [if_neg blank]
      rcases sourceOutcome g.settings g.connection g.source g.options with
        ⟨source, made, stands⟩ | ⟨f, failed, refused, none⟩
      · exact .inl ⟨key, source, ⟨named, blank, stands⟩, by rw [made, okBind]⟩
      · refine .inr ⟨f, by rw [failed, errorBind], fun made puts => none ⟨made.2, puts.stands⟩, ?_⟩
        rcases refusedKind refused with ⟨untold, kind⟩ | ⟨told, kind⟩
        · exact .inl ⟨.inr untold, kind⟩
        · have right : ¬ (g.Nameless ∨ g.Untold) := fun either =>
            either.elim (fun nameless => blank (nameless key named)) told
          exact .inr ⟨right, kind⟩

theorem attemptPuts (r : SourceRegistry (List Value)) {g : Registration} {key : String}
    {source : Source (List Value)} (puts : g.Puts key source) :
    r.attempt g = .ok (r.set key source, source, [registeredEntry key source.kind]) := by
  rw [attempt, register, puts.named, okBind, if_neg puts.present, standsIff.mpr puts.stands, okBind]

theorem putsIff (g : Registration) : (∃ key source, g.Puts key source) ↔
    ¬ g.Nameless ∧ ∃ source, Source.Stands g.settings g.connection g.source g.options source := by
  constructor
  · rintro ⟨key, source, puts⟩
    exact ⟨fun nameless => puts.present (nameless key puts.named), source, puts.stands⟩
  · rintro ⟨named, source, stands⟩
    obtain ⟨key, found, present⟩ := by simpa [Registration.Nameless] using named
    exact ⟨key, source, found, present, stands⟩

theorem followMade (state : SourceRegistry (List Value) × List LogEntry) (g : Registration) :
    (follow state g).1 = Registry.written state.1 g.made? ∧
    (follow state g).2 =
      state.2 ++ (g.made?.map fun made => registeredEntry made.1 made.2.kind).toList := by
  rcases attemptOutcome state.1 g with ⟨key, source, puts, done⟩ | ⟨f, failed, none, -⟩
  · simp [follow, done, (madeIff g key source).mpr puts, Registry.written]
  · have nothing : g.made? = .none :=
      Option.eq_none_iff_forall_not_mem.mpr fun made found => none made ((madeIff g _ _).mp found)
    simp [follow, failed, nothing, Registry.written]

theorem followedRegistry (gs : List Registration) :
    (followAll gs).1 = Registry.after Registration.made? gs := by
  induction gs using List.reverseRecOn with
  | nil => rfl
  | append_singleton earlier g ih =>
    rw [Registry.afterOneMore, ← ih, ← (followMade (followAll earlier) g).1]
    simp [followAll]

theorem followedLog (gs : List Registration) :
    (followAll gs).2 =
      (gs.filterMap Registration.made?).map fun made => registeredEntry made.1 made.2.kind := by
  induction gs using List.reverseRecOn with
  | nil => rfl
  | append_singleton earlier g ih =>
    have step := (followMade (followAll earlier) g).2
    rw [ih] at step
    cases made : g.made? <;> simpa [followAll, made] using step

theorem followedStored (gs : List Registration) :
    ∀ e ∈ (followAll gs).1.entries, e.1 ≠ "" ∧ trimmed e.1 = e.1 := by
  intro e stored
  have known : e.1 ∈ (followAll gs).1.names :=
    (Registry.namesOfEntries _ e.1).mpr (List.mem_map_of_mem stored)
  rw [followedRegistry] at known
  obtain ⟨g, -, source, made⟩ := ((Registry.namesAfter Registration.made? gs).2 e.1).mp known
  have puts := (madeIff g e.1 source).mp made
  exact ⟨puts.present, nameTrimmed puts.named⟩

theorem describedNames (r : SourceRegistry (List Value)) :
    r.describe.map (·.name) = r.names ∧
    ∀ i ∈ r.describe, ∃ source, r.find? i.name = some source ∧ i.kind = source.kind := by
  constructor
  · have each : ∀ n ∈ r.names, ((r.find? n).map fun s => SourceInfo.mk n s.kind).map (·.name) =
        some n := fun n known => by
      obtain ⟨source, found⟩ := (Registry.namesPresent r n).mp known
      rw [found]
      rfl
    rw [describe, List.map_filterMap, List.filterMap_congr each, List.filterMap_some]
  · intro i told
    obtain ⟨n, -, made⟩ := List.mem_filterMap.mp told
    obtain ⟨source, found, rfl⟩ := Option.map_eq_some_iff.mp made
    exact ⟨source, found, rfl⟩

structure Answers (r : SourceRegistry (List Value)) (g : Registration) : Prop where
  succeeds : (∃ done, r.attempt g = .ok done) ↔
    ¬ g.Nameless ∧ ∃ source, Source.Stands g.settings g.connection g.source g.options source
  improper : (∃ f, r.attempt g = .error f ∧ f.kind = .improper) ↔ g.Nameless ∨ g.Untold
  misconfigured : (∃ f, r.attempt g = .error f ∧ f.kind ∈ FaultKind.configurations) ↔
    ¬ g.Nameless ∧ ¬ g.Untold ∧
      ¬ ∃ source, Source.Stands g.settings g.connection g.source g.options source

theorem attemptAnswers (r : SourceRegistry (List Value)) (g : Registration) : Answers r g := by
  have apart {f : Fault} (improper : f.kind = .improper) : f.kind ∉ FaultKind.configurations := by
    rw [improper]
    decide
  rcases attemptOutcome r g with ⟨key, source, puts, done⟩ |
      ⟨f, failed, none, ⟨wrong, kind⟩ | ⟨right, kind⟩⟩
  · have stands := (putsIff g).mp ⟨key, source, puts⟩
    have told : ¬ g.Untold := fun untold => untoldStandsNot untold source puts.stands
    exact ⟨by simp [done, stands], by simp [done, stands, told], by simp [done, stands]⟩
  · have fails := (putsIff g).not.mp fun ⟨key, source, puts⟩ => none (key, source) puts
    refine ⟨by simpa [failed] using fails, by simp [failed, kind, wrong], ?_⟩
    refine iff_of_false (fun ⟨other, same, listed⟩ => ?_) fun right =>
      wrong.elim right.1 right.2.1
    cases failed.symm.trans same
    exact apart kind listed
  · obtain ⟨named, told⟩ := not_or.mp right
    have fails : ¬ ∃ source, Source.Stands g.settings g.connection g.source g.options source :=
      fun stands => (putsIff g).not.mp (fun ⟨key, source, puts⟩ => none (key, source) puts)
        ⟨named, stands⟩
    refine ⟨by simp [failed, fails], ?_, by simp [failed, kind, named, told, fails]⟩
    refine iff_of_false (fun ⟨other, same, improper⟩ => ?_) right
    cases failed.symm.trans same
    exact apart improper kind

theorem registrationsLastWriteWin (gs : List Registration) :
    let r := (followAll gs).1
    (∀ e ∈ r.entries, e.1 ≠ "" ∧ trimmed e.1 = e.1) ∧
    (∀ name key, nameOf name = .ok key → ∃ found, r.get name = .ok found ∧
      (∀ source, found = some source ↔ LastPut gs key source) ∧
      (found = none ↔ ∀ g ∈ gs, ∀ source, ¬ g.Puts key source)) ∧
    (r.names.Pairwise (· < ·) ∧ ∀ n, n ∈ r.names ↔ ∃ g ∈ gs, ∃ source, g.Puts n source) ∧
    (r.describe.map (·.name) = r.names ∧ ∀ i ∈ r.describe, ∃ source,
      r.get (.text i.name) = .ok (some source) ∧ i.kind = source.kind) ∧
    (∀ g, Answers r g ∧ ∀ f, r.attempt g = .error f → followAll (gs ++ [g]) = followAll gs) ∧
    ∀ entry ∈ (followAll gs).2, ∃ g ∈ gs, ∃ key source,
      g.Puts key source ∧ entry = registeredEntry key source.kind := by
  intro r
  have stored := followedStored gs
  have history : r = Registry.after Registration.made? gs := followedRegistry gs
  obtain ⟨rising, names⟩ := Registry.namesAfter Registration.made? gs
  rw [← history] at rising names
  have putNames (n : String) : n ∈ r.names ↔ ∃ g ∈ gs, ∃ source, g.Puts n source := by
    simp only [names n, madeIff]
  refine ⟨stored, fun name key named => ?_, ⟨rising, putNames⟩, ?_, fun g => ?_,
    fun entry told => ?_⟩
  · refine ⟨r.find? key, by rw [get, named, okBind], fun source => ?_, ?_⟩
    · rw [← lastPutIff, history]
      exact Registry.findAfter key source
    · have absent := (Registry.namesPresent r key).symm.trans (putNames key)
      rw [Option.eq_none_iff_forall_ne_some, ← not_exists, absent]
      simp
  · obtain ⟨listed, kinds⟩ := describedNames r
    refine ⟨listed, fun i told => ?_⟩
    obtain ⟨source, found, kind⟩ := kinds i told
    have known : i.name ∈ r.names := listed ▸ List.mem_map_of_mem told
    obtain ⟨e, entry, same⟩ := List.mem_map.mp ((Registry.namesOfEntries r.entries i.name).mp known)
    obtain ⟨present, kept⟩ := stored e entry
    rw [same] at present kept
    exact ⟨source, by rw [get, nameOfKey present kept, okBind, found], kind⟩
  · refine ⟨attemptAnswers r g, fun f failed => ?_⟩
    have same : (followAll gs).1.attempt g = .error f := failed
    simp only [followAll] at same ⊢
    simp [follow, same]
  · rw [followedLog] at told
    obtain ⟨made, listed, rfl⟩ := List.mem_map.mp told
    obtain ⟨g, member, found⟩ := List.mem_filterMap.mp listed
    exact ⟨g, member, made.1, made.2, (madeIff g _ _).mp found, rfl⟩

def unreached : Connection :=
  .network fun _ => .failed "ConnectError" "All connection attempts failed"

def beforeReplacing : List Registration :=
  [⟨.text " b", .list [.int 1], .null, .default, unreached⟩,
    ⟨.text "a\t", .text "http://h/a", .text " OData3", .default, unreached⟩,
    ⟨.text "  ", .list [], .null, .default, unreached⟩,
    ⟨.text "b", .text "http://h/b", .bool true, .default, unreached⟩]

def replacing : Registration :=
  ⟨.text "b ", .text "http://h/c", .text "odata", .default, unreached⟩

def replacingSource : Source (List Value) :=
  .remote ⟨"http://h/c", .v4, false, unreached.transport .default⟩

theorem replacedNameFound :
    let r := (followAll (beforeReplacing ++ [replacing])).1
    nameOf (.text " b ") = .ok "b" ∧ r.get (.text " b ") = .ok (some replacingSource) ∧
      "b" ∈ r.names ∧ ∃ f, r.attempt { replacing with name := .text "\n" } = .error f ∧
        f.kind = .improper := by
  intro r
  have named : nameOf (.text " b ") = .ok "b" := rfl
  have puts : replacing.Puts "b" replacingSource :=
    ⟨rfl, by decide, .address rfl (.byDefault rfl rfl rfl)⟩
  have last : LastPut (beforeReplacing ++ [replacing]) "b" replacingSource :=
    ⟨beforeReplacing, replacing, [], rfl, puts, by simp⟩
  obtain ⟨-, gets, ⟨-, names⟩, -, fails, -⟩ :=
    registrationsLastWriteWin (beforeReplacing ++ [replacing])
  obtain ⟨found, got, held, -⟩ := gets (.text " b ") "b" named
  refine ⟨named, by rw [got, (held replacingSource).mpr last], ?_, ?_⟩
  · exact (names "b").mpr ⟨replacing, by simp, replacingSource, puts⟩
  · refine (fails _).1.improper.mpr (.inl fun key found => ?_)
    cases found
    rfl

def farDefault (places : Nat) : Settings :=
  { Settings.default with defaultVersion := withSign false (1 * Number.tenTo places) }

theorem farDefaultRead (places : Nat) :
    Settings.read [("ODATA_DEFAULT_VERSION", .decimal (.finite false 1 places))] =
      .valid (farDefault places) := by rfl

def farRegistration : Registration :=
  ⟨.text "x", .text "http://h", .text "odata", farDefault 5000, unreached⟩

theorem farDefaultUntold :
    Settings.read [("ODATA_DEFAULT_VERSION", .decimal (.finite false 1 5000))] =
      .valid farRegistration.settings ∧
    nameOf farRegistration.name = .ok "x" ∧
    (¬ ∃ source, Source.Stands farRegistration.settings farRegistration.connection
      farRegistration.source farRegistration.options source) ∧
    ∃ f, (attempt .empty farRegistration) = .error f ∧ f.kind = .improper ∧
      f.kind ∉ FaultKind.configurations := by
  have long : tooManyDigits farRegistration.settings.defaultVersion = true := by
    refine decide_eq_true ?_
    simp only [farRegistration, farDefault, withSignSize, Nat.one_mul]
    exact tenToMono (by decide)
  have untold : farRegistration.Untold := ⟨⟨"http://h", rfl⟩, .inr ⟨⟨"odata", rfl, rfl⟩, long⟩⟩
  obtain ⟨f, failed, kind⟩ := (attemptAnswers .empty farRegistration).improper.mpr (.inr untold)
  refine ⟨farDefaultRead 5000, rfl, fun ⟨source, stands⟩ => untoldStandsNot untold source stands,
    f, failed, kind, ?_⟩
  rw [kind]
  decide

end SourceRegistry
end TableQuery
