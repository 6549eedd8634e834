import TableQuery.Proofs.Registry.Registrations
import TableQuery.Proofs.Text.Joining

/-! Sources that are listed in the settings.
Entries stand between commas and their parts between bars. Blanks around a part, parts behind the
third and entries without a name or an address are passed over; the others are read back in their
order. -/
namespace TableQuery.Settings
open TableQuery.Text

def Unseparated (s : String) : Prop := ',' ∉ s.toList ∧ '|' ∉ s.toList

structure Part (s : String) : Prop where
  present : s ≠ ""
  trimmed : Text.trimmed s = s
  unseparated : Unseparated s

structure Declared where
  name : String
  url : String
  option : Option String

structure Declared.Proper (d : Declared) : Prop where
  name : Part d.name
  url : Part d.url
  option : ∀ word, d.option = some word → Part word

def Declared.entry (d : Declared) : SourceEntry := ⟨d.name, d.url, d.option.getD "odata"⟩

def Padded (s padded : String) : Prop :=
  ∃ before after, blank before = true ∧ blank after = true ∧ padded = before ++ s ++ after

inductive Written : Declared → List String → Prop
  | short {name url a b : String} (nameAt : Padded name a) (urlAt : Padded url b) :
      Written ⟨name, url, none⟩ [a, b]
  | vacant {name url a b c : String} {more : List String} (nameAt : Padded name a)
      (urlAt : Padded url b) (nothing : blank c = true) (others : ∀ p ∈ more, Unseparated p) :
      Written ⟨name, url, none⟩ (a :: b :: c :: more)
  | full {name url option a b c : String} {more : List String} (nameAt : Padded name a)
      (urlAt : Padded url b) (optionAt : Padded option c) (others : ∀ p ∈ more, Unseparated p) :
      Written ⟨name, url, some option⟩ (a :: b :: c :: more)

inductive Malformed : List String → Prop
  | single (a : String) : Malformed [a]
  | nameless {a : String} (nothing : blank a = true) (others : List String) :
      Malformed (a :: others)
  | addressless {b : String} (nothing : blank b = true) (a : String) (others : List String) :
      Malformed (a :: b :: others)

inductive Listed : List Declared → List (List String) → Prop
  | nil : Listed [] []
  | entry {d : Declared} {parts : List String} {ds : List Declared} {entries : List (List String)}
      (written : Written d parts) (rest : Listed ds entries) : Listed (d :: ds) (parts :: entries)
  | malformed {parts : List String} {ds : List Declared} {entries : List (List String)}
      (broken : Malformed parts) (unseparated : ∀ p ∈ parts, Unseparated p)
      (rest : Listed ds entries) : Listed ds (parts :: entries)

def listText (entries : List (List String)) : String := join "," (entries.map (join "|"))

theorem blankMember {s : String} (nothing : blank s = true) : ∀ c ∈ s.toList, isBlank c = true :=
  List.all_eq_true.mp nothing

theorem paddedTrimmed {s padded : String} (around : Padded s padded) :
    trimmed padded = trimmed s := by
  obtain ⟨before, after, front, back, rfl⟩ := around
  rw [trimmed, String.toList_append, String.toList_append,
    trimPadded (blankMember front) (blankMember back), trimmed]

theorem paddedPart {s padded : String} (around : Padded s padded) (part : Part s) :
    trimmed padded = s := (paddedTrimmed around).trans part.trimmed

theorem blankTrimmed {s : String} (nothing : blank s = true) : trimmed s = "" :=
  paddedTrimmed (s := "") ⟨s, "", nothing, rfl, by simp⟩

theorem blankUnseparated {s : String} (nothing : blank s = true) : Unseparated s := by
  constructor <;> intro inside <;> exact absurd (blankMember nothing _ inside) (by decide)

theorem paddedUnseparated {s padded : String} (around : Padded s padded) (part : Part s) :
    Unseparated padded := by
  obtain ⟨before, after, front, back, rfl⟩ := around
  have ⟨noComma, noBar⟩ := part.unseparated
  have ⟨frontComma, frontBar⟩ := blankUnseparated front
  have ⟨backComma, backBar⟩ := blankUnseparated back
  simp [Unseparated, noComma, noBar, frontComma, frontBar, backComma, backBar]

theorem writtenUnseparated {d : Declared} {parts : List String} (written : Written d parts)
    (proper : d.Proper) : ∀ p ∈ parts, Unseparated p := by
  cases written with
  | short nameAt urlAt =>
    simpa using ⟨paddedUnseparated nameAt proper.name, paddedUnseparated urlAt proper.url⟩
  | vacant nameAt urlAt nothing others =>
    simpa using ⟨paddedUnseparated nameAt proper.name, paddedUnseparated urlAt proper.url,
      blankUnseparated nothing, others⟩
  | full nameAt urlAt optionAt others =>
    simpa using ⟨paddedUnseparated nameAt proper.name, paddedUnseparated urlAt proper.url,
      paddedUnseparated optionAt (proper.option _ rfl), others⟩

theorem barPieces {parts : List String} (present : parts ≠ [])
    (unseparated : ∀ p ∈ parts, Unseparated p) : pieces '|' (join "|" parts) = parts :=
  piecesJoin '|' present fun p member => (unseparated p member).2

theorem joinedFree {parts : List String} (unseparated : ∀ p ∈ parts, Unseparated p) :
    ',' ∉ (join "|" parts).toList := by
  induction parts with
  | nil => simp [join]
  | cons p rest ih =>
    obtain ⟨first, others⟩ := List.forall_mem_cons.mp unseparated
    rw [joinCons]
    split
    · exact first.1
    · simp [first.1, ih others]

theorem entryWritten {d : Declared} {parts : List String} (written : Written d parts)
    (proper : d.Proper) : entryOf (join "|" parts) = some d.entry := by
  have whole : pieces '|' (join "|" parts) = parts :=
    barPieces (by cases written <;> simp) (writtenUnseparated written proper)
  have name := proper.name.present
  have url := proper.url.present
  cases written with
  | short nameAt urlAt =>
    simp [entryOf, whole, paddedPart nameAt proper.name, paddedPart urlAt proper.url, name,
      url, Declared.entry]
  | vacant nameAt urlAt nothing _ =>
    simp [entryOf, whole, paddedPart nameAt proper.name, paddedPart urlAt proper.url, name,
      url, Declared.entry, blankTrimmed nothing]
  | full nameAt urlAt optionAt _ =>
    have option := proper.option _ rfl
    simp [entryOf, whole, paddedPart nameAt proper.name, paddedPart urlAt proper.url, name,
      url, Declared.entry, paddedPart optionAt option, option.present]

theorem malformedSkipped {parts : List String} (broken : Malformed parts)
    (unseparated : ∀ p ∈ parts, Unseparated p) : entryOf (join "|" parts) = none := by
  cases broken with
  | single a => simp [entryOf, barPieces (by simp) unseparated]
  | nameless nothing others =>
    cases others <;>
      simp [entryOf, barPieces (by simp) unseparated, blankTrimmed nothing]
  | addressless nothing a others =>
    simp [entryOf, barPieces (by simp) unseparated, blankTrimmed nothing]

theorem listedUnseparated {ds : List Declared} {entries : List (List String)}
    (listed : Listed ds entries) (proper : ∀ d ∈ ds, d.Proper) :
    ∀ parts ∈ entries, ∀ p ∈ parts, Unseparated p := by
  induction listed with
  | nil => simp
  | entry written rest ih =>
    obtain ⟨first, others⟩ := List.forall_mem_cons.mp proper
    exact List.forall_mem_cons.mpr ⟨writtenUnseparated written first, ih others⟩
  | malformed broken unseparated rest ih =>
    exact List.forall_mem_cons.mpr ⟨unseparated, ih proper⟩

theorem entriesListed {ds : List Declared} {entries : List (List String)}
    (listed : Listed ds entries) (proper : ∀ d ∈ ds, d.Proper) :
    (entries.map (join "|")).filterMap entryOf = ds.map Declared.entry := by
  induction listed with
  | nil => rfl
  | entry written rest ih =>
    obtain ⟨first, others⟩ := List.forall_mem_cons.mp proper
    rw [List.map_cons, List.filterMap_cons_some (entryWritten written first), ih others,
      List.map_cons]
  | malformed broken unseparated rest ih =>
    rw [List.map_cons, List.filterMap_cons_none (malformedSkipped broken unseparated), ih proper]

theorem listRead {s : Settings} {ds : List Declared} {entries : List (List String)}
    (listed : Listed ds entries) (proper : ∀ d ∈ ds, d.Proper)
    (text : s.sources = listText entries) : s.sourceList = ds.map Declared.entry := by
  rw [sourceList, text]
  by_cases none : entries = []
  · subst none
    cases listed
    rfl
  · have free : ∀ entry ∈ entries.map (join "|"), ',' ∉ entry.toList := by
      intro entry member
      obtain ⟨parts, inside, rfl⟩ := List.mem_map.mp member
      exact joinedFree (listedUnseparated listed proper parts inside)
    have whole : pieces ',' (listText entries) = entries.map (join "|") :=
      piecesJoin ',' (by simpa using none) free
    rw [whole, entriesListed listed proper]

def registration (s : Settings) (connection : Connection) (e : SourceEntry) : Registration :=
  ⟨.text e.name, .text e.url, .text e.options, s, connection⟩

theorem addAllFollows {s : Settings} {connection : Connection} {es : List SourceEntry}
    (puts : ∀ e ∈ es, ∃ key source, (s.registration connection e).Puts key source)
    (r : SourceRegistry (List Value)) (log : List LogEntry) :
    SourceRegistry.addAll s connection r log es =
      let state := (es.map (s.registration connection)).foldl SourceRegistry.follow (r, log)
      (.ok state.1, state.2) := by
  induction es generalizing r log with
  | nil => rfl
  | cons e es ih =>
    obtain ⟨⟨key, source, put⟩, others⟩ := List.forall_mem_cons.mp puts
    have done := SourceRegistry.attemptPuts r put
    have same : SourceRegistry.register r (.text e.name)
        (Source.ofValue s connection (.text e.url) (.text e.options)) = _ := done
    rw [List.map_cons, List.foldl_cons, SourceRegistry.follow, done, ← ih others,
      SourceRegistry.addAll, same]

def Declares (s : Settings) (connection : Connection) (d : Declared)
    (source : Source (List Value)) : Prop :=
  ∃ version : Version, version.Named s.defaultVersion (.text d.entry.options) ∧
    source = .remote
      { url := d.url, version, countFallback := s.countFallback
        transport := connection.transport s }

theorem declaredPuts {d : Declared} (proper : d.Proper) (s : Settings)
    (connection : Connection) (key : String) (source : Source (List Value)) :
    (s.registration connection d.entry).Puts key source ↔
      key = d.name ∧ s.Declares connection d source := by
  have named : nameOf (.text d.name) = .ok d.name :=
    nameOfKey proper.name.present proper.name.trimmed
  constructor
  · rintro ⟨found, -, stands⟩
    cases stands with
    | address text version =>
      cases text
      exact ⟨Except.ok.inj (found.symm.trans named), _, version, rfl⟩
  · rintro ⟨rfl, version, chosen, rfl⟩
    exact ⟨named, proper.name.present, .address rfl chosen⟩

def versionWords : List String := ["odata", "odata3", "odata4"]

theorem partNamed {s : Settings} {d : Declared} (proper : d.Proper)
    (word : lower d.entry.options ∈ versionWords)
    (default : s.defaultVersion = 3 ∨ s.defaultVersion = 4) :
    ∃ version : Version, version.Named s.defaultVersion (.text d.entry.options) := by
  have kept : trimmed d.entry.options = d.entry.options := by
    cases given : d.option with
    | none => simp only [Declared.entry, given]; rfl
    | some option => simpa [Declared.entry, given] using (proper.option option given).trimmed
  have spelled : lower (trimmed d.entry.options) ∈ versionWords := kept.symm ▸ word
  simp only [versionWords, List.mem_cons, List.not_mem_nil, or_false] at spelled
  rcases spelled with short | third | fourth
  · rcases default with number | number
    · exact ⟨.v3, .byDefault rfl short number⟩
    · exact ⟨.v4, .byDefault rfl short number⟩
  · exact ⟨.v3, .word rfl third⟩
  · exact ⟨.v4, .word rfl fourth⟩

def registrations (s : Settings) (connection : Connection) (ds : List Declared) :
    List Registration := ds.map fun d => s.registration connection d.entry

theorem registeredNames {s : Settings} {ds : List Declared} (proper : ∀ d ∈ ds, d.Proper)
    {connection : Connection} (declared : ∀ d ∈ ds, ∃ source, s.Declares connection d source)
    (n : String) : (∃ g ∈ s.registrations connection ds, ∃ source, g.Puts n source) ↔
      ∃ d ∈ ds, d.name = n := by
  constructor
  · rintro ⟨g, member, source, put⟩
    obtain ⟨d, inside, rfl⟩ := List.mem_map.mp member
    exact ⟨d, inside, ((declaredPuts (proper d inside) s connection _ _).mp put).1.symm⟩
  · rintro ⟨d, inside, rfl⟩
    obtain ⟨source, declares⟩ := declared d inside
    exact ⟨_, List.mem_map_of_mem inside, source,
      (declaredPuts (proper d inside) s connection _ _).mpr ⟨rfl, declares⟩⟩

theorem lastDeclared {s : Settings} {ds : List Declared} (proper : ∀ d ∈ ds, d.Proper)
    (connection : Connection) {before behind : List Declared} {d : Declared}
    (whole : ds = before ++ d :: behind) (last : ∀ later ∈ behind, later.name ≠ d.name)
    {source : Source (List Value)} (declares : s.Declares connection d source) :
    LastPut (s.registrations connection ds) d.name source := by
  subst whole
  refine ⟨_, _, _, by rw [registrations, List.map_append, List.map_cons], ?_,
    fun later member other puts => ?_⟩
  · exact (declaredPuts (proper d (by simp)) s connection _ _).mpr ⟨rfl, declares⟩
  · obtain ⟨e, inside, rfl⟩ := List.mem_map.mp member
    have own := (declaredPuts (proper e (by simp [inside])) s connection _ _).mp puts
    exact last e inside own.1.symm

theorem sourceListDecoded {s : Settings} {ds : List Declared} {entries : List (List String)}
    (listed : Listed ds entries) (proper : ∀ d ∈ ds, d.Proper)
    (text : s.sources = listText entries) (connection : Connection) :
    s.sourceList = ds.map Declared.entry ∧
    ((∀ d ∈ ds, lower d.entry.options ∈ versionWords) →
      (s.defaultVersion = 3 ∨ s.defaultVersion = 4) →
      ∃ r log, SourceRegistry.ofSettings s connection = (.ok r, log) ∧
        r.names.Pairwise (· < ·) ∧ (∀ n, n ∈ r.names ↔ ∃ d ∈ ds, d.name = n) ∧
        ∀ before d behind, ds = before ++ d :: behind →
          (∀ later ∈ behind, later.name ≠ d.name) →
          ∃ source, s.Declares connection d source ∧
            SourceRegistry.get r (.text d.name) = .ok (some source)) := by
  have read := listRead listed proper text
  refine ⟨read, fun words default => ?_⟩
  have declared (d : Declared) (member : d ∈ ds) : ∃ source, s.Declares connection d source := by
    obtain ⟨version, named⟩ := partNamed (proper d member) (words d member) default
    exact ⟨_, version, named, rfl⟩
  let gs := s.registrations connection ds
  have puts : ∀ e ∈ s.sourceList, ∃ key source, (s.registration connection e).Puts key source := by
    rw [read]
    intro e member
    obtain ⟨d, inside, rfl⟩ := List.mem_map.mp member
    obtain ⟨source, declares⟩ := declared d inside
    exact ⟨d.name, source, (declaredPuts (proper d inside) s connection _ _).mpr ⟨rfl, declares⟩⟩
  have made : SourceRegistry.ofSettings s connection =
      (.ok (SourceRegistry.followAll gs).1, (SourceRegistry.followAll gs).2) := by
    rw [SourceRegistry.ofSettings, addAllFollows puts, read, List.map_map]
    rfl
  have history := SourceRegistry.followedRegistry gs
  obtain ⟨rising, names⟩ := Registry.namesAfter Registration.made? gs
  rw [← history] at rising names
  refine ⟨_, _, made, rising, fun n => ?_, fun before d behind whole last => ?_⟩
  · simp only [names n, madeIff]
    exact registeredNames proper declared n
  · have inside : d ∈ ds := by simp [whole]
    obtain ⟨source, declares⟩ := declared d inside
    have found := (Registry.findAfter _ _).mpr
      ((lastPutIff gs _ _).mpr (lastDeclared proper connection whole last declares))
    rw [← history] at found
    have name := (proper d inside).name
    exact ⟨source, declares, by
      rw [SourceRegistry.get, nameOfKey name.present name.trimmed, okBind, found]⟩

def writtenSources : List (List String) :=
  [[" b", "http://h/b ", "odata3"], [" none "], ["b", "\thttp://h/c", " ", "more"],
    ["", "http://h/d"], ["a ", "http://h/a"]]

def declaredSources : List Declared :=
  [⟨"b", "http://h/b", some "odata3"⟩, ⟨"b", "http://h/c", none⟩, ⟨"a", "http://h/a", none⟩]

theorem writtenSourcesRead :
    let s := { Settings.default with sources := listText writtenSources }
    s.sources = " b|http://h/b |odata3, none ,b|\thttp://h/c| |more,|http://h/d,a |http://h/a" ∧
    s.sourceList = declaredSources.map Declared.entry ∧
    ∃ r log, SourceRegistry.ofSettings s SourceRegistry.unreached = (.ok r, log) ∧ "b" ∈ r.names ∧
      ∃ source, s.Declares SourceRegistry.unreached ⟨"b", "http://h/c", none⟩ source ∧
        SourceRegistry.get r (.text "b") = .ok (some source) := by
  intro s
  have alone (s : String) : Padded s s := ⟨"", "", rfl, rfl, by simp⟩
  have listed : Listed declaredSources writtenSources :=
    .entry (.full ⟨" ", "", rfl, rfl, rfl⟩ ⟨"", " ", rfl, rfl, rfl⟩ (alone _) (by simp)) <|
    .malformed (.single _) (by simp [Unseparated]) <|
    .entry (.vacant (alone _) ⟨"\t", "", rfl, rfl, rfl⟩ rfl (by simp [Unseparated])) <|
    .malformed (.nameless rfl _) (by simp [Unseparated]) <|
    .entry (.short ⟨"", " ", rfl, rfl, rfl⟩ (alone _)) .nil
  have proper : ∀ d ∈ declaredSources, d.Proper := by
    simp only [declaredSources, List.forall_mem_cons, List.not_mem_nil, false_implies, implies_true,
      and_true]
    refine ⟨⟨⟨by decide, rfl, ?_⟩, ⟨by decide, rfl, ?_⟩, fun word given => ?_⟩,
      ⟨⟨by decide, rfl, ?_⟩, ⟨by decide, rfl, ?_⟩, nofun⟩,
      ⟨⟨by decide, rfl, ?_⟩, ⟨by decide, rfl, ?_⟩, nofun⟩⟩
    case refine_3 => cases given; exact ⟨by decide, rfl, by simp [Unseparated]⟩
    all_goals simp [Unseparated]
  obtain ⟨read, registered⟩ := sourceListDecoded listed proper (s := s) rfl
    SourceRegistry.unreached
  obtain ⟨r, log, made, -, names, gets⟩ := registered (by decide) (.inr rfl)
  exact ⟨rfl, read, r, log, made, (names "b").mpr ⟨_, .head _, rfl⟩,
    gets [⟨"b", "http://h/b", some "odata3"⟩] ⟨"b", "http://h/c", none⟩
      [⟨"a", "http://h/a", none⟩] rfl (by decide)⟩

end TableQuery.Settings
