import TableQuery.Source
import TableQuery.Proofs.Value.JsonLike
import Mathlib.Data.Rat.Cast.CharZero
import Mathlib.Algebra.Order.Ring.Rat

/-! What values stand for as sources, and which of them stand for none.
Nothing and rows always do; an address does where its options name a version. A value that stands
for no source is refused for what is wrong with it, as long as that can be told. -/
namespace TableQuery
open TableQuery.Text

def Version.word : Version → String
  | v3 => "odata3"
  | v4 => "odata4"

inductive Version.Named (default : Int) (v : Version) : Value → Prop
  | itself : Named default v (.version v)
  | number : Named default v (.int v.number)
  | word {options : Value} {s : String} (text : options.asText? = some s)
      (spelled : lower (trimmed s) = v.word) : Named default v options
  | byDefault {options : Value} {s : String} (text : options.asText? = some s)
      (spelled : lower (trimmed s) = "odata") (number : default = v.number) :
      Named default v options

def Value.DefaultWord (options : Value) : Prop :=
  ∃ s, options.asText? = some s ∧ lower (trimmed s) = "odata"

theorem ofNumberIff (n : Int) (v : Version) : Version.ofNumber? n = some v ↔ n = v.number := by
  constructor
  · intro found
    have own := List.find?_some found
    simpa using (beq_iff_eq.mp own).symm
  · rintro rfl
    exact v.ofOwnNumber

theorem equalToInteger (n : Int) : Version.equalTo? (.int n) = .ok (Version.ofNumber? n) := by
  have cast (v : Version) : ((v.number : Rat) == (n : Rat)) = ((v.number : Int) == n) := by
    rw [Bool.eq_iff_iff, beq_iff_eq, beq_iff_eq]
    exact_mod_cast Iff.rfl
  simp only [Version.equalTo?, Value.signalling, Value.extent?, cast, Version.ofNumber?]
  rfl

theorem wordOptions (default : Int) {options : Value} {s : String}
    (text : options.asText? = some s) : Version.ofOptions? (.int default) options =
      if lower (trimmed s) = "odata" then
        match Version.ofNumber? default with
        | some v => .ok (some v)
        | none => .error (.about .unsupportedDefault (.int default))
      else if lower (trimmed s) = "odata3" then .ok (some .v3)
      else if lower (trimmed s) = "odata4" then .ok (some .v4)
      else .ok none := by
  unfold Version.ofOptions?
  split
  · cases text
  · cases text
  · rw [text, Option.map_some, equalToInteger, okBind]
    split
    · next same =>
      refine Eq.trans ?_ (if_pos (Option.some.inj same)).symm
      cases Version.ofNumber? default <;> rfl
    · next same => rw [Option.some.inj same]; rfl
    · next same => rw [Option.some.inj same]; rfl
    · next shortest third fourth =>
      rw [if_neg fun same => shortest (congrArg some same),
        if_neg fun same => third (congrArg some same),
        if_neg fun same => fourth (congrArg some same)]

theorem namedChosen {default : Int} {v : Version} {options : Value}
    (named : v.Named default options) :
    Version.ofOptions? (.int default) options = .ok (some v) := by
  cases named with
  | itself => rfl
  | number => exact congrArg _ v.ofOwnNumber
  | word text spelled => rw [wordOptions default text, spelled]; cases v <;> rfl
  | byDefault text spelled number =>
    rw [wordOptions default text, if_pos spelled, (ofNumberIff default v).mpr number]

theorem chosenNamed {default : Int} {v : Version} {options : Value}
    (chosen : Version.ofOptions? (.int default) options = .ok (some v)) :
    v.Named default options := by
  cases text : options.asText? with
  | some s =>
    rw [wordOptions default text] at chosen
    split at chosen
    · next spelled =>
      split at chosen
      · next found =>
        cases chosen
        exact .byDefault text spelled ((ofNumberIff default v).mp found)
      · cases chosen
    · split at chosen
      · next spelled => cases chosen; exact .word text spelled
      · split at chosen
        · next spelled => cases chosen; exact .word text spelled
        · cases chosen
  | none =>
    unfold Version.ofOptions? at chosen
    split at chosen
    · cases chosen
      exact .itself
    · rw [(ofNumberIff _ v).mp (Except.ok.inj chosen)]
      exact .number
    · rw [text] at chosen
      cases chosen

theorem optionsOutcome (default : Int) (options : Value) :
    (∃ v, Version.ofOptions? (.int default) options = .ok (some v) ∧ v.Named default options) ∨
    (¬ ∃ v : Version, v.Named default options) ∧
      ((¬ options.DefaultWord ∧ Version.ofOptions? (.int default) options = .ok none) ∨
       (options.DefaultWord ∧ Version.ofOptions? (.int default) options =
          .error (.about .unsupportedDefault (.int default)))) := by
  by_cases named : ∃ v : Version, v.Named default options
  · obtain ⟨v, named⟩ := named
    exact .inl ⟨v, namedChosen named, named⟩
  refine .inr ⟨named, ?_⟩
  have other (v : Version) : Version.ofOptions? (.int default) options ≠ .ok (some v) :=
    fun chosen => named ⟨v, chosenNamed chosen⟩
  cases text : options.asText? with
  | none =>
    refine .inl ⟨fun ⟨s, found, _⟩ => (nomatch text.symm.trans found), ?_⟩
    unfold Version.ofOptions? at other ⊢
    split at other
    · exact absurd rfl (other _)
    · rename_i n
      cases known : Version.ofNumber? n with
      | none => rfl
      | some v => exact absurd (congrArg _ known) (other v)
    · rw [text, Option.map_none]
  | some s =>
    rw [wordOptions default text] at other ⊢
    by_cases spelled : lower (trimmed s) = "odata"
    · refine .inr ⟨⟨s, text, spelled⟩, ?_⟩
      rw [if_pos spelled] at other ⊢
      cases known : Version.ofNumber? default with
      | none => rfl
      | some v => exact absurd (by rw [known]) (other v)
    · refine .inl ⟨fun ⟨t, found, same⟩ => ?_, ?_⟩
      · cases text.symm.trans found
        exact spelled same
      · rw [if_neg spelled] at other ⊢
        by_cases third : lower (trimmed s) = "odata3"
        · exact absurd (if_pos third) (other .v3)
        · rw [if_neg third] at other ⊢
          by_cases fourth : lower (trimmed s) = "odata4"
          · exact absurd (if_pos fourth) (other .v4)
          · rw [if_neg fourth]

inductive Source.Stands (settings : Settings) (connection : Connection) :
    Value → Value → Source (List Value) → Prop
  | nothing (options : Value) : Stands settings connection .null options .empty
  | list (items : List Value) (options : Value) :
      Stands settings connection (.list items) options (.rows items)
  | tuple (items : List Value) (options : Value) :
      Stands settings connection (.tuple items) options (.rows items)
  | address {source options : Value} {url : String} {version : Version}
      (text : source.asText? = some url) (named : version.Named settings.defaultVersion options) :
      Stands settings connection source options
        (.remote
          { url, version, countFallback := settings.countFallback
            transport := connection.transport settings })

inductive Source.Refused (settings : Settings) : Value → Value → Fault → Prop
  | sort {source : Value} (other : source.asText? = none) (options : Value) :
      Refused settings source options (.unsupportedSource source)
  | options {source options : Value} {url : String} (text : source.asText? = some url)
      (other : ¬ options.DefaultWord) :
      Refused settings source options (.about .unsupportedOptions options)
  | default {source options : Value} {url : String} (text : source.asText? = some url)
      (word : options.DefaultWord) :
      Refused settings source options (.about .unsupportedDefault (.int settings.defaultVersion))

variable {settings : Settings} {connection : Connection} {source options : Value}

theorem ofAddress {url : String} (text : source.asText? = some url) :
    Source.ofValue settings connection source options = (do
      match ← Version.ofOptions? (.int settings.defaultVersion) options with
      | none => .error (.about .unsupportedOptions options)
      | some version =>
        .ok (.remote
          { url, version, countFallback := settings.countFallback
            transport := connection.transport settings })) := by
  cases source <;> first | (cases text; rfl) | cases text

theorem sourceOutcome (settings : Settings) (connection : Connection)
    (source options : Value) :
    (∃ s, Source.ofValue settings connection source options = .ok s ∧
      Source.Stands settings connection source options s) ∨
    (∃ f, Source.ofValue settings connection source options = .error f ∧
      Source.Refused settings source options f ∧
      ¬ ∃ s, Source.Stands settings connection source options s) := by
  cases text : source.asText? with
  | some url =>
    rw [ofAddress text]
    have unnamed (none : ¬ ∃ v : Version, v.Named settings.defaultVersion options) :
        ¬ ∃ s, Source.Stands settings connection source options s := by
      rintro ⟨s, stands⟩
      cases stands with
      | address _ named => exact none ⟨_, named⟩
      | _ => cases text
    rcases optionsOutcome settings.defaultVersion options with
      ⟨v, chosen, named⟩ | ⟨none, ⟨other, chosen⟩ | ⟨word, chosen⟩⟩
    · exact .inl ⟨_, by rw [chosen, okBind], .address text named⟩
    · exact .inr ⟨_, by rw [chosen, okBind], .options text other, unnamed none⟩
    · exact .inr ⟨_, by rw [chosen, errorBind], .default text word, unnamed none⟩
  | none =>
    cases source with
    | null => exact .inl ⟨_, rfl, .nothing options⟩
    | list items => exact .inl ⟨_, rfl, .list items options⟩
    | tuple items => exact .inl ⟨_, rfl, .tuple items options⟩
    | text | operator | direction => cases text
    | _ =>
      refine .inr ⟨_, rfl, .sort text options, fun ⟨s, stands⟩ => ?_⟩
      cases stands
      cases text.symm.trans ‹_›

theorem standsIff {s : Source (List Value)} :
    Source.ofValue settings connection source options = .ok s ↔
      Source.Stands settings connection source options s := by
  constructor
  · intro made
    rcases sourceOutcome settings connection source options with ⟨t, found, stands⟩ | ⟨f, failed, -⟩
    · cases found.symm.trans made
      exact stands
    · cases failed.symm.trans made
  · intro stands
    cases stands with
    | address text named => rw [ofAddress text, namedChosen named, okBind]
    | _ => rfl

def Source.Untold (settings : Settings) (source options : Value) : Prop :=
  (∃ url, source.asText? = some url) ∧ (options.hasLongInteger = true ∨
    options.DefaultWord ∧ tooManyDigits settings.defaultVersion = true)

theorem versionShort (v : Version) : tooManyDigits v.number = false :=
  Value.tooManyBelow 1 (by decide) (by cases v <;> decide)

theorem textShort {options : Value} {s : String} (text : options.asText? = some s) :
    options.hasLongInteger = false := by
  cases options with
  | text | operator | direction => rfl
  | _ => cases text

theorem untoldUnnamed (untold : Source.Untold settings source options) (v : Version) :
    ¬ v.Named settings.defaultVersion options := by
  intro named
  rcases untold.2 with long | ⟨⟨s, text, spelled⟩, long⟩
  · cases named with
    | itself => cases long
    | number => cases (versionShort v).symm.trans long
    | word text | byDefault text => cases (textShort text).symm.trans long
  · cases named with
    | itself | number => cases text
    | word text' spelled' =>
      cases text.symm.trans text'
      exact absurd (spelled.symm.trans spelled') (by cases v <;> decide)
    | byDefault _ _ number =>
      rw [number] at long
      cases (versionShort v).symm.trans long

theorem untoldStandsNot (untold : Source.Untold settings source options)
    (s : Source (List Value)) : ¬ Source.Stands settings connection source options s := by
  intro stands
  cases stands with
  | address _ named => exact untoldUnnamed untold _ named
  | _ => obtain ⟨⟨url, text⟩, -⟩ := untold; cases text

def FaultKind.configurations : List FaultKind :=
  [.configuration, .unsupportedOptions, .unsupportedSource]

theorem aboutKind (make : Value → Fault) (v : Value) :
    (Fault.about make v).kind = if v.hasLongInteger then .improper else (make v).kind := by
  unfold Fault.about
  split <;> rfl

theorem refusedKind {f : Fault} (refused : Source.Refused settings source options f) :
    (Source.Untold settings source options ∧ f.kind = .improper) ∨
    (¬ Source.Untold settings source options ∧ f.kind ∈ FaultKind.configurations) := by
  cases refused with
  | sort other options =>
    refine .inr ⟨fun ⟨⟨url, text⟩, _⟩ => (nomatch text.symm.trans other), ?_⟩
    simp [Fault.kind, FaultKind.configurations]
  | options text other =>
    rw [aboutKind]
    by_cases long : options.hasLongInteger = true
    · exact .inl ⟨⟨⟨_, text⟩, .inl long⟩, if_pos long⟩
    · refine .inr ⟨fun untold => ?_, by simp [long, Fault.kind, FaultKind.configurations]⟩
      rcases untold.2 with found | ⟨word, -⟩
      · exact long found
      · exact other word
  | default text word =>
    rw [aboutKind]
    by_cases long : tooManyDigits settings.defaultVersion = true
    · exact .inl ⟨⟨⟨_, text⟩, .inr ⟨word, long⟩⟩, if_pos long⟩
    · obtain ⟨s, wordText, -⟩ := word
      refine .inr ⟨fun untold => ?_, ?_⟩
      swap
      · simp [Value.hasLongInteger, long, Fault.kind, FaultKind.configurations]
      rcases untold.2 with found | ⟨-, found⟩
      · cases (textShort wordText).symm.trans found
      · exact long found

end TableQuery
