import TableQuery.Proofs.OData.FilterReading
import TableQuery.Proofs.Text.Integers
import Mathlib.Data.Rat.Cast.CharZero

/-! Which values literals tell apart.
Text stands between quotes, truth values are words and integers have neither quotes nor letters of
these words, so that literals of different kinds differ. Null has no literal of its own: it is written
as the text of its name. -/
namespace TableQuery.OData
open TableQuery.Text

inductive Scalar : Value → Prop
  | null : Scalar .null
  | bool (b : Bool) : Scalar (.bool b)
  | int {n : Int} (short : tooManyDigits n = false) : Scalar (.int n)
  | text (s : String) : Scalar (.text s)

def told : Value → Value
  | .null => .text "None"
  | v => v

theorem literalTold (version : Version) (info : Option FieldInfo) (v : Value) :
    literal version info v = literal version info (told v) := by
  cases v <;> rfl

def boolLiteral (b : Bool) : String := if b then "true" else "false"

theorem boolLiteralInjective {b c : Bool} (same : boolLiteral b = boolLiteral c) : b = c := by
  cases b <;> cases c <;> simp_all [boolLiteral]

theorem quoteInText (s : String) : '\'' ∈ (textLiteral s).toList := by simp [textLiteral]

theorem noQuoteInBool (b : Bool) : '\'' ∉ (boolLiteral b).toList := by cases b <;> decide

theorem letterInBool (b : Bool) : 'e' ∈ (boolLiteral b).toList := by cases b <;> decide

theorem integerLiteralFree {c : Char} (noDigit : asciiDigit? c = none) (noSign : c ≠ '-')
    (noSuffix : c ≠ 'm') (info : Option FieldInfo) (n : Int) :
    c ∉ (ofInt n ++ numberSuffix info).toList := by
  have suffix : c ∉ (numberSuffix info).toList := by
    unfold numberSuffix
    split
    · simpa using noSuffix
    · simp
  simp [integerFree noDigit noSign n, suffix]

theorem textLiteralInjective {s t : String} (same : textLiteral s = textLiteral t) : s = t := by
  have back := congrArg unquoted? same
  rw [unquotedText, unquotedText] at back
  exact Option.some.inj back

theorem integerDisplay (n : Int) : (Value.int n).display = ofInt n := rfl

theorem integerLiteral (version : Version) (info : Option FieldInfo) {n : Int}
    (short : tooManyDigits n = false) :
    literal version info (.int n) = .ok (ofInt n ++ numberSuffix info) := by
  have told : (Value.int n).hasLongInteger = false := by rw [Value.hasLongInteger, short]
  have text : (Value.int n).text? = .ok (ofInt n) := by
    rcases textOutcome (.int n) with ⟨-, long⟩ | shown
    · cases told.symm.trans long
    · rw [shown, integerDisplay]
  simp only [literal, Value.extent?, Option.isSome_some, if_true, numberText?, text, okBind]

inductive Literal (info : Option FieldInfo) : Value → String → Prop
  | bool (b : Bool) : Literal info (.bool b) (boolLiteral b)
  | int (n : Int) : Literal info (.int n) (ofInt n ++ numberSuffix info)
  | text (s : String) : Literal info (.text s) (textLiteral s)

theorem scalarLiteral (version : Version) (info : Option FieldInfo) {v : Value}
    (scalar : Scalar v) : ∃ l, literal version info v = .ok l ∧ Literal info (told v) l := by
  cases scalar with
  | null => exact ⟨_, rfl, .text "None"⟩
  | bool b => exact ⟨_, rfl, .bool b⟩
  | int short => exact ⟨_, integerLiteral version info short, .int _⟩
  | text s => exact ⟨_, rfl, .text s⟩

theorem literalUnique {info : Option FieldInfo} {v w : Value} {l : String}
    (first : Literal info v l) (second : Literal info w l) : v = w := by
  have quotes {n : Int} {s : String} (same : ofInt n ++ numberSuffix info = textLiteral s) : False :=
    integerLiteralFree (by decide) (by decide) (by decide) info n (same ▸ quoteInText s)
  have letters {n : Int} {b : Bool} (same : ofInt n ++ numberSuffix info = boolLiteral b) : False :=
    integerLiteralFree (by decide) (by decide) (by decide) info n (same ▸ letterInBool b)
  generalize same : l = k at second
  cases first with
  | bool b =>
    cases second with
    | bool c => rw [boolLiteralInjective same]
    | int n => exact (letters same.symm).elim
    | text s => exact absurd (same ▸ quoteInText s) (noQuoteInBool b)
  | int n =>
    cases second with
    | bool b => exact (letters same).elim
    | int m => rw [ofIntInjective (String.append_left_inj _ |>.mp same)]
    | text s => exact (quotes same).elim
  | text s =>
    cases second with
    | bool b => exact absurd (same ▸ quoteInText s) (noQuoteInBool b)
    | int n => exact (quotes same.symm).elim
    | text t => rw [textLiteralInjective same]

theorem boolsSame (b c : Bool) : (Value.bool b).strictlySame (.bool c) = .ok (b == c) := by
  cases b <;> cases c <;>
    simp [Value.strictlySame, Value.same, Value.sameScalar, Value.extent?, Value.signalling,
      Extent.same]

theorem scalarsSame {v w : Value} (first : Scalar v) (second : Scalar w) :
    ∃ b, v.strictlySame w = .ok b ∧ (b = true ↔ v = w) := by
  cases first with
  | bool b =>
    cases second with
    | bool c => exact ⟨b == c, boolsSame b c, by simp⟩
    | _ => simp [Value.strictlySame, Value.isBool]
  | _ =>
    cases second <;>
      simp [Value.strictlySame, Value.isBool, Value.same, Value.sameScalar, Value.extent?,
        Value.asText?, Value.signalling, Extent.same]

def Confused (v w : Value) : Prop :=
  (v = .null ∧ w = .text "None") ∨ (v = .text "None" ∧ w = .null)

theorem toldSame (v w : Value) : told v = told w ↔ v = w ∨ Confused v w := by
  cases v <;> cases w <;> simp [told, Confused, eq_comm]

theorem literalsTellApart (version : Version) (info : Option FieldInfo) {v w : Value}
    (first : Scalar v) (second : Scalar w) :
    ∃ l k b, literal version info v = .ok l ∧ literal version info w = .ok k ∧
      v.strictlySame w = .ok b ∧ (l = k ↔ b = true ∨ Confused v w) := by
  obtain ⟨l, written, ofFirst⟩ := scalarLiteral version info first
  obtain ⟨k, written', ofSecond⟩ := scalarLiteral version info second
  obtain ⟨b, compared, meaning⟩ := scalarsSame first second
  refine ⟨l, k, b, written, written', compared, ?_⟩
  rw [meaning, ← toldSame]
  constructor
  · rintro rfl
    exact literalUnique ofFirst ofSecond
  · intro same
    rw [literalTold, same, ← literalTold] at written
    exact Except.ok.inj (written.symm.trans written')

theorem quotedTextsTellApart :
    Scalar (.text "it's") ∧ Scalar (.text "it''s") ∧
    ∃ l k b, literal .v3 none (.text "it's") = .ok l ∧ literal .v3 none (.text "it''s") = .ok k ∧
      (Value.text "it's").strictlySame (.text "it''s") = .ok b ∧
      (l = k ↔ b = true ∨ Confused (.text "it's") (.text "it''s")) :=
  ⟨.text _, .text _, literalsTellApart .v3 none (.text _) (.text _)⟩

theorem nullWrittenAsText :
    literal .v4 none .null = .ok "'None'" ∧ literal .v4 none (.text "None") = .ok "'None'" ∧
      Value.null.strictlySame (.text "None") = .ok false := by
  have text : literal .v4 none (.text "None") = .ok "'None'" := rfl
  refine ⟨(literalTold .v4 none .null).trans text, text, ?_⟩
  simp [Value.strictlySame, Value.isBool, Value.same, Value.sameScalar, Value.extent?,
    Value.asText?]

end TableQuery.OData
