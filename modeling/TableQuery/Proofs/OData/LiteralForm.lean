import TableQuery.OData.Literal
import TableQuery.Proofs.Outcome

/-! The forms that literals of the remote query language take.
Numbers, truth values and dates of version 4 are plain: they hold no mark of the language and no
quote. Dates of version 3 are plain text between quotes behind a word, and all else is text between
quotes with its own quotes doubled. -/
namespace TableQuery.OData
open TableQuery.Text

/- What ends a name or a bare literal. A quote is no mark: dates of version 3 have quotes inside. -/
def isMark (c : Char) : Bool := c == ' ' || c == '(' || c == ')' || c == ','

def plainChar (c : Char) : Bool := !isMark c && c != '\''

def Plain (cs : List Char) : Prop := ∀ c ∈ cs, plainChar c = true

instance : DecidablePred Plain := fun cs => List.decidableBAll (fun c => plainChar c = true) cs

def Bare (cs : List Char) : Prop := ∀ c ∈ cs, isMark c = false

instance : DecidablePred Bare := fun cs => List.decidableBAll (fun c => isMark c = false) cs

@[simp] theorem plainNil : Plain [] := by decide

@[simp] theorem plainCons {c : Char} {cs : List Char} :
    Plain (c :: cs) ↔ plainChar c = true ∧ Plain cs := by
  simp [Plain]

@[simp] theorem plainAppend {cs ds : List Char} : Plain (cs ++ ds) ↔ Plain cs ∧ Plain ds := by
  simp only [Plain, List.mem_append]
  exact ⟨fun h => ⟨fun c hc => h c (.inl hc), fun c hc => h c (.inr hc)⟩,
    fun h c hc => hc.elim (h.1 c) (h.2 c)⟩

theorem plainPart {cs ds : List Char} (plain : Plain cs) (part : ∀ c ∈ ds, c ∈ cs) : Plain ds :=
  fun c hc => plain c (part c hc)

theorem plainDigitChar (d : Nat) : plainChar (digitChar d) = true := by
  have below : ∀ k < 10, plainChar (Char.ofNat (48 + k)) = true := by decide
  exact below (d % 10) (Nat.mod_lt d (by decide))

theorem plainDigitChars (ds : List Nat) : Plain (ds.map digitChar) := by
  intro c hc
  obtain ⟨d, _, rfl⟩ := List.mem_map.mp hc
  exact plainDigitChar d

theorem plainZeros (n : Nat) : Plain (List.replicate n '0') := by
  intro c hc
  rw [(List.mem_replicate.mp hc).2]
  decide

theorem plainNatural (n : Nat) : Plain (ofNat n).toList := by
  simpa [ofNat] using plainDigitChars (digits n)

theorem plainInteger (n : Int) : Plain (ofInt n).toList := by
  unfold ofInt
  split
  · simpa +decide using plainNatural n.natAbs
  · exact plainNatural n.natAbs

theorem plainPadded (width n : Nat) : Plain (ofNatPadded width n).toList := by
  simpa [ofNatPadded, padLeft, copies] using ⟨plainZeros _, plainNatural n⟩

theorem plainMinus (negative : Bool) : Plain (Decimal.minus negative).toList := by
  cases negative <;> decide

theorem plainPoint {ds : List Char} (plain : Plain ds) (place : Int) :
    Plain (Decimal.placePoint ds place) := by
  unfold Decimal.placePoint
  split
  · simpa +decide using ⟨plainZeros _, plain⟩
  · split
    · simpa using ⟨plain, plainZeros _⟩
    · have front : Plain (ds.take place.toNat) := plainPart plain fun c => List.mem_of_mem_take
      have back : Plain (ds.drop place.toNat) := plainPart plain fun c => List.mem_of_mem_drop
      simpa +decide using ⟨front, back⟩

theorem plainExponent (e : Int) : Plain (Decimal.exponentText e).toList := by
  unfold Decimal.exponentText
  split
  · exact plainInteger e
  · simpa +decide using plainInteger e

theorem plainDecimal (d : Decimal) : Plain d.toText.toList := by
  cases d with
  | finite negative coefficient exponent =>
    have body := plainPoint (plainDigitChars (digits coefficient))
    have tail (left place : Int) : Plain
        (if left = place then "" else "E" ++ Decimal.exponentText (left - place)).toList := by
      split
      · decide
      · simpa +decide using plainExponent (left - place)
    simp only [Decimal.toText, String.toList_append, String.toList_ofList, plainAppend]
    exact ⟨⟨plainMinus negative, body _⟩, tail _ _⟩
  | infinite negative => simpa +decide [Decimal.toText] using plainMinus negative
  | nan negative signalling payload =>
    simp only [Decimal.toText, String.toList_append, plainAppend]
    refine ⟨⟨plainMinus negative, by cases signalling <;> decide⟩, ?_⟩
    split
    · decide
    · exact plainNatural payload

theorem plainScientific {ds : List Char} (plain : Plain ds) (e : Int) :
    Plain (Binary64.scientific ds e).toList := by
  have shown : Plain (Binary64.exponentText e).toList := by
    simp only [Binary64.exponentText, String.toList_append, plainAppend]
    exact ⟨by split <;> decide, plainPadded 2 e.natAbs⟩
  unfold Binary64.scientific
  split
  · decide
  · simpa using ⟨by simpa using plain, shown⟩
  · simp only [plainCons] at plain
    simpa +decide using ⟨plain.1, plain.2, shown⟩

theorem plainPositional {ds : List Char} (plain : Plain ds) (e : Int) :
    Plain (Binary64.positional ds e).toList := by
  have placed := plainPoint plain (e + 1)
  simp only [Binary64.positional, String.toList_ofList]
  split
  · exact placed
  · simpa +decide using placed

theorem plainTrimmed {ds : List Char} (plain : Plain ds) :
    Plain (Binary64.dropTrailingZeros ds) := by
  have kept : Plain (ds.reverse.dropWhile (· == '0')).reverse := by
    refine plainPart plain fun c hc => ?_
    have inside := (List.dropWhile_sublist (· == '0')).subset (List.mem_reverse.mp hc)
    exact List.mem_reverse.mp inside
  unfold Binary64.dropTrailingZeros
  split
  · decide
  · exact kept

theorem plainBinary (x : Binary64) : Plain x.toText.toList := by
  cases x with
  | nan => decide
  | infinite negative => simpa +decide [Binary64.toText] using plainMinus negative
  | finite negative mantissa exponent =>
    simp only [Binary64.toText]
    split
    · simpa +decide using plainMinus negative
    · have ds := plainTrimmed (plainDigitChars
        (digits (Binary64.shortest mantissa exponent).coefficient))
      simp only [String.toList_append, plainAppend]
      refine ⟨plainMinus negative, ?_⟩
      split
      · exact plainPositional ds _
      · exact plainScientific ds _

theorem plainClock (m : Moment) : Plain (clockText m).toList := by
  simp +decide [clockText, plainNatural, plainPadded]

theorem displayOfText {v : Value} {s : String} (ok : v.text? = .ok s) : v.display = s := by
  unfold Value.text? at ok
  split at ok
  · cases ok
  · exact Except.ok.inj ok

theorem plainNumber {v : Value} {place : Extent} {text : String} (number : v.extent? = some place)
    (ok : numberText? v = .ok text) : Plain text.toList := by
  cases v with
  | float x =>
    simp only [numberText?] at ok
    split at ok <;> cases ok
    · exact plainInteger _
    · exact plainBinary x
  | bool b => rw [← displayOfText ok]; cases b <;> decide
  | int n => rw [← displayOfText ok]; exact plainInteger n
  | decimal d => rw [← displayOfText ok]; exact plainDecimal d
  | version w => rw [← displayOfText ok]; exact plainNatural w.number
  | _ => simp [Value.extent?] at number

theorem plainSuffix (info : Option FieldInfo) : Plain (numberSuffix info).toList := by
  unfold numberSuffix
  split <;> decide

inductive LiteralForm : List Char → Prop
  | bare {cs} (plain : Plain cs) : LiteralForm cs
  | dated {cs} (plain : Plain cs) : LiteralForm ("DateTime'".toList ++ cs ++ ['\''])
  | quoted (cs) : LiteralForm ('\'' :: doubled cs ++ ['\''])

theorem momentForm (version : Version) (m : Moment) :
    LiteralForm (momentLiteral version m).toList := by
  cases version with
  | v3 => simpa [momentLiteral] using LiteralForm.dated (plainClock m)
  | v4 => exact .bare (by simpa +decide [momentLiteral] using plainClock m)

theorem textForm (s : String) : LiteralForm (textLiteral s).toList := by
  simpa [textLiteral] using LiteralForm.quoted s.toList

theorem literalForm {version : Version} {info : Option FieldInfo} {v : Value} {text : String}
    (ok : literal version info v = .ok text) : LiteralForm text.toList := by
  unfold literal at ok
  split at ok
  · cases ok; exact momentForm version _
  · cases ok; exact momentForm version _
  · rename_i b
    cases ok
    exact .bare (by cases b <;> decide)
  · split at ok
    · rename_i number
      obtain ⟨place, number⟩ := Option.isSome_iff_exists.mp number
      obtain ⟨bare, shown, last⟩ := bindOk.mp ok
      cases last
      exact .bare (by simpa using ⟨plainNumber number shown, plainSuffix info⟩)
    · obtain ⟨shown, _, last⟩ := bindOk.mp ok
      cases last
      exact textForm shown

end TableQuery.OData
