import TableQuery.OData.Response
import TableQuery.Proofs.Text.Integers
import TableQuery.Proofs.Number.Exact
import TableQuery.Proofs.Json.Readable

/-! What becomes of the answers of a remote service.
Each answer gives a page or one fault, by its shape and by its count alone. A count that cannot be read
is told in the fault, as long as it holds no integer too long to be told, and nothing that a text of
JSON denotes holds one. -/
namespace TableQuery.OData
open TableQuery.Text

inductive Denotes : Value → Int → Prop
  | integer {v : Value} {n : Int} (noTruth : v.isBool = false) (whole : v.asInt? = some n) :
      Denotes v n
  | number {x : Binary64} {n : Int} (integral : x.extent = .finite n) : Denotes (.float x) n
  | text {v : Value} {s : String} {n : Int} (words : v.asText? = some s)
      (integer : IntegerText (trim s.toList) n) : Denotes v n

def Counts (raw : Value) (n : Nat) : Prop := Denotes raw (n : Int)

/- Text whose digits are the ten of ASCII, and not more of them than may be read. -/
def Legible (raw : Value) : Prop :=
  ∀ s, raw.asText? = some s → Ascii s.toList ∧ s.toList.length ≤ digitLimit

theorem textLegible {s : String} (ascii : Ascii s.toList) (short : s.toList.length ≤ digitLimit) :
    Legible (.text s) := by
  rintro t ⟨⟩
  exact ⟨ascii, short⟩

theorem legibleInteger {raw : Value} (legible : Legible raw) {s : String}
    (words : raw.asText? = some s) (n : Int) :
    integer? (trim s.toList) = some n ↔ IntegerText (trim s.toList) n := by
  obtain ⟨ascii, short⟩ := legible s words
  have part := trimSublist s.toList
  exact integerIff (fun c inside => ascii c (part.subset inside))
    (Nat.le_trans part.length_le short) (trimTrimmed blankOfWhite s.toList) n

def whole? : Value → Option Int
  | .bool _ => none
  | .float x => x.toInt?
  | raw => raw.asInt?.or (raw.asText?.bind fun s => integer? (trim s.toList))

theorem countWhole (raw : Value) (n : Nat) :
    count? raw = some n ↔ whole? raw = some (n : Int) := by
  have natural (m : Option Int) :
      (m.bind fun k => if 0 ≤ k then some k.toNat else none) = some n ↔ m = some (n : Int) := by
    cases m with
    | none => simp
    | some k =>
      simp only [Option.bind_some, Option.ite_none_right_eq_some, Option.some.injEq]
      omega
  rw [← natural]
  cases raw <;> simp [count?, whole?, Value.asInt?, Value.asText?]

theorem truthless {v : Value} (notBool : ∀ b, v ≠ .bool b) : v.isBool = false := by
  cases v with
  | bool b => exact absurd rfl (notBool b)
  | _ => rfl

theorem wholeIff {raw : Value} (legible : Legible raw) (n : Int) :
    whole? raw = some n ↔ Denotes raw n := by
  constructor
  · intro read
    unfold whole? at read
    split at read
    · cases read
    · exact .number ((Binary64.toIntIff _ n).mp read)
    · rename_i notBool notFloat
      rcases Option.or_eq_some_iff.mp read with whole | ⟨-, read⟩
      · exact .integer (truthless notBool) whole
      · obtain ⟨s, words, read⟩ := Option.bind_eq_some_iff.mp read
        exact .text words ((legibleInteger legible words n).mp read)
  · intro denotes
    cases denotes with
    | integer noTruth whole =>
      cases raw <;> simp_all [whole?, Value.isBool, Value.asInt?]
    | number integral => exact (Binary64.toIntIff _ n).mpr integral
    | text words integer =>
      have read := (legibleInteger legible words n).mpr integer
      cases raw <;> simp_all [whole?, Value.asText?, Value.asInt?]

theorem countIff {raw : Value} (legible : Legible raw) (n : Nat) :
    count? raw = some n ↔ Counts raw n :=
  (countWhole raw n).trans (wholeIff legible n)

inductive Answers (version : Version) : Value → List Value → Value → Prop
  | rows {entries : List (String × Value)} {items : List Value}
      (found : Value.get "value" entries = .list items) :
      Answers version (.dict entries) items (Value.get (countKey version) entries)

theorem contentsIff (version : Version) (result : Value) (items : List Value) (raw : Value) :
    contents? version result = some (items, raw) ↔ Answers version result items raw := by
  constructor
  · intro read
    unfold contents? at read
    split at read
    · split at read
      · rename_i found
        cases read
        exact .rows found
      · cases read
    · cases read
  · rintro ⟨found⟩
    simp only [contents?, found]

theorem pageShapeless {version : Version} {result : Value} (fallback : Bool)
    (shapeless : ∀ items raw, ¬ Answers version result items raw) :
    page version fallback result = .error .missingItems := by
  have none : contents? version result = none :=
    Option.eq_none_iff_forall_ne_some.mpr fun ⟨items, raw⟩ read =>
      shapeless items raw ((contentsIff version result items raw).mp read)
  simp only [page, none]

section
variable {version : Version} {result : Value} {items : List Value} {raw : Value}

theorem pageCounted (answers : Answers version result items raw) {n : Nat}
    (counted : count? raw = some n) (fallback : Bool) :
    page version fallback result = .ok (⟨items, n⟩, []) := by
  simp only [page, (contentsIff version result items raw).mpr answers, counted]

theorem pageUncounted (answers : Answers version result items raw) (uncounted : count? raw = none) :
    page version true result = .ok (⟨items, items.length⟩, [fallbackEntry version raw items]) ∧
    page version false result = .error (.about (.malformedCount (countKey version)) raw) := by
  simp [page, (contentsIff version result items raw).mpr answers, uncounted]

theorem answersShort (answers : Answers version result items raw) (readable : Json.Readable result) :
    raw.hasLongInteger = false := by
  cases answers with
  | rows found => exact Value.getShort (Json.readableShort readable) (countKey version)

theorem rowsWellFormed (answers : Answers version result items raw) (fallback : Bool) {f : Fault}
    (failed : page version fallback result = .error f) : f.kind ≠ .malformedResponse := by
  cases counted : count? raw with
  | some n => cases (pageCounted answers counted fallback).symm.trans failed
  | none =>
    obtain ⟨fallen, refused⟩ := pageUncounted answers counted
    cases fallback with
    | true => cases fallen.symm.trans failed
    | false =>
      cases refused.symm.trans failed
      unfold Fault.about
      split <;> simp [Fault.kind]

end

theorem answersClassified (version : Version) (fallback : Bool) (result : Value)
    (legible : ∀ items raw, Answers version result items raw → Legible raw) :
    ((∃ f, page version fallback result = .error f ∧ f.kind = .malformedResponse) ↔
      ∀ items raw, ¬ Answers version result items raw) ∧
    ∀ items raw, Answers version result items raw →
      (∀ n, Counts raw n → page version fallback result = .ok (⟨items, n⟩, [])) ∧
      ((∀ n, ¬ Counts raw n) →
        (fallback = true →
          ∃ entry, page version fallback result = .ok (⟨items, items.length⟩, [entry]) ∧
            entry.level = .warning) ∧
        (fallback = false → raw.hasLongInteger = false →
          page version fallback result = .error (.malformedCount (countKey version) raw)) ∧
        (fallback = false → raw.hasLongInteger = true →
          page version fallback result = .error .longInteger)) ∧
      (Json.Readable result → raw.hasLongInteger = false) := by
  refine ⟨⟨fun ⟨f, failed, kind⟩ items raw answers =>
      rowsWellFormed answers fallback failed kind, fun shapeless =>
      ⟨_, pageShapeless fallback shapeless, rfl⟩⟩, fun items raw answers =>
      ⟨?_, ?_, answersShort answers⟩⟩
  · intro n counts
    exact pageCounted answers ((countIff (legible items raw answers) n).mpr counts) fallback
  · intro uncounted
    have none : count? raw = none := Option.eq_none_iff_forall_ne_some.mpr fun n counted =>
      uncounted n ((countIff (legible items raw answers) n).mp counted)
    obtain ⟨fallen, refused⟩ := pageUncounted answers none
    refine ⟨?_, ?_, ?_⟩
    · rintro rfl
      exact ⟨_, fallen, rfl⟩
    · rintro rfl short
      rw [refused, Fault.aboutShort short]
    · rintro rfl long
      rw [refused, Fault.about, if_pos long]

def countedBy (s : String) : Value := .dict [("value", .list [.null]), ("@odata.count", .text s)]

theorem countedLegible {s : String} (legible : Legible (.text s)) (items : List Value) (raw : Value)
    (answers : Answers .v4 (countedBy s) items raw) : Legible raw := by
  cases answers with
  | rows found => exact legible

theorem spacedCountRead :
    (∀ items raw, Answers .v4 (countedBy " +1_0 ") items raw → Legible raw) ∧
    Answers .v4 (countedBy " +1_0 ") [.null] (.text " +1_0 ") ∧
    page .v4 false (countedBy " +1_0 ") = .ok (⟨[.null], 10⟩, []) ∧
    (∀ items raw, Answers .v4 (countedBy "1__0") items raw → Legible raw) ∧
    Answers .v4 (countedBy "1__0") [.null] (.text "1__0") ∧
    page .v4 false (countedBy "1__0") = .error (.malformedCount "@odata.count" (.text "1__0")) := by
  have spaced : Legible (.text " +1_0 ") := textLegible (by decide) (by decide)
  have doubled : Legible (.text "1__0") := textLegible (by decide) (by decide)
  have counts : Counts (.text " +1_0 ") 10 := (countIff spaced 10).mp (by decide)
  have uncounted (n : Nat) : ¬ Counts (.text "1__0") n := fun counts => by
    have unread : count? (.text "1__0") = none := by decide
    cases unread.symm.trans ((countIff doubled n).mpr counts)
  have answers (s : String) : Answers .v4 (countedBy s) [.null] (.text s) := .rows rfl
  obtain ⟨read, -⟩ := (answersClassified .v4 false _ (countedLegible spaced)).2 _ _ (answers _)
  obtain ⟨-, refused, -⟩ := (answersClassified .v4 false _ (countedLegible doubled)).2 _ _ (answers _)
  exact ⟨countedLegible spaced, answers _, read 10 counts, countedLegible doubled, answers _,
    (refused uncounted).2.1 rfl rfl⟩

def countedByInteger (n : ℤ) : Value := .dict [("value", .list []), ("@odata.count", .int n)]

theorem negativeUntold {n : ℤ} (negative : n < 0) (long : tooManyDigits n = true) :
    Answers .v4 (countedByInteger n) [] (.int n) ∧ (∀ m, ¬ Counts (.int n) m) ∧
      page .v4 false (countedByInteger n) = .error .longInteger := by
  have unread : count? (.int n) = none := if_neg (Int.not_le.mpr negative)
  have uncounted (m : ℕ) : ¬ Counts (.int n) m := fun counts => by
    have legible : Legible (.int n) := nofun
    cases unread.symm.trans ((countIff legible m).mpr counts)
  have answers : Answers .v4 (countedByInteger n) [] (.int n) := .rows rfl
  exact ⟨answers, uncounted, by rw [(pageUncounted answers unread).2, Fault.about, Value.hasLongInteger,
    if_pos long]⟩

theorem longCountUntold :
    let n : ℤ := -(Number.tenTo digitLimit : ℕ)
    Answers .v4 (countedByInteger n) [] (.int n) ∧ (∀ m, ¬ Counts (.int n) m) ∧
      page .v4 false (countedByInteger n) = .error .longInteger ∧
      Fault.longInteger.kind = .improper := by
  intro n
  have negative : n < 0 := Int.neg_neg_of_pos (mod_cast Number.tenToPos digitLimit)
  have long : tooManyDigits n = true := by
    rw [tooManyDigits, Int.natAbs_neg, Int.natAbs_natCast, decide_eq_true_eq]
  obtain ⟨answers, uncounted, untold⟩ := negativeUntold negative long
  exact ⟨answers, uncounted, untold, rfl⟩

end TableQuery.OData
