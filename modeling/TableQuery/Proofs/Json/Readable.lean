import TableQuery.Json.Reader
import TableQuery.Proofs.Outcome
import TableQuery.Proofs.Text.Integers
import TableQuery.Proofs.Value.LongIntegers

/-! What texts of JSON read as. No value that is read holds an integer too long to be told. -/
namespace TableQuery.Json
open Text Number

theorem leadingDigitsBelow (cs : List Char) : ∀ d ∈ (leadingDigits cs).1, d < 10 := by
  induction cs with
  | nil => simp [leadingDigits]
  | cons c cs ih =>
    unfold leadingDigits
    split
    · simp
    · rename_i d digit
      exact List.forall_mem_cons.mpr ⟨asciiDigitBelow digit, ih⟩

theorem wholeDigitsBelow {cs rest : List Char} {ds : List Nat}
    (found : wholeDigits? cs = some (ds, rest)) : ∀ d ∈ ds, d < 10 := by
  have below := leadingDigitsBelow cs
  unfold wholeDigits? at found
  split at found
  · cases found
  · cases found
    simp
  · rwa [Option.some.inj found] at below

theorem numberShort {cs rest : List Char} {v : Value} (found : number cs = .ok (v, rest)) :
    v.hasLongInteger = false := by
  unfold number at found
  split at found
  split at found
  · cases found
  · rename_i ds after whole
    split at found
    split at found
    split at found
    · split at found
      · rename_i few
        cases found
        rw [Value.hasLongInteger]
        exact shortDigits _ (wholeDigitsBelow whole) few
      · cases found
    · cases found
      rfl

theorem scalarShort {cs rest : List Char} {v : Value} (found : scalar cs = .ok (v, rest)) :
    v.hasLongInteger = false := by
  have wordsShort : ∀ w ∈ words, w.2.hasLongInteger = false := by simp [words, Value.hasLongInteger]
  unfold scalar at found
  split at found
  · rename_i word
    cases found
    obtain ⟨w, member, same⟩ := List.exists_of_findSome?_eq_some word
    obtain ⟨behind, -, last⟩ := Option.map_eq_some_iff.mp same
    cases last
    exact wordsShort w member
  · exact numberShort found

theorem readerShort (fuel : Nat) :
    (∀ {cs rest v}, value fuel cs = .ok (v, rest) → v.hasLongInteger = false) ∧
    (∀ {out cs rest v}, Value.anyLongInteger out = false → items fuel out cs = .ok (v, rest) →
      v.hasLongInteger = false) ∧
    (∀ {out cs rest v}, Value.anyLongEntry out = false → entries fuel out cs = .ok (v, rest) →
      v.hasLongInteger = false) := by
  induction fuel with
  | zero =>
    exact ⟨fun found => (nomatch found), fun _ found => (nomatch found),
      fun _ found => (nomatch found)⟩
  | succ fuel ih =>
    obtain ⟨ofValue, ofItems, ofEntries⟩ := ih
    refine ⟨?_, ?_, ?_⟩
    · intro cs rest v found
      unfold value at found
      split at found
      · obtain ⟨⟨s, behind⟩, -, last⟩ := bindOk.mp found
        cases last
        rfl
      · split at found
        · cases found
          rfl
        · exact ofEntries rfl found
      · split at found
        · cases found
          rfl
        · exact ofItems rfl found
      · exact scalarShort found
    · intro out cs rest v short found
      unfold items at found
      obtain ⟨⟨w, behind⟩, read, last⟩ := bindOk.mp found
      have longer : Value.anyLongInteger (w :: out) = false := by
        simp [Value.anyLongInteger, ofValue read, short]
      dsimp only at last
      split at last
      · cases last
        rw [Value.hasLongInteger, Value.noLongInteger]
        exact fun x inside => (Value.noLongInteger _).mp longer x (List.mem_reverse.mp inside)
      · exact ofItems longer last
      · cases last
    · intro out cs rest v short found
      unfold entries at found
      obtain ⟨⟨key, behind⟩, -, found⟩ := bindOk.mp found
      dsimp only at found
      split at found
      · obtain ⟨⟨w, behind⟩, read, last⟩ := bindOk.mp found
        have longer : Value.anyLongEntry (Value.put key w out) = false :=
          Value.putShort (ofValue read) short
        dsimp only at last
        split at last
        · cases last
          rw [Value.hasLongInteger, longer]
        · exact ofEntries longer last
        · cases last
      · cases found

theorem readShort {cs : List Char} {v : Value} (found : read cs = .ok v) :
    v.hasLongInteger = false := by
  unfold read at found
  dsimp only at found
  split at found
  · rename_i outcome
    cases found
    obtain ⟨⟨w, behind⟩, first, last⟩ := bindOk.mp outcome
    dsimp only at last
    split at last
    · cases last
      exact (readerShort _).1 first
    · cases last
  · cases found

def Readable (v : Value) : Prop := ∃ cs, read cs = .ok v

theorem readableShort {v : Value} (readable : Readable v) : v.hasLongInteger = false := by
  obtain ⟨cs, found⟩ := readable
  exact readShort found

end TableQuery.Json
