import TableQuery.Text.Pieces

/-! Joining pieces and splitting them again, and substituting in texts.
Pieces that do not hold the separator are recovered from their join, in order. A text that does not hold
the character to be replaced stays as it is. -/
namespace TableQuery.Text

theorem splitFree {sep : Char} {cs : List Char} (free : sep ∉ cs) : split sep cs = [cs] := by
  induction cs with
  | nil => rfl
  | cons c cs ih =>
    have other : c ≠ sep := by rintro rfl; simp at free
    rw [split, if_neg other, ih fun inside => free (by simp [inside])]

theorem splitFront {sep : Char} {cs : List Char} (free : sep ∉ cs) (rest : List Char) :
    split sep (cs ++ sep :: rest) = cs :: split sep rest := by
  induction cs with
  | nil => rw [List.nil_append, split, if_pos rfl]
  | cons c cs ih =>
    have other : c ≠ sep := by rintro rfl; simp at free
    rw [List.cons_append, split, if_neg other, ih fun inside => free (by simp [inside])]

theorem splitJoin (sep : Char) {parts : List String} (present : parts ≠ [])
    (free : ∀ p ∈ parts, sep ∉ p.toList) :
    split sep (join (String.singleton sep) parts).toList = parts.map String.toList := by
  induction parts with
  | nil => exact absurd rfl present
  | cons p ps ih =>
    have alone : sep ∉ p.toList := free p (by simp)
    rw [joinCons]
    split
    · rename_i last
      simp [last, splitFree alone]
    · rename_i others
      have inner := ih others fun q hq => free q (by simp [hq])
      have front := splitFront alone (join (String.singleton sep) ps).toList
      simpa [inner] using front

theorem piecesJoin (sep : Char) {parts : List String} (present : parts ≠ [])
    (free : ∀ p ∈ parts, sep ∉ p.toList) :
    pieces sep (join (String.singleton sep) parts) = parts := by
  rw [pieces, splitJoin sep present free, List.map_map]
  exact List.map_id'' (fun s => String.ofList_toList) parts

theorem joinKept {p : Char → Bool} {sep : String} (marks : ∀ c ∈ sep.toList, p c = false)
    (parts : List String) :
    (join sep parts).toList.filter p = (parts.flatMap String.toList).filter p := by
  have none : sep.toList.filter p = [] :=
    List.filter_eq_nil_iff.mpr fun c member => by simp [marks c member]
  induction parts with
  | nil => rfl
  | cons s rest ih =>
    rw [joinCons]
    split
    · rename_i last
      simp [last]
    · simp [none, ih]

theorem substituteFree {c : Char} {cs : List Char} (free : c ∉ cs) (replacement : List Char) :
    substitute c replacement cs = cs := by
  induction cs with
  | nil => rfl
  | cons x cs ih =>
    obtain ⟨other, rest⟩ := not_or.mp (mt List.mem_cons.mpr free)
    have tail := ih rest
    rw [substitute] at tail ⊢
    rw [List.flatMap_cons, if_neg (Ne.symm other), tail]
    rfl

end TableQuery.Text
