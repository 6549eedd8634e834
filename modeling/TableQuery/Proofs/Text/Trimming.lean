import TableQuery.Text.Blank

/-! Trimming. What is left has nothing to trim at its ends, and blanks around a text do not
matter. -/
namespace TableQuery.Text

theorem dropWhileKept {p : Char → Bool} {cs : List Char} (kept : ∀ c ∈ cs.head?, p c = false) :
    cs.dropWhile p = cs := by
  cases cs with
  | nil => rfl
  | cons c cs => simp [kept c rfl]

theorem dropWhileHead (p : Char → Bool) (cs : List Char) :
    ∀ c ∈ (cs.dropWhile p).head?, p c = false := by
  intro c first
  have head := List.head?_dropWhile_not p cs
  rw [first] at head
  exact head

theorem trimEnds {cs : List Char} (first : ∀ c ∈ cs.head?, isBlank c = false)
    (last : ∀ c ∈ cs.getLast?, isBlank c = false) : trim cs = cs := by
  rw [trim, trimWhere, dropWhileKept first, dropWhileKept (by simpa using last), List.reverse_reverse]

theorem trimSublist (cs : List Char) : (trim cs).Sublist cs := by
  have back := List.dropWhile_sublist (l := (cs.dropWhile isBlank).reverse) isBlank
  exact (List.reverse_reverse (cs.dropWhile isBlank) ▸ back.reverse).trans
    (List.dropWhile_sublist isBlank)

theorem trimTrimmed {p q : Char → Bool} (within : ∀ {c}, q c = true → p c = true)
    (cs : List Char) : trimWhere q (trimWhere p cs) = trimWhere p cs := by
  have outside {ds : List Char} (ends : ∀ c ∈ ds.head?, p c = false) : ds.dropWhile q = ds :=
    dropWhileKept fun c first => by
      have := ends c first
      cases inside : q c with
      | false => rfl
      | true => exact absurd (within inside) (by simp [this])
  have back : (trimWhere p cs).reverse.dropWhile q = (trimWhere p cs).reverse := by
    simpa [trimWhere] using outside (dropWhileHead p (cs.dropWhile p).reverse)
  have front : (trimWhere p cs).dropWhile q = trimWhere p cs := by
    refine outside fun c first => dropWhileHead p cs c ?_
    have inside : trimWhere p cs <+: cs.dropWhile p := by
      rw [← List.reverse_suffix]
      simpa [trimWhere] using List.dropWhile_suffix p
    obtain ⟨rest, whole⟩ := inside
    rw [← whole, List.head?_append, first]
    rfl
  rw [trimWhere, front, back, List.reverse_reverse]

theorem trimmedAgain (s : String) : trimmed (trimmed s) = trimmed s := by
  rw [trimmed, trimmed, String.toList_ofList, trim, trim, trimTrimmed id]

theorem trimPadded {before after : List Char} (front : ∀ c ∈ before, isBlank c = true)
    (back : ∀ c ∈ after, isBlank c = true) (cs : List Char) :
    trim (before ++ cs ++ after) = trim cs := by
  have behind : ∀ c ∈ after.reverse, isBlank c = true := by simpa using back
  rw [trim, trimWhere, List.append_assoc, List.dropWhile_append_of_pos front, List.dropWhile_append]
  split
  · rename_i nothing
    have dropped := List.isEmpty_iff.mp nothing
    have gone : after.dropWhile isBlank = [] := by
      rw [← List.append_nil after, List.dropWhile_append_of_pos back, List.dropWhile_nil]
    rw [gone, trim, trimWhere, dropped]
  · rw [List.reverse_append, List.dropWhile_append_of_pos behind, trim, trimWhere]

end TableQuery.Text
