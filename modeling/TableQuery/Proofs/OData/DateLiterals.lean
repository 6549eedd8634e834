import TableQuery.OData.Literal
import TableQuery.Proofs.Calendar.IsoText

/-! Literals of dates.
A date is written to the second in fields of two digits behind the year, a day as the moment at which it
begins. The year has no zeros in front, so that literals have one width, and are in the order of time,
among years of as many digits. -/
namespace TableQuery.OData
open TableQuery.Text TableQuery.Number

inductive Dated : Value → Moment → Prop
  | moment (m : Moment) : Dated (.moment m) m
  | date (d : Date) : Dated (.date d) (.ofDate d)

def ClockForm (width : Nat) (m : Moment) (text : String) : Prop :=
  ∃ year month day hour minute second : List Char,
    FixedDigits width m.date.year year ∧ FixedDigits 2 m.date.month month ∧
    FixedDigits 2 m.date.day day ∧ FixedDigits 2 m.time.hour hour ∧
    FixedDigits 2 m.time.minute minute ∧ FixedDigits 2 m.time.second second ∧
    text.toList = year ++ '-' :: (month ++ '-' :: (day ++ 'T' :: (hour ++ ':' ::
      (minute ++ ':' :: second))))

def yearWidth (m : Moment) : Nat := (digits m.date.year).length

theorem yearWidthPresent (m : Moment) : 0 < yearWidth m := List.length_pos_iff.mpr (digitsPresent _)

theorem clockChars (m : Moment) : (clockText m).toList =
    (ofNatPadded (yearWidth m) m.date.year).toList ++ '-' ::
      ((ofNatPadded 2 m.date.month).toList ++ '-' :: ((ofNatPadded 2 m.date.day).toList ++ 'T' ::
        ((ofNatPadded 2 m.time.hour).toList ++ ':' :: ((ofNatPadded 2 m.time.minute).toList ++ ':' ::
          (ofNatPadded 2 m.time.second).toList)))) := by
  rw [yearWidth, ownWidth]
  simp [clockText]

theorem clockTextForm (m : Moment) : ClockForm (yearWidth m) m (clockText m) :=
  ⟨_, _, _, _, _, _, paddedFixed (yearWidthPresent m) (digitsReach _),
    paddedFixed (by decide) m.date.monthBelow, paddedFixed (by decide) m.date.dayBelow,
    paddedFixed (by decide) m.time.hourBelow, paddedFixed (by decide) m.time.minuteBelow,
    paddedFixed (by decide) m.time.secondBelow, clockChars m⟩

theorem ClockForm.length {width : Nat} {m : Moment} {text : String} (form : ClockForm width m text) :
    text.toList.length = width + 15 := by
  obtain ⟨_, _, _, _, _, _, year, month, day, hour, minute, second, same⟩ := form
  simp only [same, List.length_append, List.length_cons, year.length, month.length, day.length,
    hour.length, minute.length, second.length]

theorem fourDigits (m : Moment) : yearWidth m = 4 ↔ 1000 ≤ m.date.year := by
  have reach := digitsReach m.date.year
  have most := digitsShort (by decide) m.date.yearBelow
  constructor
  · intro four
    refine Nat.le_of_not_lt fun early => ?_
    have few : (digits m.date.year).length ≤ 3 := digitsShort (by decide) early
    unfold yearWidth at four
    omega
  · intro late
    refine Nat.le_antisymm most (Nat.le_of_not_lt fun few => ?_)
    have below := Nat.lt_of_lt_of_le reach (tenToMono (Nat.le_of_lt_succ few))
    exact absurd late (Nat.not_le.mpr below)

theorem clockOrder {m n : Moment} (alike : yearWidth m = yearWidth n) :
    clockText m ++ "z" < clockText n ++ "z" ↔ m.secondKey < n.secondKey := by
  have year : n.date.year < tenTo (yearWidth m) := alike ▸ digitsReach _
  have letter : "z".toList = ['z'] := rfl
  rw [String.lt_iff, String.toList_append, String.toList_append, clockChars, clockChars, ← alike]
  simp only [List.append_assoc, List.cons_append]
  rw [letter, fieldOrder (yearWidthPresent m) (digitsReach _) year,
    fieldOrder (by decide) m.date.monthBelow n.date.monthBelow,
    fieldOrder (by decide) m.date.dayBelow n.date.dayBelow,
    fieldOrder (by decide) m.time.hourBelow n.time.hourBelow,
    fieldOrder (by decide) m.time.minuteBelow n.time.minuteBelow,
    fieldOrder (by decide) m.time.secondBelow n.time.secondBelow]
  simp only [List.lt_irrefl, and_false, or_false]
  exact (Moment.secondKeyOrder m n).symm

theorem datesWritten (info : Option FieldInfo) :
    (∀ {v m}, Dated v m → ∃ text,
      ClockForm (yearWidth m) m text ∧ (yearWidth m = 4 ↔ 1000 ≤ m.date.year) ∧
        literal .v4 info v = .ok (text ++ "z") ∧
        literal .v3 info v = .ok ("DateTime'" ++ text ++ "'")) ∧
    ∀ {m n : Moment}, m.offset = none → n.offset = none → yearWidth m = yearWidth n →
      ∃ earlier later, literal .v4 info (.moment m) = .ok earlier ∧
        literal .v4 info (.moment n) = .ok later ∧
        (earlier < later ↔ m.instant / 1000000 < n.instant / 1000000) := by
  constructor
  · intro v m dated
    refine ⟨clockText m, clockTextForm m, fourDigits m, ?_⟩
    cases dated <;> exact ⟨rfl, rfl⟩
  · intro m n bare otherBare alike
    exact ⟨_, _, rfl, rfl, (clockOrder alike).trans (Moment.secondOrder bare otherBare).symm⟩

def lastMoment : Moment :=
  ⟨⟨1999, 12, 31, by decide, by decide, by decide⟩,
    ⟨23, 59, 59, 999999, by decide, by decide, by decide, by decide⟩, none⟩

def firstDay : Date := ⟨2000, 1, 1, by decide, by decide, by decide⟩

theorem turnOfYearWritten :
    (Dated (.date firstDay) (.ofDate firstDay) ∧ ∃ text, ClockForm 4 (.ofDate firstDay) text ∧
      literal .v4 none (.date firstDay) = .ok (text ++ "z") ∧
      literal .v3 none (.date firstDay) = .ok ("DateTime'" ++ text ++ "'")) ∧
    lastMoment.offset = none ∧ (Moment.ofDate firstDay).offset = none ∧
      yearWidth lastMoment = yearWidth (.ofDate firstDay) ∧
      ∃ earlier later, literal .v4 none (.moment lastMoment) = .ok earlier ∧
        literal .v4 none (.moment (.ofDate firstDay)) = .ok later ∧ earlier < later := by
  have four : yearWidth (.ofDate firstDay) = 4 := by decide +kernel
  have alike : yearWidth lastMoment = yearWidth (.ofDate firstDay) := by decide +kernel
  obtain ⟨text, form, -, version4, version3⟩ := (datesWritten none).1 (.date firstDay)
  obtain ⟨earlier, later, own, other, order⟩ := (datesWritten none).2 rfl rfl alike
  exact ⟨⟨.date firstDay, text, four ▸ form, version4, version3⟩, rfl, rfl, alike, earlier, later, own,
    other, order.mpr (by decide +kernel)⟩

def earlyDay : Date := ⟨999, 12, 31, by decide, by decide, by decide⟩

theorem earlyYearShort :
    (¬ ∃ text, ClockForm 4 (.ofDate earlyDay) text ∧
      literal .v4 none (.date earlyDay) = .ok (text ++ "z")) ∧
    ¬ ∃ earlier later, literal .v4 none (.moment (.ofDate earlyDay)) = .ok earlier ∧
      literal .v4 none (.moment (.ofDate firstDay)) = .ok later ∧
      (earlier < later ↔
        (Moment.ofDate earlyDay).instant / 1000000 < (Moment.ofDate firstDay).instant / 1000000) := by
  constructor
  · rintro ⟨text, form, written⟩
    have length := form.length
    have same : clockText (.ofDate earlyDay) ++ "z" = text ++ "z" := Except.ok.inj written
    have short : (clockText (.ofDate earlyDay)).toList.length = 18 := by decide +kernel
    rw [String.append_left_inj] at same
    rw [← same, short] at length
    cases length
  · rintro ⟨earlier, later, own, other, order⟩
    cases own
    cases other
    exact absurd (order.mpr (by decide +kernel)) (by decide +kernel)

end TableQuery.OData
