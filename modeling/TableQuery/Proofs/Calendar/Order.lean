import TableQuery.Calendar.Date

/-! The order of dates and moments.
A day's number in the calendar rises with year, month and day, in this order of weight, so that dates
are in order just when their keys are. -/
namespace TableQuery

namespace Date

def daysInYear (y : Nat) : Nat := if leapYear y then 366 else 365

theorem daysBeforeNextYear {y : Nat} (present : 1 ≤ y) :
    daysBeforeYear (y + 1) = daysBeforeYear y + daysInYear y := by
  obtain ⟨n, rfl⟩ := Nat.exists_eq_add_one.mpr present
  have leap : leapYear (n + 1) = true ↔ 4 ∣ n + 1 ∧ (¬ 100 ∣ n + 1 ∨ 400 ∣ n + 1) := by
    simp [leapYear, Nat.dvd_iff_mod_eq_zero]
  have fours : 100 ∣ n + 1 → 4 ∣ n + 1 := Nat.dvd_trans (by decide)
  have hundreds : 400 ∣ n + 1 → 100 ∣ n + 1 := Nat.dvd_trans (by decide)
  have fewer : n / 100 ≤ n / 4 := Nat.div_le_div_left (by decide) (by decide)
  simp only [daysBeforeYear, daysInYear, leap, Nat.add_sub_cancel, Nat.succ_div]
  by_cases four : 4 ∣ n + 1
  · by_cases hundred : 100 ∣ n + 1
    · by_cases most : 400 ∣ n + 1
      · simp only [four, hundred, most, if_true, true_and, or_true]
        omega
      · simp only [four, hundred, most, if_true, if_false, true_and, not_true, or_self]
        omega
    · have most := mt hundreds hundred
      simp only [four, hundred, most, if_true, if_false, true_and, not_false_iff, true_or]
      omega
  · have hundred := mt fours four
    have most := mt hundreds hundred
    simp only [four, hundred, most, if_false, false_and]
    omega

theorem daysBeforeYearMono {y z : Nat} (present : 1 ≤ y) (below : y ≤ z) :
    daysBeforeYear y ≤ daysBeforeYear z := by
  induction below with
  | refl => exact Nat.le_refl _
  | step between ih =>
    rw [daysBeforeNextYear (Nat.le_trans present between)]
    exact Nat.le_trans ih (Nat.le_add_right _ _)

theorem daysOfMonthsMono (y : Nat) {m n : Nat} (below : m ≤ n) :
    daysOfMonths y m ≤ daysOfMonths y n := by
  induction below with
  | refl => exact Nat.le_refl _
  | step between ih => exact Nat.le_trans ih (Nat.le_add_right _ _)

theorem daysOfTwelve (y : Nat) : daysOfMonths y 12 = daysInYear y := by
  unfold daysInYear
  split <;> simp [daysOfMonths, daysInMonth, *]

theorem daysThroughMonth (d : Date) : d.dayOfYear ≤ daysOfMonths d.year d.month := by
  obtain ⟨first, last⟩ := d.monthRange
  obtain ⟨month, same⟩ := Nat.exists_eq_add_one.mpr first
  have day := d.dayRange.2
  rw [dayOfYear, daysBeforeMonth, same] at *
  exact Nat.add_le_add_left day _

theorem dayOfYearWithin (d : Date) : 1 ≤ d.dayOfYear ∧ d.dayOfYear ≤ daysInYear d.year := by
  constructor
  · exact Nat.le_trans d.dayRange.1 (Nat.le_add_left _ _)
  · exact Nat.le_trans d.daysThroughMonth (daysOfTwelve d.year ▸ daysOfMonthsMono _ d.monthRange.2)

theorem ordinalOfYear {d e : Date} (earlier : d.year < e.year) : d.ordinal < e.ordinal := by
  have last := d.dayOfYearWithin.2
  have first := e.dayOfYearWithin.1
  have between := daysBeforeYearMono (Nat.le_add_left 1 d.year) (Nat.succ_le_of_lt earlier)
  rw [daysBeforeNextYear d.yearRange.1] at between
  unfold ordinal
  omega

theorem ordinalOfMonth {d e : Date} (year : d.year = e.year) (earlier : d.month < e.month) :
    d.ordinal < e.ordinal := by
  have last := d.daysThroughMonth
  have between := daysOfMonthsMono d.year (Nat.le_sub_one_of_lt earlier)
  have first := e.dayRange.1
  have inside : e.dayOfYear = daysOfMonths e.year (e.month - 1) + e.day := rfl
  rw [ordinal, ordinal, inside, ← year]
  omega

theorem ordinalOfDay {d e : Date} (year : d.year = e.year) (month : d.month = e.month)
    (earlier : d.day < e.day) : d.ordinal < e.ordinal := by
  simp only [ordinal, dayOfYear, year, month]
  omega

theorem dayInMonth (d : Date) : d.day < 32 := by
  have most : daysInMonth d.year d.month ≤ 31 := by
    unfold daysInMonth
    split <;> try split
    all_goals decide
  exact Nat.lt_succ_of_le (Nat.le_trans d.dayRange.2 most)

theorem ordinalOfKey {d e : Date} (earlier : d.key < e.key) : d.ordinal < e.ordinal := by
  have month := d.monthRange
  have otherMonth := e.monthRange
  have day := d.dayInMonth
  have otherDay := e.dayInMonth
  unfold key at earlier
  -- Months and days keep to their two digits of the key, so that its first field to differ decides.
  rcases Nat.lt_trichotomy d.year e.year with before | same | after
  · exact ordinalOfYear before
  · rcases Nat.lt_trichotomy d.month e.month with before | sameMonth | after
    · exact ordinalOfMonth same before
    · exact ordinalOfDay same sameMonth (by omega)
    · omega
  · omega

theorem keyInjective {d e : Date} (same : d.key = e.key) : d = e := by
  have month := d.monthRange
  have otherMonth := e.monthRange
  have day := d.dayInMonth
  have otherDay := e.dayInMonth
  unfold key at same
  cases d
  cases e
  simp only [mk.injEq] at *
  omega

theorem ordinalOrder (d e : Date) : d.ordinal < e.ordinal ↔ d.key < e.key := by
  refine ⟨fun earlier => ?_, ordinalOfKey⟩
  rcases Nat.lt_trichotomy d.key e.key with before | same | after
  · exact before
  · rw [keyInjective same] at earlier
    exact absurd earlier (Nat.lt_irrefl _)
  · exact absurd (ordinalOfKey after) (Nat.lt_asymm earlier)

end Date

namespace Moment

def secondKey (m : Moment) : Nat :=
  m.date.key * 1000000 + m.time.hour * 10000 + m.time.minute * 100 + m.time.second

theorem secondKeyOrder (m n : Moment) : m.secondKey < n.secondKey ↔
    m.date.year < n.date.year ∨ m.date.year = n.date.year ∧
      (m.date.month < n.date.month ∨ m.date.month = n.date.month ∧
        (m.date.day < n.date.day ∨ m.date.day = n.date.day ∧
          (m.time.hour < n.time.hour ∨ m.time.hour = n.time.hour ∧
            (m.time.minute < n.time.minute ∨ m.time.minute = n.time.minute ∧
              m.time.second < n.time.second)))) := by
  have months := And.intro m.date.monthRange n.date.monthRange
  have days := And.intro m.date.dayInMonth n.date.dayInMonth
  have hours := And.intro m.time.hourRange n.time.hourRange
  have minutes := And.intro m.time.minuteRange n.time.minuteRange
  have seconds := And.intro m.time.secondRange n.time.secondRange
  unfold secondKey Date.key
  omega

theorem instantSeconds {m : Moment} (bare : m.offset = none) : m.instant / 1000000 =
    m.date.ordinal * 86400 + ((m.time.hour * 60 + m.time.minute) * 60 + m.time.second : Nat) := by
  have fraction := m.time.microsecondRange
  simp only [instant, localInstant, bare, Option.getD_none, dayLength, TimeOfDay.microseconds]
  omega

theorem secondOrder {m n : Moment} (bare : m.offset = none) (otherBare : n.offset = none) :
    m.instant / 1000000 < n.instant / 1000000 ↔ m.secondKey < n.secondKey := by
  have days := Date.ordinalOrder m.date n.date
  have daysBack := Date.ordinalOrder n.date m.date
  have hours := And.intro m.time.hourRange n.time.hourRange
  have minutes := And.intro m.time.minuteRange n.time.minuteRange
  have seconds := And.intro m.time.secondRange n.time.secondRange
  rw [instantSeconds bare, instantSeconds otherBare]
  unfold secondKey
  omega

end Moment
end TableQuery
