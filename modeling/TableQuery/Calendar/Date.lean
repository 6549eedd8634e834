/-! The proleptic Gregorian calendar: dates of the years 1 to 9999, times of day, and moments with
or without an offset from universal time. -/
namespace TableQuery

def leapYear (y : Nat) : Bool := y % 4 == 0 && (y % 100 != 0 || y % 400 == 0)

def daysInMonth (y m : Nat) : Nat :=
  match m with
  | 2 => if leapYear y then 29 else 28
  | 4 | 6 | 9 | 11 => 30
  | _ => 31

structure Date where
  year : Nat
  month : Nat
  day : Nat
  yearRange : 1 ≤ year ∧ year ≤ 9999
  monthRange : 1 ≤ month ∧ month ≤ 12
  dayRange : 1 ≤ day ∧ day ≤ daysInMonth year month
  deriving DecidableEq, Repr

structure TimeOfDay where
  hour : Nat
  minute : Nat
  second : Nat
  microsecond : Nat
  hourRange : hour < 24
  minuteRange : minute < 60
  secondRange : second < 60
  microsecondRange : microsecond < 1000000
  deriving DecidableEq, Repr

def dayLength : Nat := 86400000000

/-- A zone is its offset from universal time, in microseconds. It may have a name of its own, and may
tell of daylight saving: then it holds the seconds that the platform takes off its clock for that. -/
structure Zone where
  offset : Int
  name : Option String
  daylight : Option Int
  deriving DecidableEq, Repr

def Zone.ofOffset (offset : Int) : Zone := ⟨offset, none, none⟩

structure Moment where
  date : Date
  time : TimeOfDay
  zone : Option Zone
  deriving DecidableEq, Repr

def Moment.offset (m : Moment) : Option Int := m.zone.map Zone.offset

def Moment.daylight (m : Moment) : Option Int := m.zone.bind Zone.daylight

namespace Date

def of? (year month day : Nat) : Option Date :=
  if hy : 1 ≤ year ∧ year ≤ 9999 then
    if hm : 1 ≤ month ∧ month ≤ 12 then
      if hd : 1 ≤ day ∧ day ≤ daysInMonth year month then some ⟨year, month, day, hy, hm, hd⟩
      else none
    else none
  else none

def daysOfMonths (y : Nat) : Nat → Nat
  | 0 => 0
  | m + 1 => daysOfMonths y m + daysInMonth y (m + 1)

def daysBeforeMonth (y m : Nat) : Nat := daysOfMonths y (m - 1)

def daysBeforeYear (y : Nat) : Nat := (y - 1) * 365 + (y - 1) / 4 - (y - 1) / 100 + (y - 1) / 400

def dayOfYear (d : Date) : Nat := daysBeforeMonth d.year d.month + d.day

def ordinal (d : Date) : Nat := daysBeforeYear d.year + d.dayOfYear

def weekday (d : Date) : Nat := (d.ordinal + 6) % 7

def firstIsoMonday (y : Nat) : Int :=
  let first : Int := daysBeforeYear y + 1
  let weekday := (first + 6) % 7
  if weekday ≤ 3 then first - weekday else first + 7 - weekday

/-- Year and number of the week that holds a day, weeks starting on Monday and belonging to the
year that holds their Thursday. -/
def isoWeek (d : Date) : Nat × Nat :=
  let n : Int := d.ordinal
  if n < firstIsoMonday d.year then
    (d.year - 1, ((n - firstIsoMonday (d.year - 1)) / 7 + 1).toNat)
  else if firstIsoMonday (d.year + 1) ≤ n then (d.year + 1, 1)
  else (d.year, ((n - firstIsoMonday d.year) / 7 + 1).toNat)

def ofDayOfYear? (year : Nat) (days : Nat) : Option Date :=
  let rec go (month remaining : Nat) : Nat → Option Date
    | 0 => none
    | fuel + 1 =>
      if remaining ≤ daysInMonth year month then of? year month remaining
      else go (month + 1) (remaining - daysInMonth year month) fuel
  go 1 days 12

def ofOrdinal? (n : Int) : Option Date :=
  if n < 1 then none
  else
    let guess := (n.toNat - 1) / 366 + 1
    let year := ((List.range 30).map (guess + ·)).find? fun y => n.toNat ≤ daysBeforeYear (y + 1)
    year.bind fun y => ofDayOfYear? y (n.toNat - daysBeforeYear y)

def key (d : Date) : Nat := d.year * 10000 + d.month * 100 + d.day

end Date

namespace TimeOfDay

def of? (hour minute second microsecond : Nat) : Option TimeOfDay :=
  if hh : hour < 24 then
    if hm : minute < 60 then
      if hs : second < 60 then
        if hu : microsecond < 1000000 then
          some ⟨hour, minute, second, microsecond, hh, hm, hs, hu⟩
        else none
      else none
    else none
  else none

def midnight : TimeOfDay := ⟨0, 0, 0, 0, by decide, by decide, by decide, by decide⟩

def microseconds (t : TimeOfDay) : Nat :=
  ((t.hour * 60 + t.minute) * 60 + t.second) * 1000000 + t.microsecond

end TimeOfDay

namespace Moment

def ofDate (d : Date) : Moment := ⟨d, .midnight, none⟩

def localInstant (m : Moment) : Int := m.date.ordinal * (dayLength : Int) + m.time.microseconds

def instant (m : Moment) : Int := m.localInstant - m.offset.getD 0

end Moment
end TableQuery
