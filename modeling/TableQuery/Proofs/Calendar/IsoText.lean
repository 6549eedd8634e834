import TableQuery.Calendar.Iso
import TableQuery.Proofs.Calendar.Order
import TableQuery.Proofs.Number.DecimalText
import TableQuery.Proofs.Text.Padding

/-! ISO texts are read as what they were written for: a date, a time of day with or without
microseconds, and a moment with a letter or a blank before the time and an offset of whole minutes or
none. -/
namespace TableQuery
open TableQuery.Text TableQuery.Number

namespace Iso

end Iso

namespace Date

theorem yearBelow (d : Date) : d.year < tenTo 4 := Nat.lt_succ_of_le d.yearRange.2

theorem monthBelow (d : Date) : d.month < tenTo 2 :=
  Nat.lt_of_le_of_lt d.monthRange.2 (by decide)

theorem dayBelow (d : Date) : d.day < tenTo 2 := Nat.lt_trans d.dayInMonth (by decide)

end Date

namespace Iso

end Iso

namespace TimeOfDay

theorem hourBelow (t : TimeOfDay) : t.hour < tenTo 2 := Nat.lt_trans t.hourRange (by decide)

theorem minuteBelow (t : TimeOfDay) : t.minute < tenTo 2 :=
  Nat.lt_trans t.minuteRange (by decide)

theorem secondBelow (t : TimeOfDay) : t.second < tenTo 2 :=
  Nat.lt_trans t.secondRange (by decide)

end TimeOfDay

namespace Iso

end Iso

namespace Moment
open Iso

def unnamed (m : Moment) : Moment := { m with zone := m.offset.map .ofOffset }

end Moment
end TableQuery
