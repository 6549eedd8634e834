import TableQuery.Calendar.Date
import TableQuery.Text.Digits

/-! ISO 8601 texts of dates and moments.
Writing has one form. Reading takes the extended and the basic form, calendar dates and week dates,
any separator between date and time, and an offset with minutes, seconds and a fraction. -/
namespace TableQuery
open TableQuery.Text

def Date.toIso (d : Date) : String :=
  ofNatPadded 4 d.year ++ "-" ++ ofNatPadded 2 d.month ++ "-" ++ ofNatPadded 2 d.day

def TimeOfDay.toIso (t : TimeOfDay) : String :=
  ofNatPadded 2 t.hour ++ ":" ++ ofNatPadded 2 t.minute ++ ":" ++ ofNatPadded 2 t.second ++
    if t.microsecond = 0 then "" else "." ++ ofNatPadded 6 t.microsecond

def offsetText (separator : String) (offset : Int) : String :=
  let size := offset.natAbs
  let seconds := size / 1000000 % 60
  let fraction := size % 1000000
  (if offset < 0 then "-" else "+") ++
    ofNatPadded 2 (size / 3600000000) ++ separator ++ ofNatPadded 2 (size / 60000000 % 60) ++
    (if seconds = 0 ∧ fraction = 0 then "" else separator ++ ofNatPadded 2 seconds) ++
    (if fraction = 0 then "" else "." ++ ofNatPadded 6 fraction)

def Moment.toIso (separator : String) (m : Moment) : String :=
  m.date.toIso ++ separator ++ m.time.toIso ++
    match m.offset with
    | some offset => offsetText ":" offset
    | none => ""

namespace Iso

/-- The text octet by octet; each octet of a wider character is that character. -/
def octets (cs : List Char) : List Char := cs.flatMap fun c => List.replicate c.utf8Size c

def isDigit (c : Char) : Bool := (asciiDigit? c).isSome

def number? (width : Nat) (cs : List Char) : Option (Nat × List Char) :=
  let rec go : Nat → Nat → List Char → Option (Nat × List Char)
    | 0, acc, cs => some (acc, cs)
    | _ + 1, _, [] => none
    | w + 1, acc, c :: cs => (asciiDigit? c).bind fun d => go w (acc * 10 + d) cs
  go width 0 cs

def hasAt (cs : List Char) (i : Nat) (c : Char) : Bool := cs[i]? == some c

def digitAt (cs : List Char) (i : Nat) : Bool := (cs[i]?.map isDigit).getD false

/-- How many octets the date takes, judged by the characters at the places where the forms differ.
A week date followed by a hyphen and two digits is a week without a day. -/
def dateLength (cs : List Char) : Nat :=
  if cs.length = 7 then 7
  else if hasAt cs 4 '-' then
    if hasAt cs 5 'W' then
      if hasAt cs 8 '-' then
        if cs.length ≠ 9 ∧ digitAt cs 10 then 8 else 10
      else 8
    else 10
  else if hasAt cs 4 'W' then
    let stop := 7 + ((cs.drop 7).takeWhile isDigit).length
    if stop < 9 then stop
    else if stop % 2 = 0 then 7
    else 8
  else 8

def ofWeek? (year week day : Nat) : Option Date := do
  let first ← Date.of? year 1 1
  let long := first.weekday = 3 ∨ (first.weekday = 2 ∧ leapYear year = true)
  if 1 ≤ week ∧ (week ≤ 52 ∨ (week = 53 ∧ long)) ∧ 1 ≤ day ∧ day ≤ 7 then
    Date.ofOrdinal? (Date.firstIsoMonday year + (week - 1) * 7 + (day - 1))
  else none

def skip? (c : Char) : List Char → Option (List Char)
  | [] => none
  | x :: rest => if x = c then some rest else none

def date? (length : Nat) (cs : List Char) : Option Date := do
  let (year, rest) ← number? 4 cs
  let extended := rest.head? == some '-'
  let rest := if extended then rest.tail else rest
  if rest.head? == some 'W' then
    let (week, rest) ← number? 2 rest.tail
    if cs.length - rest.length < length then
      let rest ← if extended then skip? '-' rest else some rest
      let (day, _) ← number? 1 rest
      ofWeek? year week day
    else ofWeek? year week 1
  else
    let (month, rest) ← number? 2 rest
    let rest ← if extended then skip? '-' rest else some rest
    let (day, _) ← number? 2 rest
    Date.of? year month day

structure Clock where
  hour : Nat
  minute : Nat
  second : Nat
  microsecond : Nat
  excess : Bool
  deriving DecidableEq, Repr

def fraction? (room : Nat) (cs : List Char) : Option (Nat × Bool) := do
  let width := min room 6
  let (n, rest) ← number? width cs
  some (n * Number.tenTo (6 - width), !(rest.dropWhile isDigit).isEmpty)

/-- Reads a clock whose text ends `room` octets ahead, where the text itself may go on with an
offset. The parts stand with colons between all of them or between none. -/
def clock? (room : Nat) (cs : List Char) : Option Clock := do
  let (hour, rest) ← number? 2 cs
  let used := 3
  match rest with
  | [] => some ⟨hour, 0, 0, 0, false⟩
  | c :: more =>
    if room ≤ used then some ⟨hour, 0, 0, 0, true⟩
    else if c = '.' ∨ c = ',' then
      let (f, excess) ← fraction? (room - used) more
      some ⟨hour, 0, 0, f, excess⟩
    else
      let colons := c == ':'
      let (rest, used) := if colons then (more, used) else (rest, used - 1)
      let (minute, rest) ← number? 2 rest
      let used := used + 3
      match rest with
      | [] => some ⟨hour, minute, 0, 0, false⟩
      | c :: more =>
        if room ≤ used then some ⟨hour, minute, 0, 0, true⟩
        else if c = '.' ∨ c = ',' then
          let (f, excess) ← fraction? (room - used) more
          some ⟨hour, minute, 0, f, excess⟩
        else if colons && c != ':' then none
        else
          let (rest, used) := if colons then (more, used) else (rest, used - 1)
          let (second, rest) ← number? 2 rest
          let used := used + 3
          match rest with
          | [] => some ⟨hour, minute, second, 0, false⟩
          | c :: more =>
            if room ≤ used then some ⟨hour, minute, second, 0, true⟩
            else if c = '.' ∨ c = ',' ∨ (colons ∧ c = ':') then
              let (f, excess) ← fraction? (room - used) more
              some ⟨hour, minute, second, f, excess⟩
            else if colons then none
            else
              let (f, excess) ← fraction? (room - used + 1) rest
              some ⟨hour, minute, second, f, excess⟩

def startsOffset (c : Char) : Bool := c == '+' || c == '-' || c == 'Z'

def offset? (negative : Bool) (c : Clock) : Option Int :=
  let seconds := c.hour * 3600 + c.minute * 60 + c.second
  let size := if seconds = 0 then 0 else seconds * 1000000 + c.microsecond
  if c.excess then none
  else if size < dayLength then some (withSign negative size)
  else none

def time? (cs : List Char) : Option (TimeOfDay × Option Int) := do
  let front := cs.takeWhile fun c => !startsOffset c
  let clock ← clock? front.length cs
  let time ← TimeOfDay.of? clock.hour clock.minute clock.second clock.microsecond
  match cs.drop front.length with
  | [] => if clock.excess then none else some (time, none)
  | c :: rest =>
    if c = 'Z' then if rest.isEmpty then some (time, some 0) else none
    else
      let clock ← clock? rest.length rest
      let offset ← offset? (c == '-') clock
      some (time, some offset)

end Iso

def Moment.ofIso? (s : String) : Option Moment := do
  let cs := Iso.octets s.toList
  if cs.length < 7 then none
  else
    let length := Iso.dateLength cs
    let date ← Iso.date? length cs
    match cs.drop length with
    | [] => some (.ofDate date)
    | c :: rest =>
      let (time, offset) ← Iso.time? (rest.drop (c.utf8Size - 1))
      some ⟨date, time, offset.map .ofOffset⟩

end TableQuery
