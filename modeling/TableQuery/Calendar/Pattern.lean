import TableQuery.Calendar.Iso

/-! Display patterns for moments: literal text with directives such as `%Y` and `%d`.
A directive is a percent sign, flags, a width, a modifier and a letter. Offset, zone name and
microseconds are put in first; what is then not a directive stays as it stands. -/
namespace TableQuery.Pattern
open TableQuery.Text

def weekdays : List String :=
  ["Monday", "Tuesday", "Wednesday", "Thursday", "Friday", "Saturday", "Sunday"]

def months : List String :=
  ["January", "February", "March", "April", "May", "June", "July", "August", "September",
   "October", "November", "December"]

def short (name : String) : String := String.ofList (name.toList.take 3)

def hourOfTwelve (t : TimeOfDay) : Nat := if t.hour % 12 = 0 then 12 else t.hour % 12

def dayPart (t : TimeOfDay) : String := if t.hour < 12 then "AM" else "PM"

inductive Change where
  | none
  | upper
  | lower
  deriving DecidableEq, Repr

inductive Field where
  | number (least : Nat) (value : Nat) (spaces : Bool)
  | count (value : Int)
  | name (text : String) (change : Change)
  | composite (pattern : String)
  | localName (told : Bool)
  | localOffset (told : Bool)
  deriving DecidableEq, Repr

def weeksBegun (d : Date) (daysSinceBegin : Nat) : Nat := (d.dayOfYear - 1 + 7 - daysSinceBegin) / 7

def epochSeconds (m : Moment) : Int :=
  ((m.date.ordinal : Int) - 719163) * 86400 + (m.time.microseconds / 1000000 : Nat) -
    m.daylight.getD 0

def zoneField? (m : Moment) : Char → Option Field
  | 's' => some (.count (epochSeconds m))
  | 'Z' => some (.localName m.daylight.isSome)
  | 'z' => some (.localOffset m.daylight.isSome)
  | _ => none

def clockField? (d : Date) (t : TimeOfDay) (letter : Char) : Option Field :=
  let weekday := weekdays[d.weekday]?.getD ""
  let month := months[d.month - 1]?.getD ""
  let sunday := (d.weekday + 1) % 7
  match letter with
  | '%' => some (.name "%" .none)
  | 'n' => some (.name "\n" .none)
  | 't' => some (.name "\t" .none)
  | 'a' => some (.name (short weekday) .upper)
  | 'A' => some (.name weekday .upper)
  | 'b' | 'h' => some (.name (short month) .upper)
  | 'B' => some (.name month .upper)
  | 'p' => some (.name (dayPart t) .lower)
  | 'P' => some (.name (lower (dayPart t)) .lower)
  | 'c' => some (.composite "%a %b %e %H:%M:%S %Y")
  | 'D' | 'x' => some (.composite "%m/%d/%y")
  | 'F' => some (.composite "%Y-%m-%d")
  | 'R' => some (.composite "%H:%M")
  | 'r' => some (.composite "%I:%M:%S %p")
  | 'T' | 'X' => some (.composite "%H:%M:%S")
  | 'C' => some (.number 1 (d.year / 100) false)
  | 'Y' => some (.number 1 d.year false)
  | 'y' => some (.number 2 (d.year % 100) false)
  | 'G' => some (.number 1 d.isoWeek.1 false)
  | 'g' => some (.number 2 (d.isoWeek.1 % 100) false)
  | 'V' => some (.number 2 d.isoWeek.2 false)
  | 'm' => some (.number 2 d.month false)
  | 'd' => some (.number 2 d.day false)
  | 'e' => some (.number 2 d.day true)
  | 'j' => some (.number 3 d.dayOfYear false)
  | 'u' => some (.number 1 (d.weekday + 1) false)
  | 'w' => some (.number 1 sunday false)
  | 'U' => some (.number 2 (weeksBegun d sunday) false)
  | 'W' => some (.number 2 (weeksBegun d d.weekday) false)
  | 'H' => some (.number 2 t.hour false)
  | 'k' => some (.number 2 t.hour true)
  | 'I' => some (.number 2 (hourOfTwelve t) false)
  | 'l' => some (.number 2 (hourOfTwelve t) true)
  | 'M' => some (.number 2 t.minute false)
  | 'S' => some (.number 2 t.second false)
  | _ => none

def field? (m : Moment) (letter : Char) : Option Field :=
  (zoneField? m letter).or (clockField? m.date m.time letter)

def refuses (modifier letter : Char) : Bool :=
  if modifier = 'E' then "abdeghjklmwABDFGHIMSUVW".toList.contains letter
  else "acxADFXY".toList.contains letter

structure Directive where
  padding : Option Char
  upper : Bool
  change : Bool
  width : Nat
  modifier : Option Char
  letter : Option Char
  source : List Char
  deriving DecidableEq, Repr

def flags (padding : Option Char) (upper change : Bool) :
    List Char → Option Char × Bool × Bool × List Char
  | [] => (padding, upper, change, [])
  | c :: rest =>
    if c = '_' ∨ c = '-' ∨ c = '0' then flags (some c) upper change rest
    else if c = '^' then flags padding true change rest
    else if c = '#' then flags padding upper true rest
    else (padding, upper, change, c :: rest)

theorem flagsRest (padding : Option Char) (upper change : Bool) (cs : List Char) :
    (flags padding upper change cs).2.2.2.length ≤ cs.length := by
  induction cs generalizing padding upper change with
  | nil => simp [flags]
  | cons c cs ih =>
    simp only [flags]
    split
    · exact Nat.le_succ_of_le (ih ..)
    · split
      · exact Nat.le_succ_of_le (ih ..)
      · split
        · exact Nat.le_succ_of_le (ih ..)
        · simp

def modified : List Char → Option Char × List Char
  | [] => (none, [])
  | c :: rest => if c = 'E' ∨ c = 'O' then (some c, rest) else (none, c :: rest)

theorem modifiedRest (cs : List Char) : (modified cs).2.length ≤ cs.length := by
  cases cs with
  | nil => simp [modified]
  | cons c cs => simp only [modified]; split <;> simp

def directive (cs : List Char) : Directive × List Char :=
  let (padding, upper, change, afterFlags) := flags none false false cs
  let width := ofDigits ((afterFlags.takeWhile Iso.isDigit).filterMap asciiDigit?)
  let (modifier, afterModifier) := modified (afterFlags.dropWhile Iso.isDigit)
  let rest := afterModifier.drop 1
  ({ padding, upper, change, width, modifier, letter := afterModifier.head?
     source := '%' :: cs.take (cs.length - rest.length) }, rest)

theorem directiveRest (cs : List Char) : (directive cs).2.length ≤ cs.length := by
  have h1 := flagsRest none false false cs
  have h2 : ∀ xs : List Char, (xs.dropWhile Iso.isDigit).length ≤ xs.length :=
    fun xs => (List.dropWhile_suffix _).sublist.length_le
  have h3 := h2 (flags none false false cs).2.2.2
  have h4 := modifiedRest ((flags none false false cs).2.2.2.dropWhile Iso.isDigit)
  have h5 : (directive cs).2 =
      (modified ((flags none false false cs).2.2.2.dropWhile Iso.isDigit)).2.drop 1 := rfl
  rw [h5, List.length_drop]
  omega

def Directive.widened (d : Directive) (s : String) : String :=
  padLeft d.width (if d.padding = some '0' then '0' else ' ') s

def upperCase (s : String) : String := String.ofList (s.toList.map Char.toUpper)

def Directive.cased (d : Directive) (change : Change) (s : String) : String :=
  match d.change, change with
  | true, .lower => lower s
  | true, .upper => upperCase s
  | _, _ => if d.upper then upperCase s else s

def Directive.numberText (d : Directive) (least value : Nat) (spaces : Bool) : String :=
  let digits := max least d.width
  let padding :=
    if spaces ∧ d.padding ≠ some '0' ∧ d.padding ≠ some '-' then some '_' else d.padding
  match padding with
  | some '-' => padLeft d.width ' ' (ofNat value)
  | some '_' => padLeft digits ' ' (ofNat value)
  | _ => padLeft digits '0' (ofNat value)

def plainField (m : Moment) (letter : Char) : String :=
  match field? m letter with
  | some (.number least value spaces) => padLeft least (if spaces then ' ' else '0') (ofNat value)
  | some (.name text _) => text
  | _ => ""

def plainText (m : Moment) : List Char → String
  | '%' :: letter :: rest => plainField m letter ++ plainText m rest
  | c :: rest => String.singleton c ++ plainText m rest
  | [] => ""

def Directive.text (m : Moment) (d : Directive) : String :=
  let refused := match d.modifier, d.letter with
    | some modifier, some letter => refuses modifier letter
    | _, _ => false
  let monthName := d.letter = some 'b' ∨ d.letter = some 'h' ∨ d.letter = some 'B'
  let source := String.ofList d.source
  let unknown := d.widened (if d.upper ∨ (d.change ∧ monthName) then upperCase source else source)
  if refused then unknown
  else
    match d.letter.bind (field? m) with
    | none => unknown
    | some (.localName told) =>
      let name := if told then "UTC" else ""
      if d.padding = some '-' then name else d.widened name
    | some (.localOffset told) => if told then d.widened "+" ++ d.numberText 4 0 false else ""
    | some (.number least value spaces) => d.numberText least value spaces
    | some (.count value) => d.widened (ofInt value)
    | some (.name text change) =>
      d.widened (if d.letter = some 'P' then text else d.cased change text)
    | some (.composite pattern) =>
      let text := plainText m pattern.toList
      d.widened (if d.upper then upperCase text else text)

def Directive.within (room : Nat) (d : Directive) : Directive :=
  { d with width := min d.width room }

def expand (room : Nat) (m : Moment) (cs : List Char) : String :=
  match cs with
  | [] => ""
  | c :: rest =>
    if c = '%' then
      ((directive rest).1.within room).text m ++ expand room m (directive rest).2
    else String.singleton c ++ expand room m rest
termination_by cs.length
decreasing_by
  · have := directiveRest rest; simp; omega
  · simp

/-- The name of a zone, with its percent signs kept from being read as directives. -/
def zoneName (z : Zone) : String :=
  match z.name with
  | some name => substituted '%' "%%" name
  | none => if z.offset = 0 then "UTC" else "UTC" ++ offsetText ":" z.offset

def filledIn (m : Moment) : Char → List Char
  | 'z' => ((m.offset.map (offsetText "")).getD "").toList
  | 'Z' => ((m.zone.map zoneName).getD "").toList
  | 'f' => (ofNatPadded 6 m.time.microsecond).toList
  | c => ['%', c]

def preset (m : Moment) : List Char → List Char
  | [] => []
  | '%' :: c :: rest => if c = '\x00' then ['%'] else filledIn m c ++ preset m rest
  | c :: rest => if c = '\x00' then [] else c :: preset m rest

/-- The room that the text of a pattern has: at least 1024 characters, and 256 for each character of
the pattern, rounded up to 1024 times a power of two. -/
def room (length : Nat) : Nat :=
  let rec grow : Nat → Nat → Nat
    | 0, n => n
    | fuel + 1, n => if 256 * length ≤ n then n else grow fuel (2 * n)
  grow (256 * length) 1024

/-- The text of a moment by a pattern; empty where it does not fit into its room. -/
def render (pattern : String) (m : Moment) : String :=
  let cs := preset m pattern.toList
  let room := room cs.length
  let text := expand room m cs
  if text.length < room then text else ""

end TableQuery.Pattern
