import TableQuery.Fault
import TableQuery.Log
import TableQuery.Settings

/-! The threshold of the log: entries below it are not written. A threshold of nothing leaves the choice
to the root of all logs, which lets warnings through. -/
namespace TableQuery.Threshold
open TableQuery.Text

/-- A letter in upper case, as far as the names of levels reach: ASCII letters, and the two letters
beyond ASCII whose upper case is ASCII. -/
def upperLetter (c : Char) : Char :=
  if c = 'ı' then 'I' else if c = 'ſ' then 'S' else c.toUpper

def upperName (s : String) : String := String.ofList ((trim s.toList).map upperLetter)

def named : List (String × Nat) :=
  [("CRITICAL", 50), ("FATAL", 50), ("ERROR", 40), ("WARNING", 30), ("WARN", 30), ("INFO", 20),
   ("DEBUG", 10), ("NOTSET", 0)]

def usual : Nat := 20

def ofName (s : String) : Except Fault Nat :=
  let name := upperName s
  if name = "BASIC_FORMAT" then .error (.improper "threshold that is a layout")
  else if name = "_STYLES" then .error (.unsuitable "threshold that is a list of layouts")
  else .ok ((named.find? (·.1 == name)).map (·.2) |>.getD usual)

def ofValue (settings : Settings) (v : Value) : Except Fault Nat :=
  if v.truthy then do ofName (← v.text?)
  else if settings.logLevel = "" then ofName "INFO"
  else ofName settings.logLevel

def ofLevel : Level → Nat
  | .debug => 10
  | .info => 20
  | .warning => 30
  | .error => 40

def atRoot : Nat := 30

def lets (threshold : Nat) (level : Level) : Bool :=
  (if threshold = 0 then atRoot else threshold) ≤ ofLevel level

end TableQuery.Threshold
