import TableQuery.Value.Display

/-! Faults: why an operation has no result.
A fault is its cause. Its kind and its message are functions of the cause, and its family says whose
fault it is. -/
namespace TableQuery
open TableQuery.Text

inductive Comparison where
  | less
  | lessOrEqual
  | greater
  | greaterOrEqual
  deriving DecidableEq, Repr

def Comparison.symbol : Comparison → String
  | less => "<"
  | lessOrEqual => "<="
  | greater => ">"
  | greaterOrEqual => ">="

inductive FaultKind where
  | unsuitable
  | improper
  | overflow
  | missingKey
  | emptyList
  | execution
  | arithmetic
  | query
  | configuration
  | unsupportedOptions
  | unsupportedSource
  | unknownOperator
  | unknownRemoteOperator
  | unknownDirection
  | malformedResponse
  | malformedCount
  | transport
  | alreadyFetched
  | foreign (name : String)
  /-- A kind of its own name that counts as another one where faults are answered or told. -/
  | derived (name : String) (base : FaultKind)
  deriving DecidableEq, Repr

namespace FaultKind

def name : FaultKind → String
  | unsuitable => "TypeError"
  | improper => "ValueError"
  | overflow => "OverflowError"
  | missingKey => "KeyError"
  | emptyList => "IndexError"
  | execution => "RuntimeError"
  | arithmetic => "InvalidOperation"
  | query => "GridQueryError"
  | configuration => "ConfigurationError"
  | unsupportedOptions => "UnsupportedSourceOptionsError"
  | unsupportedSource => "UnsupportedSourceTypeError"
  | unknownOperator => "UnknownOperatorError"
  | unknownRemoteOperator => "UnknownFilterOperatorError"
  | unknownDirection => "UnknownSortDirectionError"
  | malformedResponse => "MalformedResponseError"
  | malformedCount => "MalformedCountFieldError"
  | transport => "TransportError"
  | alreadyFetched => "LoadAlreadyFetchedError"
  | foreign name => name
  | derived name _ => name

def root : FaultKind → FaultKind
  | derived _ base => base.root
  | kind => kind

def known : List FaultKind :=
  [unsuitable, improper, overflow, missingKey, emptyList, execution, arithmetic, query,
   configuration, unsupportedOptions, unsupportedSource, unknownOperator, unknownRemoteOperator,
   unknownDirection, malformedResponse, malformedCount, transport, alreadyFetched]

def ofName (s : String) : FaultKind := (known.find? (·.name == s)).getD (foreign s)

end FaultKind

inductive FaultFamily where
  | gateway
  | request
  | unexpected
  deriving DecidableEq, Repr

def FaultKind.family (k : FaultKind) : FaultFamily :=
  match k.root with
  | transport | malformedResponse | malformedCount => .gateway
  | unsuitable | query | configuration | unsupportedOptions | unsupportedSource | unknownOperator
  | unknownRemoteOperator | unknownDirection | alreadyFetched => .request
  | _ => .unexpected

def FaultKind.isOwn (k : FaultKind) : Bool := k.root != .unsuitable && k.family != .unexpected

def FaultKind.isGeneral (k : FaultKind) : Bool :=
  match k.root with
  | unsuitable | improper | execution => true
  | _ => false

inductive Fault where
  | unorderable (op : Comparison) (left right : String)
  | dateAgainstMoment
  | offsetAgainstNone
  | undefinedComparison
  | longInteger
  | unknownOperator (operator : Value)
  | unknownRemoteOperator (operator : Value)
  | unknownDirection (direction : Value)
  | unsupportedVersion (version : Value)
  | unsupportedDefault (version : Value)
  | unsupportedOptions (options : Value)
  | unsupportedSource (source : Value)
  | blankName
  | missingItems
  | malformedCount (key : String) (raw : Value)
  | requestFailed (reason : String)
  | refused (status : Nat)
  | invalidBody
  | alreadyFetched (source : String)
  /-- A value of the wrong type, in a place where the message is not told. -/
  | unsuitable (what : String)
  | improper (what : String)
  | overflow
  | missingKey (key : String)
  | emptyList
  | noSource
  | raised (kind : FaultKind) (message : String)
  deriving Repr

namespace Fault

def kind : Fault → FaultKind
  | unorderable .. | dateAgainstMoment | offsetAgainstNone | unsuitable _ => .unsuitable
  | undefinedComparison => .arithmetic
  | longInteger | blankName | improper _ => .improper
  | unknownOperator _ => .unknownOperator
  | unknownRemoteOperator _ => .unknownRemoteOperator
  | unknownDirection _ => .unknownDirection
  | unsupportedVersion _ | unsupportedDefault _ => .configuration
  | unsupportedOptions _ => .unsupportedOptions
  | unsupportedSource _ => .unsupportedSource
  | missingItems | invalidBody => .malformedResponse
  | malformedCount .. => .malformedCount
  | requestFailed _ | refused _ => .transport
  | alreadyFetched _ => .alreadyFetched
  | overflow => .overflow
  | missingKey _ => .missingKey
  | emptyList => .emptyList
  | noSource => .foreign "AttributeError"
  | raised kind _ => kind

def reason : Fault → String
  | unorderable op left right =>
    Text.quoted op.symbol ++ " not supported between instances of " ++ Text.quoted left ++
      " and " ++ Text.quoted right
  | dateAgainstMoment => "can't compare datetime.datetime to datetime.date"
  | offsetAgainstNone => "can't compare offset-naive and offset-aware datetimes"
  | undefinedComparison => "[<class 'decimal.InvalidOperation'>]"
  | longInteger =>
    "Exceeds the limit (4300 digits) for integer string conversion; " ++
      "use sys.set_int_max_str_digits() to increase the limit"
  | unknownOperator operator => "Unknown filter type: " ++ operator.display
  | unknownRemoteOperator operator => "Unknown odata filter type: " ++ operator.display
  | unknownDirection direction => "Unknown sort direction: " ++ direction.display
  | unsupportedVersion version => "Unsupported OData version: " ++ version.quoted
  | unsupportedDefault version => "Unsupported ODATA_DEFAULT_VERSION: " ++ version.quoted
  | unsupportedOptions options =>
    "Source options must be set to odata, odata3 or odata4 for url sources, got " ++ options.quoted
  | unsupportedSource source =>
    "Not supported data type passed as source: " ++ source.shortTypeName ++
      ". Expected string url or list of rows."
  | blankName => "Source name must not be empty"
  | missingItems => "OData response has no \"value\" array"
  | malformedCount key raw =>
    "Response count field \"" ++ key ++ "\" is missing or not an integer: " ++ raw.quoted
  | requestFailed reason => "OData request failed: " ++ reason
  | refused status => "OData endpoint returned status " ++ ofNat status
  | invalidBody => "OData endpoint returned invalid JSON"
  | alreadyFetched source => "Load from source " ++ Text.quoted source ++ " was already fetched"
  | unsuitable what => what
  | improper what => what
  | overflow => ""
  | missingKey key => key
  | emptyList => "pop from empty list"
  | noSource => "no source of that name"
  | raised _ message => message

def message (f : Fault) : String :=
  if f.kind.root = .missingKey then Text.quoted f.reason else f.reason

def quoted (f : Fault) : String :=
  match f.kind with
  | .arithmetic => "InvalidOperation(" ++ f.reason ++ ")"
  | kind => kind.name ++ "(" ++ Text.quoted f.reason ++ ")"

/-- A fault that tells of a value; an integer too long to be told takes its place. -/
def about (make : Value → Fault) (v : Value) : Fault :=
  if v.hasLongInteger then longInteger else make v

theorem aboutShort {make : Value → Fault} {v : Value} (short : v.hasLongInteger = false) :
    about make v = make v := by simp [about, short]

def exhausted : FaultKind := .foreign "StopIteration"

/-- A fault as it leaves a coroutine, which lets no end of an iteration out. -/
def escaped (f : Fault) : Fault :=
  if f.kind.root = exhausted then .raised .execution "coroutine raised StopIteration" else f

theorem escapedNever (f : Fault) : f.escaped.kind.root ≠ exhausted := by
  unfold escaped
  split
  · exact nofun
  · assumption

end Fault

def Value.text? (v : Value) : Except Fault String :=
  if v.hasLongInteger then .error .longInteger else .ok v.display

end TableQuery
