/-! Log entries: what happened, on which channel, and how much it matters. -/
namespace TableQuery

inductive Level where
  | debug
  | info
  | warning
  | error
  deriving DecidableEq, Repr

def Level.name : Level → String
  | debug => "DEBUG"
  | info => "INFO"
  | warning => "WARNING"
  | error => "ERROR"

inductive Channel where
  | odata
  | source
  | load
  | http
  | api
  deriving DecidableEq, Repr

def Channel.name : Channel → String
  | odata => "gridquery.odata"
  | source => "gridquery.source"
  | load => "gridquery.load"
  | http => "gridquery.http"
  | api => "gridquery.api"

structure LogEntry where
  level : Level
  channel : Channel
  text : String
  deriving DecidableEq, Repr

end TableQuery
