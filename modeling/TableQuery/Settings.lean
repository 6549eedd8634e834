import TableQuery.Request.Validation
import TableQuery.Text.Pieces

/-! Settings: defaults for sources, for display, and for the service.
A setting comes from the arguments, else from the environment, else it has its default. -/
namespace TableQuery
open Validation Validation.Checked TableQuery.Text

structure Settings where
  environment : String
  name : String
  logLevel : String
  corsOrigins : String
  defaultVersion : Int
  timeoutSeconds : Binary64
  countFallback : Bool
  sources : String
  thousandSeparator : String
  decimalPrecision : Int
  decimalSeparator : String
  dateFormat : String
  momentFormat : String
  yesText : String
  noText : String
  deriving DecidableEq, Repr

namespace Settings

def default : Settings where
  environment := "local"
  name := "gridquery"
  logLevel := "INFO"
  corsOrigins := "http://localhost:3000,http://localhost:8081"
  defaultVersion := 4
  timeoutSeconds := Binary64.ofRatio false 15 1
  countFallback := false
  sources := ""
  thousandSeparator := " "
  decimalPrecision := 2
  decimalSeparator := "."
  dateFormat := "%Y-%m-%d"
  momentFormat := "%Y-%m-%d %H:%M"
  yesText := "Yes"
  noText := "No"

def read (entries : List (String × Value)) : Checked Settings :=
  let setting {α : Type} (name : String) (absent : α) (read : Value → Checked α) :=
    given (FieldName.single name) absent read entries
  let d := default
  ((((((((((((((((setting "APP_ENV" d.environment text).map Settings.mk).and
    (setting "APP_NAME" d.name text)).and
    (setting "LOG_LEVEL" d.logLevel text)).and
    (setting "CORS_ORIGINS" d.corsOrigins text)).and
    (setting "ODATA_DEFAULT_VERSION" d.defaultVersion int)).and
    (setting "ODATA_TIMEOUT_SECONDS" d.timeoutSeconds float)).and
    (setting "ODATA_COUNT_FALLBACK" d.countFallback bool)).and
    (setting "GRID_ODATA_SOURCES" d.sources text)).and
    (setting "GRID_THOUSAND_SEPARATOR" d.thousandSeparator text)).and
    (setting "GRID_DECIMAL_PRECISION" d.decimalPrecision int)).and
    (setting "GRID_DECIMAL_SEPARATOR" d.decimalSeparator text)).and
    (setting "GRID_DATE_FORMAT" d.dateFormat text)).and
    (setting "GRID_DATETIME_FORMAT" d.momentFormat text)).and
    (setting "GRID_YES_TEXT" d.yesText text)).and
    (setting "GRID_NO_TEXT" d.noText text))

def toValue (s : Settings) : Value :=
  .dict [("APP_ENV", .text s.environment), ("APP_NAME", .text s.name),
    ("LOG_LEVEL", .text s.logLevel), ("CORS_ORIGINS", .text s.corsOrigins),
    ("ODATA_DEFAULT_VERSION", .int s.defaultVersion),
    ("ODATA_TIMEOUT_SECONDS", .float s.timeoutSeconds),
    ("ODATA_COUNT_FALLBACK", .bool s.countFallback), ("GRID_ODATA_SOURCES", .text s.sources),
    ("GRID_THOUSAND_SEPARATOR", .text s.thousandSeparator),
    ("GRID_DECIMAL_PRECISION", .int s.decimalPrecision),
    ("GRID_DECIMAL_SEPARATOR", .text s.decimalSeparator),
    ("GRID_DATE_FORMAT", .text s.dateFormat), ("GRID_DATETIME_FORMAT", .text s.momentFormat),
    ("GRID_YES_TEXT", .text s.yesText), ("GRID_NO_TEXT", .text s.noText)]

def originList (s : Settings) : List String :=
  ((pieces ',' s.corsOrigins).map trimmed).filter (· != "")

structure SourceEntry where
  name : String
  url : String
  options : String
  deriving DecidableEq, Repr

def entryOf (entry : String) : Option SourceEntry :=
  match (pieces '|' entry).map trimmed with
  | name :: url :: rest =>
    if name = "" ∨ url = "" then none
    else
      match rest with
      | [] => some ⟨name, url, "odata"⟩
      | options :: _ => some ⟨name, url, if options = "" then "odata" else options⟩
  | _ => none

def sourceList (s : Settings) : List SourceEntry := (pieces ',' s.sources).filterMap entryOf

end Settings
end TableQuery
