import SlotBroker.Config.Basic

/-!
# The log

A log has a level, a format and some switches. Names of levels and formats are read in any letter
case.
-/

namespace SlotBroker

inductive LogLevel
  | error
  | warn
  | info
  | debug
  | trace
  deriving DecidableEq, Repr, Inhabited

inductive LogFormat
  | pretty
  | compact
  | json
  deriving DecidableEq, Repr, Inhabited

/-- Why a text is no level, or no format. A format is told in lower case. -/
inductive LoggingError
  | level (text : String)
  | format (lowered : String)
  deriving DecidableEq, Repr

def LoggingError.message : LoggingError → String
  | level t => s!"Invalid log level '{t}'. Must be one of: trace, debug, info, warn, error"
  | format t => s!"Invalid log format '{t}'. Must be one of: pretty, compact, json"

namespace LogLevel

def name : LogLevel → String
  | error => "ERROR"
  | warn => "WARN"
  | info => "INFO"
  | debug => "DEBUG"
  | trace => "TRACE"

/-- The levels from the gravest to the least. -/
def all : List LogLevel := [error, warn, info, debug, trace]

/-- How much a log of this level shows. -/
def rank : LogLevel → Nat
  | error => 1
  | warn => 2
  | info => 3
  | debug => 4
  | trace => 5

/-- A log of this level shows events of the other. -/
def shows (l event : LogLevel) : Bool := event.rank ≤ l.rank

def ofName? : String → Option LogLevel
  | "trace" => some trace
  | "debug" => some debug
  | "info" => some info
  | "warn" => some warn
  | "error" => some error
  | _ => none

def parse (s : String) : Except LoggingError LogLevel :=
  match ofName? (Text.lowercase s) with
  | some l => .ok l
  | none => .error (.level s)

end LogLevel

namespace LogFormat

def name : LogFormat → String
  | pretty => "Pretty"
  | compact => "Compact"
  | json => "Json"

def ofName? : String → Option LogFormat
  | "pretty" => some pretty
  | "compact" => some compact
  | "json" => some json
  | _ => none

def parse (s : String) : Except LoggingError LogFormat :=
  let lowered := Text.lowercase s
  match ofName? lowered with
  | some f => .ok f
  | none => .error (.format lowered)

end LogFormat

/-- What a log is like. -/
structure LogSettings where
  level : LogLevel
  format : LogFormat
  spanEvents : Bool
  fileAndLine : Bool
  threadIds : Bool
  ansi : Bool
  deriving DecidableEq, Repr, Inhabited

namespace LogSettings

/-- A log of a level, with everything else as it is by default. -/
def new (l : LogLevel) : LogSettings := ⟨l, .pretty, false, false, false, true⟩

def ofConfig (c : LoggingConfig) : Except LoggingError LogSettings :=
  match LogLevel.parse c.level with
  | .error e => .error e
  | .ok l =>
    match LogFormat.parse c.format with
    | .error e => .error e
    | .ok f => .ok { new l with format := f }

end LogSettings

end SlotBroker
