import SlotBroker.Json.Value
import SlotBroker.Logging.Setup
import SlotBroker.Time.Instant

/-!
# Entries of the log

What the parts of a broker tell its log, and how a log writes it down: on one line of words, with
more room and in colours, or as a JSON object a line.
-/

namespace SlotBroker

/-- Something that is told to the log. Its target says which part tells it. -/
structure LogEntry where
  level : LogLevel
  target : String
  message : String
  fields : List (String × Json)
  deriving Inhabited

/-- An entry and the moment at which it was told. -/
structure LogRecord where
  time : Time.Instant
  entry : LogEntry
  deriving Inhabited

namespace LogEntry

/-- The entry as a filter sees it. -/
def point (e : LogEntry) : LogPoint :=
  ⟨e.level, e.target, "message" :: e.fields.map Prod.fst, true, ""⟩

/-- The value of a field among words. -/
def fieldText : Json → String
  | .text s => s
  | v => v.render

end LogEntry

namespace LogLevel

/-- The number of the colour of a level. -/
def colour : LogLevel → String
  | error => "31"
  | warn => "33"
  | info => "32"
  | debug => "34"
  | trace => "35"

/-- The name of a level, always as wide as the widest. -/
def column (l : LogLevel) : String :=
  String.ofList (List.replicate (5 - l.name.length) ' ') ++ l.name

end LogLevel

namespace LogRecord

/-- Everything on one line. -/
def compactLine (r : LogRecord) : String :=
  let fields := r.entry.fields.map fun f => s!" {f.1}={LogEntry.fieldText f.2}"
  s!"{r.time.render} {r.entry.level.column} {r.entry.target}: {r.entry.message}"
    ++ String.join fields ++ "\n"

def jsonLine (r : LogRecord) : String :=
  (Json.record [("timestamp", .text r.time.render), ("level", .text r.entry.level.name),
    ("fields", .record (("message", .text r.entry.message) :: r.entry.fields)),
    ("target", .text r.entry.target)]).render ++ "\n"

/-- A text in a colour or a style. -/
def paint (style text : String) : String := "\x1b[" ++ style ++ "m" ++ text ++ "\x1b[0m"

/-- A line and an empty one. -/
def prettyLine (ansi : Bool) (r : LogRecord) : String :=
  let paint (style text : String) : String := if ansi then paint style text else text
  let colour := r.entry.level.colour
  let fields := r.entry.fields.map fun f => s!", {f.1}: {LogEntry.fieldText f.2}"
  "  " ++ paint "2" r.time.render ++ " " ++ paint colour r.entry.level.column ++ " "
    ++ paint ("1;" ++ colour) r.entry.target
    ++ paint colour (": " ++ r.entry.message ++ String.join fields) ++ "\n\n"

def write (s : LogSettings) (r : LogRecord) : String :=
  match s.format with
  | .pretty => r.prettyLine s.ansi
  | .compact => r.compactLine
  | .json => r.jsonLine

end LogRecord

namespace Log

/-- The log shows an entry. -/
def shows (l : Log) (e : LogEntry) : Bool := (staticLevel l.filter e.point).shows e.level

/-- What a log writes of the given records. -/
def write (l : Log) (rs : List LogRecord) : String :=
  String.join ((rs.filter fun r => l.shows r.entry).map (LogRecord.write l.settings))

end Log

end SlotBroker
