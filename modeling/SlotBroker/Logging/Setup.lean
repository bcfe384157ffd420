import SlotBroker.Environment
import SlotBroker.Logging.Filter

/-!
# Setting up the log

A process has at most one log, which the first successful setup gives it. Later setups succeed and
change nothing. What the log shows is decided by the filter in the environment if it can be read,
and else by the level of the settings.
-/

namespace SlotBroker

/-- The log of a process: its settings and its filter. -/
structure Log where
  settings : LogSettings
  filter : List Directive

namespace Log

def filterVariable : String := "RUST_LOG"

/-- A log with these settings in an environment. -/
def ofSettings (env : Environment) (s : LogSettings) : Log :=
  let byLevel : List Directive := [⟨some s.level, none, none, []⟩]
  ⟨s, ((env.get? filterVariable).bind parseFilter).getD byLevel⟩

/-- Set up the log of a process that may have one. -/
def init (env : Environment) (s : LogSettings) (current : Option Log) : Log :=
  current.getD (ofSettings env s)

/-- What the log of a process shows of an event of each level inside a span. -/
structure Sight where
  seen : List LogLevel
  ansi : Bool
  json : Bool
  span : Bool
  spanClose : Bool
  deriving DecidableEq, Repr

def Sight.none : Sight := ⟨[], false, false, false, false⟩

/-- Nothing but pretty output uses colours, and only if there is output. -/
def sight (l : Log) (span : LogPoint) (event : LogLevel → LogPoint) : Sight :=
  let seen := LogLevel.all.filter fun level => showsEvent l.filter span (event level)
  let spanShown := showsSpan l.filter span
  let spanEvents := l.settings.spanEvents && spanShown
  let output := !seen.isEmpty || spanEvents
  ⟨seen, output && l.settings.format == .pretty && l.settings.ansi,
    output && l.settings.format == .json, spanShown && output, spanEvents⟩

end Log

end SlotBroker
