import SlotBroker.Logging.Entry
import SlotBroker.Platform.Probe
import SlotBroker.Platform.StaticMap

/-!
# The journal of a platform

What a platform tells the log when it is set up, and what a probe tells of its runs.
-/

namespace SlotBroker

/-- An entry of a platform. -/
def LogEntry.ofPlatform (level : LogLevel) (message : String) (fields : List (String × Json)) :
    LogEntry :=
  ⟨level, "broker_hardware::platform", message, fields⟩

/-- An entry of the probe. -/
def LogEntry.ofProbe (level : LogLevel) (message : String) (fields : List (String × Json)) :
    LogEntry :=
  ⟨level, "broker_hardware::probe", message, fields⟩

open LogEntry (ofPlatform ofProbe)

namespace StaticMap

/-- What is told when the map at a path is read. -/
def setupJournal (path : String) (file : File) : List LogEntry :=
  ofPlatform .info "using static platform adapter" [("map", .text path)] ::
    match file with
    | .missing =>
      [ofPlatform .warn "static location map not found; no modules will be listed"
        [("path", .text path)]]
    | _ => []

end StaticMap

namespace Probe

def setupJournal (p : Probe) : List LogEntry :=
  [ofPlatform .info "using exec platform adapter"
    [("probe", .text p.program), ("timeout", .text p.timeout.render)]]

/-- What is told of a run by itself. -/
def runJournal (p : Probe) (r : Request) (e : Execution) : List LogEntry :=
  let run := [("program", Json.text p.program), ("argument", .text (argument r))]
  match e with
  | .notStarted _ => []
  | .overran =>
    [ofProbe .warn "probe timed out; child killed" (run ++ [("timeout", .text p.timeout.render)])]
  | .ended status _ _ =>
    [ofProbe .debug "probe finished" (run ++ [("status", .text status.render)])]

/-- What is told of a run that was to print the locations. -/
def listJournal (p : Probe) (e : Execution) : List LogEntry :=
  p.runJournal .enumerate e ++
    match p.locations e with
    | .ok ls => [ofProbe .debug "probe enumerated locations" [("count", .int ls.length)]]
    | .error _ => []

/-- How many lines a run printed after the name of the backend. -/
def extraLines (p : Probe) (l : Location) (e : Execution) : Nat :=
  match p.output (.resolve l) e with
  | .ok text => (contentLines text).length - 1
  | .error _ => 0

/-- What is told of a run that was to name a backend. -/
def resolveJournal (p : Probe) (l : Location) (e : Execution) : List LogEntry :=
  let extra := p.extraLines l e
  p.runJournal (.resolve l) e ++
    if extra = 0 then []
    else
      [ofProbe .warn "probe printed more than one line; using the first"
        [("location", .text l.text), ("extra_lines", .int extra)]]

end Probe

end SlotBroker
