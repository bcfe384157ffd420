import SlotBroker.Backend
import SlotBroker.Location
import SlotBroker.Oid
import SlotBroker.Time.Span

/-!
# Failures

Everything that can go wrong while the broker serves a request, by cause. Each failure has a kind,
one of ten labels, and a message. A failed shutdown carries all its causes and counts them in its
message.
-/

namespace SlotBroker

/-- Why one run of the probe gave no answer. -/
inductive ProbeFault
  | spawn (reason : String)
  | exit (status stderr : String)
  | timeout (limit : Time.Span)
  | malformed (reason : String)
  | empty
  deriving DecidableEq, Repr, Inhabited

/-- A failed run of the probe: which program, with which argument, and why. -/
structure ProbeError where
  program : String
  argument : String
  fault : ProbeFault
  deriving DecidableEq, Repr, Inhabited

namespace ProbeError

def message (e : ProbeError) : String :=
  match e.fault with
  | .spawn reason => s!"failed to spawn probe '{e.program}' with argument '{e.argument}': {reason}"
  | .exit status stderr => s!"probe '{e.program} {e.argument}' exited with {status}: {stderr}"
  | .timeout limit => s!"probe '{e.program} {e.argument}' timed out after {limit.render}"
  | .malformed reason => s!"probe '{e.program} {e.argument}' produced malformed output: {reason}"
  | .empty => s!"probe '{e.program} {e.argument}' printed no library name"

end ProbeError

/-- A failure of the broker. -/
inductive BrokerError
  | probe (error : ProbeError)
  | unknownLocation (location : Location)
  | unknownOid (oid : Oid)
  | locationBusy (location : Location) (oid : Oid)
  | backend (error : BackendError)
  | invalidArgument (detail : String)
  | config (detail : String)
  | io (detail : String)
  | shuttingDown
  | shutdownFailed (causes : List BrokerError)
  deriving Repr, Inhabited

namespace BrokerError

/-- The label of the kind of failure. -/
def kind : BrokerError → String
  | probe _ => "probe"
  | unknownLocation _ => "unknown_location"
  | unknownOid _ => "unknown_oid"
  | locationBusy _ _ => "location_busy"
  | backend _ => "backend"
  | invalidArgument _ => "invalid_argument"
  | config _ => "config"
  | io _ => "io"
  | shuttingDown => "shutting_down"
  | shutdownFailed _ => "shutdown_failed"

def message : BrokerError → String
  | probe e => s!"Probe error: {e.message}"
  | unknownLocation l => s!"Unknown location '{l}' (not in the most recent list)"
  | unknownOid o => s!"Unknown oid {o}"
  | locationBusy l o => s!"Location '{l}' is busy (held by oid {o})"
  | backend e => e.message
  | invalidArgument d => s!"Invalid argument: {d}"
  | config d => s!"Configuration error: {d}"
  | io d => s!"I/O error: {d}"
  | shuttingDown => "Broker is shutting down"
  | shutdownFailed causes => s!"Shutdown failed with {Text.decimal causes.length} error(s)"

end BrokerError

end SlotBroker
