import SlotBroker.Error
import SlotBroker.Text.Bytes

/-!
# The probe

The probe is a program of the platform. Run with `list` it prints one location a line; run with a
location it prints the name of the backend library on its first line that is not blank. A run that
cannot be started, takes too long, fails, or prints something else is an error.
-/

namespace SlotBroker

/-- How a program ended. -/
inductive ExitStatus
  | code (n : Nat)
  | signal (n : Nat)
  deriving DecidableEq, Repr, Inhabited

namespace ExitStatus

/-- The names of the signals, from 1 on. -/
def signalNames : List String :=
  ["SIGHUP", "SIGINT", "SIGQUIT", "SIGILL", "SIGTRAP", "SIGABRT", "SIGBUS", "SIGFPE", "SIGKILL",
    "SIGUSR1", "SIGSEGV", "SIGUSR2", "SIGPIPE", "SIGALRM", "SIGTERM", "SIGSTKFLT", "SIGCHLD",
    "SIGCONT", "SIGSTOP", "SIGTSTP", "SIGTTIN", "SIGTTOU", "SIGURG", "SIGXCPU", "SIGXFSZ",
    "SIGVTALRM", "SIGPROF", "SIGWINCH", "SIGIO", "SIGPWR", "SIGSYS"]

def render : ExitStatus → String
  | code n => "exit status: " ++ Text.decimal n
  | signal n =>
    match n with
    | 0 => "signal: 0"
    | k + 1 =>
      match signalNames[k]? with
      | some name => s!"signal: {Text.decimal n} ({name})"
      | none => "signal: " ++ Text.decimal n

def isSuccess (s : ExitStatus) : Bool := s == code 0

end ExitStatus

/-- What running a program came to. -/
inductive Execution
  | notStarted (reason : String)
  | overran
  | ended (status : ExitStatus) (stdout stderr : List UInt8)
  deriving DecidableEq, Repr, Inhabited

/-- The probe of a platform. -/
structure Probe where
  program : String
  timeout : Time.Span
  deriving DecidableEq, Repr, Inhabited

namespace Probe

/-- What the probe is asked. -/
inductive Request
  | enumerate
  | resolve (location : Location)
  deriving DecidableEq, Repr

/-- The argument that asks for all locations. -/
def listArgument : String := "list"

/-- The argument that a request is encoded as. -/
def argument : Request → String
  | .enumerate => listArgument
  | .resolve l => l.text

def fail (p : Probe) (r : Request) (fault : ProbeFault) : ProbeError :=
  ⟨p.program, argument r, fault⟩

/-- The text that a run printed, without the blanks at its end. -/
def output (p : Probe) (r : Request) : Execution → Except ProbeError String
  | .notStarted reason => .error (p.fail r (.spawn reason))
  | .overran => .error (p.fail r (.timeout p.timeout))
  | .ended status stdout stderr =>
    if status.isSuccess then
      match Text.ofBytes? stdout with
      | some s => .ok (Text.trimmedEnd s)
      | none => .error (p.fail r (.malformed "output is not valid UTF-8"))
    else
      .error (p.fail r (.exit status.render (Text.trimmed (Text.ofBytesLossy stderr))))

/-- The lines that are not blank. -/
def contentLines (s : String) : List (List Char) :=
  (Text.lines s.toList).filter fun l => !Text.isAllBlank l

/-- Read one location a line, refusing one that was seen before. -/
def readLocations (seen : List Location) : List (List Char) → Except String (List Location)
  | [] => .ok []
  | l :: ls =>
    match Location.parse (String.ofList l) with
    | .error e => .error e.message
    | .ok key =>
      if seen.contains key then .error s!"duplicate location '{key}'"
      else
        match readLocations (key :: seen) ls with
        | .ok keys => .ok (key :: keys)
        | .error e => .error e

/-- The locations that a run of the probe printed, in its order. -/
def locations (p : Probe) (e : Execution) : Except ProbeError (List Location) :=
  match p.output .enumerate e with
  | .error err => .error err
  | .ok text =>
    match readLocations [] (contentLines text) with
    | .ok keys => .ok keys
    | .error reason => .error (p.fail .enumerate (.malformed reason))

/-- The backend that a run of the probe named for a location. -/
def backend (p : Probe) (l : Location) (e : Execution) : Except ProbeError BackendName :=
  match p.output (.resolve l) e with
  | .error err => .error err
  | .ok text =>
    match contentLines text with
    | line :: _ => .ok (BackendName.ofText (String.ofList line))
    | [] => .error (p.fail (.resolve l) .empty)

end Probe

end SlotBroker
