import SlotBroker.Bench.DomainNames
import SlotBroker.CommandLine.Help
import SlotBroker.CommandLine.Report
import SlotBroker.Daemon.Startup
import SlotBroker.Text.Bytes
import Std.Time.DateTime.Timestamp

/-!
# The program

Reads the command line, the environment and the files that a daemon is told of, and prints how the
program ends. There is no network here: no broker can be reached and no socket can be listened at.
Domain names are written in ASCII as on the bench.
-/

namespace SlotBroker.Program

/-- One setting of an environment block. -/
def setting? (bytes : List UInt8) : Option (String × String) :=
  match Text.ofBytes? bytes with
  | none => none
  | some s =>
    let name := s.toList.takeWhile (· != '=')
    if name.isEmpty then none
    else some (String.ofList name, String.ofList (s.toList.drop (name.length + 1)))

/-- The variables in an environment block. -/
def environmentOf (block : List UInt8) : Environment :=
  Environment.ofSettings ((block.splitOn 0).filterMap setting?)

def environment : IO Environment := do
  match ← (IO.FS.readBinFile "/proc/self/environ").toBaseIO with
  | .ok block => return environmentOf block.toList
  | .error _ => return []

def now : IO Time.Instant := do
  let t ← Std.Time.Timestamp.now
  return (Time.Instant.ofMillis? t.toMillisecondsSinceUnixEpoch.val).getD Time.Instant.epoch

/-- What is found at a path. -/
def fileAt (path : String) : IO StaticMap.File := do
  match ← (IO.FS.readBinFile path).toBaseIO with
  | .ok bytes => return .content bytes.toList
  | .error (.noFileOrDirectory _ _ _) => return .missing
  | .error e => return .unreadable (toString e)

/-- The text of the first file among the paths. -/
def firstText : List String → IO (Option String)
  | [] => return none
  | path :: paths => do
    match ← fileAt path with
    | .content bytes => return Text.ofBytes? bytes
    | _ => firstText paths

/-- A file that is told by a relative path may also lie in a directory further up. -/
def candidates (directory path : String) : List String :=
  if path.startsWith "/" then [path]
  else
    (List.range ((directory.splitOn "/").length)).map fun k =>
      String.join (List.replicate k "../") ++ path

/-- A daemon, up to the point where it would listen. -/
def daemon (o : DaemonOptions) (env : Environment) : IO Finish := do
  let directory ← IO.currentDir
  let content ← firstText (candidates directory.toString o.config)
  match Daemon.configure o o.config content env with
  | .error e => return e.toFailure.finish
  | .ok (c, log) =>
    let found := Daemon.discover c.platform (← fileAt c.platform.staticConfig)
    let time ← now
    let told := (Daemon.starting c.platform :: found.1).map fun e => ⟨time, e⟩
    let error : BrokerError := match found.2 with
      | .error e => e
      | .ok _ => .io "Operation not supported (os error 95)"
    return (DaemonError.broker error).toFailure.finish.after (log.write told)

/-- A command for a client. -/
def client (given : Option Address) (env : Environment) : Finish :=
  match Invocation.addressOf given env with
  | .error e => e.toFailure.finish
  | .ok a => (ClientError.transport.toUnreachable a).finish

def run (ws : List String) : IO Finish := do
  match Invocation.read ws with
  | .error s => return s.finish
  | .ok (.client _ a) => return client a (← environment)
  | .ok (.daemon o) => daemon o (← environment)

end SlotBroker.Program

def main (args : List String) : IO UInt32 := do
  let finish ← SlotBroker.Program.run args
  IO.print finish.stdout
  IO.eprint finish.stderr
  return UInt32.ofNat finish.exit
