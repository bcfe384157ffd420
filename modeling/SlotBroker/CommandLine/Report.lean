import SlotBroker.Client.Reading
import SlotBroker.CommandLine.Basic
import SlotBroker.Finish

/-!
# Asking a broker from the command line

What a command asks of the broker, and what is printed of the result.
-/

namespace SlotBroker

namespace Invocation

/-- The address of the broker that a command is for. -/
def addressOf (given : Option Address) (env : Environment) : Except ClientError Address :=
  match given with
  | some a => .ok a
  | none => Address.ofEnvironment env

end Invocation

namespace Command

def operation : Command → Client.Operation
  | list => .list
  | create text => .create text
  | remove oid => .remove oid
  | info oid => .get oid
  | sessions => .sessions
  | resetDiscovery => .reset
  | broker => .info

end Command

namespace ClientError

/-- A failed request. -/
def toFailure (e : ClientError) : Failure := .plain e.message

/-- No broker is reached at an address. -/
def toUnreachable (a : Address) (e : ClientError) : Failure :=
  ⟨s!"cannot reach module broker at {a}", [e.message]⟩

end ClientError

namespace Descriptor

def line (d : Descriptor) : String := s!"{d.location}\t{d.backend}\n"

end Descriptor

namespace Session

def line (s : Session) : String :=
  s!"{s.oid}\t{s.location}\t{s.backend}\t{s.createdAt.rfc3339}\n"

end Session

namespace ModuleInfo

def lines (i : ModuleInfo) : String :=
  let s := i.session
  s!"oid:        {s.oid}\nlocation:   {s.location}\nbackend:    {s.backend}\n"
    ++ s!"handle:     {Text.decimal s.handle.id.toNat}\nadapter:    {i.adapter}\n"
    ++ s!"created at: {s.createdAt.rfc3339}\n"

end ModuleInfo

namespace BrokerStatus

def lines (b : BrokerStatus) (serving : Bool) : String :=
  s!"instance:   {b.instanceId}\nversion:    {b.version}\nadapter:    {b.adapter}\n"
    ++ s!"started at: {b.startedAt.rfc3339}\n"
    ++ s!"sessions:   {Text.decimal b.sessionCount.toNat}\n"
    ++ (if serving then "serving:    true\n" else "serving:    false\n")

end BrokerStatus

namespace Command

/-- What is printed of the result of a command. After `broker` it is also asked whether the broker
is serving. -/
def report (c : Command) (r : Client.Result) (serving : Except ClientError Bool) :
    Except ClientError String :=
  match r with
  | .listed r => r.map fun m => String.join (m.entries.map Descriptor.line)
  | .created r => r.map fun s => s!"{s.oid}\n"
  | .removed r =>
    r.map fun _ =>
      match c with
      | remove oid => s!"removed {oid}\n"
      | _ => ""
  | .found r => r.map ModuleInfo.lines
  | .sessions r => r.map fun ss => String.join (ss.map Session.line)
  | .reset r => r.map fun _ => "discovery cache cleared\n"
  | .info r =>
    match r with
    | .error e => .error e
    | .ok b => serving.map b.lines

/-- The end of a command that reached the broker. -/
def finish (c : Command) (r : Client.Result) (serving : Except ClientError Bool) : Finish :=
  match c.report r serving with
  | .ok s => .success s
  | .error e => e.toFailure.finish

end Command

end SlotBroker
