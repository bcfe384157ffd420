import SlotBroker.CommandLine.Basic
import SlotBroker.Finish
import SlotBroker.Config.Load
import SlotBroker.Logging.Setup
import SlotBroker.Platform.Journal

/-!
# Starting a daemon

A daemon loads its configuration, lets the command line change it, sets up its log and looks where
its modules are to be found. What is wrong with the configuration is told before anything else is
done; the changes of the command line are checked as the configuration was.
-/

namespace SlotBroker

namespace DaemonOptions

/-- The configuration with what the command line says in its place. -/
def apply (o : DaemonOptions) (c : Config) : Config :=
  { c with
    server := { c.server with
      port := o.port.getD c.server.port
      bindAddress := o.bind.getD c.server.bindAddress }
    platform := { c.platform with probePath := o.probe.getD c.platform.probePath } }

end DaemonOptions

/-- Why a daemon does not come up, or does not end well. -/
inductive DaemonError
  | loading (path : String) (error : BrokerError)
  | unusable (fault : Config.Fault)
  | logging (error : LoggingError)
  | broker (error : BrokerError)

namespace DaemonError

def toFailure : DaemonError → Failure
  | loading path e => ⟨s!"loading {path}", [e.message]⟩
  | unusable f => .plain f.message
  | logging e => .plain e.message
  | broker (.io reason) => ⟨(BrokerError.io reason).message, [reason]⟩
  | broker e => .plain e.message

end DaemonError

namespace Daemon

/-- The configuration of a daemon and its log. The file of the configuration is told under the name
it is shown by. -/
def configure (o : DaemonOptions) (shown : String) (content : Option String) (env : Environment) :
    Except DaemonError (Config × Log) :=
  match Config.load content env with
  | .error e => .error (.loading o.config (e.toBrokerError shown))
  | .ok loaded =>
    let c := o.apply loaded
    match c.validate with
    | .error f => .error (.unusable f)
    | .ok () =>
      match LogSettings.ofConfig c.logging with
      | .error e => .error (.logging e)
      | .ok s => .ok (c, Log.init env s none)

/-- Where the modules are found. -/
inductive Discovery
  | fixed (map : StaticMap)
  | probe (p : Probe)

/-- Look where the modules are to be found. The file is the one at the path of the static map. -/
def discover (c : PlatformConfig) (file : StaticMap.File) :
    List LogEntry × Except BrokerError Discovery :=
  match c.adapter with
  | .exec =>
    let p : Probe := ⟨c.probePath, c.probeTimeout⟩
    (p.setupJournal, .ok (.probe p))
  | .static =>
    (StaticMap.setupJournal c.staticConfig file,
      match StaticMap.ofFile c.staticConfig file with
      | .ok m => .ok (.fixed m)
      | .error e => .error e.toBrokerError)

/-! ## Entries of the log -/

def starting (c : PlatformConfig) : LogEntry :=
  ⟨.info, "module_broker", "starting module broker",
    [("adapter", .text c.adapter.label), ("probe", .text c.probePath)]⟩

def ofServer (message : String) (fields : List (String × Json)) : LogEntry :=
  ⟨.info, "broker_server::grpc::server", message, fields⟩

def bound (c : ServerConfig) : LogEntry :=
  ofServer "broker socket bound" [("addr", .text c.socket)]

def serving (c : Config) (instanceId : String) : LogEntry :=
  ofServer "module broker serving"
    [("local_addr", .text c.server.socket), ("instance", .text instanceId),
      ("adapter", .text c.platform.adapter.label)]

def stopRequested : LogEntry := ofServer "shutdown requested" []

def stopped : LogEntry := ofServer "module broker stopped" []

end Daemon

end SlotBroker
