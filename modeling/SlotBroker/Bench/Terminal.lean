import SlotBroker.Bench.DomainNames
import SlotBroker.Bench.Served
import SlotBroker.Client.Uri
import SlotBroker.CommandLine.Help
import SlotBroker.CommandLine.Report
import SlotBroker.Daemon.Startup

/-!
# Command lines on the bench

The program with its commands, run against a broker on the bench: as a client of a broker that
listens at an address, or as a daemon in a working directory.
-/

namespace SlotBroker.Bench

/-! ## Daemons -/

/-- What lies in a working directory: a configuration, a static map and a probe. -/
structure Directory where
  config : Option String
  map : Option String
  probe : ProgramScript

namespace Directory

def empty : Directory := ⟨none, none, []⟩

/-- The text of the file at a path. -/
def text? (path : String) (d : Directory) : Option String :=
  let cs := path.toList
  if cs.head? = some '/' ∨ cs.getLast? = some '/' then none
  else
    match (pathNames cs).map String.ofList with
    | ["broker.toml"] => d.config
    | ["static.json"] => d.map
    | _ => none

/-- What a reader of a static map finds at a path. -/
def file (path : String) (d : Directory) : StaticMap.File :=
  match d.text? path with
  | some s => .content (Text.toBytes s)
  | none =>
    if !path.isEmpty && (pathNames path.toList).isEmpty then
      .unreadable "Is a directory (os error 21)"
    else .missing

/-- The name under which a file in the directory is shown. -/
def shown (path : String) : String :=
  String.ofList (['/'].intercalate (pathNames path.toList))

end Directory

/-- The address can be listened at: it leads back to the host, or to whatever the host is. -/
def isLocal (ip : Net.Ip) : Bool :=
  match ip with
  | .v4 ip => ip.a = 127 ∨ ip = ⟨0, 0, 0, 0⟩
  | .v6 ip => ip.groups ∈ [[0, 0, 0, 0, 0, 0, 0, 0], [0, 0, 0, 0, 0, 0, 0, 1]]

/-- Listen at an address, if nobody else does. -/
def listen (taken : List UInt16) (c : ServerConfig) : Except BrokerError Unit :=
  if !isLocal c.bindAddress then .error (.io "Cannot assign requested address (os error 99)")
  else if taken.contains c.port then .error (.io "Address already in use (os error 98)")
  else .ok ()

/-- A daemon on the bench: its configuration, its log, what it told before it served, and the broker
that it is. -/
structure LiveDaemon where
  config : Config
  log : Log
  told : List LogRecord
  served : Served

namespace LiveDaemon

def platformOf (d : Directory) : Daemon.Discovery → Platform
  | .fixed m => .fixed m
  | .probe p => .exec p d.probe

def backendsOf (c : BackendsConfig) : BackendsSetup :=
  ⟨c.simulateUnknown, c.attachLatencyMs.toNat, [], none⟩

/-- A broker of a configuration, told of from its start. -/
def serve (d : Directory) (c : Config) (found : Daemon.Discovery) : Served :=
  Served.build (platformOf d found) c.registry (backendsOf c.backends)

/-- Start a daemon. Some ports are taken. Tells what was written to the log if it fails. -/
def launch (d : Directory) (taken : List UInt16) (o : DaemonOptions) (env : Environment) :
    Except (String × DaemonError) LiveDaemon :=
  match Daemon.configure o (Directory.shown o.config) (d.text? o.config) env with
  | .error e => .error ("", e)
  | .ok (c, log) =>
    let record (e : LogEntry) : LogRecord := ⟨(default : World).instant, e⟩
    let found := Daemon.discover c.platform (d.file c.platform.staticConfig)
    let told := (Daemon.starting c.platform :: found.1).map record
    match found.2 with
    | .error e => .error (log.write told, .broker e)
    | .ok p =>
      match listen taken c.server with
      | .error e => .error (log.write told, .broker e)
      | .ok () =>
        let s := serve d c p
        let up := [Daemon.bound c.server,
          Daemon.serving c s.identity.instanceId]
        .ok ⟨c, log, told ++ up.map record, s⟩

/-- The daemon can be reached at an address of the host. -/
def isReachedAt (a : Address) (d : LiveDaemon) : Bool :=
  d.config.server.port == a.port
    && (match d.config.server.bindAddress with
      | .v4 ip => ip.render == a.host || ip = ⟨0, 0, 0, 0⟩
      | .v6 _ => false)

/-- Tell a daemon to stop and see it through. -/
def stop (d : LiveDaemon) : Finish :=
  let before := d.served.world.journal.reverse
  let r := d.served.stop d.config.server.shutdownGraceMs.toNat none
  let since := r.1.world.journal.reverse.drop before.length
  let record (s : Served) (e : LogEntry) : LogRecord := ⟨s.world.instant, e⟩
  let text := d.log.write (d.told ++ before
    ++ record d.served Daemon.stopRequested :: since
    ++ [record r.1 Daemon.stopped])
  match r.2.released with
  | .ok () => ⟨0, "", text⟩
  | .error e => (DaemonError.broker e).toFailure.finish.after text

end LiveDaemon

/-! ## Clients -/

/-- Where command lines are run: a broker, the address at which it listens, and whether anything can
be reached there. -/
structure Terminal where
  address : Address
  connected : Bool
  served : Served

namespace Terminal

/-- Connect to a broker at an address. -/
def connect (a : Address) (t : Terminal) : Except ClientError Unit :=
  match Client.checkTarget a with
  | .error e => .error e
  | .ok () => if t.connected && a = t.address then .ok () else .error .transport

/-- A command for a client. -/
def runClient (c : Command) (given : Option Address) (env : Environment) (t : Terminal) :
    Terminal × Finish :=
  match Invocation.addressOf given env with
  | .error e => (t, e.toFailure.finish)
  | .ok a =>
    match t.connect a with
    | .error e => (t, (e.toUnreachable a).finish)
    | .ok () =>
      let r := t.served.operate c.operation
      ({ t with served := r.1 }, c.finish r.2 r.1.askServing)

/-- A daemon beside the one that is there. If it comes up it is told to stop. -/
def runDaemon (o : DaemonOptions) (env : Environment) (t : Terminal) : Finish :=
  match LiveDaemon.launch .empty [t.address.port] o env with
  | .error (text, e) => e.toFailure.finish.after text
  | .ok d => d.stop

/-- Run the program with the given words. -/
def run (ws : List String) (env : Environment) (t : Terminal) : Terminal × Finish :=
  match Invocation.read ws with
  | .error s => (t, s.finish)
  | .ok (.client c a) => t.runClient c a env
  | .ok (.daemon o) => (t, t.runDaemon o env)

end Terminal

end SlotBroker.Bench
