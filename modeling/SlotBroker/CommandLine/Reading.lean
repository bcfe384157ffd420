import SlotBroker.CommandLine.Form

/-!
# Reading command lines

The commands of the program form a tree. Words choose a place in the tree, and the form of the place
reads the others. At every place help can be asked for.
-/

namespace SlotBroker

/-- The commands for a client. -/
inductive Verb
  | list
  | create
  | remove
  | info
  | sessions
  | resetDiscovery
  | broker
  deriving DecidableEq, Repr

namespace Verb

def label : Verb → String
  | list => "list"
  | create => "create"
  | remove => "remove"
  | info => "info"
  | sessions => "sessions"
  | resetDiscovery => "reset-discovery"
  | broker => "broker"

def all : List Verb := [list, create, remove, info, sessions, resetDiscovery, broker]

end Verb

/-- A place in the tree of commands. -/
inductive Place
  | program
  | daemon
  | client
  | verb (v : Verb)
  /-- The help on the commands under a place. -/
  | help (about : Place)
  deriving DecidableEq, Repr

namespace Place

/-- The commands under a place. -/
def children (p : Place) : List (String × Place) :=
  match p with
  | program => [("daemon", daemon), ("client", client), (Form.helpName, help p)]
  | client => Verb.all.map (fun v => (v.label, verb v)) ++ [(Form.helpName, help p)]
  | _ => []

def child? (w : String) (p : Place) : Option Place :=
  (p.children.find? fun c => c.1 == w).map Prod.snd

end Place

/-- Why a command line is not carried out: help was asked for, a command is missing, or there is a
fault; and at which place. -/
inductive Stop
  | help (p : Place)
  | noCommand (p : Place)
  | usage (p : Place) (e : UsageError)
  deriving DecidableEq, Repr

/-- The same at a place. -/
def Halt.at (p : Place) : Halt → Stop
  | help => .help p
  | fault e => .usage p e

/-! ## Forms -/

/-- Read a port: a number with or without a sign that fits. -/
def readPort (w : String) : Except ValueFault UInt16 :=
  match Text.readSigned64 w with
  | .error e => .error (.numeral e)
  | .ok n => if 0 ≤ n ∧ n < UInt16.size then .ok (UInt16.ofNat n.toNat) else .error (.port n)

def readIp (w : String) : Except ValueFault Net.Ip :=
  match Net.Ip.parse? w with
  | some ip => .ok ip
  | none => .error .ip

def readOid (w : String) : Except ValueFault Oid := (Oid.parse w).mapError .oid

def readAddress [Net.DomainNames] (w : String) : Except ValueFault Address :=
  (Address.parse w).mapError .address

/-- A parameter for a path, which must not be empty. -/
def Parameter.ofPath {σ : Type} (name about : String) (set : String → σ → σ) : Parameter σ :=
  ⟨name, about, fun v s => if v.isEmpty then .error (.missingValue name) else .ok (set v s)⟩

def daemonForm : Form DaemonOptions where
  options :=
    [("config", .ofPath "--config <CONFIG>"
        ("Configuration file (TOML). Missing files fall back to defaults and env [default: "
          ++ DaemonOptions.standardConfig ++ "]")
        fun v o => { o with config := v }),
      ("port", .ofReader "--port <PORT>" "gRPC port, overriding `server.port`" readPort
        fun n o => { o with port := some n }),
      ("bind", .ofReader "--bind <BIND>" "Bind address, overriding `server.bind_address`" readIp
        fun ip o => { o with bind := some ip }),
      ("probe", .ofPath "--probe <PROBE>" "Probe executable, overriding `platform.probe_path`"
        fun v o => { o with probe := some v })]
  operands := []

/-- What a command for a client has been given. -/
structure ClientArguments where
  location : String
  oid : Oid
  address : Option Address
  deriving Inhabited

namespace Verb

def addressOption [Net.DomainNames] : Parameter ClientArguments :=
  .ofReader "--addr <ADDR>"
    ("Broker address (`host:port` or `http://host:port`). Defaults to "
      ++ "MODULE_BROKER_SERVER_ADDRESS/PORT, then 127.0.0.1:50051")
    readAddress fun a c => { c with address := some a }

def locationOperand : Parameter ClientArguments :=
  ⟨"<LOCATION>", "Location key as printed by `list`", fun v c => .ok { c with location := v }⟩

def oidOperand : Parameter ClientArguments :=
  .ofReader "<OID>" "Session oid (decimal or 0x-prefixed hex)" readOid
    fun o c => { c with oid := o }

def operands : Verb → List (Parameter ClientArguments)
  | create => [locationOperand]
  | remove => [oidOperand]
  | info => [oidOperand]
  | _ => []

def form [Net.DomainNames] (v : Verb) : Form ClientArguments :=
  ⟨[("addr", addressOption)], v.operands⟩

def command (c : ClientArguments) : Verb → Command
  | list => .list
  | create => .create c.location
  | remove => .remove c.oid
  | info => .info c.oid
  | sessions => .sessions
  | resetDiscovery => .resetDiscovery
  | broker => .broker

end Verb

/-! ## Places -/

namespace Place

/-- Choose a command under a place. After two dashes no word is a command. -/
def choose (p : Place) : Bool → List String → Except Stop (Place × List String)
  | _, [] => .error (.noCommand p)
  | true, w :: _ =>
    .error (.usage p (if (p.child? w).isSome then .unexpected w else .unknownCommand w))
  | false, w :: ws =>
    match p.child? w with
    | some q => .ok (q, ws)
    | none =>
      match WordShape.ofWord w with
      | .marker => choose p true ws
      | .long name value =>
        if name ≠ Form.helpName then .error (.usage p (.unexpected ("--" ++ name)))
        else
          match value with
          | some v => .error (.usage p (.surplusValue v ("--" ++ name)))
          | none => .error (.help p)
      | .short c =>
        if c = 'h' then .error (.help p)
        else .error (.usage p (.unexpected (String.ofList ['-', c])))
      | .plain => .error (.usage p (.unknownCommand w))

/-- Words that lead to the place on which help is asked for. -/
def helpAlong : Place → List String → Stop
  | p, [] => .help p
  | p, w :: ws =>
    match p.child? w with
    | some q => helpAlong q ws
    | none => .usage p (.unknownCommand w)

def readDaemon (ws : List String) : Except Stop Invocation :=
  match daemonForm.read DaemonOptions.standard ws with
  | .error h => .error (h.at daemon)
  | .ok o => .ok (.daemon o)

def readVerb [Net.DomainNames] (v : Verb) (ws : List String) : Except Stop Invocation :=
  match v.form.read default ws with
  | .error h => .error (h.at (verb v))
  | .ok c => .ok (.client (v.command c) c.address)

def readClient [Net.DomainNames] (ws : List String) : Except Stop Invocation :=
  match client.choose false ws with
  | .error s => .error s
  | .ok (verb v, rest) => readVerb v rest
  | .ok (help p, rest) => .error (p.helpAlong rest)
  | .ok (p, _) => .error (.noCommand p)

end Place

/-- Read a command line, the name of the program aside. -/
def Invocation.read [Net.DomainNames] (ws : List String) : Except Stop Invocation :=
  match Place.program.choose false ws with
  | .error s => .error s
  | .ok (.daemon, rest) => Place.readDaemon rest
  | .ok (.client, rest) => Place.readClient rest
  | .ok (.help p, rest) => .error (p.helpAlong rest)
  | .ok (p, _) => .error (.noCommand p)

end SlotBroker
