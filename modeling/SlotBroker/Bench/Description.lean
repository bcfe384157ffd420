import SlotBroker.Bench.Scenario
import SlotBroker.Bench.TableScenario
import SlotBroker.Json.Access

/-!
# Benches described in JSON

The scripts of a bench, the backends that it starts with, and the steps that are taken on it, each
read from a JSON value. A description that leaves something out means the plainest thing.
-/

namespace SlotBroker

/-- Bytes written in hexadecimal. -/
def Text.ofHex : List Char → List UInt8
  | a :: b :: cs => UInt8.ofNat ((digitOf 16 a).getD 0 * 16 + (digitOf 16 b).getD 0) :: ofHex cs
  | _ => []

/-- Bytes in hexadecimal. -/
def Text.toHex (bs : List UInt8) : String :=
  String.ofList (bs.flatMap fun b =>
    [digitChar (b.toNat / 16), digitChar (b.toNat % 16)])

/-- Bytes given as a text, or in hexadecimal under a key of its own. -/
def Json.bytesAt (key : String) (v : Json) : List UInt8 :=
  match v.textAt? (key ++ "_hex") with
  | some h => Text.ofHex h.toList
  | none => Text.toBytes (v.textAt key)

namespace ProbeFault

def ofDescription (v : Json) : ProbeFault :=
  match v.textAt "probe" with
  | "spawn" => spawn (v.textAt "source")
  | "exit" => exit (v.textAt "status") (v.textAt "stderr")
  | "timeout" => timeout ⟨v.natAt "secs" * 1000000000 + v.natAt "nanos"⟩
  | "malformed" => malformed (v.textAt "reason")
  | _ => empty

end ProbeFault

namespace BrokerError

/-- The failure of a description, in which failures are nested no deeper than the number says. -/
def ofNested : Nat → Json → BrokerError
  | 0, _ => shuttingDown
  | depth + 1, v =>
    match v.textAt "kind" with
    | "probe" => probe ⟨v.textAt "program", v.textAt "argument", ProbeFault.ofDescription v⟩
    | "unknown_location" => unknownLocation ⟨Text.trimmed (v.textAt "location")⟩
    | "unknown_oid" => unknownOid ⟨v.wordAt "oid"⟩
    | "location_busy" => locationBusy ⟨Text.trimmed (v.textAt "location")⟩ ⟨v.wordAt "oid"⟩
    | "backend" =>
      backend ⟨v.textAt "backend", (BackendErrorKind.ofLabel? (v.textAt "backend_kind")).getD .load,
        v.textAt "message"⟩
    | "invalid_argument" => invalidArgument (v.textAt "message")
    | "config" => config (v.textAt "message")
    | "io" => io (v.textAt "message")
    | "shutting_down" => shuttingDown
    | _ => shutdownFailed ((v.listAt "errors").map (ofNested depth))

def ofDescription (v : Json) : BrokerError := ofNested 128 v

end BrokerError

namespace Policy

def ofDescription (v : Json) : Policy :=
  ⟨(v.boolAt? "allow_multiple_sessions").getD false, (v.boolAt? "require_fresh_listing").getD true⟩

end Policy

namespace Bench

/-! ## Scripts -/

def Run.ofDescription (v : Json) : Run :=
  let status : ExitStatus :=
    match v.natAt? "signal" with
    | some n => .signal n
    | none => .code (v.natAt "exit" % 256)
  ⟨v.bytesAt "out", v.bytesAt "err", status, v.natAt "sleep_ms"⟩

def ProgramScript.ofDescription (v : Json) : ProgramScript :=
  v.members.map fun m => (m.1, Run.ofDescription m.2)

def ScriptedFault.ofDescription? (v : Json) : Option ScriptedFault :=
  match v.items with
  | [kind, message] => some ⟨(BackendErrorKind.ofLabel? kind.toText).getD .load, message.toText⟩
  | _ => none

def DoubleSetting.ofMember? (key : String) (v : Json) : Option DoubleSetting :=
  match key with
  | "load_ms" => some (loadMs v.toInt.toNat)
  | "attach_ms" => some (attachMs v.toInt.toNat)
  | "detach_ms" => some (detachMs v.toInt.toNat)
  | "load" => some (load (ScriptedFault.ofDescription? v))
  | "attach" => some (attach (ScriptedFault.ofDescription? v))
  | "detach" => some (detach (ScriptedFault.ofDescription? v))
  | "unload" => some (unload (ScriptedFault.ofDescription? v))
  | _ => none

def DoubleSetting.allOf (v : Json) : List DoubleSetting :=
  v.members.filterMap fun m => ofMember? m.1 m.2

def Factory.ofDescription (v : Json) : Factory :=
  if (v.boolAt? "simulated").getD false then simulated (v.natAt "attach_ms")
  else
    let d := (DoubleSetting.allOf v).foldl Double.set
      (Double.new (UInt64.ofNat ((v.natAt? "first_handle").getD 1)))
    double (if (v.boolAt? "default_unload").getD false then { d with unload := none } else d)

def BackendsSetup.ofDescription (v : Json) : BackendsSetup :=
  ⟨(v.boolAt? "simulate_unknown").getD true, v.natAt "attach_latency_ms",
    (v.listAt "factories").map fun f => (f.textAt "name", Factory.ofDescription f),
    if v.has "fallback" then some (Factory.ofDescription (v.field "fallback")) else none⟩

/-- The locations that a scripted platform tells, or its failure. -/
def describedLocations (v : Json) : Except BrokerError (List Location) :=
  match v with
  | .list vs => .ok (vs.filterMap fun s => (Location.parse s.toText).toOption)
  | .null => .ok []
  | e => .error (BrokerError.ofDescription e)

def describedBackend (v : Json) : Except BrokerError BackendName :=
  match v with
  | .text s => .ok (BackendName.ofText s)
  | e => .error (BrokerError.ofDescription e)

namespace ScriptedPlatform

def setMember (p : ScriptedPlatform) (key : String) (v : Json) : ScriptedPlatform :=
  match key with
  | "locations" => { p with locations := describedLocations v }
  | "backends" => { p with backends := v.members.map fun m => (m.1, describedBackend m.2) }
  | "resolve_ms" => { p with resolveMs := v.toInt.toNat }
  | "enumerate_ms" => { p with enumerateMs := v.toInt.toNat }
  | "adapter" => { p with adapter := (Adapter.ofLabel? v.toText).getD p.adapter }
  | _ => p

/-- The platform with the script changed as described. -/
def setAll (v : Json) (p : ScriptedPlatform) : ScriptedPlatform :=
  v.members.foldl (fun p m => p.setMember m.1 m.2) p

end ScriptedPlatform

/-! ## Steps -/

def Action.ofDescription (v : Json) : Action :=
  match v.textAt "do" with
  | "list" => call .list
  | "create" => create (v.textAt "location")
  | "remove" => call (.remove ⟨v.wordAt "oid"⟩)
  | "shutdown" => call .shutdown
  | "get" => get ⟨v.wordAt "oid"⟩
  | "info" => info ⟨v.wordAt "oid"⟩
  | "sessions" => sessions
  | "count" => count
  | "loaded" => loaded
  | "reset" => reset
  | "sleep" => sleep (v.natAt "ms")
  | "probe" => program (ProgramScript.ofDescription (v.field "probe"))
  | "script" => platform (ScriptedPlatform.setAll (v.field "set"))
  | "fault" => fault (v.textAt "name") (DoubleSetting.allOf (v.field "set"))
  | "calls" => calls
  | "double" => double (v.textAt "name")
  | _ => unknown

def TimedAction.ofDescription (v : Json) : TimedAction :=
  ⟨v.natAt "after_ms", v.natAt? "cancel_ms", Action.ofDescription v⟩

def Step.ofDescription (v : Json) : Step :=
  if v.textAt "do" = "concurrent" then
    together (v.natAt "after_ms") (v.natAt? "cancel_ms")
      ((v.listAt "steps").map TimedAction.ofDescription)
  else one (TimedAction.ofDescription v)

def TableAction.ofDescription (v : Json) : TableAction :=
  match v.textAt "do" with
  | "register" => register (v.textAt "name") (Factory.ofDescription v)
  | "instance" => getBackend (v.textAt "name") ((v.natAt? "count").getD 1)
  | "attach" => attach (v.natAt "instance") (v.textAt "location")
  | "detach" => detach (v.natAt "instance") ⟨v.wordAt "handle"⟩
  | "unload" => unload (v.natAt "instance")
  | "direct" =>
    match v.textAt "call" with
    | "attach" => directAttach (v.textAt "location") (v.natAt? "cancel_ms")
    | "detach" => directDetach ⟨v.wordAt "handle"⟩
    | "unload" => directUnload
    | _ => unknown
  | "fault" => fault (v.textAt "name") (DoubleSetting.allOf (v.field "set"))
  | "loads" => loads (v.textAt "name")
  | "loaded" => loaded
  | "unload_all" => unloadAll
  | _ => unknown

end Bench

end SlotBroker
