import SlotBroker.Backend.Journal
import SlotBroker.Bench.Script

/-!
# The backends of a bench

The factories of a bench, the backends loaded by them, and what each operation of a loaded backend
takes and does.
-/

namespace SlotBroker.Bench

structure Site where
  factories : List Factory
  /-- The scripted backends by the name they were registered under, the fallback under a star. -/
  doubles : Assoc String FactoryId
  instances : List Instance
  deriving Inhabited

namespace Site

def double? (f : FactoryId) (s : Site) : Option Double :=
  match s.factories[f]? with
  | some (.double d) => some d
  | _ => none

def namedDouble? (name : String) (s : Site) : Option Double :=
  (Assoc.get? name s.doubles).bind fun f => s.double? f

def setDouble (f : FactoryId) (d : Double) (s : Site) : Site :=
  { s with factories := s.factories.set f (.double d) }

/-- A new factory. If it is scripted it can be found by the given name. -/
def add (name : String) (f : Factory) (s : Site) : Site × FactoryId :=
  let id := s.factories.length
  let known := { s with factories := s.factories ++ [f] }
  match f with
  | .double _ => ({ known with doubles := Assoc.put name id s.doubles }, id)
  | .simulated _ => (known, id)

/-- Change the script of a backend. -/
def setFault (name : String) (settings : List DoubleSetting) (s : Site) : Option Site := do
  let f ← Assoc.get? name s.doubles
  let d ← s.double? f
  some (s.setDouble f (settings.foldl Double.set d))

/-- A load begins: how long it takes. -/
def beginLoad (f : FactoryId) (s : Site) : Site × Nat :=
  match s.double? f with
  | some d => (s.setDouble f { d with loads := d.loads + 1 }, d.loadMs)
  | none => (s, 0)

/-- How long an operation of a loaded backend takes. -/
def delay (b : InstanceId) (ofLatency : Nat → Nat) (ofDouble : Double → Nat) (s : Site) : Nat :=
  match s.instances[b]? with
  | some (.simulated b) => ofLatency b.latency.millis
  | some (.double f _) => (s.double? f).elim 0 ofDouble
  | none => 0

def attachDelay (b : InstanceId) (s : Site) : Nat := s.delay b (fun ms => ms) Double.attachMs

def detachDelay (b : InstanceId) (s : Site) : Nat := s.delay b (fun _ => 0) Double.detachMs

/-- What a load comes to at its end. -/
def load (name : BackendName) (f : FactoryId) (s : Site) : Site × Except BackendError Unit :=
  match s.factories[f]? with
  | some (.simulated ms) =>
    let b := SimulatedBackend.load name (Time.Span.ofMillis ms)
    ({ s with instances := s.instances ++ [.simulated b] }, .ok ())
  | some (.double d) =>
    match d.load with
    | some fault => (s, .error (fault.toError name))
    | none => ({ s with instances := s.instances ++ [.double f name] }, .ok ())
  | none => (s, .error (BackendError.unsupported name))

/-- What attaching comes to at its end. -/
def attach (b : InstanceId) (l : Location) (s : Site) : Site × Except BackendError Handle :=
  match s.instances[b]? with
  | some (.simulated sb) =>
    let r := sb.attach l
    ({ s with instances := s.instances.set b (.simulated r.1) }, .ok r.2)
  | some (.double f name) =>
    match s.double? f with
    | some d =>
      let r := d.attachNow name
      (s.setDouble f r.1, r.2)
    | none => (s, .ok ⟨0⟩)
  | none => (s, .ok ⟨0⟩)

/-- What detaching comes to at its end. -/
def detach (b : InstanceId) (h : Handle) (s : Site) : Site × Except BackendError Unit :=
  match s.instances[b]? with
  | some (.simulated sb) =>
    let r := sb.detach h
    ({ s with instances := s.instances.set b (.simulated r.1) }, r.2)
  | some (.double f name) =>
    match s.double? f with
    | some d =>
      let r := d.detachNow name h
      (s.setDouble f r.1, r.2)
    | none => (s, .ok ())
  | none => (s, .ok ())

def unload (b : InstanceId) (s : Site) : Site × Except BackendError Unit :=
  match s.instances[b]? with
  | some (.simulated sb) =>
    ({ s with instances := s.instances.set b (.simulated sb.unload) }, .ok ())
  | some (.double f name) => (s, (s.double? f).elim (.ok ()) fun d => d.unloadNow name)
  | none => (s, .ok ())

/-- The simulated backend that was loaded with a number, if it is one. -/
def simulated? (b : InstanceId) (s : Site) : Option SimulatedBackend :=
  match s.instances[b]? with
  | some (.simulated sb) => some sb
  | _ => none

/-- What a backend tells of an attach. Only a simulated one tells anything. -/
def attachJournal (b : InstanceId) (l : Location) (answer : Except BackendError Handle)
    (s : Site) : List LogEntry :=
  match s.simulated? b, answer with
  | some sb, .ok h => [sb.attachEntry l h]
  | _, _ => []

/-- What a backend tells of a detach that is about to happen. -/
def detachJournal (b : InstanceId) (h : Handle) (s : Site) : List LogEntry :=
  (s.simulated? b).elim [] fun sb => sb.detachEntries h

end Site

/-- What a bench has for backends: factories by name, and what serves all other names. -/
structure BackendsSetup where
  simulateUnknown : Bool
  attachLatencyMs : Nat
  factories : List (String × Factory)
  fallback : Option Factory
  deriving Inhabited

namespace BackendsSetup

/-- Everything is simulated, without latency. -/
def simulated : BackendsSetup := ⟨true, 0, [], none⟩

/-- Set the backends up, and the table that finds them. -/
def build (c : BackendsSetup) : Site × BackendTable :=
  let start : Site × Option FactoryId :=
    match c.fallback with
    | some f => let r := Site.add "*" f default; (r.1, some r.2)
    | none =>
      if c.simulateUnknown then
        let r := Site.add "*" (.simulated c.attachLatencyMs) default; (r.1, some r.2)
      else (default, none)
  c.factories.foldl
    (fun st p =>
      let name := BackendName.ofText p.1
      let r := st.1.add name.text p.2
      (r.1, st.2.register name r.2))
    (start.1, BackendTable.empty .asPut start.2)

end BackendsSetup

end SlotBroker.Bench
