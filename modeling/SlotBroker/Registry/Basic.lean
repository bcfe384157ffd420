import SlotBroker.Backend.Table
import SlotBroker.Error
import SlotBroker.Session

/-!
# The registry

The registry holds the live sessions, what is known about the locations, and the calls in progress.
A call is a sequence of segments between points where it waits: in the line of a location, in the
line of a cached answer, or for an answer from outside. `Stage` tells where a call waits and all it
carries along. In which order a shutdown goes through the lines and the backends is a parameter
(`Orders`).

The views at the end of the file are what a caller can ask at any moment.
-/

namespace SlotBroker

/-- What the registry insists on before it creates a session. -/
structure Policy where
  allowMultipleSessions : Bool
  requireFreshListing : Bool
  deriving DecidableEq, Repr, Inhabited

/-- One session at a location, and only after a listing that shows it. -/
def Policy.strict : Policy := ⟨false, true⟩

/-- A session and the backend that holds its handle. -/
structure LiveSession where
  info : Session
  backend : InstanceId
  deriving DecidableEq, Inhabited

/-- One of the questions that a call may have open at a time. -/
structure Ticket where
  call : CallId
  part : Nat
  deriving DecidableEq, Repr, Inhabited

/-- How far a listing has come with one location. -/
inductive Part
  | fresh
  | waiting (cell : Nat)
  | asking (cell : Nat)
  | named (backend : BackendName)
  deriving DecidableEq, Repr

/-- Where a call to create a session waits. -/
inductive CreateStage
  | locking
  | resolving (cell : Nat)
  | asking (cell : Nat)
  | fetching (name : BackendName) (cell : Nat)
  | loading (name : BackendName) (cell : Nat)
  | attaching (name : BackendName) (backend : InstanceId) (oid : Oid)
  | undoing (backend : InstanceId) (handle : Handle)
  deriving DecidableEq, Repr

/-- Where a call waits. -/
inductive Stage
  | enumerating
  | listing (parts : List (Location × Part))
  | creating (location : Location) (stage : CreateStage)
  | removing (oid : Oid) (location : Location) (detaching : Bool)
  | draining (location : Location) (rest : List Location)
  | releasing (oid : Oid) (location : Location) (detaching : Bool) (rest : List Oid)
      (errors : List BrokerError)
  | unloading (backend : InstanceId) (cells : List Nat) (errors : List BrokerError)
  | reclaiming (backend : InstanceId) (handle : Handle) (detaching : Bool)

/-- The orders in which shutdowns go through the lines and through the cells of the backends. A cell
that was taken away never comes back, and the same lines may be gone through again. -/
structure Orders where
  lines : CallId → Arrangement Location
  cells : Arrangement Nat
  deriving Inhabited

namespace Orders

def asPut : Orders := ⟨fun _ => .asPut, .asPut⟩

def latestFirst : Orders := ⟨fun _ => .latestFirst, .latestFirst⟩

end Orders

structure Registry where
  adapter : Adapter
  policy : Policy
  /-- The live sessions, in ascending order of oid. -/
  sessions : List LiveSession
  resolutions : OnceMap Location Ticket BackendName
  /-- Who stands in the line of a location; the head holds the location. -/
  lines : Assoc Location (List CallId)
  /-- The locations of the listing that counts, if there is one. -/
  listed : Option (List Location)
  nextOid : UInt64
  closed : Bool
  backends : BackendTable
  calls : Assoc CallId Stage
  nextCall : CallId
  /-- The order in which a shutdown stands in the lines, whichever call it is. -/
  lineOrder : CallId → Arrangement Location

namespace Registry

def new (adapter : Adapter) (policy : Policy) (lineOrder : CallId → Arrangement Location)
    (backends : BackendTable) : Registry :=
  ⟨adapter, policy, [], OnceMap.empty, [], none, 1, false, backends, [], 0, lineOrder⟩

/-- A new registry whose backends have not been used before. -/
def unused (orders : Orders) (adapter : Adapter) (policy : Policy)
    (factories : Assoc BackendName FactoryId) (fallback : Option FactoryId) : Registry :=
  new adapter policy orders.lines ⟨factories, fallback, OnceMap.empty, 0, orders.cells⟩

instance : Inhabited Registry := ⟨new default default default default⟩

/-! ## Views -/

def find? (oid : Oid) (r : Registry) : Option LiveSession :=
  r.sessions.find? fun s => s.info.oid == oid

def getSession (oid : Oid) (r : Registry) : Except BrokerError Session :=
  match r.find? oid with
  | some s => .ok s.info
  | none => .error (.unknownOid oid)

def moduleInfo (oid : Oid) (r : Registry) : Except BrokerError ModuleInfo :=
  match r.getSession oid with
  | .ok s => .ok ⟨s, r.adapter⟩
  | .error e => .error e

/-- All live sessions, in ascending order of oid. -/
def sessionList (r : Registry) : List Session := r.sessions.map LiveSession.info

def sessionCount (r : Registry) : Nat := r.sessions.length

/-- A session that is live at a location. -/
def sessionAt? (l : Location) (r : Registry) : Option Oid :=
  (r.sessions.find? fun s => s.info.location == l).map fun s => s.info.oid

/-- The location is in the listing that counts. -/
def wasListed (l : Location) (r : Registry) : Bool :=
  match r.listed with
  | some ls => ls.contains l
  | none => false

/-- Who holds a location. -/
def holder? (l : Location) (r : Registry) : Option CallId :=
  (Assoc.get? l r.lines).bind List.head?

def loadedBackends (r : Registry) : List BackendName := r.backends.loadedNames

/-- The locations that have a line, as a shutdown that begins now goes through them. -/
def drainOrder (r : Registry) : List Location :=
  (r.lineOrder r.nextCall).arrange (Assoc.keys r.lines)

@[simp] theorem mem_drainOrder {l : Location} {r : Registry} :
    l ∈ r.drainOrder ↔ l ∈ Assoc.keys r.lines := Arrangement.mem_arrange

/-! ## Changes of one part -/

/-- Stand in the line of a location. -/
def standAt (l : Location) (id : CallId) (r : Registry) : Registry :=
  { r with lines := Assoc.put l ((Assoc.get? l r.lines).getD [] ++ [id]) r.lines }

/-- Leave the line of a location, at its head or within. -/
def leaveLine (l : Location) (id : CallId) (r : Registry) : Registry :=
  { r with lines := Assoc.modify l (fun line => line.erase id) r.lines }

def setStage (id : CallId) (s : Stage) (r : Registry) : Registry :=
  { r with calls := Assoc.put id s r.calls }

def endCall (id : CallId) (r : Registry) : Registry :=
  { r with calls := Assoc.erase id r.calls }

/-- Put a session among the others by its oid. -/
def insertSession (s : LiveSession) : List LiveSession → List LiveSession
  | [] => [s]
  | x :: xs =>
    if s.info.oid < x.info.oid then s :: x :: xs
    else if s.info.oid = x.info.oid then s :: xs
    else x :: insertSession s xs

def addSession (s : LiveSession) (r : Registry) : Registry :=
  { r with sessions := insertSession s r.sessions }

def eraseSession (oid : Oid) (r : Registry) : Registry :=
  { r with sessions := r.sessions.filter fun s => !(s.info.oid == oid) }

/-- Forget what is known about the locations. Live sessions stay. -/
def resetDiscovery (r : Registry) : Registry :=
  { r with resolutions := r.resolutions.clear, listed := none }

end Registry

end SlotBroker
