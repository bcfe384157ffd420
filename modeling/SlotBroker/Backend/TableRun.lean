import SlotBroker.Backend.Table
import SlotBroker.Error
import SlotBroker.Run

/-!
# The backend table at work

`TableRun.step` carries out one segment of a call to the table: to get the backend of a name, or to
unload all. A run of the table is any sequence of events.
-/

namespace SlotBroker

/-- What a caller asks of the table. -/
inductive TableCall
  | get (name : BackendName)
  | unloadAll
  deriving DecidableEq, Repr

/-- Where a call to the table waits. -/
inductive TableStage
  | waiting (name : BackendName) (cell : Nat)
  | loading (name : BackendName) (cell : Nat)
  | unloading (backend : InstanceId) (cells : List Nat) (errors : List BackendError)

inductive TableEvent
  | register (name : BackendName) (factory : FactoryId)
  /-- A new call, known by the next call number. -/
  | start (call : TableCall)
  /-- A call that waits looks whether it is its turn. -/
  | resume (id : CallId)
  | loaded (id : CallId) (answer : Except BackendError Unit)
  | unloaded (id : CallId) (answer : Except BackendError Unit)
  /-- A call is given up. -/
  | drop (id : CallId)

inductive TableEffect
  | load (id : CallId) (name : BackendName) (factory : FactoryId)
  | unload (id : CallId) (backend : InstanceId)
  | got (id : CallId) (result : Except BackendError InstanceId)
  | unloadedAll (id : CallId) (result : Except BrokerError Unit)

structure TableRun where
  table : BackendTable
  calls : Assoc CallId TableStage
  nextCall : CallId

namespace TableRun

def new (t : BackendTable) : TableRun := ⟨t, [], 0⟩

instance : Inhabited TableRun := ⟨new default⟩

def setStage (id : CallId) (s : TableStage) (r : TableRun) : TableRun :=
  { r with calls := Assoc.put id s r.calls }

def endCall (id : CallId) (r : TableRun) : TableRun := { r with calls := Assoc.erase id r.calls }

/-- Unload the next backend; after the last the call returns. -/
def unloadNext (id : CallId) (errors : List BackendError) (cells : List Nat) (r : TableRun) :
    TableRun × List TableEffect :=
  match r.table.nextLoaded cells with
  | some (b, rest) => (r.setStage id (.unloading b rest errors), [.unload id b])
  | none =>
    let result :=
      if errors.isEmpty then .ok () else .error (.shutdownFailed (errors.map BrokerError.backend))
    (r.endCall id, [.unloadedAll id result])

def start (c : TableCall) (r : TableRun) : TableRun × List TableEffect :=
  let id := r.nextCall
  let next := { r with nextCall := id + 1 }
  match c with
  | .get name =>
    let j := r.table.join id name
    ({ next with table := j.1 }.setStage id (.waiting name j.2), [])
  | .unloadAll =>
    let taken := r.table.takeAll
    { next with table := taken.1 }.unloadNext id [] taken.2

/-- One segment. An event that fits no call in progress changes nothing. -/
def step (r : TableRun) (e : TableEvent) : TableRun × List TableEffect :=
  match e with
  | .register name f => ({ r with table := r.table.register name f }, [])
  | .start c => r.start c
  | .resume id =>
    match Assoc.get? id r.calls with
    | some (.waiting name cell) =>
      match r.table.turn id name cell with
      | (_, .wait) => (r, [])
      | (t, .load f) => ({ r with table := t }.setStage id (.loading name cell), [.load id name f])
      | (t, .done found) => ({ r with table := t }.endCall id, [.got id found])
    | _ => (r, [])
  | .loaded id answer =>
    match Assoc.get? id r.calls with
    | some (.loading _ cell) =>
      let t := r.table.loaded id cell answer
      ({ r with table := t.1 }.endCall id, [.got id t.2])
    | _ => (r, [])
  | .unloaded id answer =>
    match Assoc.get? id r.calls with
    | some (.unloading _ cells errors) =>
      match answer with
      | .ok () => r.unloadNext id errors cells
      | .error e => r.unloadNext id (errors ++ [e]) cells
    | _ => (r, [])
  | .drop id =>
    match Assoc.get? id r.calls with
    | some (.waiting _ cell) | some (.loading _ cell) =>
      ({ r with table := r.table.leave id cell }.endCall id, [])
    | some (.unloading _ _ _) => (r.endCall id, [])
    | none => (r, [])

/-- A run: the state after the events, and all effects in order. -/
def run (r : TableRun) (es : List TableEvent) : TableRun × List TableEffect :=
  Machine.run step r es

/-- A call waits in a line, and its turn has come. -/
def isReady (id : CallId) (r : TableRun) : Bool :=
  match Assoc.get? id r.calls with
  | some (.waiting _ cell) => !(r.table.loads.turn id cell == .wait)
  | _ => false

end TableRun

end SlotBroker
