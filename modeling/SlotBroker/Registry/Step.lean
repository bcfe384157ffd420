import SlotBroker.Registry.Basic
import SlotBroker.Run

/-!
# The registry at work

`Registry.step` carries out one segment of one call. Between two segments anything may happen, so a
run of the registry is any sequence of events, and `Registry.run` goes through one. What a segment
asks of the platform and the backends, and what a call returns, are its effects; the answers come
back as events.

The segments of a call:

* a listing asks for the locations, then resolves them all at a time, and counts as the listing
  that shows them once every location has its backend;
* creating checks that the registry is open and the location listed, stands in the line of the
  location, checks again that the registry is open and the location free, resolves the backend, has
  it loaded, takes an oid and attaches. If the registry was closed meanwhile it detaches again;
* removing finds the session, stands in the line of its location, finds the session again and
  detaches;
* a shutdown closes the registry, stands once in every line, releases the sessions in ascending
  order of oid and unloads the backends; the lines and the backends come in any order.

A call that is given up leaves the line and the cells where it stands. If it holds an attached
handle that no session has, a background call detaches it.
-/

namespace SlotBroker

/-- What a caller asks for. -/
inductive Call
  | list
  | create (location : Location)
  | remove (oid : Oid)
  | shutdown
  deriving DecidableEq, Repr

/-- What a caller gets. -/
inductive Outcome
  | listed (result : Except BrokerError Listing)
  | created (result : Except BrokerError Session)
  | removed (result : Except BrokerError Unit)
  | shutDown (result : Except BrokerError Unit)

/-- What a segment asks for, tells or starts. -/
inductive Effect
  | enumerate (id : CallId)
  | resolve (ticket : Ticket) (location : Location)
  | load (id : CallId) (name : BackendName) (factory : FactoryId)
  | attach (id : CallId) (oid : Oid) (backend : InstanceId) (location : Location)
  | detach (id : CallId) (backend : InstanceId) (handle : Handle)
  | unload (id : CallId) (backend : InstanceId)
  | reply (id : CallId) (outcome : Outcome)
  | background (id : CallId)
  | ended (id : CallId)

inductive Event
  /-- A new call, known by the next call number. -/
  | start (call : Call)
  /-- A call that waits in a line looks whether it is its turn. -/
  | resume (ticket : Ticket)
  | enumerated (id : CallId) (answer : Except BrokerError (List Location))
  | resolved (ticket : Ticket) (answer : Except BrokerError BackendName)
  | loaded (id : CallId) (answer : Except BackendError Unit)
  | attached (id : CallId) (answer : Except BackendError Handle) (now : Time.Instant)
  | detached (id : CallId) (answer : Except BackendError Unit)
  | unloaded (id : CallId) (answer : Except BackendError Unit)
  /-- A call is given up. Without `tending` no background call can be started any more. -/
  | drop (id : CallId) (tending : Bool)
  | reset

namespace Registry

/-! ## Creating -/

/-- A creation returns: it leaves the location and tells the result. -/
def endCreate (id : CallId) (l : Location) (result : Except BrokerError Session) (r : Registry) :
    Registry × List Effect :=
  ((r.leaveLine l id).endCall id, [.reply id (.created result)])

/-- The location is ours: check once more, then go to the cell of the location. -/
def createLocked (id : CallId) (l : Location) (r : Registry) : Registry × List Effect :=
  if r.closed then r.endCreate id l (.error .shuttingDown)
  else
    match if r.policy.allowMultipleSessions then none else r.sessionAt? l with
    | some oid => r.endCreate id l (.error (.locationBusy l oid))
    | none =>
      let j := r.resolutions.join ⟨id, 0⟩ l
      ({ r with resolutions := j.1 }.setStage id (.creating l (.resolving j.2)), [])

/-- The backend is named: go to the table. -/
def createNamed (id : CallId) (l : Location) (name : BackendName) (r : Registry) :
    Registry × List Effect :=
  let j := r.backends.join id name
  ({ r with backends := j.1 }.setStage id (.creating l (.fetching name j.2)), [])

/-- The backend is there, or it is not: take an oid and attach, or give up. -/
def createFetched (id : CallId) (l : Location) (name : BackendName)
    (found : Except BackendError InstanceId) (r : Registry) : Registry × List Effect :=
  match found with
  | .error e => r.endCreate id l (.error (.backend e))
  | .ok b =>
    let oid : Oid := ⟨r.nextOid⟩
    ({ r with nextOid := r.nextOid + 1 }.setStage id (.creating l (.attaching name b oid)),
      [.attach id oid b l])

/-- The module is attached, or it is not: commit, undo or give up. -/
def createAttached (id : CallId) (l : Location) (name : BackendName) (b : InstanceId) (oid : Oid)
    (answer : Except BackendError Handle) (now : Time.Instant) (r : Registry) :
    Registry × List Effect :=
  match answer with
  | .error e => r.endCreate id l (.error (.backend e))
  | .ok h =>
    if r.closed then (r.setStage id (.creating l (.undoing b h)), [.detach id b h])
    else
      let s : Session := ⟨oid, l, name, h, now⟩
      (r.addSession ⟨s, b⟩).endCreate id l (.ok s)

/-! ## Listing -/

/-- The backends of all parts, if all are named. -/
def allNamed? : List (Location × Part) → Option (List Descriptor)
  | [] => some []
  | (l, .named b) :: ps => (allNamed? ps).map (⟨l, b⟩ :: ·)
  | _ :: _ => none

/-- Put down how far a listing has come, and end it when every location is named. -/
def listProgress (id : CallId) (parts : List (Location × Part)) (r : Registry) :
    Registry × List Effect :=
  match allNamed? parts with
  | some entries =>
    ({ r with listed := some (parts.map Prod.fst) }.endCall id,
      [.reply id (.listed (.ok ⟨entries⟩))])
  | none => (r.setStage id (.listing parts), [])

/-- Leave the cells at which the parts of a listing stand. -/
def leaveParts (id : CallId) : Nat → List (Location × Part) → Registry → Registry
  | _, [], r => r
  | k, (_, .waiting cell) :: ps, r =>
    leaveParts id (k + 1) ps { r with resolutions := r.resolutions.leave ⟨id, k⟩ cell }
  | k, (_, .asking cell) :: ps, r =>
    leaveParts id (k + 1) ps { r with resolutions := r.resolutions.leave ⟨id, k⟩ cell }
  | k, _ :: ps, r => leaveParts id (k + 1) ps r

/-- One part of a listing looks for its backend. -/
def listResume (t : Ticket) (parts : List (Location × Part)) (r : Registry) :
    Registry × List Effect :=
  match parts[t.part]? with
  | some (l, .fresh) =>
    let j := r.resolutions.join t l
    ({ r with resolutions := j.1 }.setStage t.call (.listing (parts.set t.part (l, .waiting j.2))),
      [])
  | some (l, .waiting cell) =>
    match r.resolutions.turn t cell with
    | .ready b => r.listProgress t.call (parts.set t.part (l, .named b))
    | .compute =>
      (r.setStage t.call (.listing (parts.set t.part (l, .asking cell))), [.resolve t l])
    | .wait => (r, [])
  | _ => (r, [])

/-- One part of a listing has its answer; a failure ends the listing. -/
def listResolved (t : Ticket) (parts : List (Location × Part))
    (answer : Except BrokerError BackendName) (r : Registry) : Registry × List Effect :=
  match parts[t.part]? with
  | some (l, .asking cell) =>
    match answer with
    | .ok b =>
      { r with resolutions := r.resolutions.fill cell b }.listProgress t.call
        (parts.set t.part (l, .named b))
    | .error e =>
      ((r.leaveParts t.call 0 parts).endCall t.call, [.reply t.call (.listed (.error e))])
  | _ => (r, [])

/-! ## Removing -/

/-- A removal returns: it leaves the location and tells the result. -/
def endRemove (id : CallId) (l : Location) (result : Except BrokerError Unit) (r : Registry) :
    Registry × List Effect :=
  ((r.leaveLine l id).endCall id, [.reply id (.removed result)])

def removeLocked (id : CallId) (oid : Oid) (l : Location) (r : Registry) :
    Registry × List Effect :=
  match r.find? oid with
  | none => r.endRemove id l (.error (.unknownOid oid))
  | some s =>
    (r.setStage id (.removing oid l true), [.detach id s.backend s.info.handle])

def removeDetached (id : CallId) (oid : Oid) (l : Location) (answer : Except BackendError Unit)
    (r : Registry) : Registry × List Effect :=
  match answer with
  | .ok () => (r.eraseSession oid).endRemove id l (.ok ())
  | .error e => r.endRemove id l (.error (.backend e))

/-! ## Shutting down -/

/-- Unload the next backend; after the last the shutdown returns. -/
def unloadNext (id : CallId) (errors : List BrokerError) (cells : List Nat) (r : Registry) :
    Registry × List Effect :=
  match r.backends.nextLoaded cells with
  | some (b, rest) => (r.setStage id (.unloading b rest errors), [.unload id b])
  | none =>
    let result := if errors.isEmpty then .ok () else .error (.shutdownFailed errors)
    (r.endCall id, [.reply id (.shutDown result)])

/-- All sessions have been tried: forget everything and take the backends out of the table. -/
def beginUnload (id : CallId) (errors : List BrokerError) (r : Registry) :
    Registry × List Effect :=
  let cleared := { r with sessions := [] }.resetDiscovery
  let taken := cleared.backends.takeAll
  { cleared with backends := taken.1 }.unloadNext id errors taken.2

/-- Stand in the line of the next session that is still live. -/
def releaseNext (id : CallId) (errors : List BrokerError) : List Oid → Registry →
    Registry × List Effect
  | [], r => r.beginUnload id errors
  | oid :: rest, r =>
    match r.find? oid with
    | none => releaseNext id errors rest r
    | some s =>
      let l := s.info.location
      ((r.standAt l id).setStage id (.releasing oid l false rest errors), [])

/-- Stand in the next line; after the last go on to the sessions. -/
def drainNext (id : CallId) (rest : List Location) (r : Registry) : Registry × List Effect :=
  match rest with
  | l :: rest => ((r.standAt l id).setStage id (.draining l rest), [])
  | [] => r.releaseNext id [] (r.sessions.map fun s => s.info.oid)

def releaseLocked (id : CallId) (oid : Oid) (l : Location) (rest : List Oid)
    (errors : List BrokerError) (r : Registry) : Registry × List Effect :=
  match r.find? oid with
  | none => (r.leaveLine l id).releaseNext id errors rest
  | some s =>
    (r.setStage id (.releasing oid l true rest errors), [.detach id s.backend s.info.handle])

def releaseDetached (id : CallId) (oid : Oid) (l : Location) (rest : List Oid)
    (errors : List BrokerError) (answer : Except BackendError Unit) (r : Registry) :
    Registry × List Effect :=
  match answer with
  | .ok () => ((r.eraseSession oid).leaveLine l id).releaseNext id errors rest
  | .error e => (r.leaveLine l id).releaseNext id (errors ++ [.backend e]) rest

/-! ## Starting and giving up -/

/-- Give the next call number to a call that waits at a stage. -/
def enroll (s : Stage) (r : Registry) : Registry :=
  { r.setStage r.nextCall s with nextCall := r.nextCall + 1 }

/-- Give the next call number to a call that returns at once. -/
def answerNow (o : Outcome) (r : Registry) : Registry × List Effect :=
  ({ r with nextCall := r.nextCall + 1 }, [.reply r.nextCall o])

def start (c : Call) (r : Registry) : Registry × List Effect :=
  let id := r.nextCall
  match c with
  | .list => (r.enroll .enumerating, [.enumerate id])
  | .create l =>
    if r.closed then r.answerNow (.created (.error .shuttingDown))
    else if r.policy.requireFreshListing && !r.wasListed l then
      r.answerNow (.created (.error (.unknownLocation l)))
    else ((r.enroll (.creating l .locking)).standAt l id, [])
  | .remove oid =>
    match r.find? oid with
    | none => r.answerNow (.removed (.error (.unknownOid oid)))
    | some s =>
      let l := s.info.location
      ((r.enroll (.removing oid l false)).standAt l id, [])
  | .shutdown =>
    { r with closed := true, nextCall := r.nextCall + 1 }.drainNext id r.drainOrder

/-- A background call detaches a handle that no session has. -/
def reclaim (b : InstanceId) (h : Handle) (r : Registry) : Registry × List Effect :=
  (r.enroll (.reclaiming b h false), [.background r.nextCall])

/-- Give up a call at its stage. -/
def dropAt (id : CallId) (tending : Bool) (s : Stage) (r : Registry) : Registry × List Effect :=
  match s with
  | .enumerating => (r, [])
  | .listing parts => (r.leaveParts id 0 parts, [])
  | .creating l s =>
    match s with
    | .locking => (r.leaveLine l id, [])
    | .resolving cell | .asking cell =>
      ({ r with resolutions := r.resolutions.leave ⟨id, 0⟩ cell }.leaveLine l id, [])
    | .fetching _ cell | .loading _ cell =>
      ({ r with backends := r.backends.leave id cell }.leaveLine l id, [])
    | .attaching _ _ _ => (r.leaveLine l id, [])
    | .undoing b h =>
      if tending then (r.leaveLine l id).reclaim b h else (r.leaveLine l id, [])
  | .removing _ l _ => (r.leaveLine l id, [])
  | .draining l _ => (r.leaveLine l id, [])
  | .releasing _ l _ _ _ => (r.leaveLine l id, [])
  | .unloading _ _ _ => (r, [])
  | .reclaiming _ _ _ => (r, [])

/-! ## Steps -/

/-- A part of a call waits in a line, and its turn has come. -/
def isReady (t : Ticket) (r : Registry) : Bool :=
  match Assoc.get? t.call r.calls with
  | some (.listing parts) =>
    match parts[t.part]? with
    | some (_, .fresh) => true
    | some (_, .waiting cell) => !(r.resolutions.turn t cell == .wait)
    | _ => false
  | some (.creating l .locking) => r.holder? l == some t.call
  | some (.creating _ (.resolving cell)) => !(r.resolutions.turn ⟨t.call, 0⟩ cell == .wait)
  | some (.creating _ (.fetching _ cell)) => !(r.backends.loads.turn t.call cell == .wait)
  | some (.removing _ l false) => r.holder? l == some t.call
  | some (.draining l _) => r.holder? l == some t.call
  | some (.releasing _ l false _ _) => r.holder? l == some t.call
  | some (.reclaiming _ _ false) => true
  | _ => false

/-- The tickets with which a call may go on. -/
def tickets (id : CallId) (r : Registry) : List Ticket :=
  match Assoc.get? id r.calls with
  | some (.listing parts) => (List.range parts.length).map fun k => ⟨id, k⟩
  | some _ => [⟨id, 0⟩]
  | none => []

/-- A call whose turn it may be goes on. -/
def resume (t : Ticket) (s : Stage) (r : Registry) : Registry × List Effect :=
  let id := t.call
  match s with
  | .listing parts => r.listResume t parts
  | .creating l .locking => if r.holder? l = some id then r.createLocked id l else (r, [])
  | .creating l (.resolving cell) =>
    match r.resolutions.turn ⟨id, 0⟩ cell with
    | .ready name => r.createNamed id l name
    | .compute => (r.setStage id (.creating l (.asking cell)), [.resolve ⟨id, 0⟩ l])
    | .wait => (r, [])
  | .creating l (.fetching name cell) =>
    match r.backends.turn id name cell with
    | (_, .wait) => (r, [])
    | (t, .load f) =>
      ({ r with backends := t }.setStage id (.creating l (.loading name cell)), [.load id name f])
    | (t, .done found) => { r with backends := t }.createFetched id l name found
  | .removing oid l false => if r.holder? l = some id then r.removeLocked id oid l else (r, [])
  | .draining l rest =>
    if r.holder? l = some id then (r.leaveLine l id).drainNext id rest else (r, [])
  | .releasing oid l false rest errors =>
    if r.holder? l = some id then r.releaseLocked id oid l rest errors else (r, [])
  | .reclaiming b h false => (r.setStage id (.reclaiming b h true), [.detach id b h])
  | _ => (r, [])

/-- One segment. An event that fits no call in progress changes nothing. -/
def step (r : Registry) (e : Event) : Registry × List Effect :=
  match e with
  | .start c => r.start c
  | .reset => (r.resetDiscovery, [])
  | .resume t =>
    match Assoc.get? t.call r.calls with
    | some s => r.resume t s
    | none => (r, [])
  | .enumerated id answer =>
    match Assoc.get? id r.calls, answer with
    | some .enumerating, .ok ls => r.listProgress id (ls.map fun l => (l, .fresh))
    | some .enumerating, .error e => (r.endCall id, [.reply id (.listed (.error e))])
    | _, _ => (r, [])
  | .resolved t answer =>
    match Assoc.get? t.call r.calls, answer with
    | some (.listing parts), _ => r.listResolved t parts answer
    | some (.creating l (.asking cell)), .ok name =>
      { r with resolutions := r.resolutions.fill cell name }.createNamed t.call l name
    | some (.creating l (.asking cell)), .error e =>
      { r with resolutions := r.resolutions.leave ⟨t.call, 0⟩ cell }.endCreate t.call l (.error e)
    | _, _ => (r, [])
  | .loaded id answer =>
    match Assoc.get? id r.calls with
    | some (.creating l (.loading name cell)) =>
      let t := r.backends.loaded id cell answer
      { r with backends := t.1 }.createFetched id l name t.2
    | _ => (r, [])
  | .attached id answer now =>
    match Assoc.get? id r.calls with
    | some (.creating l (.attaching name b oid)) => r.createAttached id l name b oid answer now
    | _ => (r, [])
  | .detached id answer =>
    match Assoc.get? id r.calls with
    | some (.creating l (.undoing _ _)) => r.endCreate id l (.error .shuttingDown)
    | some (.removing oid l true) => r.removeDetached id oid l answer
    | some (.releasing oid l true rest errors) => r.releaseDetached id oid l rest errors answer
    | some (.reclaiming _ _ true) => (r.endCall id, [.ended id])
    | _ => (r, [])
  | .unloaded id answer =>
    match Assoc.get? id r.calls with
    | some (.unloading _ cells errors) =>
      match answer with
      | .ok () => r.unloadNext id errors cells
      | .error e => r.unloadNext id (errors ++ [.backend e]) cells
    | _ => (r, [])
  | .drop id tending =>
    match Assoc.get? id r.calls with
    | some s => (r.endCall id).dropAt id tending s
    | none => (r, [])

/-- A run: the state after the events, and all effects in order. -/
def run (r : Registry) (es : List Event) : Registry × List Effect := Machine.run step r es

end Registry

end SlotBroker
