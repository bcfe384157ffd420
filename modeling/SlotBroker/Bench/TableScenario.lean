import SlotBroker.Backend.SimulatedRun
import SlotBroker.Backend.TableRun
import SlotBroker.Bench.Site

/-!
# Scenarios of the backend table

A backend table on the bench, without a registry. Several callers may ask for the same name at a
time. The backends that were found are numbered in the order in which they were first seen, and can
then be used directly. Besides there is one simulated backend that belongs to no table.
-/

namespace SlotBroker.Bench

structure TableWorld where
  now : Nat
  run : TableRun
  site : Site
  /-- The open loads and unloads: the call, and when it is answered. -/
  pending : List (CallId × Nat × TableEffect)
  found : Assoc CallId (Except BackendError InstanceId)
  unloaded : Assoc CallId (Except BrokerError Unit)
  /-- The backends seen, in order of first sight. -/
  seen : List InstanceId
  direct : SimulatedRun

inductive TableAction
  | register (name : String) (factory : Factory)
  | getBackend (name : String) (count : Nat)
  | attach (number : Nat) (text : String)
  | detach (number : Nat) (handle : Handle)
  | unload (number : Nat)
  | directAttach (text : String) (cancelMs : Option Nat)
  | directDetach (handle : Handle)
  | directUnload
  | fault (name : String) (settings : List DoubleSetting)
  | loads (name : String)
  | loaded
  | unloadAll
  | unknown

inductive TableAnswer
  | done
  | found (results : List (Except BackendError (BackendName × Nat)))
  | handle (r : Except BackendError Handle)
  | unit (r : Except BackendError Unit)
  | cancelled
  | direct (name : BackendName) (result : TableAnswer) (attached : Nat)
  | loads (n : Option Nat)
  | loaded (names : List BackendName)
  | unloadedAll (r : Except BrokerError Unit)
  | badLocation (e : LocationError)
  | noInstance
  | noDouble
  | unknown

namespace TableWorld

def build (backends : BackendsSetup) (directLatencyMs : Nat) : TableWorld :=
  let b := backends.build
  ⟨0, TableRun.new b.2, b.1, [], [], [], [],
    SimulatedRun.new (BackendName.ofText "direct") (Time.Span.ofMillis directLatencyMs)⟩

def perform (w : TableWorld) (e : TableEffect) : TableWorld :=
  match e with
  | .load id _ f =>
    let r := w.site.beginLoad f
    { w with site := r.1, pending := w.pending ++ [(id, w.now + r.2, e)] }
  | .unload id _ => { w with pending := w.pending ++ [(id, w.now, e)] }
  | .got id r => { w with found := Assoc.put id r w.found }
  | .unloadedAll id r => { w with unloaded := Assoc.put id r w.unloaded }

def happen (e : TableEvent) (w : TableWorld) : TableWorld :=
  let r := w.run.step e
  r.2.foldl perform { w with run := r.1 }

def answer (e : TableEffect) (w : TableWorld) : TableWorld :=
  match e with
  | .load id name f =>
    let r := w.site.load name f
    { w with site := r.1 }.happen (.loaded id r.2)
  | .unload id b =>
    let r := w.site.unload b
    { w with site := r.1 }.happen (.unloaded id r.2)
  | _ => w

/-- Carry a call on until it waits. Tells whether anything happened. -/
def advance (id : CallId) : Nat → Bool → TableWorld → TableWorld × Bool
  | 0, moved, w => (w, moved)
  | fuel + 1, moved, w =>
    match w.pending.find? fun p => p.1 == id with
    | some p =>
      if p.2.1 ≤ w.now then
        advance id fuel true
          ({ w with pending := w.pending.filter fun q => q.1 != id }.answer p.2.2)
      else (w, moved)
    | none => if w.run.isReady id then advance id fuel true (w.happen (.resume id)) else (w, moved)

/-- More steps than any call takes. -/
def stepBound : Nat := 1000000

def advanceAll : List CallId → TableWorld → TableWorld × Bool
  | [], w => (w, false)
  | id :: ids, w =>
    let r := w.advance id stepBound false
    let s := advanceAll ids r.1
    (s.1, r.2 || s.2)

def earliestDue (w : TableWorld) : Option Nat :=
  w.pending.foldl (fun m p => some (m.elim p.2.1 (min p.2.1))) none

/-- Carry calls on until all have returned. -/
def finish (ids : List CallId) : Nat → TableWorld → TableWorld
  | 0, w => w
  | fuel + 1, w =>
    let r := advanceAll ids w
    if r.2 then finish ids fuel r.1
    else
      match r.1.earliestDue with
      | some t => finish ids fuel { r.1 with now := max r.1.now t }
      | none => r.1

/-- The number of a backend, which it gets when it is first seen. -/
def numberOf (b : InstanceId) (w : TableWorld) : TableWorld × Nat :=
  match w.seen.findIdx? fun x => x == b with
  | some n => (w, n)
  | none => ({ w with seen := w.seen ++ [b] }, w.seen.length)

/-- Several callers ask for a name, one after another and all before any has its answer. -/
def startGets (name : BackendName) : Nat → TableWorld → TableWorld × List CallId
  | 0, w => (w, [])
  | n + 1, w =>
    let id := w.run.nextCall
    let r := (w.happen (.start (.get name))).advance id stepBound false
    let s := startGets name n r.1
    (s.1, id :: s.2)

/-- What the callers found, by name and number. -/
def collect (name : BackendName) :
    List CallId → TableWorld → TableWorld × List (Except BackendError (BackendName × Nat))
  | [], w => (w, [])
  | id :: ids, w =>
    match Assoc.get? id w.found with
    | some (.ok b) =>
      let n := w.numberOf b
      let r := collect name ids n.1
      (r.1, .ok (name, n.2) :: r.2)
    | some (.error e) => let r := collect name ids w; (r.1, .error e :: r.2)
    | none => collect name ids w

/-- What is answered to a caller who uses a simulated backend directly. -/
def directAnswer : List SimulatedEffect → TableAnswer
  | .attached _ h :: _ => .handle (.ok h)
  | .detached _ r :: _ => .unit r
  | .unloaded :: _ => .done
  | [] => .cancelled

def actDirectly (es : List SimulatedEvent) (w : TableWorld) : TableWorld × TableAnswer :=
  let r := w.direct.run es
  let b := r.1.backend
  ({ w with direct := r.1 }, .direct b.name (directAnswer r.2) b.size)

def act (a : TableAction) (w : TableWorld) : TableWorld × TableAnswer :=
  match a with
  | .register name f =>
    let key := BackendName.ofText name
    let r := w.site.add key.text f
    ({ w with site := r.1 }.happen (.register key r.2), .done)
  | .getBackend name count =>
    let key := BackendName.ofText name
    let r := w.startGets key count
    let c := (r.1.finish r.2 stepBound).collect key r.2
    (c.1, .found c.2)
  | .attach number text =>
    match w.seen[number]?, Location.parse text with
    | some b, .ok l =>
      let r := w.site.attach b l
      ({ w with site := r.1, now := w.now + w.site.attachDelay b }, .handle r.2)
    | some _, .error e => (w, .badLocation e)
    | none, _ => (w, .noInstance)
  | .detach number h =>
    match w.seen[number]? with
    | some b =>
      let r := w.site.detach b h
      ({ w with site := r.1, now := w.now + w.site.detachDelay b }, .unit r.2)
    | none => (w, .noInstance)
  | .unload number =>
    match w.seen[number]? with
    | some b => let r := w.site.unload b; ({ w with site := r.1 }, .unit r.2)
    | none => (w, .noInstance)
  | .directAttach text cancelMs =>
    match Location.parse text with
    | .error e => (w, .badLocation e)
    | .ok l =>
      if cancelMs.any fun ms => ms < w.direct.backend.latency.millis then
        w.actDirectly [.attach 0 l, .drop 0]
      else w.actDirectly [.attach 0 l, .elapse 0]
  | .directDetach h => w.actDirectly [.detach h]
  | .directUnload => w.actDirectly [.unload]
  | .fault name settings =>
    match w.site.setFault name settings with
    | some site => ({ w with site := site }, .done)
    | none => (w, .noDouble)
  | .loads name => (w, .loads ((w.site.namedDouble? name).map Double.loads))
  | .loaded => (w, .loaded w.run.table.loadedNames)
  | .unloadAll =>
    let id := w.run.nextCall
    let r := (w.happen (.start .unloadAll)).finish [id] stepBound
    (r, (Assoc.get? id r.unloaded).elim .done .unloadedAll)
  | .unknown => (w, .unknown)

def runActions : List TableAction → TableWorld → List TableAnswer
  | [], _ => []
  | a :: as, w =>
    let r := w.act a
    r.2 :: runActions as r.1

end TableWorld

end SlotBroker.Bench
