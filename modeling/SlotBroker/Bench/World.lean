import SlotBroker.Bench.Site
import SlotBroker.Registry.Journal

/-!
# The bench

A registry on the bench runs against scripted collaborators in virtual time. What a call asks for
becomes an open question with a time at which it is answered. A call is carried on as far as it gets
without waiting; time passes only when nobody can go on.
-/

namespace SlotBroker.Bench

/-- Something that was asked for and will be answered. What a backend answers is settled only then.
-/
inductive Question
  | locations (answer : Except BrokerError (List Location))
  | backend (answer : Except BrokerError BackendName)
  | load (name : BackendName) (factory : FactoryId)
  | attach (instanceId : InstanceId) (location : Location)
  | detach (instanceId : InstanceId) (handle : Handle)
  | unload (instanceId : InstanceId)

structure Pending where
  ticket : Ticket
  due : Nat
  question : Question

structure World where
  /-- Milliseconds since the bench was set up. -/
  now : Nat
  registry : Registry
  platform : Platform
  site : Site
  pending : List Pending
  outcomes : Assoc CallId Outcome
  /-- What was told to the log, the latest first. -/
  journal : List LogRecord

instance : Inhabited World := ⟨⟨0, default, default, default, [], [], []⟩⟩

namespace World

/-- When the bench was set up. -/
def startMillis : Int := 1700000000000

/-- Set a registry up over a platform and backends. -/
def build (platform : Platform) (policy : Policy) (backends : BackendsSetup) : World :=
  let b := backends.build
  ⟨0, Registry.new platform.adapter policy (fun _ => .asPut) b.2, platform, b.1, [], [], []⟩

def instant (w : World) : Time.Instant :=
  (Time.Instant.ofMillis? (startMillis + w.now)).getD Time.Instant.epoch

/-- Tell the log something. -/
def tell (es : List LogEntry) (w : World) : World :=
  { w with journal := (es.map fun e => ⟨w.instant, e⟩).reverse ++ w.journal }

/-! ## Questions and answers -/

def ask (t : Ticket) (delay : Nat) (q : Question) (w : World) : World :=
  { w with pending := w.pending ++ [⟨t, w.now + delay, q⟩] }

def forget (id : CallId) (w : World) : World :=
  { w with pending := w.pending.filter fun p => p.ticket.call != id }

def askEnumerate (t : Ticket) (w : World) : World :=
  match w.platform with
  | .fixed m => w.ask t 0 (.locations (.ok m.locations))
  | .exec p s =>
    let r := execute p s (Probe.argument .enumerate)
    (w.tell (p.listJournal r.1)).ask t r.2 (.locations ((p.locations r.1).mapError .probe))
  | .scripted p =>
    { w with platform := .scripted p.enumerate }.ask t p.enumerateMs (.locations p.locations)

def askResolve (t : Ticket) (l : Location) (w : World) : World :=
  match w.platform with
  | .fixed m => w.ask t 0 (.backend (m.resolve l))
  | .exec p s =>
    let r := execute p s (Probe.argument (.resolve l))
    (w.tell (p.resolveJournal l r.1)).ask t r.2 (.backend ((p.backend l r.1).mapError .probe))
  | .scripted p =>
    let r := p.resolve l
    { w with platform := .scripted r.1 }.ask t p.resolveMs (.backend r.2)

def askLoad (t : Ticket) (name : BackendName) (f : FactoryId) (w : World) : World :=
  let r := w.site.beginLoad f
  { w with site := r.1 }.ask t r.2 (.load name f)

/-- What an effect means on the bench. -/
def perform (w : World) : Effect → World
  | .enumerate id => w.askEnumerate ⟨id, 0⟩
  | .resolve t l => w.askResolve t l
  | .load id name f => w.askLoad ⟨id, 0⟩ name f
  | .attach id _ b l => w.ask ⟨id, 0⟩ (w.site.attachDelay b) (.attach b l)
  | .detach id b h => w.ask ⟨id, 0⟩ (w.site.detachDelay b) (.detach b h)
  | .unload id b => w.ask ⟨id, 0⟩ 0 (.unload b)
  | .reply id o => { w.forget id with outcomes := Assoc.put id o w.outcomes }
  | .background _ => w
  | .ended id => w.forget id

/-- Let an event happen to the registry. -/
def happen (e : Event) (w : World) : World :=
  let r := w.registry.step e
  r.2.foldl perform ({ w with registry := r.1 }.tell (w.registry.journal e r.1 r.2))

/-- Settle a question and tell the registry. -/
def answer (p : Pending) (w : World) : World :=
  let id := p.ticket.call
  match p.question with
  | .locations r => w.happen (.enumerated id r)
  | .backend r => w.happen (.resolved p.ticket r)
  | .load name f =>
    let r := w.site.load name f
    { w with site := r.1 }.happen (.loaded id r.2)
  | .attach b l =>
    let r := w.site.attach b l
    ({ w with site := r.1 }.tell (w.site.attachJournal b l r.2)).happen
      (.attached id r.2 w.instant)
  | .detach b h =>
    let r := w.site.detach b h
    ({ w with site := r.1 }.tell (w.site.detachJournal b h)).happen (.detached id r.2)
  | .unload b =>
    let r := w.site.unload b
    { w with site := r.1 }.happen (.unloaded id r.2)

/-! ## Carrying on -/

/-- More steps than any part of a call takes before it waits. -/
def stepBound : Nat := 1000000

/-- Carry a part of a call on until it waits. Tells whether anything happened. -/
def advancePart (t : Ticket) : Nat → Bool → World → World × Bool
  | 0, moved, w => (w, moved)
  | fuel + 1, moved, w =>
    match w.pending.find? fun p => p.ticket == t with
    | some p =>
      if p.due ≤ w.now then
        advancePart t fuel true
          ({ w with pending := w.pending.filter fun q => q.ticket != t }.answer p)
      else (w, moved)
    | none =>
      if w.registry.isReady t then advancePart t fuel true (w.happen (.resume t)) else (w, moved)

def advanceParts : List Ticket → World → World × Bool
  | [], w => (w, false)
  | t :: ts, w =>
    let r := advancePart t stepBound false w
    let s := advanceParts ts r.1
    (s.1, r.2 || s.2)

/-- Carry a call on until all its parts wait, or it returns. -/
def advanceCall (id : CallId) (w : World) : World × Bool :=
  advanceParts (w.registry.tickets id) w

/-- A listing has parts only once it has its locations, so it is looked at twice. -/
def advance (id : CallId) (w : World) : World × Bool :=
  let r := w.advanceCall id
  if r.2 then ((r.1.advanceCall id).1, true) else r

/-- The background calls in progress. -/
def backgroundCalls (w : World) : List CallId :=
  w.registry.calls.filterMap fun c =>
    match c.2 with
    | .reclaiming _ _ _ => some c.1
    | _ => none

def advanceAll (ids : List CallId) (w : World) : World × Bool :=
  ids.foldl (fun r id => let s := r.1.advance id; (s.1, r.2 || s.2)) (w, false)

/-- Start a call and carry it on until it waits. -/
def begin (c : Call) (w : World) : World × CallId :=
  let id := w.registry.nextCall
  (((w.happen (.start c)).advance id).1, id)

/-- Give a call up. -/
def drop (id : CallId) (tending : Bool) (w : World) : World :=
  (w.forget id).happen (.drop id tending)

/-- The next moment after now at which a question is answered. -/
def nextDue (w : World) : Option Nat :=
  w.pending.foldl
    (fun m p => if w.now < p.due then some (m.elim p.due (min p.due)) else m) none

end World

end SlotBroker.Bench
