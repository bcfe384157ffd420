import SlotBroker.Backend.Simulated
import SlotBroker.Backend.Table
import SlotBroker.Run

/-!
# A simulated backend at work

`SimulatedRun.step` lets an event happen to a simulated backend. An attach waits from the moment it
is asked for until its latency is over, and only then does the backend do its part. Meanwhile others
are served, and the attach may be given up. A run of the backend is any sequence of events.
-/

namespace SlotBroker

inductive SimulatedEvent
  /-- An attach is asked for, under a number that tells it from the others that wait. -/
  | attach (id : CallId) (l : Location)
  /-- The latency of an attach is over. -/
  | elapse (id : CallId)
  /-- An attach is given up. -/
  | drop (id : CallId)
  | detach (h : Handle)
  | unload
  deriving DecidableEq, Repr

/-- What a simulated backend answers. -/
inductive SimulatedEffect
  | attached (id : CallId) (h : Handle)
  | detached (h : Handle) (answer : Except BackendError Unit)
  | unloaded

structure SimulatedRun where
  backend : SimulatedBackend
  waiting : Assoc CallId Location

namespace SimulatedRun

def new (name : BackendName) (latency : Time.Span) : SimulatedRun :=
  ⟨SimulatedBackend.load name latency, []⟩

/-- An attach does not wait any more. -/
def settle (id : CallId) (r : SimulatedRun) : SimulatedRun :=
  { r with waiting := Assoc.erase id r.waiting }

/-- An event that fits no attach that waits changes nothing. -/
def step (r : SimulatedRun) (e : SimulatedEvent) : SimulatedRun × List SimulatedEffect :=
  match e with
  | .attach id l => ({ r with waiting := Assoc.put id l r.waiting }, [])
  | .elapse id =>
    match Assoc.get? id r.waiting with
    | some l =>
      let t := r.backend.attach l
      ({ r.settle id with backend := t.1 }, [.attached id t.2])
    | none => (r, [])
  | .drop id => (r.settle id, [])
  | .detach h =>
    let t := r.backend.detach h
    ({ r with backend := t.1 }, [.detached h t.2])
  | .unload => ({ r with backend := r.backend.unload }, [.unloaded])

/-- A run: the state after the events, and all answers in order. -/
def run (r : SimulatedRun) (es : List SimulatedEvent) : SimulatedRun × List SimulatedEffect :=
  Machine.run step r es

end SimulatedRun

end SlotBroker
