import SlotBroker.Backend.Simulated
import SlotBroker.Logging.Entry

/-!
# The journal of a simulated backend

What a simulated backend tells the log of its handles.
-/

namespace SlotBroker.SimulatedBackend

/-- An entry about a handle and its location. -/
def entry (message : String) (b : SimulatedBackend) (l : Location) (h : Handle) : LogEntry :=
  ⟨.debug, "broker_hardware::backends::simulated", message,
    [("backend", .text b.name.text), ("location", .text l.text), ("handle", .int h.id.toNat)]⟩

/-- What is told of an attach that gave out a handle. -/
def attachEntry : SimulatedBackend → Location → Handle → LogEntry := entry "simulated attach"

/-- What is told before a handle is detached, if it is attached. -/
def detachEntries (b : SimulatedBackend) (h : Handle) : List LogEntry :=
  (Assoc.get? h.id b.attached).elim [] fun l => [b.entry "simulated detach" l h]

end SlotBroker.SimulatedBackend
