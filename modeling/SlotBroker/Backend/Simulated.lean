import SlotBroker.Assoc
import SlotBroker.Backend
import SlotBroker.Location
import SlotBroker.Text.Numeral
import SlotBroker.Time.Span

/-!
# The simulated backend

A backend without hardware. Attaching takes its latency and then gives out the next handle, so an
attach that is given up during the latency has done nothing. Handles are counted from one and are
not used again, not even after unloading, which forgets what is attached.
-/

namespace SlotBroker

structure SimulatedBackend where
  name : BackendName
  latency : Time.Span
  next : UInt64
  attached : Assoc UInt64 Location
  deriving Repr, Inhabited

namespace SimulatedBackend

def load (name : BackendName) (latency : Time.Span) : SimulatedBackend := ⟨name, latency, 1, []⟩

/-- What attaching does when the latency is over. -/
def attach (l : Location) (b : SimulatedBackend) : SimulatedBackend × Handle :=
  ({ b with next := b.next + 1, attached := Assoc.put b.next l b.attached }, ⟨b.next⟩)

def detach (h : Handle) (b : SimulatedBackend) : SimulatedBackend × Except BackendError Unit :=
  match Assoc.get? h.id b.attached with
  | some _ => ({ b with attached := Assoc.erase h.id b.attached }, .ok ())
  | none =>
    let detail := s!"handle {Text.decimal h.id.toNat} is not attached"
    (b, .error ⟨b.name.text, .invalidHandle, detail⟩)

def unload (b : SimulatedBackend) : SimulatedBackend := { b with attached := [] }

/-- How many handles are attached. -/
def size (b : SimulatedBackend) : Nat := b.attached.length

end SimulatedBackend

end SlotBroker
