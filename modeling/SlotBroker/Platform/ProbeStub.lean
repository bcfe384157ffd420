import SlotBroker.Finish
import SlotBroker.Environment

/-!
# A stand-in for the probe

A program that can be used as a probe where there is no platform. It prints seven locations, and for
every location the same backend.
-/

namespace SlotBroker.ProbeStub

def locationCount : Nat := 7

def defaultBackend : String := "libtai-a.so"

/-- The variable that names another backend. -/
def backendVariable : String := "BROKER_STUB_BACKEND"

/-- How long it takes to find the backend of a location, in milliseconds. -/
def resolveMs : Nat := 500

def usage : String := "usage: broker-probe-stub list | broker-probe-stub <location>\n"

def run (args : List String) (env : Environment) : Finish :=
  match args with
  | ["list"] =>
    .success (String.join ((List.range locationCount).map fun k => Text.decimal (k + 1) ++ "\n"))
  | [_] => .success ((env.get? backendVariable).getD defaultBackend ++ "\n")
  | _ => ⟨1, "", usage⟩

end SlotBroker.ProbeStub
