import SlotBroker.Backend
import SlotBroker.Location
import SlotBroker.Oid
import SlotBroker.Time.Instant

/-!
# Modules and sessions

What the broker tells its callers: which backend serves a location, and which sessions are live.
A listing keeps the order in which the locations were enumerated, and keeps repetitions.
-/

namespace SlotBroker

/-- Where locations and backend names come from. -/
inductive Adapter
  | exec
  | static
  deriving DecidableEq, Repr, Inhabited

namespace Adapter

def label : Adapter → String
  | exec => "exec"
  | static => "static"

def ofLabel? : String → Option Adapter
  | "exec" => some exec
  | "static" => some static
  | _ => none

instance : ToString Adapter := ⟨label⟩

end Adapter

/-- A location and the backend that serves it. -/
structure Descriptor where
  location : Location
  backend : BackendName
  deriving DecidableEq, Repr, Inhabited

/-- A live session as its holder sees it. -/
structure Session where
  oid : Oid
  location : Location
  backend : BackendName
  handle : Handle
  createdAt : Time.Instant
  deriving DecidableEq, Inhabited

/-- A session and the adapter that found its location. -/
structure ModuleInfo where
  session : Session
  adapter : Adapter
  deriving DecidableEq, Inhabited

/-- The modules found by one enumeration, in its order. -/
structure Listing where
  entries : List Descriptor
  deriving DecidableEq, Repr, Inhabited

namespace Listing

/-- The first entry whose location has exactly this text. -/
def get? (m : Listing) (text : String) : Option Descriptor :=
  m.entries.find? fun d => d.location.text == text

def contains (m : Listing) (text : String) : Bool := (m.get? text).isSome

def keys (m : Listing) : List Location := m.entries.map Descriptor.location

def size (m : Listing) : Nat := m.entries.length

def isEmpty (m : Listing) : Bool := m.entries.isEmpty

end Listing

end SlotBroker
