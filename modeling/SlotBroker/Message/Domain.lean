import SlotBroker.Message.Basic
import SlotBroker.Session

/-!
# Messages and what they say

Modules and sessions become messages, and messages are read back with a check of all they say. Of
an instant a message keeps whole milliseconds.
-/

namespace SlotBroker

/-- Why a message makes no sense. -/
inductive MessageError
  | location (error : LocationError)
  | noSession
  | timestamp (ms : Int64)
  | noAdapter
  | unknownAdapter (number : Int32)
  deriving DecidableEq, Repr

namespace MessageError

def message : MessageError → String
  | location e => e.message
  | noSession => "response carries no session"
  | timestamp ms => s!"timestamp {Text.signedDecimal ms.toInt} out of range"
  | noAdapter => "adapter kind unspecified"
  | unknownAdapter n => s!"unknown adapter kind {Text.signedDecimal n.toInt}"

end MessageError

namespace Adapter

/-- The number of an adapter in messages. -/
def number : Adapter → Int32
  | exec => 1
  | static => 2

def ofNumber (n : Int32) : Except MessageError Adapter :=
  if n = 1 then .ok exec
  else if n = 2 then .ok static
  else if n = 0 then .error .noAdapter
  else .error (.unknownAdapter n)

end Adapter

/-- The instant at a number of milliseconds in a message. -/
def Time.Instant.ofMessage (ms : Int64) : Except MessageError Time.Instant :=
  match Time.Instant.ofMillis? ms.toInt with
  | some t => .ok t
  | none => .error (.timestamp ms)

/-- The location that a text in a message names. -/
def Location.ofMessage (text : String) : Except MessageError Location :=
  match Location.parse text with
  | .ok l => .ok l
  | .error e => .error (.location e)

namespace Message

namespace Descriptor

def ofDomain (d : SlotBroker.Descriptor) : Descriptor := ⟨d.location.text, d.backend.text⟩

def toDomain (m : Descriptor) : Except MessageError SlotBroker.Descriptor := do
  .ok ⟨← Location.ofMessage m.location, BackendName.ofText m.backend⟩

end Descriptor

namespace Listing

def ofDomain (l : SlotBroker.Listing) : Listing := ⟨l.entries.map Descriptor.ofDomain⟩

def toDomain (m : Listing) : Except MessageError SlotBroker.Listing := do
  .ok ⟨← m.modules.mapM Descriptor.toDomain⟩

end Listing

namespace Session

def ofDomain (s : SlotBroker.Session) : Session :=
  ⟨s.oid.value, s.location.text, s.backend.text, s.handle.id, Int64.ofInt s.createdAt.millis⟩

def toDomain (m : Session) : Except MessageError SlotBroker.Session := do
  let location ← Location.ofMessage m.location
  .ok ⟨⟨m.oid⟩, location, BackendName.ofText m.backend, ⟨m.handle⟩,
    ← Time.Instant.ofMessage m.createdAtMs⟩

/-- The session in a part of a message that may be absent. -/
def toDomain? : Option Session → Except MessageError SlotBroker.Session
  | some m => m.toDomain
  | none => .error .noSession

end Session

namespace ModuleInfo

def ofDomain (i : SlotBroker.ModuleInfo) : ModuleInfo :=
  ⟨some (Session.ofDomain i.session), i.adapter.number⟩

def toDomain (m : ModuleInfo) : Except MessageError SlotBroker.ModuleInfo := do
  .ok ⟨← Session.toDomain? m.session, ← Adapter.ofNumber m.adapter⟩

end ModuleInfo

namespace SessionList

def ofDomain (ss : List SlotBroker.Session) : SessionList := ⟨ss.map Session.ofDomain⟩

def toDomain (m : SessionList) : Except MessageError (List SlotBroker.Session) :=
  m.sessions.mapM Session.toDomain

end SessionList

end Message

end SlotBroker
