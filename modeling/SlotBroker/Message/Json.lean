import SlotBroker.Json.Access
import SlotBroker.Message.Basic

/-!
# Messages in JSON

A message as a record of its fields. A field that is left out has its default, and an absent message
inside another one is null.
-/

namespace SlotBroker.Message

/-- A message that may be absent. -/
def optional {μ : Type} (toJson : μ → Json) (m : Option μ) : Json := m.elim .null toJson

namespace Descriptor

def ofJson (v : Json) : Descriptor := ⟨v.textAt "location", v.textAt "backend"⟩

def toJson (m : Descriptor) : Json :=
  .record [("location", .text m.location), ("backend", .text m.backend)]

end Descriptor

namespace Listing

def ofJson (v : Json) : Listing := ⟨(v.listAt "modules").map Descriptor.ofJson⟩

def toJson (m : Listing) : Json := .record [("modules", .list (m.modules.map Descriptor.toJson))]

end Listing

namespace Session

def ofJson (v : Json) : Session :=
  ⟨v.wordAt "oid", v.textAt "location", v.textAt "backend", v.wordAt "backend_handle",
    Int64.ofInt (v.intAt "created_at_ms")⟩

/-- The session that a record holds, if it holds one. -/
def ofMember? (v : Json) : Option Session :=
  if v.has "session" then some (ofJson (v.field "session")) else none

def toJson (m : Session) : Json :=
  .record [("oid", .nat m.oid.toNat), ("location", .text m.location), ("backend", .text m.backend),
    ("backend_handle", .nat m.handle.toNat), ("created_at_ms", .int m.createdAtMs.toInt)]

end Session

namespace SessionList

def ofJson (v : Json) : SessionList := ⟨(v.listAt "sessions").map Session.ofJson⟩

end SessionList

namespace Created

def ofJson (v : Json) : Created := ⟨Session.ofMember? v⟩

def toJson (m : Created) : Json := .record [("session", optional Session.toJson m.session)]

end Created

namespace ModuleInfo

def ofJson (v : Json) : ModuleInfo := ⟨Session.ofMember? v, Int32.ofInt (v.intAt "adapter")⟩

def toJson (m : ModuleInfo) : Json :=
  .record [("session", optional Session.toJson m.session), ("adapter", .int m.adapter.toInt)]

end ModuleInfo

namespace BrokerInfo

def ofJson (v : Json) : BrokerInfo :=
  ⟨v.textAt "instance_id", v.textAt "version", Int32.ofInt (v.intAt "adapter"),
    Int64.ofInt (v.intAt "started_at_ms"), v.wordAt "session_count"⟩

def toJson (m : BrokerInfo) : Json :=
  .record [("instance_id", .text m.instanceId), ("version", .text m.version),
    ("adapter", .int m.adapter.toInt), ("started_at_ms", .int m.startedAtMs.toInt),
    ("session_count", .nat m.sessionCount.toNat)]

end BrokerInfo

namespace Create

def ofJson (v : Json) : Create := ⟨v.textAt "location"⟩

def toJson (m : Create) : Json := .record [("location", .text m.location)]

end Create

namespace Remove

def ofJson (v : Json) : Remove := ⟨v.wordAt "oid"⟩

def toJson (m : Remove) : Json := .record [("oid", .nat m.oid.toNat)]

end Remove

namespace HealthQuestion

def ofJson (v : Json) : HealthQuestion := ⟨v.textAt "service"⟩

def toJson (m : HealthQuestion) : Json := .record [("service", .text m.service)]

end HealthQuestion

namespace Health

def ofJson (v : Json) : Health := ⟨Int32.ofInt (v.intAt "status")⟩

def toJson (m : Health) : Json := .record [("status", .int m.status.toInt)]

end Health

end SlotBroker.Message
