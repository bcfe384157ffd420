import SlotBroker.Json.Reader
import SlotBroker.Session

/-!
# Modules and sessions in JSON

The JSON form of locations, backend names, oids, handles, descriptors, sessions and listings. A
location or a backend name is any text, taken as it is. An instant is a text in UTC with a `Z`.
-/

namespace SlotBroker

open Json.Reader (Member)

namespace Location

def toJson (l : Location) : Json := .text l.text

def reader : Json.Reader Location := Json.Reader.map Json.Reader.text Location.mk

end Location

namespace BackendName

def toJson (b : BackendName) : Json := .text b.text

def reader : Json.Reader BackendName := Json.Reader.map Json.Reader.text BackendName.mk

end BackendName

/-- A number of 64 bits. -/
def word64Reader : Json.Reader UInt64 :=
  Json.Reader.map (Json.Reader.natBelow UInt64.size) UInt64.ofNat

namespace Oid

def toJson (o : Oid) : Json := .nat o.value.toNat

def reader : Json.Reader Oid := Json.Reader.map word64Reader Oid.mk

end Oid

namespace Handle

def toJson (h : Handle) : Json := .record [("id", .nat h.id.toNat)]

def members : List (Member (Option UInt64)) :=
  [⟨"id", Option.isSome, fun _ => Json.Reader.map word64Reader some⟩]

def reader : Json.Reader Handle := Json.Reader.record members none fun id => id.map Handle.mk

end Handle

namespace Adapter

def toJson (a : Adapter) : Json := .text a.label

def reader : Json.Reader Adapter := Json.Reader.label ofLabel?

end Adapter

namespace Time.Instant

def toJson (t : Instant) : Json := .text t.render

def reader : Json.Reader Instant := Json.Reader.filterMap Json.Reader.text Instant.parse?

end Time.Instant

namespace Descriptor

def toJson (d : Descriptor) : Json :=
  .record [("location", d.location.toJson), ("backend", d.backend.toJson)]

/-- A descriptor of which not all members have been read. -/
structure Draft where
  location : Option Location
  backend : Option BackendName

def Draft.finish (d : Draft) : Option Descriptor := do
  some ⟨← d.location, ← d.backend⟩

def members : List (Member Draft) :=
  [⟨"location", fun d => d.location.isSome,
      fun d => Json.Reader.map Location.reader fun l => { d with location := some l }⟩,
    ⟨"backend", fun d => d.backend.isSome,
      fun d => Json.Reader.map BackendName.reader fun b => { d with backend := some b }⟩]

def reader : Json.Reader Descriptor := Json.Reader.record members ⟨none, none⟩ Draft.finish

end Descriptor

namespace Session

def toJson (s : Session) : Json :=
  .record [("oid", s.oid.toJson), ("location", s.location.toJson), ("backend", s.backend.toJson),
    ("backend_handle", s.handle.toJson), ("created_at", s.createdAt.toJson)]

/-- A session of which not all members have been read. -/
structure Draft where
  oid : Option Oid
  location : Option Location
  backend : Option BackendName
  handle : Option Handle
  createdAt : Option Time.Instant

def Draft.finish (d : Draft) : Option Session := do
  some ⟨← d.oid, ← d.location, ← d.backend, ← d.handle, ← d.createdAt⟩

def members : List (Member Draft) :=
  [⟨"oid", fun d => d.oid.isSome,
      fun d => Json.Reader.map Oid.reader fun o => { d with oid := some o }⟩,
    ⟨"location", fun d => d.location.isSome,
      fun d => Json.Reader.map Location.reader fun l => { d with location := some l }⟩,
    ⟨"backend", fun d => d.backend.isSome,
      fun d => Json.Reader.map BackendName.reader fun b => { d with backend := some b }⟩,
    ⟨"backend_handle", fun d => d.handle.isSome,
      fun d => Json.Reader.map Handle.reader fun h => { d with handle := some h }⟩,
    ⟨"created_at", fun d => d.createdAt.isSome,
      fun d => Json.Reader.map Time.Instant.reader fun t => { d with createdAt := some t }⟩]

def reader : Json.Reader Session :=
  Json.Reader.record members ⟨none, none, none, none, none⟩ Draft.finish

end Session

namespace ModuleInfo

def toJson (i : ModuleInfo) : Json :=
  .record [("session", i.session.toJson), ("adapter", i.adapter.toJson)]

/-- A session with its adapter of which not both have been read. -/
structure Draft where
  session : Option Session
  adapter : Option Adapter

def Draft.finish (d : Draft) : Option ModuleInfo := do
  some ⟨← d.session, ← d.adapter⟩

def members : List (Member Draft) :=
  [⟨"session", fun d => d.session.isSome,
      fun d => Json.Reader.map Session.reader fun s => { d with session := some s }⟩,
    ⟨"adapter", fun d => d.adapter.isSome,
      fun d => Json.Reader.map Adapter.reader fun a => { d with adapter := some a }⟩]

def reader : Json.Reader ModuleInfo := Json.Reader.record members ⟨none, none⟩ Draft.finish

end ModuleInfo

namespace Listing

def toJson (m : Listing) : Json := .record [("entries", .list (m.entries.map Descriptor.toJson))]

def members : List (Member (Option (List Descriptor))) :=
  [⟨"entries", Option.isSome, fun _ => Json.Reader.map (Json.Reader.list Descriptor.reader) some⟩]

def reader : Json.Reader Listing := Json.Reader.record members none fun es => es.map Listing.mk

end Listing

end SlotBroker
