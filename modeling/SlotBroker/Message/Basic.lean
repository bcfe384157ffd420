import SlotBroker.Wire.Schema

/-!
# Messages

What the broker and its callers send each other, with the numbers of the fields. A message says
nothing about whether its contents make sense.
-/

namespace SlotBroker.Message

open Wire (FieldSchema Schema)

structure Descriptor where
  location : String
  backend : String
  deriving DecidableEq, Repr, Inhabited

def Descriptor.schema : Schema Descriptor :=
  [.text 1 location fun t m => { m with location := t },
    .text 2 backend fun t m => { m with backend := t }]

structure Listing where
  modules : List Descriptor
  deriving DecidableEq, Repr, Inhabited

def Listing.schema : Schema Listing :=
  [.messages 1 Descriptor.schema modules fun ds _ => ⟨ds⟩]

structure Session where
  oid : UInt64
  location : String
  backend : String
  handle : UInt64
  createdAtMs : Int64
  deriving DecidableEq, Repr, Inhabited

def Session.schema : Schema Session :=
  [.word 1 oid fun n m => { m with oid := n },
    .text 2 location fun t m => { m with location := t },
    .text 3 backend fun t m => { m with backend := t },
    .word 4 handle fun n m => { m with handle := n },
    .signed 5 createdAtMs fun n m => { m with createdAtMs := n }]

structure ModuleInfo where
  session : Option Session
  adapter : Int32
  deriving DecidableEq, Repr, Inhabited

def ModuleInfo.schema : Schema ModuleInfo :=
  [.message 1 Session.schema session fun s m => { m with session := some s },
    .enumeration 2 adapter fun n m => { m with adapter := n }]

structure SessionList where
  sessions : List Session
  deriving DecidableEq, Repr, Inhabited

structure BrokerInfo where
  instanceId : String
  version : String
  adapter : Int32
  startedAtMs : Int64
  sessionCount : UInt64
  deriving DecidableEq, Repr, Inhabited

def BrokerInfo.schema : Schema BrokerInfo :=
  [.text 1 instanceId fun t m => { m with instanceId := t },
    .text 2 version fun t m => { m with version := t },
    .enumeration 3 adapter fun n m => { m with adapter := n },
    .signed 4 startedAtMs fun n m => { m with startedAtMs := n },
    .word 5 sessionCount fun n m => { m with sessionCount := n }]

/-- Asks for a session at a location. -/
structure Create where
  location : String
  deriving DecidableEq, Repr, Inhabited

def Create.schema : Schema Create := [.text 1 location fun t _ => ⟨t⟩]

/-- Answers a `Create`. -/
structure Created where
  session : Option Session
  deriving DecidableEq, Repr, Inhabited

def Created.schema : Schema Created :=
  [.message 1 Session.schema session fun s _ => ⟨some s⟩]

/-- Asks for the end of a session. -/
structure Remove where
  oid : UInt64
  deriving DecidableEq, Repr, Inhabited

def Remove.schema : Schema Remove := [.word 1 oid fun n _ => ⟨n⟩]

/-- Asks for a session. -/
structure Get where
  oid : UInt64
  deriving DecidableEq, Repr, Inhabited

/-- Asks how a service is. -/
structure HealthQuestion where
  service : String
  deriving DecidableEq, Repr, Inhabited

def HealthQuestion.schema : Schema HealthQuestion := [.text 1 service fun t _ => ⟨t⟩]

structure Health where
  status : Int32
  deriving DecidableEq, Repr, Inhabited

def Health.schema : Schema Health := [.enumeration 1 status fun n _ => ⟨n⟩]

end SlotBroker.Message
