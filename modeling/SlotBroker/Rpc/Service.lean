import SlotBroker.Message.Domain
import SlotBroker.Registry.Step
import SlotBroker.Rpc.Status

/-!
# The service

The service carries requests to the registry and what the registry returns back to the caller. A
request is refused at once if it makes no sense, answered at once if it asks for a view of the
registry, and otherwise becomes a call of the registry, whose outcome is the reply. Every failure of
the registry becomes a tagged status.
-/

namespace SlotBroker

/-- How a broker presents itself. -/
structure Identity where
  instanceId : String
  version : String
  startedAt : Time.Instant
  deriving DecidableEq, Inhabited

/-- The version of the broker. -/
def brokerVersion : String := "0.1.0"

/-- The name under which the health of the broker is known. -/
def brokerServiceName : String := "broker.BrokerService"

/-- What a caller sends. -/
inductive Request
  | list
  | create (m : Message.Create)
  | remove (m : Message.Remove)
  | get (m : Message.Get)
  | sessions
  | reset
  | info
  deriving Repr

/-- What a caller gets if nothing fails. -/
inductive Reply
  | listed (m : Message.Listing)
  | created (m : Message.Created)
  | removed
  | found (m : Message.ModuleInfo)
  | sessions (m : Message.SessionList)
  | reset
  | info (m : Message.BrokerInfo)
  deriving Repr, Inhabited

/-- What the service does with a request. -/
inductive Handling
  | answer (reply : Except Status Reply)
  | call (c : Call)
  | reset

namespace Service

/-- A result of the registry as a reply. -/
def replyWith {α : Type} (f : α → Reply) : Except BrokerError α → Except Status Reply
  | .ok a => .ok (f a)
  | .error e => .error e.toStatus

/-- What the broker says of itself. -/
def describe (id : Identity) (r : Registry) : Message.BrokerInfo :=
  ⟨id.instanceId, id.version, r.adapter.number, Int64.ofInt id.startedAt.millis,
    UInt64.ofNat r.sessionCount⟩

def handle (id : Identity) (r : Registry) : Request → Handling
  | .list => .call .list
  | .create m =>
    match Location.parse m.location with
    | .ok l => .call (.create l)
    | .error e => .answer (.error (BrokerError.invalidArgument e.message).toStatus)
  | .remove m => .call (.remove ⟨m.oid⟩)
  | .get m =>
    .answer (replyWith (fun i => .found (Message.ModuleInfo.ofDomain i)) (r.moduleInfo ⟨m.oid⟩))
  | .sessions => .answer (.ok (.sessions (Message.SessionList.ofDomain r.sessionList)))
  | .reset => .reset
  | .info => .answer (.ok (.info (describe id r)))

/-- The reply to a request whose call has returned. -/
def reply : Outcome → Except Status Reply
  | .listed r => replyWith (fun l => .listed (Message.Listing.ofDomain l)) r
  | .created r => replyWith (fun s => .created ⟨some (Message.Session.ofDomain s)⟩) r
  | .removed r => replyWith (fun _ => .removed) r
  | .shutDown r => replyWith (fun _ => .removed) r

end Service

end SlotBroker
