import SlotBroker.Client.Error
import SlotBroker.Message.Domain
import SlotBroker.Rpc.Health
import SlotBroker.Rpc.Service

/-!
# Calling the broker

What a caller sends, and how it reads what comes back. A status is read by its tag and by what the
request was about; a reply that makes no sense is a malformed response.
-/

namespace SlotBroker

/-- What a broker says of itself, checked. -/
structure BrokerStatus where
  instanceId : String
  version : String
  adapter : Adapter
  startedAt : Time.Instant
  sessionCount : UInt64
  deriving DecidableEq, Inhabited

/-- The status that a caller sees in place of one that came over the wire. A status without failure
leaves the caller without the reply it waits for. -/
def Status.received (s : Status) : Status :=
  if s.code = .ok then .plain .internal "Missing response message." else s

namespace Client

/-- Read what came back to a request about an oid, if it was about one. -/
def read {μ α : Type} (oid : Option Oid) (check : μ → Except MessageError α) :
    Except Status μ → Except ClientError α
  | .error s => .error (.ofStatus s oid)
  | .ok m =>
    match check m with
    | .ok a => .ok a
    | .error e => .error (.malformedResponse e.message)

def readList : Except Status Message.Listing → Except ClientError Listing :=
  read none Message.Listing.toDomain

def readCreated : Except Status Message.Created → Except ClientError Session :=
  read none fun m => Message.Session.toDomain? m.session

def readRemoved (oid : Oid) : Except Status Unit → Except ClientError Unit :=
  read (some oid) .ok

def readModule (oid : Oid) : Except Status Message.ModuleInfo → Except ClientError ModuleInfo :=
  read (some oid) Message.ModuleInfo.toDomain

def readSessions : Except Status Message.SessionList → Except ClientError (List Session) :=
  read none Message.SessionList.toDomain

def readReset : Except Status Unit → Except ClientError Unit := read none .ok

def brokerStatus (m : Message.BrokerInfo) : Except MessageError BrokerStatus := do
  .ok ⟨m.instanceId, m.version, ← Adapter.ofNumber m.adapter,
    ← Time.Instant.ofMessage m.startedAtMs, m.sessionCount⟩

def readInfo : Except Status Message.BrokerInfo → Except ClientError BrokerStatus :=
  read none brokerStatus

/-- Is the broker serving? -/
def readServing : Except Status Message.Health → Except ClientError Bool :=
  read none fun m => .ok (m.status == ServingStatus.serving.number)

/-! ## The operations of a client -/

/-- What a client is asked to do. -/
inductive Operation
  | list
  | create (text : String)
  | remove (oid : Oid)
  | get (oid : Oid)
  | sessions
  | reset
  | info
  deriving Repr

/-- What an operation comes to. -/
inductive Result
  | listed (r : Except ClientError Listing)
  | created (r : Except ClientError Session)
  | removed (r : Except ClientError Unit)
  | found (r : Except ClientError ModuleInfo)
  | sessions (r : Except ClientError (List Session))
  | reset (r : Except ClientError Unit)
  | info (r : Except ClientError BrokerStatus)

def request : Operation → Request
  | .list => .list
  | .create text => .create ⟨text⟩
  | .remove oid => .remove ⟨oid.value⟩
  | .get oid => .get ⟨oid.value⟩
  | .sessions => .sessions
  | .reset => .reset
  | .info => .info

/-- The part of a reply that the operation asked for; a reply to another request has none. -/
def expect {μ : Type} [Inhabited μ] (part : Reply → Option μ) (r : Except Status Reply) :
    Except Status μ :=
  r.map fun reply => (part reply).getD default

/-- Read the reply to an operation. -/
def result (o : Operation) (r : Except Status Reply) : Result :=
  match o with
  | .list => .listed (readList (expect (fun | .listed m => some m | _ => none) r))
  | .create _ => .created (readCreated (expect (fun | .created m => some m | _ => none) r))
  | .remove oid => .removed (readRemoved oid (expect (fun _ => some ()) r))
  | .get oid => .found (readModule oid (expect (fun | .found m => some m | _ => none) r))
  | .sessions => .sessions (readSessions (expect (fun | .sessions m => some m | _ => none) r))
  | .reset => .reset (readReset (expect (fun _ => some ()) r))
  | .info => .info (readInfo (expect (fun | .info m => some m | _ => none) r))

end Client

end SlotBroker
