import SlotBroker.Rpc.Status

/-!
# Failures at the caller

A caller distinguishes three groups of failures: the broker could not be reached, it answered with a
failure of its own, or it answered with something else. The tag of a status decides.
-/

namespace SlotBroker

inductive ClientError
  | transport
  | connection (detail : String)
  | invalidAddress (detail : String)
  | unknownLocation (detail : String)
  | unknownOid (oid : Oid)
  | locationBusy (detail : String)
  | probe (detail : String)
  | backend (detail : String)
  | rpcStatus (status : Status)
  | malformedResponse (detail : String)
  deriving DecidableEq, Repr, Inhabited

namespace ClientError

/-- What a status means for a request, which may have been about an oid. -/
def ofStatus (s : Status) (oid : Option Oid) : ClientError :=
  match s.readableTag with
  | some "unknown_location" => unknownLocation s.message
  | some "unknown_oid" =>
    match oid with
    | some o => unknownOid o
    | none => rpcStatus s
  | some "location_busy" => locationBusy s.message
  | some "probe" => probe s.message
  | some "backend" => backend s.message
  | some _ => rpcStatus s
  | none => if s.code = .unavailable then connection s.message else rpcStatus s

/-- The broker could not be reached at all. -/
def isTransport : ClientError → Bool
  | transport => true
  | connection _ => true
  | invalidAddress _ => true
  | _ => false

def message : ClientError → String
  | transport => "gRPC transport error: transport error"
  | connection d => s!"Connection failed: {d}"
  | invalidAddress d => s!"Invalid server address: {d}"
  | unknownLocation d => s!"Unknown location: {d}"
  | unknownOid o => s!"Unknown oid: {o}"
  | locationBusy d => s!"Location busy: {d}"
  | probe d => s!"Probe failed: {d}"
  | backend d => s!"Backend failed: {d}"
  | rpcStatus s => s!"gRPC status error: {s.render}"
  | malformedResponse d => s!"Malformed response: {d}"

end ClientError

end SlotBroker
