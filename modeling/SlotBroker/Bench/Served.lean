import SlotBroker.Bench.Scenario
import SlotBroker.Client.Reading
import SlotBroker.Rpc.Server

/-!
# A broker on the bench

A registry on the bench behind its service and its server. Requests are handled one after another,
or several creations at a time. When the server is told to stop, a request may still be in progress.
-/

namespace SlotBroker.Bench

structure Served where
  world : World
  server : Server
  identity : Identity

namespace Served

/-- A broker that has begun to serve. -/
def build (platform : Platform) (policy : Policy) (backends : BackendsSetup) : Served :=
  let w := World.build platform policy backends
  ⟨w, Server.start, ⟨"00000000-0000-4000-8000-000000000000", brokerVersion, w.instant⟩⟩

/-- What a call comes to when nothing else goes on. -/
def callNow (c : Call) (s : Served) : Served × Option Outcome :=
  let r := s.world.runStep (.one ⟨0, none, .call c⟩)
  match r.2 with
  | .outcome o => ({ s with world := r.1 }, some o)
  | _ => ({ s with world := r.1 }, none)

def lost : Except Status Reply := .error (.plain .internal "no reply")

/-- Handle a request and wait for its reply. -/
def request (q : Request) (s : Served) : Served × Except Status Reply :=
  match Service.handle s.identity s.world.registry q with
  | .answer r => (s, r)
  | .reset => ({ s with world := s.world.happen .reset }, .ok .reset)
  | .call c => let r := s.callNow c; (r.1, r.2.elim lost Service.reply)

/-- A client carries out an operation. -/
def operate (o : Client.Operation) (s : Served) : Served × Client.Result :=
  let r := s.request (Client.request o)
  (r.1, Client.result o r.2)

/-- A client asks whether the broker is serving. -/
def askServing (s : Served) : Except ClientError Bool :=
  Client.readServing
    ((s.server.health.check brokerServiceName).map fun status => ⟨status.number⟩)

/-- Where a creation stands that was requested with others. -/
inductive Creation
  | settled (reply : Except Status Reply)
  | begun (c : Call)

def creation (s : Served) (text : String) : Creation :=
  match Service.handle s.identity s.world.registry (.create ⟨text⟩) with
  | .answer r => .settled r
  | .call c => .begun c
  | .reset => .settled lost

/-- The replies to creations, of which those that were begun have come to the given answers. -/
def replies : List Creation → List Answer → List (Except Status Reply)
  | [], _ => []
  | .settled r :: cs, as => r :: replies cs as
  | .begun _ :: cs, .outcome o :: as => Service.reply o :: replies cs as
  | .begun _ :: cs, _ => lost :: replies cs []

def readCreation (r : Except Status Reply) : Except ClientError Session :=
  Client.readCreated (Client.expect (fun | .created m => some m | _ => none) r)

/-- Request a session at each of the locations, all at a time. -/
def fanOut (texts : List String) (s : Served) :
    Served × List (Except ClientError Session) :=
  let cs := texts.map s.creation
  let steps := cs.filterMap fun
    | .begun c => some ⟨0, none, .call c⟩
    | .settled _ => none
  let r := s.world.runStep (.together 0 none steps)
  let answers := match r.2 with
    | .group as => as
    | _ => []
  ({ s with world := r.1 }, (replies cs answers).map readCreation)

/-! ## The end -/

/-- How a broker ends: what the request in progress came to, and what the server returned. -/
structure Ending where
  inFlight : Option (Except ClientError Session)
  released : Except BrokerError Unit

/-- Shut the registry down, with the steps that are still in progress, and tell the server. -/
def release (fs : List Fiber) (s : Served) : Served × List Fiber × Except BrokerError Unit :=
  let now := s.world.now
  let r := World.runFibers none World.stepBound (fs ++ [.asleep now ⟨0, none, .call .shutdown⟩])
    s.world
  let result : Except BrokerError Unit := match r.2.getLast? with
    | some (.finished (.outcome (.shutDown result))) => result
    | _ => .ok ()
  let server := (s.server.step (.released result)).1
  let returned := match server.phase with
    | .stopped result => result
    | _ => result
  ({ s with world := r.1, server := server }, r.2.dropLast, returned)

/-- Tell the server to stop and see it through. A creation may have been begun some time before. -/
def stop (graceMs : Nat) (inFlight : Option (String × Nat)) (s : Served) : Served × Ending :=
  let started := inFlight.map fun p => (s.creation p.1, p.2)
  let fibers := match started with
    | some (.begun c, _) => [Fiber.asleep s.world.now ⟨0, none, .call c⟩]
    | _ => []
  let stopAfter := started.elim 0 Prod.snd
  let r := World.runFibers (some (s.world.now + stopAfter)) World.stepBound fibers s.world
  let stopping := (s.server.step .signal).1
  let drained := World.runFibers (some (r.1.now + graceMs)) World.stepBound r.2 r.1
  let notice := if drained.2.all World.Fiber.isFinished then Notice.ended (.ok ()) else .graceOver
  let releasing := (stopping.step notice).1
  let t := { s with world := drained.1, server := releasing }.release drained.2
  let reply := started.map fun p =>
    readCreation ((replies [p.1] (t.2.1.map World.fiberAnswer)).headD lost)
  (t.1, ⟨reply, t.2.2⟩)

/-- The health of the server as a whole and of its service. -/
def healthNumbers (s : Served) : List (Option ServingStatus) :=
  [s.server.health.status? "", s.server.health.status? brokerServiceName]

end Served

end SlotBroker.Bench
