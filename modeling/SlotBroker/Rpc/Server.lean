import SlotBroker.Rpc.Health
import SlotBroker.Rpc.Service

/-!
# The server

A server serves until it is told to stop or until serving ends by itself. Then its health turns to
not serving, the requests in progress get some time to finish, and the registry is shut down. What
the shutdown comes to is the result of the server, unless serving had ended with an error.

`Broker` puts a server and its registry together. Requests go on being handled in every phase, so
that a request which outlives the server is a run of registry events like any other.
-/

namespace SlotBroker

/-- How far a server has come. -/
inductive Phase
  | serving
  | draining
  | releasing (ended : Except BrokerError Unit)
  | stopped (result : Except BrokerError Unit)

/-- What happens to a server. -/
inductive Notice
  /-- The server is told to stop. -/
  | signal
  /-- Serving has ended, by itself or because all requests are finished. -/
  | ended (result : Except BrokerError Unit)
  /-- The time for the requests in progress is over. -/
  | graceOver
  /-- The shutdown of the registry has returned. -/
  | released (result : Except BrokerError Unit)

structure Server where
  phase : Phase
  health : HealthService

namespace Server

/-- Say of the server as a whole and of its service whether they serve. -/
def announce (s : ServingStatus) (h : HealthService) : HealthService :=
  (h.setStatus "" s).setStatus brokerServiceName s

/-- A server that has begun to serve. -/
def start : Server := ⟨.serving, announce .serving HealthService.empty⟩

/-- What the server returns: the error with which serving ended, or else what the shutdown came
to. -/
def result (ended released : Except BrokerError Unit) : Except BrokerError Unit :=
  match ended with
  | .error e => .error e
  | .ok () => released

/-- One step of a server. Tells whether the registry is now to be shut down. -/
def step (s : Server) (n : Notice) : Server × Bool :=
  match s.phase, n with
  | .serving, .signal => (⟨.draining, announce .notServing s.health⟩, false)
  | .serving, .ended r => (⟨.releasing r, announce .notServing s.health⟩, true)
  | .draining, .ended _ => (⟨.releasing (.ok ()), s.health⟩, true)
  | .draining, .graceOver => (⟨.releasing (.ok ()), s.health⟩, true)
  | .releasing ended, .released r => (⟨.stopped (result ended r), s.health⟩, false)
  | _, _ => (s, false)

end Server

/-- A server with its registry, and the call that shuts the registry down. -/
structure Broker where
  server : Server
  registry : Registry
  release : Option CallId

inductive BrokerEvent
  | signal
  | ended (result : Except BrokerError Unit)
  | graceOver
  /-- Somebody starts to watch the health of a service. -/
  | watch (service : String)
  /-- Something happens to the registry. Nobody but the server shuts it down. -/
  | registry (e : Event)

namespace Broker

def start (r : Registry) : Broker := ⟨Server.start, r, none⟩

/-- What the call that shuts the registry down has returned, if it is among the effects. -/
def released? (id : CallId) : List Effect → Option (Except BrokerError Unit)
  | [] => none
  | .reply i (.shutDown r) :: es => if i = id then some r else released? id es
  | _ :: es => released? id es

/-- Let an event happen to the registry, and tell the server if the shutdown has returned. -/
def happen (e : Event) (b : Broker) : Broker × List Effect :=
  let r := b.registry.step e
  let told :=
    match b.release.bind fun id => released? id r.2 with
    | some result => (b.server.step (.released result)).1
    | none => b.server
  ({ b with registry := r.1, server := told }, r.2)

/-- Tell the server something, and shut the registry down if that is its wish. -/
def notify (n : Notice) (b : Broker) : Broker × List Effect :=
  match b.server.step n with
  | (s, false) => ({ b with server := s }, [])
  | (s, true) =>
    { b with server := s, release := some b.registry.nextCall }.happen (.start .shutdown)

def step (b : Broker) : BrokerEvent → Broker × List Effect
  | .signal => b.notify .signal
  | .ended r => b.notify (.ended r)
  | .graceOver => b.notify .graceOver
  | .watch service =>
    ({ b with server := { b.server with health := (b.server.health.watch service).1 } }, [])
  | .registry (.start .shutdown) => (b, [])
  | .registry e => b.happen e

def run (b : Broker) (es : List BrokerEvent) : Broker × List Effect := Machine.run step b es

end Broker

end SlotBroker
