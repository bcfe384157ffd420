import SlotBroker.Logging.Entry
import SlotBroker.Registry.Step

/-!
# The journal of a registry

What a registry tells the log of its work. An entry is told of each thing that a caller or an
operator would ask about: listings, sessions, backends, and the stages of a shutdown. Nothing in the
registry depends on its journal.
-/

namespace SlotBroker

namespace LogEntry

/-- An entry of the registry itself. -/
def ofRegistry (level : LogLevel) (message : String) (fields : List (String × Json)) : LogEntry :=
  ⟨level, "broker_hardware::registry", message, fields⟩

/-- An entry of the table of backends. -/
def ofBackends (level : LogLevel) (message : String) (fields : List (String × Json)) : LogEntry :=
  ⟨level, "broker_hardware::backends", message, fields⟩

end LogEntry

open LogEntry (ofRegistry ofBackends)

namespace Outcome

def entries : Outcome → List LogEntry
  | listed (.ok m) => [ofRegistry .info "listed modules" [("count", .int m.size)]]
  | created (.ok s) =>
    [ofRegistry .info "module session created"
      [("oid", .text s.oid.render), ("backend", .text s.backend.text),
        ("handle", .int s.handle.id.toNat)]]
  | _ => []

end Outcome

namespace Effect

def entries : Effect → List LogEntry
  | load _ name _ => [ofBackends .info "loading backend" [("backend", .text name.text)]]
  | unload _ _ => [ofBackends .info "unloading backend" []]
  | reply _ o => o.entries
  | _ => []

end Effect

/-- The location that a part of a call is about. -/
def Stage.locationOf (part : Nat) : Stage → Option Location
  | listing parts => parts[part]?.map Prod.fst
  | creating l _ => some l
  | _ => none

namespace Registry

/-- The call that an event belongs to. -/
def eventCall (r : Registry) : Event → Option CallId
  | .start _ => some r.nextCall
  | .resume t => some t.call
  | .enumerated id _ => some id
  | .resolved t _ => some t.call
  | .loaded id _ => some id
  | .attached id _ _ => some id
  | .detached id _ => some id
  | .unloaded id _ => some id
  | .drop id _ => some id
  | .reset => none

/-- The end of a session of which the backend has answered. -/
def detachEntries (l : Location) : Except BackendError Unit → List LogEntry
  | .ok () => [ofRegistry .info "module session removed" [("location", .text l.text)]]
  | .error e => [ofRegistry .warn "detach failed; session kept" [("error", .text e.message)]]

/-- What the answer in an event is worth telling, for a call that waits at a stage. -/
def answerEntries (s : Stage) : Event → List LogEntry
  | .resolved t (.ok name) =>
    ((s.locationOf t.part).map fun l =>
      ofRegistry .debug "resolved backend"
        [("location", .text l.text), ("backend", .text name.text)]).toList
  | .attached _ (.error e) _ =>
    match s with
    | .creating _ (.attaching _ _ oid) =>
      [ofRegistry .warn "attach failed" [("oid", .text oid.render), ("error", .text e.message)]]
    | _ => []
  | .detached _ answer =>
    match s with
    | .removing _ l _ => detachEntries l answer
    | .releasing oid l _ _ _ =>
      detachEntries l answer ++
        match answer with
        | .ok () => []
        | .error e =>
          [ofRegistry .error "failed to release session"
            [("oid", .text oid.render), ("error", .text e.message)]]
    | .creating _ _ =>
      [ofRegistry .warn "shutdown began during attach; handle released" []]
    | _ => []
  | .unloaded _ (.error e) =>
    [ofBackends .error "backend unload failed" [("error", .text e.message)]]
  | _ => []

/-- How far a call has come with shutting down: waiting for its turn in the lines, releasing the
sessions, or past that. A call that is over is past everything. -/
def shutdownRank : Option Stage → Nat
  | some (.draining _ _) => 0
  | some (.releasing _ _ _ _ _) => 1
  | _ => 2

/-- What is told when a shutdown comes from one rank to another. -/
def shutdownEntries (sessions start finish : Nat) : List LogEntry :=
  (if start < 1 ∧ 1 ≤ finish then
    [ofRegistry .info "shutting down module registry" [("sessions", .int sessions)]]
  else []) ++
  (if start < 2 ∧ 2 ≤ finish then [ofRegistry .info "discovery state reset" []] else [])

/-- What a registry tells of an event and of its effects, `after` being the registry then. -/
def journal (r : Registry) (e : Event) (after : Registry) (effects : List Effect) :
    List LogEntry :=
  let told := effects.flatMap Effect.entries
  match r.eventCall e with
  | none => ofRegistry .info "discovery state reset" [] :: told
  | some id =>
    let stage := Assoc.get? id r.calls
    let start := match e with
      | .start .shutdown => 0
      | .drop _ _ => 2
      | _ => shutdownRank stage
    stage.elim [] (fun s => answerEntries s e) ++
      shutdownEntries r.sessionCount start (shutdownRank (Assoc.get? id after.calls)) ++ told

end Registry

end SlotBroker
