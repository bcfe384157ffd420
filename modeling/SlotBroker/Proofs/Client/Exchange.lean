import SlotBroker.Client.Reading
import SlotBroker.Proofs.Registry.Contents

/-!
# Clients and direct callers

A client asks the service, which calls the registry, and reads what comes back. A direct caller
parses the location itself and calls the registry. Both are a `Way` to carry out the operations of a
client, and an `Exchange` is a registry whose users go such a way while anything else happens to the
registry. What a client is told is to be what a direct caller is told, as far as messages tell it
(`seen`): a time in whole milliseconds, and a failure as the status for it is read.
-/

namespace SlotBroker

namespace Client

/-! ## Two ways to carry out an operation -/

/-- What a direct caller of the registry is told. -/
inductive Told
  /-- The text of the location was refused, and the registry not called. -/
  | refused (e : LocationError)
  /-- The call of the registry has returned. -/
  | returned (o : Outcome)
  | found (r : Except BrokerError ModuleInfo)
  | sessions (ss : List Session)
  | reset
  | info (adapter : Adapter) (sessionCount : Nat)

/-- How an operation begins: it is answered at once, or once the discovery is reset, or when a call
of the registry has returned. -/
inductive Beginning (ρ : Type)
  | told (x : ρ)
  | reset (x : ρ)
  | call (c : Call)

def Beginning.map {ρ σ : Type} (f : ρ → σ) : Beginning ρ → Beginning σ
  | told x => told (f x)
  | reset x => reset (f x)
  | call c => call c

/-- A way to carry out the operations of a client: how an operation begins, and what it comes to
when its call has returned. -/
structure Way (ρ : Type) where
  starts : Registry → Operation → Beginning ρ
  ends : Operation → Outcome → ρ

/-- Call the registry, with the parsed location. -/
def direct : Way Told where
  starts r
    | .list => .call .list
    | .create text =>
      match Location.parse text with
      | .ok l => .call (.create l)
      | .error e => .told (.refused e)
    | .remove oid => .call (.remove oid)
    | .get oid => .told (.found (r.moduleInfo oid))
    | .sessions => .told (.sessions r.sessionList)
    | .reset => .reset .reset
    | .info => .told (.info r.adapter r.sessionCount)
  ends _ o := .returned o

/-- Ask the service, and read its reply. -/
def served (id : Identity) : Way Result where
  starts r o :=
    match Service.handle id r (request o) with
    | .answer reply => .told (result o reply)
    | .call c => .call c
    | .reset => .reset (result o (.ok .reset))
  ends o outcome := result o (Service.reply outcome)

/-- What an operation has come to. -/
structure Answer (ρ : Type) where
  number : Nat
  operation : Operation
  result : ρ

/-- A registry and its users: how many operations have been asked for, and the calls that were made
for them. -/
structure Exchange where
  registry : Registry
  asked : Nat
  calls : Assoc CallId (Nat × Operation)

/-- An operation is asked for, or something else happens to the registry. -/
inductive Occurrence
  | ask (o : Operation)
  | happens (e : Event)

/-- Only what an operation asks for may be unsound. -/
def Occurrence.Sound : Occurrence → Prop
  | ask _ => True
  | happens e => e.Sound

namespace Exchange

variable {ρ : Type} (w : Way ρ)

def new (r : Registry) : Exchange := ⟨r, 0, []⟩

/-- What an effect tells the user whose call returns. -/
def tell (calls : Assoc CallId (Nat × Operation)) : Effect → Option (Answer ρ)
  | .reply i outcome => (Assoc.get? i calls).map fun p => ⟨p.1, p.2, w.ends p.2 outcome⟩
  | _ => none

def happen (e : Event) (x : Exchange) : Exchange × List (Answer ρ) :=
  let s := x.registry.step e
  ({ x with registry := s.1 }, s.2.filterMap (tell w x.calls))

def ask (o : Operation) (x : Exchange) : Exchange × List (Answer ρ) :=
  let y := { x with asked := x.asked + 1 }
  match w.starts x.registry o with
  | .told a => (y, [⟨x.asked, o, a⟩])
  | .reset a => ((y.happen w .reset).1, [⟨x.asked, o, a⟩])
  | .call c =>
    { y with calls := Assoc.put x.registry.nextCall (x.asked, o) x.calls }.happen w (.start c)

def step (x : Exchange) : Occurrence → Exchange × List (Answer ρ)
  | .ask o => x.ask w o
  | .happens e => x.happen w e

def run (x : Exchange) (os : List Occurrence) : Exchange × List (Answer ρ) :=
  Machine.run (fun x => x.step w) x os

theorem run_cons (x : Exchange) (o : Occurrence) (os : List Occurrence) :
    x.run w (o :: os) =
      (((x.step w o).1.run w os).1, (x.step w o).2 ++ ((x.step w o).1.run w os).2) := rfl

end Exchange

/-! ## What a client sees of what a direct caller is told -/

/-- The oid that an operation is about. -/
def Operation.oid? : Operation → Option Oid
  | .remove oid | .get oid => some oid
  | _ => none

/-- The call of the registry that an operation comes to. -/
def Operation.call? : Operation → Option Call
  | .list => some .list
  | .create text =>
    match Location.parse text with
    | .ok l => some (.create l)
    | .error _ => none
  | .remove oid => some (.remove oid)
  | _ => none

/-- A result of the registry, with a failure as the caller of an operation about `oid` has it. -/
def perceive {α β : Type} (oid : Option Oid) (kept : α → β) :
    Except BrokerError α → Except ClientError β
  | .ok a => .ok (kept a)
  | .error e => .error (.ofStatus e.toStatus oid)

/-- What a client sees of what a direct caller is told. -/
def seen (id : Identity) (o : Operation) : Told → Result
  | .refused e => .created (perceive none Session.wholeMillis (.error (.invalidArgument e.message)))
  | .returned (.listed r) => .listed (perceive none (fun m => m) r)
  | .returned (.created r) => .created (perceive none Session.wholeMillis r)
  | .returned (.removed r) => .removed (perceive o.oid? (fun u => u) r)
  | .returned (.shutDown r) => .removed (perceive o.oid? (fun u => u) r)
  | .found r => .found (perceive o.oid? ModuleInfo.wholeMillis r)
  | .sessions ss => .sessions (.ok (ss.map Session.wholeMillis))
  | .reset => .reset (.ok ())
  | .info a n =>
    .info (.ok ⟨id.instanceId, id.version, a, id.startedAt.wholeMillis, UInt64.ofNat n⟩)

def Answer.seen (id : Identity) (a : Answer Told) : Answer Result :=
  ⟨a.number, a.operation, Client.seen id a.operation a.result⟩

end Client

end SlotBroker
