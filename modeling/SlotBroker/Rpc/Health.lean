import SlotBroker.Assoc
import SlotBroker.Rpc.Status

/-!
# Health

The health service keeps a channel with the status of each service it was told about. A caller can
ask for the status of a service, or watch it. A watch has the channel that the service had when it
was made: it yields the status that is current when it is first polled, and afterwards only a status
that was set since. The service with the empty name is the server as a whole, which serves until
something else is said.

Watching a service that nobody has set registers it, with the status that stands for not known.
Channels are known by the order in which they were opened.
-/

namespace SlotBroker

inductive ServingStatus
  | unknown
  | serving
  | notServing
  | serviceUnknown
  deriving DecidableEq, Repr, Inhabited

namespace ServingStatus

def number : ServingStatus → Int32
  | unknown => 0
  | serving => 1
  | notServing => 2
  | serviceUnknown => 3

def ofNumber? (n : Int) : Option ServingStatus :=
  if n = 0 then some unknown
  else if n = 1 then some serving
  else if n = 2 then some notServing
  else if n = 3 then some serviceUnknown
  else none

end ServingStatus

/-- The status of one service, and how often it has been set since it was registered. -/
structure HealthChannel where
  status : ServingStatus
  version : Nat
  deriving DecidableEq, Repr, Inhabited

/-- A watch: the channel that it reads, and which setting it yielded last. -/
structure Watch where
  channel : Nat
  seen : Option Nat
  deriving DecidableEq, Repr, Inhabited

structure HealthService where
  /-- The channels that have been opened. -/
  channels : List HealthChannel
  /-- The channel of each service. -/
  index : Assoc String Nat
  opened : ∀ {service k}, Assoc.get? service index = some k → k < channels.length
  /-- No two services have the same channel. -/
  apart : ∀ {service service' k}, Assoc.get? service index = some k →
    Assoc.get? service' index = some k → service = service'

namespace HealthService

def empty : HealthService where
  channels := []
  index := []
  opened h := nomatch h
  apart h := nomatch h

instance : Inhabited HealthService := ⟨empty⟩

/-- The channel of a service that is registered. -/
def channel? (service : String) (h : HealthService) : Option Nat := Assoc.get? service h.index

def status? (service : String) (h : HealthService) : Option ServingStatus :=
  ((h.channel? service).bind fun k => h.channels[k]?).map HealthChannel.status

/-- Send a status through a channel. -/
def send (k : Nat) (s : ServingStatus) (h : HealthService) : HealthService :=
  { h with
    channels := h.channels.modify k fun c => ⟨s, c.version + 1⟩
    opened := fun hk => by rw [List.length_modify]; exact h.opened hk }

theorem get?_register {service service' : String} {k : Nat} {h : HealthService}
    (hk : Assoc.get? service (Assoc.put service' h.channels.length h.index) = some k) :
    service' = service ∧ k = h.channels.length ∨
      service' ≠ service ∧ Assoc.get? service h.index = some k ∧ k < h.channels.length := by
  by_cases he : service' = service
  · subst he
    rw [Assoc.get?_put_self] at hk
    exact .inl ⟨rfl, (Option.some.inj hk).symm⟩
  · rw [Assoc.get?_put_of_ne he] at hk
    exact .inr ⟨he, hk, h.opened hk⟩

/-- Open a channel for a service, with a first status. -/
def register (service : String) (s : ServingStatus) (h : HealthService) : HealthService where
  channels := h.channels ++ [⟨s, 0⟩]
  index := Assoc.put service h.channels.length h.index
  opened hk := by
    rw [List.length_append, List.length_singleton]
    rcases get?_register hk with ⟨-, rfl⟩ | ⟨-, -, hlt⟩ <;> omega
  apart hk hk' := by
    rcases get?_register hk with ⟨rfl, rfl⟩ | ⟨-, hk, hlt⟩ <;>
      rcases get?_register hk' with ⟨rfl, he⟩ | ⟨-, hk', hlt'⟩
    · rfl
    · exact absurd hlt' (Nat.lt_irrefl _)
    · exact absurd hlt (he ▸ Nat.lt_irrefl _)
    · exact h.apart hk hk'

def setStatus (service : String) (s : ServingStatus) (h : HealthService) : HealthService :=
  match h.channel? service with
  | some k => h.send k s
  | none => h.register service s

def check (service : String) (h : HealthService) : Except Status ServingStatus :=
  match h.status? service with
  | some s => .ok s
  | none =>
    if service.isEmpty then .ok .serving
    else .error (.plain .notFound s!"Unknown service: {service}")

/-- The status of a service that is watched before anything was said about it. -/
def initialStatus (service : String) : ServingStatus :=
  if service.isEmpty then .serving else .serviceUnknown

def watch (service : String) (h : HealthService) : HealthService × Watch :=
  match h.channel? service with
  | some k => (h, ⟨k, none⟩)
  | none => (h.register service (initialStatus service), ⟨h.channels.length, none⟩)

/-- What a watch yields now, if there is anything it has not yielded. -/
def poll (w : Watch) (h : HealthService) : Watch × Option ServingStatus :=
  match h.channels[w.channel]? with
  | some c =>
    if w.seen = some c.version then (w, none)
    else ({ w with seen := some c.version }, some c.status)
  | none => (w, none)

end HealthService

end SlotBroker
