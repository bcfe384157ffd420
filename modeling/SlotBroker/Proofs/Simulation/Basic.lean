import SlotBroker.Proofs.Registry.Closing
import SlotBroker.Proofs.Simulation.Held

/-!
# A registry over simulated backends

`Simulation.step` lets an event happen to a registry all of whose backends are simulated ones. A
backend does its part when its answer comes, so an attach may take any time, and one that is given
up has done nothing; what the event says of the answer of a backend does not count. Calls may be
given up at any moment, and the background calls that are made for them go on at any later one.
-/

namespace SlotBroker

structure Simulation where
  registry : Registry
  /-- The latency of a backend that is loaded under a name. -/
  latency : BackendName → Time.Span
  /-- The backends that were loaded, in order. -/
  backends : List SimulatedBackend
  unloaded : List InstanceId
  /-- What the calls have asked to detach that wait for the answer. -/
  detaching : Assoc CallId (InstanceId × Handle)

namespace Simulation

def new (orders : Orders) (adapter : Adapter) (policy : Policy)
    (factories : Assoc BackendName FactoryId) (fallback : Option FactoryId)
    (latency : BackendName → Time.Span) : Simulation :=
  ⟨Registry.unused orders adapter policy factories fallback, latency, [], [], []⟩

/-- Put down a detach that is asked for. -/
def note (m : Assoc CallId (InstanceId × Handle)) : Effect → Assoc CallId (InstanceId × Handle)
  | .detach id b h => Assoc.put id (b, h) m
  | _ => m

/-- The registry is told of an event. -/
def tell (e : Event) (s : Simulation) : Simulation × List Effect :=
  let t := s.registry.step e
  ({ s with registry := t.1, detaching := t.2.foldl note s.detaching }, t.2)

def loadBackend (name : BackendName) (s : Simulation) : Simulation :=
  { s with backends := s.backends ++ [SimulatedBackend.load name (s.latency name)] }

def setBackend (b : InstanceId) (sb : SimulatedBackend) (s : Simulation) : Simulation :=
  { s with backends := s.backends.set b sb }

/-- The question of a call is answered, or it is not asked any more. -/
def settle (id : CallId) (s : Simulation) : Simulation :=
  { s with detaching := Assoc.erase id s.detaching }

def step (s : Simulation) (e : Event) : Simulation × List Effect :=
  match e with
  | .loaded id (.ok ()) =>
    match s.registry.stage? id with
    | some (.creating _ (.loading name _)) => (s.loadBackend name).tell (.loaded id (.ok ()))
    | _ => (s, [])
  | .attached id _ now =>
    match s.registry.stage? id with
    | some (.creating l (.attaching _ b _)) =>
      match s.backends[b]? with
      | some sb =>
        (s.setBackend b (sb.attach l).1).tell (.attached id (.ok (sb.attach l).2) now)
      | none => (s, [])
    | _ => (s, [])
  | .detached id _ =>
    match Assoc.get? id s.detaching with
    | some (b, h) =>
      match s.backends[b]? with
      | some sb => ((s.setBackend b (sb.detach h).1).settle id).tell (.detached id (sb.detach h).2)
      | none => (s, [])
    | none => (s, [])
  | .unloaded id _ =>
    match s.registry.stage? id with
    | some (.unloading b _ _) =>
      match s.backends[b]? with
      | some sb =>
        { s.setBackend b sb.unload with unloaded := b :: s.unloaded }.tell (.unloaded id (.ok ()))
      | none => (s, [])
    | _ => (s, [])
  | .drop id _ =>
    match s.registry.stage? id with
    | some (.reclaiming _ _ _) => (s, [])
    | _ => (s.settle id).tell (.drop id true)
  | e => s.tell e

def run (s : Simulation) (es : List Event) : Simulation × List Effect := Machine.run step s es

/-- An event in which no backend has a part, and in which no call is given up. -/
def Plain : Event → Prop
  | .loaded _ (.ok ()) | .attached _ _ _ | .detached _ _ | .unloaded _ _ | .drop _ _ => False
  | _ => True

/-- What may happen at an event. -/
inductive Moves (s : Simulation) : Simulation × List Effect → Prop
  | idle : Moves s (s, [])
  | tells {e} (he : Plain e) : Moves s (s.tell e)
  | loads {id l name cell} (hs : s.registry.stage? id = some (.creating l (.loading name cell))) :
      Moves s ((s.loadBackend name).tell (.loaded id (.ok ())))
  | attaches {id l name b oid now} {sb : SimulatedBackend}
      (hs : s.registry.stage? id = some (.creating l (.attaching name b oid)))
      (hb : s.backends[b]? = some sb) :
      Moves s ((s.setBackend b (sb.attach l).1).tell (.attached id (.ok (sb.attach l).2) now))
  | detaches {id b h} {sb : SimulatedBackend} (hd : Assoc.get? id s.detaching = some (b, h))
      (hb : s.backends[b]? = some sb) :
      Moves s (((s.setBackend b (sb.detach h).1).settle id).tell (.detached id (sb.detach h).2))
  | unloads {id b cells errors} {sb : SimulatedBackend}
      (hs : s.registry.stage? id = some (.unloading b cells errors))
      (hb : s.backends[b]? = some sb) :
      Moves s
        ({ s.setBackend b sb.unload with unloaded := b :: s.unloaded }.tell (.unloaded id (.ok ())))
  | drops {id} (hs : ∀ b h d, s.registry.stage? id ≠ some (.reclaiming b h d)) :
      Moves s ((s.settle id).tell (.drop id true))

theorem step_moves (s : Simulation) (e : Event) : Moves s (s.step e) := by
  unfold step
  split
  · split
    · rename_i hs
      exact .loads hs
    · exact .idle
  · split
    · rename_i hs
      split
      · rename_i hb
        exact .attaches hs hb
      · exact .idle
    · exact .idle
  · split
    · rename_i hd
      split
      · rename_i hb
        exact .detaches hd hb
      · exact .idle
    · exact .idle
  · split
    · rename_i hs
      split
      · rename_i hb
        exact .unloads hs hb
      · exact .idle
    · exact .idle
  · split
    · exact .idle
    · rename_i hs
      exact .drops fun b h d => hs b h d
  · rename_i h₁ h₂ h₃ h₄ h₅
    refine .tells ?_
    unfold Plain
    split
    · exact h₁ _ rfl
    · exact h₂ _ _ _ rfl
    · exact h₃ _ _ rfl
    · exact h₄ _ _ rfl
    · exact h₅ _ _ rfl
    · trivial

/-- Whatever happens is a segment of the registry, or nothing at all. -/
theorem Moves.segment {s : Simulation} {p : Simulation × List Effect} (h : Moves s p) :
    ∃ e, Registry.Segment s.registry e p.1.registry p.2 := by
  cases h with
  | idle => exact ⟨.reset, .idle _⟩
  | _ => exact ⟨_, Registry.step_segment _ _⟩

theorem get?_note {fx : List Effect} {i : CallId} {p : InstanceId × Handle}
    {m : Assoc CallId (InstanceId × Handle)} (h : Assoc.get? i (fx.foldl note m) = some p) :
    .detach i p.1 p.2 ∈ fx ∨ Assoc.get? i m = some p := by
  induction fx generalizing m with
  | nil => exact .inr h
  | cons x fx ih =>
    rcases ih h with hx | hm
    · exact .inl (List.mem_cons_of_mem _ hx)
    · cases x with
      | detach j b hd =>
        simp only [note, Assoc.get?_put] at hm
        split at hm
        · rename_i hj
          subst hj
          cases hm
          exact .inl List.mem_cons_self
        · exact .inr hm
      | _ => exact .inr hm

theorem get?_settle {s : Simulation} {id i : CallId} {p : InstanceId × Handle}
    (h : Assoc.get? i (s.settle id).detaching = some p) :
    i ≠ id ∧ Assoc.get? i s.detaching = some p := by
  simp only [settle, Assoc.get?_erase] at h
  split at h
  · cases h
  · rename_i hne
    exact ⟨Ne.symm hne, h⟩

end Simulation

end SlotBroker
