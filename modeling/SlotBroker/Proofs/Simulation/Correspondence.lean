import SlotBroker.Proofs.Simulation.Tied

/-!
# Handles and sessions

`handles_correspond` compares the sessions of a registry with what is attached in its simulated
backends, at every moment of a run: a handle that is attached belongs to the one session that has
it, or to a call that is about to detach it. So when no call is in progress the two are the same.
-/

namespace SlotBroker

open Registry

/-- A create has attached the handle and not committed it, or a background call is to detach it. -/
def Registry.Guarded (b : InstanceId) (h : Handle) (r : Registry) : Prop :=
  ∃ i, (∃ l, r.stage? i = some (.creating l (.undoing b h))) ∨
    ∃ detaching, r.stage? i = some (.reclaiming b h detaching)

/-- What is attached in the backends that are not unloaded belongs to the live sessions and to the
calls that are about to detach it. -/
structure Corresponds (s : Simulation) : Prop where
  loaded : s.backends.length = s.registry.backends.loadCount
  sessions : ∀ {b sb h l}, s.backends[b]? = some sb → b ∉ s.unloaded →
    (Assoc.get? h.id sb.attached = some l ∧ ¬ s.registry.Guarded b h ↔
      ∃ x ∈ s.registry.sessions, x.backend = b ∧ x.info.handle = h ∧ x.info.location = l)
  guarded : ∀ {b sb h}, s.backends[b]? = some sb → b ∉ s.unloaded → s.registry.Guarded b h →
    ∃ l, Assoc.get? h.id sb.attached = some l ∧
      ∀ i l', s.registry.stage? i = some (.creating l' (.undoing b h)) → l' = l
  live : ∀ x ∈ s.registry.sessions, x.backend ∉ s.unloaded ∧
    ∃ sb, s.backends[x.backend]? = some sb ∧
      Assoc.get? x.info.handle.id sb.attached = some x.info.location
  distinct : ∀ x ∈ s.registry.sessions, ∀ y ∈ s.registry.sessions, x.backend = y.backend →
    x.info.handle = y.info.handle → x = y
  idle : (∀ i, s.registry.stage? i = none) →
    ∀ {b sb h l}, s.backends[b]? = some sb → b ∉ s.unloaded →
      (Assoc.get? h.id sb.attached = some l ↔
        ∃ x ∈ s.registry.sessions, x.backend = b ∧ x.info.handle = h ∧ x.info.location = l)

theorem Registry.guarded_iff {r : Registry} {b : InstanceId} {h : Handle} : r.Guarded b h ↔
    ∃ i c, r.holding (.call i) = some c ∧ c.backend = b ∧ c.handle = h := by
  constructor
  · rintro ⟨i, ⟨l, hs⟩ | ⟨d, hs⟩⟩
    · exact ⟨i, ⟨b, h, some l⟩, holding_call hs, rfl, rfl⟩
    · exact ⟨i, ⟨b, h, none⟩, holding_call hs, rfl, rfl⟩
  · rintro ⟨i, c, hc, rfl, rfl⟩
    obtain ⟨st, hs, hc⟩ := Option.bind_eq_some_iff.1 hc
    unfold Stage.holding at hc
    split at hc
    · cases hc
      exact ⟨i, .inl ⟨_, hs⟩⟩
    · cases hc
      exact ⟨i, .inr ⟨_, hs⟩⟩
    · cases hc

namespace Tied

variable {s : Simulation} {x y : LiveSession} {b : InstanceId} {sb : SimulatedBackend}
  {l : Location}

theorem holding (h : Tied s) (hx : x ∈ s.registry.sessions) :
    s.registry.holding (.session x.info.oid) = some x.holding :=
  holding_session h.settled.sound.sorted hx

theorem live (h : Tied s) (hx : x ∈ s.registry.sessions) : x.backend ∉ s.unloaded ∧
    ∃ sb, s.backends[x.backend]? = some sb ∧
      Assoc.get? x.info.handle.id sb.attached = some x.info.location := by
  have hu : s.unloaded = [] := by
    refine Classical.byContradiction fun hu => ?_
    rw [(h.vacant hu).sessions] at hx
    cases hx
  have hg : x.backend ∉ s.unloaded := by simp [hu]
  have hlt : x.backend < s.backends.length := h.held.known (h.holding hx)
  have hb := List.getElem?_eq_getElem hlt
  obtain ⟨l, hl, hloc | hloc⟩ := h.held.attached (h.holding hx) hb hg
  · cases hloc
  · cases hloc
    exact ⟨hg, _, hb, hl⟩

theorem distinct (h : Tied s) (hx : x ∈ s.registry.sessions) (hy : y ∈ s.registry.sessions)
    (hb : x.backend = y.backend) (hh : x.info.handle = y.info.handle) : x = y := by
  have ho := h.held.unique (h.holding hx) (h.holding hy) hb hh
  exact h.settled.sound.sorted.eq_of_oid hx hy (Owner.session.inj ho)

/-- The handle of a session is nobody else's. -/
theorem not_guarded (h : Tied s) (hx : x ∈ s.registry.sessions) :
    ¬ s.registry.Guarded x.backend x.info.handle := by
  intro hg
  obtain ⟨i, c, hc, hb, hh⟩ := guarded_iff.1 hg
  cases h.held.unique hc (h.holding hx) hb hh

theorem sessions (h : Tied s) {hd : Handle} (hb : s.backends[b]? = some sb)
    (hu : b ∉ s.unloaded) : Assoc.get? hd.id sb.attached = some l ∧ ¬ s.registry.Guarded b hd ↔
      ∃ x ∈ s.registry.sessions,
        x.backend = b ∧ x.info.handle = hd ∧ x.info.location = l := by
  constructor
  · rintro ⟨hl, hn⟩
    obtain ⟨o, c, hc, hcb, hch⟩ := h.held.owned hb hu hl
    cases o with
    | session oid =>
      obtain ⟨x, hx, -, rfl⟩ := session_of_holding hc
      obtain ⟨-, sb', hb', hl'⟩ := h.live hx
      refine ⟨x, hx, hcb, hch, ?_⟩
      rw [show x.backend = b from hcb, hb, Option.some.injEq] at hb'
      rw [show x.info.handle = hd from hch, ← hb', hl, Option.some.injEq] at hl'
      exact hl'.symm
    | call i => exact absurd (guarded_iff.2 ⟨i, c, hc, hcb, hch⟩) hn
  · rintro ⟨x, hx, rfl, rfl, rfl⟩
    obtain ⟨-, sb', hb', hl'⟩ := h.live hx
    rw [hb, Option.some.injEq] at hb'
    exact ⟨hb' ▸ hl', h.not_guarded hx⟩

theorem guarded (h : Tied s) {hd : Handle} (hb : s.backends[b]? = some sb)
    (hu : b ∉ s.unloaded) (hg : s.registry.Guarded b hd) :
    ∃ l, Assoc.get? hd.id sb.attached = some l ∧
      ∀ i l', s.registry.stage? i = some (.creating l' (.undoing b hd)) → l' = l := by
  obtain ⟨i, c, hc, rfl, rfl⟩ := guarded_iff.1 hg
  obtain ⟨l, hl, -⟩ := h.held.attached hc hb hu
  refine ⟨l, hl, fun j l' hs => ?_⟩
  obtain ⟨l₁, hl₁, hloc⟩ := h.held.attached (holding_call hs) hb hu
  rw [hl, Option.some.injEq] at hl₁
  subst hl₁
  exact Option.some.inj (hloc.resolve_left (Option.some_ne_none _))

theorem corresponds (h : Tied s) : Corresponds s where
  loaded := h.loaded
  sessions := h.sessions
  guarded := h.guarded
  live _ := h.live
  distinct _ hx _ hy := h.distinct hx hy
  idle hi {b sb hd l} hb hu := by
    have hn : ¬ s.registry.Guarded b hd := by
      rintro ⟨i, ⟨l, hs⟩ | ⟨d, hs⟩⟩
      · cases (hi i).symm.trans hs
      · cases (hi i).symm.trans hs
    rw [← h.sessions hb hu]
    exact ⟨fun hl => ⟨hl, hn⟩, fun hl => hl.1⟩

end Tied

/-- At every moment of a run with fewer attempts to attach than there are oids, what is attached in
the simulated backends is what the sessions hold and what calls are about to detach. -/
theorem handles_correspond (orders : Orders) (adapter : Adapter) (policy : Policy)
    (factories : Assoc BackendName FactoryId) (fallback : Option FactoryId)
    (latency : BackendName → Time.Span) (es : List Event)
    (h : (attempts ((Simulation.new orders adapter policy factories fallback
      latency).run es).2).length < UInt64.size - 1) :
    Corresponds ((Simulation.new orders adapter policy factories fallback latency).run es).1 := by
  refine ((tied_new orders adapter policy factories fallback latency).run ?_).corresponds
  have hnew : (Simulation.new orders adapter policy factories fallback
      latency).registry.nextOid.toNat = 1 := rfl
  rw [hnew]
  omega

/-- A session is created, another create is given up after the registry was closed, and its handle
is still to be detached. -/
def givenUpLate : List Event :=
  [.start (.create ⟨"slot1"⟩), .resume ⟨0, 0⟩, .resume ⟨0, 0⟩, .resolved ⟨0, 0⟩ (.ok ⟨"vendor"⟩),
    .resume ⟨0, 0⟩, .loaded 0 (.ok ()), .attached 0 (.ok default) default,
    .start (.create ⟨"slot2"⟩), .resume ⟨1, 0⟩, .resume ⟨1, 0⟩, .resolved ⟨1, 0⟩ (.ok ⟨"vendor"⟩),
    .resume ⟨1, 0⟩, .start .shutdown, .attached 1 (.ok default) default, .drop 1 true]

theorem handles_correspond_given_up_late :
    (attempts ((Simulation.new .asPut .static ⟨true, false⟩ [] (some 0) fun _ => default).run
      givenUpLate).2).length < UInt64.size - 1 ∧
    Corresponds ((Simulation.new .asPut .static ⟨true, false⟩ [] (some 0) fun _ => default).run
      givenUpLate).1 :=
  ⟨by decide, handles_correspond _ _ _ _ _ _ _ (by decide)⟩

end SlotBroker
