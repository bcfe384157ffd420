import SlotBroker.Proofs.Simulation.Basic

/-!
# A registry and its simulated backends keep together

`Tied` is what every step keeps of a registry over simulated backends: whoever holds a handle holds
it alone, and it is attached (`Held`); who waits for a detach has asked for a handle that its owner
still holds; and once a backend is unloaded no session is left. The handles do not come round to the
first again, because every attach that succeeds has used up an oid (`Paced`).
-/

namespace SlotBroker

open Registry

/-- What every step keeps of a registry as long as no release fails. -/
structure Settled (r : Registry) : Prop where
  sound : Sound r
  loads : Loads r
  draining : Draining r
  covered : Covered r

/-- The handles of every backend are counted no further than oids are spent. -/
def Paced (bs : List SimulatedBackend) (r : Registry) : Prop :=
  ∃ oids : List Oid, oids.Nodup ∧ (∀ o ∈ oids, Spent o r) ∧
    ∀ sb ∈ bs, sb.next.toNat ≤ oids.length + 1

structure Tied (s : Simulation) : Prop where
  settled : Settled s.registry
  loaded : s.backends.length = s.registry.backends.loadCount
  vacant : s.unloaded ≠ [] → Vacant s.registry
  asks : ∀ {i b h}, Assoc.get? i s.detaching = some (b, h) → Asks s.registry i b h
  held : Held s.registry.holding s.backends s.unloaded
  paced : Paced s.backends s.registry

variable {r r' : Registry} {e : Event} {fx : List Effect} {id i : CallId}
  {bs : List SimulatedBackend} {sb sb' : SimulatedBackend} {b : InstanceId} {h : Handle}
  {l : Location} {oid : Oid}

theorem Settled.segment (hs : Settled r) (hr : Room fx r) (hrel : Releasable r e)
    (hg : Segment r e r' fx) : Settled r' where
  sound := hs.sound.segment hr hg
  loads := hs.loads.segment hs.sound.order hg
  draining := hs.draining.segment hs.sound.order hg
  covered := hs.covered.segment hs.draining hs.sound.order hrel hg

/-! ## Counting handles -/

theorem Paced.segment (h : Paced bs r) (ho : Orderly r) (hr : Room fx r) (hg : Segment r e r' fx) :
    Paced bs r' := by
  obtain ⟨oids, hd, hs, hn⟩ := h
  exact ⟨oids, hd, fun o ho' => (hg.tries ho).spent hr (hs o ho'), hn⟩

theorem Paced.load (h : Paced bs r) (name : BackendName) (latency : Time.Span) :
    Paced (bs ++ [SimulatedBackend.load name latency]) r := by
  obtain ⟨oids, hd, hs, hn⟩ := h
  refine ⟨oids, hd, hs, fun sb hm => ?_⟩
  rcases List.mem_append.1 hm with hm | hm
  · exact hn sb hm
  · obtain rfl := List.mem_singleton.1 hm
    exact Nat.le_add_left _ _

theorem Paced.set (h : Paced bs r) (hb : bs[b]? = some sb) (hn : sb'.next = sb.next) :
    Paced (bs.set b sb') r := by
  obtain ⟨oids, hd, hs, hle⟩ := h
  refine ⟨oids, hd, hs, fun sb₁ hm => ?_⟩
  rcases List.mem_or_eq_of_mem_set hm with hm | rfl
  · exact hle sb₁ hm
  · rw [hn]
    exact hle sb (List.mem_of_getElem? hb)

/-- There is a next handle as long as there is an attach under way. -/
theorem Paced.room {name : BackendName} {b' : InstanceId} (h : Paced bs r) (hn : Numbered r)
    (hs : r.stage? i = some (.creating l (.attaching name b' oid))) (hb : bs[b]? = some sb) :
    sb.next.toNat + 1 < UInt64.size := by
  obtain ⟨oids, hd, hsp, hle⟩ := h
  have hnew : oid ∉ oids := fun hm => (hsp oid hm).attached hs
  have hlen : (oid :: oids).length ≤ r.nextOid.toNat - 1 := by
    refine length_issued (List.nodup_cons.2 ⟨hnew, hd⟩) fun o ho => ?_
    rcases List.mem_cons.1 ho with rfl | ho
    · exact hn.attaching hs
    · exact (hsp o ho).issued
  have hsb := hle sb (List.mem_of_getElem? hb)
  have hlt := r.nextOid.toNat_lt
  rw [List.length_cons] at hlen
  simp only [UInt64.size]
  omega

/-- A handle that is attached spends an oid. -/
theorem Paced.attach (h : Paced bs r) (hn : sb.next.toNat + 1 < UInt64.size)
    (hb : bs[b]? = some sb) (hkeep : ∀ o, Spent o r → Spent o r') (hnew : ¬ Spent oid r)
    (hs : Spent oid r') : Paced (bs.set b (sb.attach l).1) r' := by
  obtain ⟨oids, hd, hsp, hle⟩ := h
  refine ⟨oid :: oids, List.nodup_cons.2 ⟨fun hm => hnew (hsp oid hm), hd⟩, fun o ho => ?_,
    fun sb₁ hm => ?_⟩
  · rcases List.mem_cons.1 ho with rfl | ho
    · exact hs
    · exact hkeep o (hsp o ho)
  · rw [List.length_cons]
    rcases List.mem_or_eq_of_mem_set hm with hm | rfl
    · exact Nat.le_succ_of_le (hle sb₁ hm)
    · rw [SimulatedBackend.next_attach hn]
      exact Nat.succ_le_succ (hle sb (List.mem_of_getElem? hb))

namespace Tied

variable {s : Simulation}

/-- What has to be kept when the registry is told of an event. -/
theorem tell (hs : Settled s.registry) (hr : Room (s.registry.step e).2 s.registry)
    (hrel : Releasable s.registry e)
    (hl : s.backends.length = (s.registry.step e).1.backends.loadCount)
    (hv : s.unloaded ≠ [] → Vacant s.registry)
    (ha : ∀ {i b h}, Assoc.get? i s.detaching = some (b, h) → Asks (s.registry.step e).1 i b h)
    (hh : Held (s.registry.step e).1.holding s.backends s.unloaded)
    (hp : Paced s.backends (s.registry.step e).1) : Tied (s.tell e).1 where
  settled := hs.segment hr hrel (step_segment _ _)
  loaded := hl
  vacant hu := (hv hu).segment hs.sound.order (step_segment _ _)
  asks hm := by
    rcases Simulation.get?_note hm with hx | hm
    · exact (step_segment _ _).asks hx
    · exact ha hm
  held := hh
  paced := hp

/-- A quiet event changes nothing of what is held or asked. -/
theorem quiet (h : Tied s) (hq : Quiet s.registry e) (hm : Assoc.get? i s.detaching = some (b, h₁))
    (hp : ∀ tending, e ≠ .drop i tending) : Asks (s.registry.step e).1 i b h₁ := by
  have ho := h.settled.sound.order
  have hg := step_segment s.registry e
  refine (h.asks hm).segment ho hg ?_ hp fun _ _ _ _ _ hc => ?_
  · rintro a rfl
    exact hq
  · rwa [hg.holding h.settled.covered ho hq]

/-! ## Every move -/

theorem tells (h : Tied s) (he : Simulation.Plain e)
    (hr : Room (s.registry.step e).2 s.registry) : Tied (s.tell e).1 := by
  have hq : Quiet s.registry e := by
    cases e <;> trivial
  have hload : ∀ i, e ≠ .loaded i (.ok ()) := by
    rintro i rfl
    exact he
  have hg := step_segment s.registry e
  have ho := h.settled.sound.order
  refine tell h.settled hr hq.releasable ?_ h.vacant (fun hm => h.quiet hq hm ?_) ?_ ?_
  · rw [hg.loadCount hload, h.loaded]
  · rintro t rfl
    exact he
  · rw [hg.holding h.settled.covered ho hq]
    exact h.held
  · exact h.paced.segment ho hr hg

theorem loads {name : BackendName} {cell : Nat} (h : Tied s)
    (hs : s.registry.stage? id = some (.creating l (.loading name cell)))
    (hr : Room (s.registry.step (.loaded id (.ok ()))).2 s.registry) :
    Tied ((s.loadBackend name).tell (.loaded id (.ok ()))).1 := by
  have hq : Quiet s.registry (.loaded id (.ok ())) := trivial
  have hg := step_segment s.registry (.loaded id (.ok ()))
  have ho := h.settled.sound.order
  have hcount : (s.registry.step (.loaded id (.ok ()))).1.backends.loadCount =
      s.registry.backends.loadCount + 1 := by
    have hs' : Assoc.get? id s.registry.calls = some (.creating l (.loading name cell)) := hs
    simp only [Registry.step, hs']
    rfl
  refine tell (s := s.loadBackend name) h.settled hr hq.releasable ?_ h.vacant
    (fun hm => h.quiet hq hm fun _ he => by cases he) ?_ ?_
  · exact List.length_append.trans ((congrArg (· + 1) h.loaded).trans hcount.symm)
  · simp only [Simulation.loadBackend, hg.holding h.settled.covered ho hq]
    exact h.held.load _ _
  · exact (h.paced.segment ho hr hg).load _ _

theorem unloads {cells : List Nat} {errors : List BrokerError} (h : Tied s)
    (hs : s.registry.stage? id = some (.unloading b cells errors)) (hb : s.backends[b]? = some sb)
    (hr : Room (s.registry.step (.unloaded id (.ok ()))).2 s.registry) :
    Tied ({ s.setBackend b sb.unload with
      unloaded := b :: s.unloaded }.tell (.unloaded id (.ok ()))).1 := by
  have hq : Quiet s.registry (.unloaded id (.ok ())) := trivial
  have hg := step_segment s.registry (.unloaded id (.ok ()))
  have ho := h.settled.sound.order
  refine tell (s := { s.setBackend b sb.unload with unloaded := b :: s.unloaded }) h.settled hr
    hq.releasable ?_ (fun _ => h.settled.covered.vacant h.settled.draining hs)
    (fun hm => h.quiet hq hm fun _ he => by cases he) ?_ ?_
  · exact List.length_set.trans (h.loaded.trans (hg.loadCount fun _ he => by cases he).symm)
  · simp only [Simulation.setBackend, hg.holding h.settled.covered ho hq]
    exact h.held.unload hb
  · exact (h.paced.segment ho hr hg).set hb rfl

/-- No backend is unloaded while a create attaches. -/
theorem not_unloaded {name : BackendName} (h : Tied s)
    (hs : s.registry.stage? id = some (.creating l (.attaching name b oid))) : s.unloaded = [] :=
  Classical.byContradiction fun hu => by cases (h.vacant hu).drained.locking hs

theorem attaches {name : BackendName} {now : Time.Instant} (h : Tied s)
    (hs : s.registry.stage? id = some (.creating l (.attaching name b oid)))
    (hb : s.backends[b]? = some sb)
    (hr : Room (s.registry.step (.attached id (.ok (sb.attach l).2) now)).2 s.registry) :
    Tied ((s.setBackend b (sb.attach l).1).tell (.attached id (.ok (sb.attach l).2) now)).1 := by
  have hg := step_segment s.registry (.attached id (.ok (sb.attach l).2) now)
  have hn := h.settled.sound.numbered
  have ho := h.settled.sound.order
  have hu := h.not_unloaded hs
  have hroom := h.paced.room hn hs hb
  have hfind : s.registry.find? oid = none := by
    cases hf : s.registry.find? oid with
    | none => rfl
    | some x =>
      obtain ⟨hm, rfl⟩ := mem_of_find? hf
      exact absurd hs (hn.live x hm).attached
  obtain ⟨o, hnone, hhold⟩ := holding_attached (h := (sb.attach l).2) hs hfind now
  refine tell (s := s.setBackend b (sb.attach l).1) h.settled hr ?_ ?_ h.vacant (fun hm => ?_) ?_ ?_
  · rintro i oid l rest errors x he
    cases he
  · exact List.length_set.trans (h.loaded.trans (hg.loadCount fun _ he => by cases he).symm)
  · refine (h.asks hm).segment ho hg (fun _ he => by cases he) (fun _ he => by cases he)
      fun _ o' c _ _ hc => ?_
    rw [show (s.setBackend b (sb.attach l).1).registry = s.registry from rfl, hhold,
      Function.update_of_ne, hc]
    rintro rfl
    cases hnone.symm.trans hc
  · simp only [Simulation.setBackend, hhold]
    exact h.held.attach hnone hb (by simp [hu]) hroom
  · have hold : ¬ Spent oid s.registry := fun hsp => hsp.attached hs
    exact h.paced.attach hroom hb (fun o => (hg.tries ho).spent hr) hold (hn.attached ho hs)

theorem detaches (h : Tied s) (hd : Assoc.get? id s.detaching = some (b, h₁))
    (hb : s.backends[b]? = some sb)
    (hr : Room (s.registry.step (.detached id (sb.detach h₁).2)).2 s.registry) :
    Tied (((s.setBackend b (sb.detach h₁).1).settle id).tell
      (.detached id (sb.detach h₁).2)).1 := by
  have ho := h.settled.sound.order
  have hg := step_segment s.registry (.detached id (sb.detach h₁).2)
  obtain ⟨st, o, c, hs, hf, hc, rfl, rfl⟩ := h.asks hd
  -- Only a backend that is unloaded fails to detach, and by then no session is left.
  have hok : (sb.detach c.handle).2 = .ok () ∨ o = .call id := by
    by_cases hu : s.unloaded = []
    · obtain ⟨l, hl, -⟩ := h.held.attached hc hb (by simp [hu])
      exact .inl (SimulatedBackend.detach_ok hl)
    · rcases Stage.frees?_inv hf with ⟨rfl, -⟩ | ⟨oid, rfl, -⟩
      · exact .inr rfl
      · obtain ⟨x, hx, -⟩ := session_of_holding hc
        rw [(h.vacant hu).sessions] at hx
        cases hx
  have hhold := holding_detached h.settled.covered hs hf hok
  refine tell (s := (s.setBackend c.backend (sb.detach c.handle).1).settle id) h.settled hr ?_ ?_
    h.vacant (fun {i b h₁} hm => ?_) ?_ ?_
  · intro i oid l rest errors x he hs'
    obtain ⟨rfl, hx⟩ : id = i ∧ (sb.detach c.handle).2 = .error x := by simpa using he
    cases hs.symm.trans hs'
    cases hf
    rcases hok with hok | hok
    · cases hok.symm.trans hx
    · cases hok
  · exact List.length_set.trans (h.loaded.trans (hg.loadCount fun _ he => by cases he).symm)
  · obtain ⟨hne, hm⟩ := Simulation.get?_settle hm
    refine (h.asks hm).segment ho hg ?_ (fun _ he => by cases he)
      fun s' o' c' hs' hf' hc' => ?_
    · rintro a he
      cases he
      exact hne rfl
    · rw [show ((s.setBackend c.backend (sb.detach c.handle).1).settle id).registry = s.registry
        from rfl, hhold, Function.update_of_ne, hc']
      rintro rfl
      exact hne (h.settled.sound.numbered.frees_unique hs' hf' hs hf)
  · simp only [Simulation.settle, Simulation.setBackend, hhold]
    exact h.held.detach hc hb
  · exact (h.paced.segment ho hr hg).set hb SimulatedBackend.next_detach

theorem drops (h : Tied s) (hs : ∀ b h d, s.registry.stage? id ≠ some (.reclaiming b h d))
    (hr : Room (s.registry.step (.drop id true)).2 s.registry) :
    Tied ((s.settle id).tell (.drop id true)).1 := by
  have ho := h.settled.sound.order
  have hg := step_segment s.registry (.drop id true)
  have hlen := h.loaded.trans (hg.loadCount fun _ he => by cases he).symm
  have hrel : Releasable s.registry (.drop id true) := fun _ _ _ _ _ _ he => by cases he
  have hpaced := h.paced.segment ho hr hg
  cases hc : s.registry.holding (.call id) with
  | none =>
    refine tell (s := s.settle id) h.settled hr hrel hlen h.vacant (fun hm => ?_) ?_ hpaced
    · obtain ⟨hne, hm⟩ := Simulation.get?_settle hm
      refine h.quiet hc hm fun t he => ?_
      cases he
      exact hne rfl
    · simp only [Simulation.settle, hg.holding h.settled.covered ho (e := .drop id true) hc]
      exact h.held
  | some c =>
    obtain ⟨b, hd, l, rfl, hst⟩ : ∃ b hd l, c = ⟨b, hd, some l⟩ ∧
        s.registry.stage? id = some (.creating l (.undoing b hd)) := by
      obtain ⟨st, hst, hc⟩ := Option.bind_eq_some_iff.1 hc
      unfold Stage.holding at hc
      split at hc
      · cases hc
        exact ⟨_, _, _, rfl, hst⟩
      · exact absurd hst (hs _ _ _)
      · cases hc
    have hhold := holding_dropped ho hst
    have hnone := holding_call_none ho.not_made
    refine tell (s := s.settle id) h.settled hr hrel hlen h.vacant (fun hm => ?_) ?_ hpaced
    · obtain ⟨hne, hm⟩ := Simulation.get?_settle hm
      refine (h.asks hm).segment ho hg (fun _ he => by cases he) (fun t he => ?_)
        fun s' o c _ hf hc => ?_
      · cases he
        exact hne rfl
      · rw [show (s.settle id).registry = s.registry from rfl, hhold, Function.update_of_ne,
          Function.update_of_ne, hc]
        · rintro rfl
          rcases Stage.frees?_inv hf with ⟨ho, -⟩ | ⟨_, ho, -⟩ <;> cases ho
          exact hne rfl
        · rintro rfl
          cases hnone.symm.trans hc
    · simp only [Simulation.settle, hhold]
      exact h.held.pass hc hnone

theorem moves {p : Simulation × List Effect} (h : Tied s) (hm : Simulation.Moves s p)
    (hr : Room p.2 s.registry) : Tied p.1 := by
  cases hm with
  | idle => exact h
  | tells he => exact h.tells he hr
  | loads hs => exact h.loads hs hr
  | attaches hs hb => exact h.attaches hs hb hr
  | detaches hd hb => exact h.detaches hd hb hr
  | unloads hs hb => exact h.unloads hs hb hr
  | drops hs => exact h.drops hs hr

theorem run {es : List Event} (h : Tied s)
    (hl : s.registry.nextOid.toNat + (attempts (s.run es).2).length < UInt64.size) :
    Tied (s.run es).1 := by
  induction es generalizing s with
  | nil => exact h
  | cons e es ih =>
    obtain ⟨_, hg⟩ := (s.step_moves e).segment
    obtain ⟨hr, hl'⟩ := (hg.tries h.settled.sound.order).lasts hl
    exact ih (h.moves (s.step_moves e) hr) hl'

end Tied

theorem tied_new (orders : Orders) (adapter : Adapter) (policy : Policy)
    (factories : Assoc BackendName FactoryId) (fallback : Option FactoryId)
    (latency : BackendName → Time.Span) :
    Tied (Simulation.new orders adapter policy factories fallback latency) := by
  have hnone (o : Owner) : (Simulation.new orders adapter policy factories fallback
      latency).registry.holding o = none := by
    cases o <;> rfl
  refine ⟨⟨sound_new _ _ _ _, loads_new orders _ _ _ _ _, draining_new _ _ _ _,
      covered_new _ _ _ _⟩, rfl, fun h => absurd rfl h, fun h => (by cases h), ?_,
    ⟨[], List.nodup_nil, fun _ h => (by cases h), fun _ h => (by cases h)⟩⟩
  refine ⟨fun ho => ?_, fun ho => ?_, fun hb => ?_, fun ho => ?_, fun hb => ?_⟩
  · rw [hnone] at ho
    cases ho
  · rw [hnone] at ho
    cases ho
  · cases hb
  · rw [hnone] at ho
    cases ho
  · cases hb

end SlotBroker
