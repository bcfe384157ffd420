import SlotBroker.Proofs.Registry.Answers

/-!
# The life of an oid

An oid is taken by an attempt to attach, is live from the moment its create commits until a call
has detached its session or a shutdown ends all there are, and is dead from then on.
`oid_lifecycle` puts together what that means for callers, over every run for which the numbers
last.
-/

namespace SlotBroker

namespace Registry

/-- What a run of a registry that starts out new tells of oids. -/
structure OidLifecycle (r₀ : Registry) (es : List Event) : Prop where
  /-- The n-th attempt to attach uses oid n, whatever comes of it. -/
  numbered : attempts (r₀.run es).2 =
    (List.range (attempts (r₀.run es).2).length).map fun n => ⟨UInt64.ofNat (n + 1)⟩
  /-- No two creates return the same oid. -/
  distinct : (((r₀.run es).2.filterMap Effect.created?).map Session.oid).Nodup
  /-- An oid whose create returns no session is not live at any moment. -/
  burned : ∀ {i oid b l}, .attach i oid b l ∈ (r₀.run es).2 →
    (∀ s, .reply i (.created (.ok s)) ∉ (r₀.run es).2) →
    ∀ {es₁ es₂}, es = es₁ ++ es₂ → (r₀.run es₁).1.getSession oid = .error (.unknownOid oid)
  /-- From its commit until a step ends it, a session is what its create returned. -/
  held : ∀ {es₁ e es₂ i s}, es = es₁ ++ e :: es₂ →
    .reply i (.created (.ok s)) ∈ ((r₀.run es₁).1.step e).2 →
    ¬ Occurs (Ends s.oid) ((r₀.run es₁).1.step e).1 es₂ → (r₀.run es).1.getSession s.oid = .ok s
  /-- From then on it is unknown, and nobody who asks to remove it is let in. -/
  dead : ∀ {es₁ e es₂ i s}, es = es₁ ++ e :: es₂ →
    .reply i (.created (.ok s)) ∈ ((r₀.run es₁).1.step e).2 →
    Occurs (Ends s.oid) ((r₀.run es₁).1.step e).1 es₂ →
    (r₀.run es).1.getSession s.oid = .error (.unknownOid s.oid) ∧
      (r₀.run es).1.moduleInfo s.oid = .error (.unknownOid s.oid) ∧
      ((r₀.run es).1.step (.start (.remove s.oid))).2 =
        [.reply (r₀.run es).1.nextCall (.removed (.error (.unknownOid s.oid)))]
  /-- A removal that succeeds ends the session that it was made for. -/
  removed : ∀ {es₁ e es₂ i oid}, es = es₁ ++ e :: es₂ → Made r₀ es i (.remove oid) →
    .reply i (.removed (.ok ())) ∈ ((r₀.run es₁).1.step e).2 →
    (r₀.run es₁).1.ending? e = some oid
  /-- At most one removal of an oid succeeds. -/
  removed_once : ∀ {i j oid}, Made r₀ es i (.remove oid) → Made r₀ es j (.remove oid) →
    .reply i (.removed (.ok ())) ∈ (r₀.run es).2 →
    .reply j (.removed (.ok ())) ∈ (r₀.run es).2 → i = j
  /-- Once a call has detached a session, every removal that returns finds it unknown. -/
  removed_after : ∀ {es₁ e es₂ i oid a}, es = es₁ ++ e :: es₂ →
    (r₀.run es₁).1.ending? e = some oid → Made r₀ es i (.remove oid) →
    .reply i (.removed a) ∈ (((r₀.run es₁).1.step e).1.run es₂).2 → a = .error (.unknownOid oid)
  /-- A shutdown that comes to the backends ends all sessions. A removal that is at its detach then
  returns what the backend answers, and one that still waits for its turn finds its session
  unknown. -/
  swept : ∀ {es₁ e es₂ i oid l d a}, es = es₁ ++ e :: es₂ →
    Clears (r₀.run es₁).1 ((r₀.run es₁).1.step e).2 →
    (r₀.run es₁).1.stage? i = some (.removing oid l d) →
    .reply i (.removed a) ∈ (((r₀.run es₁).1.step e).1.run es₂).2 →
    if d then ∃ x, .detached i x ∈ es₂ ∧ a = x.mapError .backend
    else a = .error (.unknownOid oid)
  /-- Every call returns at most once. -/
  once : ∀ i, ((r₀.run es).2.filterMap (Effect.returns? i)).length ≤ 1
  ascending : (r₀.run es).1.sessionList.Pairwise fun s s' => s.oid < s'.oid
  /-- The list of the sessions is that of those that were created and have not ended. -/
  listed : ∀ {s}, s ∈ (r₀.run es).1.sessionList ↔ ∃ es₁ e es₂ i, es = es₁ ++ e :: es₂ ∧
    .reply i (.created (.ok s)) ∈ ((r₀.run es₁).1.step e).2 ∧
    ¬ Occurs (Ends s.oid) ((r₀.run es₁).1.step e).1 es₂

variable {r r₀ : Registry} {e : Event} {es es₁ es₂ : List Event} {i j : CallId} {oid : Oid}
  {s : Session}

theorem Sorted.getSession (h : Sorted r.sessions) {x : LiveSession} (hx : x ∈ r.sessions) :
    r.getSession x.info.oid = .ok x.info := by
  have hf : r.find? x.info.oid = some x := h.find? hx
  simp only [Registry.getSession, hf]

theorem getSession_none (h : r.find? oid = none) : r.getSession oid = .error (.unknownOid oid) := by
  simp only [getSession, h]

theorem unknown (h : r.find? oid = none) : r.getSession oid = .error (.unknownOid oid) ∧
    r.moduleInfo oid = .error (.unknownOid oid) ∧
    (r.step (.start (.remove oid))).2 =
      [.reply r.nextCall (.removed (.error (.unknownOid oid)))] := by
  refine ⟨getSession_none h, ?_, ?_⟩
  · simp only [moduleInfo, getSession_none h]
  · simp only [step, start, h]
    rfl

/-- A session that a create has returned lives on until it is ended. -/
theorem Sound.committed (h : Sound r₀) (hl : Lasts r₀ (es₁ ++ e :: es₂))
    (hx : .reply i (.created (.ok s)) ∈ ((r₀.run es₁).1.step e).2) :
    (¬ Occurs (Ends s.oid) ((r₀.run es₁).1.step e).1 es₂ →
        ∃ b, ⟨s, b⟩ ∈ (r₀.run (es₁ ++ e :: es₂)).1.sessions) ∧
      (Occurs (Ends s.oid) ((r₀.run es₁).1.step e).1 es₂ →
        Dead s.oid (r₀.run (es₁ ++ e :: es₂)).1) := by
  obtain ⟨hl₁, hl₂⟩ := hl.append h
  have h₁ := h.run hl₁
  obtain ⟨b, -, hss, -⟩ := (step_segment (r₀.run es₁).1 e).commits hx
  have hm : ⟨s, b⟩ ∈ ((r₀.run es₁).1.step e).1.sessions := by
    rw [hss]
    exact mem_insertSession_self _ _
  rw [run_append, run_cons]
  obtain ⟨hk, hd⟩ := (h₁.step hl₂).session (hl₂.cons h₁.order).2 hm
  exact ⟨fun hn => ⟨b, hk hn⟩, hd⟩

theorem removes_made {a : Except BrokerError Unit} (h₀ : ∀ i, r₀.stage? i = none)
    (hm : Made r₀ (es₁ ++ e :: es₂) i (.remove oid))
    (hx : .reply i (.removed a) ∈ ((r₀.run es₁).1.step e).2) :
    Removes (r₀.run es₁).1 e i oid a := by
  obtain ⟨oid', hr⟩ := (step_segment (r₀.run es₁).1 e).removes hx
  have hm' := (hr.made h₀).append es₂
  rw [List.append_assoc, List.singleton_append] at hm'
  cases hm.unique hm'
  exact hr

/-- A removal that returns after a step does so in one of the later steps. -/
theorem Sound.removes_later {a : Except BrokerError Unit} (h : Sound r₀)
    (h₀ : ∀ i, r₀.stage? i = none) (hl : Lasts r₀ (es₁ ++ e :: es₂))
    (hm : Made r₀ (es₁ ++ e :: es₂) i (.remove oid))
    (hx : .reply i (.removed a) ∈ (((r₀.run es₁).1.step e).1.run es₂).2) :
    ∃ fs f gs, es₂ = fs ++ f :: gs ∧ Lasts (r₀.run es₁).1 (e :: fs) ∧
      Removes (((r₀.run es₁).1.step e).1.run fs).1 f i oid a := by
  obtain ⟨fs, f, gs, rfl, hf⟩ := mem_run hx
  have hrun : (((r₀.run es₁).1.step e).1.run fs).1 = (r₀.run (es₁ ++ e :: fs)).1 := by
    rw [run_append, run_cons]
  have hes : es₁ ++ e :: (fs ++ f :: gs) = (es₁ ++ e :: fs) ++ f :: gs := by simp
  rw [hes] at hm hl
  refine ⟨fs, f, gs, rfl, ((hl.append h).1.append h).2, ?_⟩
  rw [hrun] at hf ⊢
  exact removes_made h₀ hm hf

theorem Sound.removed_after {a : Except BrokerError Unit} (h : Sound r₀)
    (h₀ : ∀ i, r₀.stage? i = none) (hl : Lasts r₀ (es₁ ++ e :: es₂))
    (he : (r₀.run es₁).1.ending? e = some oid)
    (hm : Made r₀ (es₁ ++ e :: es₂) i (.remove oid))
    (hx : .reply i (.removed a) ∈ (((r₀.run es₁).1.step e).1.run es₂).2) :
    a = .error (.unknownOid oid) := by
  obtain ⟨fs, f, gs, rfl, hl₂, hr⟩ := h.removes_later h₀ hl hm hx
  have h₁ := h.run (hl.append h).1
  exact hr.gone ((h₁.detached hl₂ he).run (h₁.step hl₂) (hl₂.cons h₁.order).2)

/-- The session of a removal that is in progress is dead once the registry has been cleared. -/
theorem Sound.cleared {d : Bool} {l : Location} (h : Sound r) (hl : Lasts r (e :: es))
    (hc : Clears r (r.step e).2) (hs : r.stage? i = some (.removing oid l d)) :
    Dead oid (r.step e).1 := by
  have hg := step_segment r e
  refine ⟨(hg.tries h.order).spent (hl.cons h.order).1 (h.numbered.target hs rfl).1, ?_⟩
  simp only [find?, hg.cleared h.order hc]
  rfl

/-- Clearing the registry takes no removal to its detach. -/
theorem Clears.waits {l : Location} (hc : Clears r fx) (hg : Segment r e r' fx)
    (hs : r.stage? i = some (.removing oid l false)) (l' : Location) :
    r'.stage? i ≠ some (.removing oid l' true) := by
  intro hl
  cases hg.aims hl rfl with
  | same h => cases hs.symm.trans h
  | found _ _ _ hn => cases hn
  | turns _ _ _ _ _ hfx => exact not_clears (by simp [hfx, Effect.shuts]) hc

theorem Sound.swept {d : Bool} {l : Location} {a : Except BrokerError Unit} (h : Sound r₀)
    (h₀ : ∀ i, r₀.stage? i = none) (hl : Lasts r₀ (es₁ ++ e :: es₂))
    (hc : Clears (r₀.run es₁).1 ((r₀.run es₁).1.step e).2)
    (hs : (r₀.run es₁).1.stage? i = some (.removing oid l d))
    (hx : .reply i (.removed a) ∈ (((r₀.run es₁).1.step e).1.run es₂).2) :
    if d then ∃ x, .detached i x ∈ es₂ ∧ a = x.mapError .backend
    else a = .error (.unknownOid oid) := by
  have hm : Made r₀ es₁ i (.remove oid) := made_of_removing h₀ hs
  obtain ⟨fs, f, gs, rfl, hl₂, hr⟩ := h.removes_later h₀ hl (hm.append _) hx
  have h₁ := h.run (hl.append h).1
  cases d with
  | true =>
    have hi := h₁.order.fresh hs
    have hwait := detaching_run hi (fun l hl => (by cases hs.symm.trans hl)) (e :: fs)
    obtain ⟨x, rfl, ha⟩ := hr.answered (Nat.lt_of_lt_of_le hi (nextCall_run_le _ (e :: fs))) hwait
    exact ⟨x, by simp, ha⟩
  | false =>
    have hwait := hc.waits (step_segment _ e) hs
    exact hr.swept ((h₁.cleared hl₂ hc hs).waits_run (h₁.step hl₂) (hl₂.cons h₁.order).2 hwait)

theorem Sound.removed_once (h : Sound r₀) (h₀ : ∀ i, r₀.stage? i = none) (hl : Lasts r₀ es)
    (hi : Made r₀ es i (.remove oid)) (hj : Made r₀ es j (.remove oid))
    (hx : .reply i (.removed (.ok ())) ∈ (r₀.run es).2)
    (hy : .reply j (.removed (.ok ())) ∈ (r₀.run es).2) : i = j := by
  -- No removal succeeds in the steps after another one.
  have later {i j : CallId} {es₁ es₂ : List Event} {e : Event} (he : es = es₁ ++ e :: es₂)
      (hi : Made r₀ es i (.remove oid)) (hj : Made r₀ es j (.remove oid))
      (hf : .reply i (.removed (.ok ())) ∈ ((r₀.run es₁).1.step e).2)
      (hg : .reply j (.removed (.ok ())) ∈ (((r₀.run es₁).1.step e).1.run es₂).2) : False := by
    subst he
    cases h.removed_after h₀ hl (removes_made h₀ hi hf).ending.1 hj hg
  obtain ⟨es₁, e, es₂, he, hf⟩ := mem_run hx
  rw [he, run_append, run_cons] at hy
  rcases List.mem_append.1 hy with hy | hy
  · obtain ⟨fs, f, gs, rfl, hg⟩ := mem_run hy
    have he' : es = fs ++ f :: (gs ++ e :: es₂) := by simp [he]
    refine (later he' hj hi hg ?_).elim
    rw [run_append, run_cons] at hf
    rw [run_append, run_cons]
    exact List.mem_append_right _ (List.mem_append_left _ hf)
  · rcases List.mem_append.1 hy with hy | hy
    · subst he
      have h₁ := (removes_made h₀ hi hf).ending.2
      rw [(removes_made h₀ hj hy).ending.2] at h₁
      cases h₁
      rfl
    · exact (later he hi hj hf hy).elim

/-- A live session was created, and has not ended since. -/
theorem Sound.listed (h : Sound r₀) (hl : Lasts r₀ es) (ht : Told (r₀.run es).2 (r₀.run es).1) :
    s ∈ (r₀.run es).1.sessionList ↔ ∃ es₁ e es₂ i, es = es₁ ++ e :: es₂ ∧
      .reply i (.created (.ok s)) ∈ ((r₀.run es₁).1.step e).2 ∧
      ¬ Occurs (Ends s.oid) ((r₀.run es₁).1.step e).1 es₂ := by
  constructor
  · intro hm
    obtain ⟨x, hx, rfl⟩ := List.mem_map.1 hm
    obtain ⟨i, hi⟩ := ht.live x hx
    obtain ⟨es₁, e, es₂, rfl, hc⟩ := mem_run hi
    refine ⟨es₁, e, es₂, i, rfl, hc, fun hn => ?_⟩
    have hf : (r₀.run (es₁ ++ e :: es₂)).1.find? x.info.oid = some x := (h.run hl).sorted.find? hx
    rw [((h.committed hl hc).2 hn).gone] at hf
    cases hf
  · rintro ⟨es₁, e, es₂, i, rfl, hi, hn⟩
    obtain ⟨b, hb⟩ := (h.committed hl hi).1 hn
    exact List.mem_map.2 ⟨_, hb, rfl⟩

/-- An oid is live only while the session is that its create has returned. -/
theorem Told.burned {fx fx₁ : List Effect} {b : InstanceId} {l : Location} (ht : Told fx r₀)
    (ht₁ : Told fx₁ r) (hfx : ∀ x ∈ fx₁, x ∈ fx) (hx : .attach i oid b l ∈ fx)
    (hn : ∀ s, .reply i (.created (.ok s)) ∉ fx) : r.getSession oid = .error (.unknownOid oid) := by
  cases hf : r.find? oid with
  | none => exact getSession_none hf
  | some x =>
    obtain ⟨hm, rfl⟩ := mem_of_find? hf
    obtain ⟨j, hj⟩ := ht₁.live x hm
    obtain ⟨-, b', hb⟩ := ht.created (hfx _ hj)
    cases ht.attached hx hb
    exact absurd (hfx _ hj) (hn _)

/-- Every oid goes from not being taken over being live to being dead, in every run with fewer
attempts to attach than there are oids. -/
theorem oid_lifecycle (adapter : Adapter) (policy : Policy) (order : CallId → Arrangement Location)
    (t : BackendTable) (es : List Event)
    (h : (attempts ((new adapter policy order t).run es).2).length < UInt64.size - 1) :
    OidLifecycle (new adapter policy order t) es := by
  have hs := sound_new adapter policy order t
  have hl : Lasts (new adapter policy order t) es := lasts_new h
  have h₀ := stage?_new adapter policy order t
  have told {es : List Event} (hl : Lasts (new adapter policy order t) es) :
      Told ((new adapter policy order t).run es).2 ((new adapter policy order t).run es).1 :=
    (told_new adapter policy order t).run hs hl
  exact
    { numbered := by
        refine (attempts_run hs.order es).1.trans (List.map_congr_left fun n _ => ?_)
        rw [Nat.add_comm, UInt64.ofNat_add]
        rfl
      distinct := (told hl).distinct
      burned := by
        rintro i oid b l hx hn es₁ es₂ rfl
        refine (told hl).burned (told (hl.append hs).1) (fun x hx => ?_) hx hn
        rw [run_append]
        exact List.mem_append_left _ hx
      held := by
        rintro es₁ e es₂ i s rfl hx hn
        obtain ⟨b, hb⟩ := (hs.committed hl hx).1 hn
        exact (hs.run hl).sorted.getSession hb
      dead := by
        rintro es₁ e es₂ i s rfl hx hn
        exact unknown ((hs.committed hl hx).2 hn).gone
      removed := by
        rintro es₁ e es₂ i oid rfl hm hx
        exact (removes_made h₀ hm hx).ending.1
      removed_once := hs.removed_once h₀ hl
      removed_after := by
        rintro es₁ e es₂ i oid a rfl he hm hx
        exact hs.removed_after h₀ hl he hm hx
      swept := by
        rintro es₁ e es₂ i oid l d a rfl hc hi hx
        exact hs.swept h₀ hl hc hi hx
      once := returns_once hs.order es
      ascending := by
        rw [sessionList, List.pairwise_map]
        exact (hs.run hl).sorted
      listed := hs.listed hl (told hl) }

/-- A session is created and removed again. -/
theorem oid_lifecycle_create_remove :
    let r₀ := unused .asPut .static ⟨true, false⟩ [] (some 0)
    let es := [.start (.create ⟨"slot1"⟩), .resume ⟨0, 0⟩, .resume ⟨0, 0⟩,
      .resolved ⟨0, 0⟩ (.ok ⟨"vendor"⟩), .resume ⟨0, 0⟩, .loaded 0 (.ok ()),
      .attached 0 (.ok ⟨7⟩) default, .start (.remove ⟨1⟩), .resume ⟨1, 0⟩, .detached 1 (.ok ())]
    (attempts (r₀.run es).2).length < UInt64.size - 1 ∧ OidLifecycle r₀ es :=
  ⟨by decide, oid_lifecycle _ _ _ _ _ (by decide)⟩

/-- A shutdown fails to detach the first of two sessions. A removal of that session gets its turn
before the shutdown comes to the backends, and the answer to its detach comes after that. -/
def removalOverlapped : List Event :=
  [.start (.create ⟨"slot1"⟩), .resume ⟨0, 0⟩, .resume ⟨0, 0⟩, .resolved ⟨0, 0⟩ (.ok ⟨"vendor"⟩),
    .resume ⟨0, 0⟩, .loaded 0 (.ok ()), .attached 0 (.ok ⟨7⟩) default,
    .start (.create ⟨"slot2"⟩), .resume ⟨1, 0⟩, .resume ⟨1, 0⟩, .resolved ⟨1, 0⟩ (.ok ⟨"vendor"⟩),
    .resume ⟨1, 0⟩, .attached 1 (.ok ⟨8⟩) default,
    .start .shutdown, .resume ⟨2, 0⟩, .resume ⟨2, 0⟩, .resume ⟨2, 0⟩, .start (.remove ⟨1⟩),
    .detached 2 (.error default), .resume ⟨3, 0⟩, .resume ⟨2, 0⟩, .detached 2 (.ok ()),
    .detached 3 (.ok ()), .unloaded 2 (.ok ())]

example : ((unused .asPut .static ⟨true, false⟩ [] (some 0)).run removalOverlapped).2.drop 7 =
    [.detach 2 0 ⟨7⟩, .detach 3 0 ⟨7⟩, .detach 2 0 ⟨8⟩, .unload 2 0, .reply 3 (.removed (.ok ())),
      .reply 2 (.shutDown (.error (.shutdownFailed [.backend default])))] := rfl

end Registry

end SlotBroker
