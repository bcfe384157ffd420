import SlotBroker.Proofs.Registry.Answers
import SlotBroker.Proofs.Registry.Holding

/-!
# A shutdown against every create

`shutdown_closes` puts together what the one shutdown of a run does to the creates that are under
way with it. Every create is on one side of the drain: it is at work, and the shutdown waits for it
in the line of its location, or it has not had its turn yet and finds the registry closed.
-/

namespace SlotBroker

namespace Registry

/-- What a run tells of its one shutdown, which is made after the events `es₀` and returns in the
events `es₁`. -/
structure ClosedBy (id : CallId) (r₀ : Registry) (es₀ es₁ : List Event) : Prop where
  /-- Once the lines are drained no create puts a session among the others. -/
  no_commit : ∀ {fs e gs}, es₁ = fs ++ e :: gs →
    let r := (r₀.run (es₀ ++ .start .shutdown :: fs)).1
    (∀ l rest, r.stage? id ≠ some (.draining l rest)) →
    (∀ i s, .reply i (.created (.ok s)) ∉ (r.step e).2) ∧
      ∀ x ∈ (r.step e).1.sessions, x ∈ r.sessions
  /-- From then on nothing is loaded and nothing attached, so not while backends are unloaded. -/
  no_load : ∀ {fs e gs}, es₁ = fs ++ e :: gs →
    let r := (r₀.run (es₀ ++ .start .shutdown :: fs)).1
    (∀ l rest, r.stage? id ≠ some (.draining l rest)) →
    (∀ i name f, .load i name f ∉ (r.step e).2) ∧ ∀ i oid b l, .attach i oid b l ∉ (r.step e).2
  /-- A create whose attach succeeds after the registry was closed detaches the handle, and returns
  that the registry is shutting down unless it is given up. -/
  undone : ∀ {fs gs i l name b oid h now}, es₁ = fs ++ .attached i (.ok h) now :: gs →
    let r := (r₀.run (es₀ ++ .start .shutdown :: fs)).1
    let s := r.step (.attached i (.ok h) now)
    r.stage? i = some (.creating l (.attaching name b oid)) →
    s.2 = [.detach i b h] ∧ ((∀ tending, .drop i tending ∉ gs) →
      .reply i (.created (.error .shuttingDown)) ∈ (s.1.run gs).2)
  /-- Every backend that a create has obtained is unloaded once. -/
  unloaded : ∀ {i oid b l}, .attach i oid b l ∈ (r₀.run (es₀ ++ .start .shutdown :: es₁)).2 →
    (unloadOrder (r₀.run (es₀ ++ .start .shutdown :: es₁)).2).count b = 1
  /-- From its return on there are no sessions and no backends, and creates are told so. -/
  empty : ∀ {fs gs o}, es₁ = fs ++ gs →
    .reply id o ∈ (r₀.run (es₀ ++ .start .shutdown :: fs)).2 →
    let r := (r₀.run (es₀ ++ .start .shutdown :: fs)).1
    r.sessionList = [] ∧ r.loadedBackends = [] ∧
      (∀ l, (r.step (.start (.create l))).2 =
        [.reply r.nextCall (.created (.error .shuttingDown))]) ∧
      ∀ e i a, .reply i (.created a) ∈ (r.step e).2 → a = .error .shuttingDown

variable {r r' r₀ : Registry} {e : Event} {es es₀ fs gs : List Event} {fx : List Effect}
  {id i : CallId} {o : Outcome}

/-! ## The shutdown of a run -/

theorem Before.run (h : Before [] r₀) (ho : Orderly r₀) (hn : .start .shutdown ∉ es) :
    Before (r₀.run es).2 (r₀.run es).1 := by
  induction es using List.reverseRecOn with
  | nil => exact h
  | append_singleton es e ih =>
    rw [run_concat]
    refine (ih fun h => hn (List.mem_append_left _ h)).segment (ho.run es) (step_segment _ e) ?_
    rintro rfl
    exact hn (List.mem_append_right _ (List.mem_singleton_self _))

theorem run_shutdown_concat (r₀ : Registry) (es₀ fs : List Event) (e : Event) :
    r₀.run (es₀ ++ .start .shutdown :: (fs ++ [e])) =
      (((r₀.run (es₀ ++ .start .shutdown :: fs)).1.step e).1,
        (r₀.run (es₀ ++ .start .shutdown :: fs)).2 ++
          ((r₀.run (es₀ ++ .start .shutdown :: fs)).1.step e).2) := by
  rw [← run_concat, List.append_assoc, List.cons_append]

theorem During.run (h : Before [] r₀) (ho : Orderly r₀) (hd : Draining r₀)
    (hn₀ : .start .shutdown ∉ es₀) (hn : .start .shutdown ∉ fs) :
    During (r₀.run es₀).1.nextCall (r₀.run (es₀ ++ .start .shutdown :: fs)).2
      (r₀.run (es₀ ++ .start .shutdown :: fs)).1 := by
  have hb := h.run ho hn₀
  induction fs using List.reverseRecOn with
  | nil =>
    rw [run_concat]
    exact hb.made (ho.run es₀) (hd.run ho es₀)
  | append_singleton fs e ih =>
    rw [run_shutdown_concat]
    refine (ih fun h => hn (List.mem_append_left _ h)).segment (ho.run _) (step_segment _ e) ?_
      fun o hx => over_of_reply ho hx
    rintro rfl
    exact hn (List.mem_append_right _ (List.mem_singleton_self _))

/-- A shutdown that returns later has not been given up: once it does not drain any more, it has
drained. -/
theorem During.drained (h : During id fx r) (hr : .reply id o ∈ fx ++ (r.run gs).2)
    (hn : ∀ l rest, r.stage? id ≠ some (.draining l rest)) : Drained r := by
  cases h.phase with
  | draining hs => exact absurd hs (hn _ _)
  | releasing _ hd => exact hd
  | unloading _ he => exact he.drained
  | done _ he => exact he.drained
  | dropped ho hx =>
    rcases List.mem_append.1 hr with hr | hr
    · exact absurd hr (hx o)
    · exact absurd hr ((ho.run gs).2 o)

/-- A shutdown that has returned has unloaded every backend. -/
theorem During.done (h : During id fx r) (hx : .reply id o ∈ fx) (ho : Over id r) :
    Emptied r ∧ (unloadOrder fx).Perm r.instances := by
  cases h.phase with
  | draining hs | releasing hs | unloading hs =>
    rw [ho.stage?] at hs
    cases hs
  | done _ he hu => exact ⟨he, hu⟩
  | dropped _ hn => exact absurd hx (hn o)

/-! ## Creates that are late -/

theorem closed_run (hc : r.closed = true) (es : List Event) : (r.run es).1.closed = true :=
  run_induction hc (fun h hg => hg.closed h) es

theorem closed_after (r₀ : Registry) (es₀ fs : List Event) :
    (r₀.run (es₀ ++ .start .shutdown :: fs)).1.closed = true := by
  have hm : Drains { (r₀.run es₀).1 with
        closed := true
        nextCall := (r₀.run es₀).1.nextCall + 1 } (r₀.run es₀).1.nextCall
      (r₀.run es₀).1.drainOrder ((r₀.run es₀).1.step (.start .shutdown)).1
      ((r₀.run es₀).1.step (.start .shutdown)).2 := drainNext_drains _ _ _
  rw [run_append, run_cons]
  exact closed_run hm.frame.2.2.1 fs

/-- A create that undoes its attach goes on to do so, returns or is given up. -/
theorem step_undoing {l : Location} {b : InstanceId} {h : Handle} (ho : Orderly r)
    (hs : r.stage? i = some (.creating l (.undoing b h))) :
    (r.step e).1.stage? i = some (.creating l (.undoing b h)) ∨
      .reply i (.created (.error .shuttingDown)) ∈ (r.step e).2 ∨
      ∃ tending, e = .drop i tending := by
  rcases (step_segment r e).frees ho hs rfl with hs' | ⟨a, rfl⟩ | hd
  · exact .inl hs'
  · have hs' : Assoc.get? i r.calls = some (.creating l (.undoing b h)) := hs
    simp only [step, hs']
    exact .inr (.inl (List.mem_singleton_self _))
  · exact .inr (.inr hd)

theorem undoing_run {l : Location} {b : InstanceId} {h : Handle} (ho : Orderly r)
    (hs : r.stage? i = some (.creating l (.undoing b h))) (hd : ∀ tending, .drop i tending ∉ es) :
    (r.run es).1.stage? i = some (.creating l (.undoing b h)) ∨
      .reply i (.created (.error .shuttingDown)) ∈ (r.run es).2 := by
  induction es generalizing r with
  | nil => exact .inl hs
  | cons e es ih =>
    have hg := step_segment r e
    rcases step_undoing (e := e) ho hs with hs | hx | ⟨t, rfl⟩
    · refine (ih (ho.segment hg) hs fun t h => hd t (List.mem_cons_of_mem _ h)).imp_right ?_
      exact List.mem_append_right _
    · exact .inr (List.mem_append_left _ hx)
    · exact absurd List.mem_cons_self (hd t)

theorem Within.created {a : Except BrokerError Session} (h : Drained r) (hg : Segment r e r' fx)
    (hx : .reply i (.created a) ∈ fx) : a = .error .shuttingDown := by
  cases hg with
  | refused hr =>
    cases hr with
    | closed =>
      simp only [List.mem_singleton, Effect.reply.injEq, Outcome.created.injEq] at hx
      exact hx.2
    | unlisted ho => cases ho.symm.trans h.closed
    | gone => simp at hx
  | createClosed =>
    simp only [List.mem_singleton, Effect.reply.injEq, Outcome.created.injEq] at hx
    exact hx.2
  | createBusy _ _ ho => cases ho.symm.trans h.closed
  | resolveFailed hs | unserved hs | loadFailed hs | attachFailed hs | committed hs | undone hs =>
    cases h.locking hs
  | enumerated _ hd | partReady _ _ _ hd | partResolved _ _ hd => exact (hd.wide hx).elim
  | unloaded _ hd | unloadFailed _ hd => exact (hd.wide hx).elim
  | shutdownMade hd | drained _ _ hd | releaseGone _ _ _ hd | released _ hd | releaseFailed _ hd =>
    exact (hd.wide hx).elim
  | _ => simp at hx

theorem step_create_closed (hc : r.closed = true) (l : Location) :
    (r.step (.start (.create l))).2 =
      [.reply r.nextCall (.created (.error .shuttingDown))] := by
  simp only [step, start, hc, if_true]
  rfl

/-! ## Backends that were obtained -/

theorem mem_instances {c : Nat} {b : InstanceId} (h : r.backends.loads.valueAt? c = some b) :
    b ∈ r.instances := by
  refine List.mem_filterMap.2 ⟨c, List.mem_range.2 ?_, h⟩
  obtain ⟨x, hx, -⟩ := Option.bind_eq_some_iff.1 h
  exact (List.getElem?_eq_some_iff.1 hx).1

theorem nodup_instances (h : Loads r) : r.instances.Nodup :=
  List.nodup_range.filterMap fun _ _ _ hb hb' => h.distinct hb hb'

theorem attach_held {oid : Oid} {b : InstanceId} {l : Location} (h : Loads r) (ho : Orderly r)
    (hx : .attach i oid b l ∈ (r.run es).2) :
    Loads (r.run es).1 ∧ b ∈ (r.run es).1.instances := by
  refine ⟨(h.run ho es).1, ?_⟩
  obtain ⟨es₁, e, es₂, rfl, ha⟩ := mem_run hx
  have ho₁ := ho.run es₁
  have hg := step_segment (r.run es₁).1 e
  have hl := (h.run ho es₁).1.segment ho₁ hg
  obtain ⟨-, -, name, hs⟩ := (hg.tries ho₁).attach ha
  obtain ⟨c, hc⟩ := hl.attaching hs
  rw [run_append, run_cons]
  exact mem_instances ((hl.run (ho₁.segment hg) es₂).2 hc)

theorem run_shutdown_append (r₀ : Registry) (es₀ fs gs : List Event) :
    r₀.run (es₀ ++ .start .shutdown :: (fs ++ gs)) =
      (((r₀.run (es₀ ++ .start .shutdown :: fs)).1.run gs).1,
        (r₀.run (es₀ ++ .start .shutdown :: fs)).2 ++
          ((r₀.run (es₀ ++ .start .shutdown :: fs)).1.run gs).2) := by
  rw [← run_append, List.append_assoc, List.cons_append]

theorem closedBy_of_run {es₁ : List Event} (ho : Orderly r₀) (hl : Loads r₀) (hd : Draining r₀)
    (hb : Before [] r₀) (hid : (r₀.run es₀).1.nextCall = id) (h₀ : .start .shutdown ∉ es₀)
    (h₁ : .start .shutdown ∉ es₁)
    (hret : .reply id o ∈ (r₀.run (es₀ ++ .start .shutdown :: es₁)).2) :
    ClosedBy id r₀ es₀ es₁ := by
  have during {fs gs : List Event} (h : es₁ = fs ++ gs) :
      During id (r₀.run (es₀ ++ .start .shutdown :: fs)).2
        (r₀.run (es₀ ++ .start .shutdown :: fs)).1 :=
    hid ▸ During.run hb ho hd h₀ fun hs => h₁ (h ▸ List.mem_append_left _ hs)
  have drained {fs gs : List Event} (h : es₁ = fs ++ gs)
      (hn : ∀ l rest, (r₀.run (es₀ ++ .start .shutdown :: fs)).1.stage? id ≠
        some (.draining l rest)) : Drained (r₀.run (es₀ ++ .start .shutdown :: fs)).1 := by
    rw [h, run_shutdown_append] at hret
    exact (during h).drained hret hn
  have done {fs gs : List Event} {o : Outcome} (h : es₁ = fs ++ gs)
      (hx : .reply id o ∈ (r₀.run (es₀ ++ .start .shutdown :: fs)).2) :=
    (during h).done hx (over_of_reply ho hx)
  exact
    { no_commit := by
        intro fs e gs h r hn
        have hg := step_segment r e
        refine ⟨fun i s hx => ?_, (drained h hn).sessions (ho.run _) hg⟩
        obtain ⟨b, hs, -⟩ := hg.commits hx
        cases (drained h hn).locking hs
      no_load := by
        intro fs e gs h r hn
        have hx := ((drained h hn).not_serves (ho.run _) (step_segment r e)).2
        exact ⟨fun i name f hm => hx _ hm trivial, fun i oid b l hm => hx _ hm trivial⟩
      undone := by
        intro fs gs i l name b oid h now he r s hs
        have hstep : s = _ := step_attached_late hs (closed_after r₀ es₀ fs) h now
        refine ⟨congrArg Prod.snd hstep, fun hd => ?_⟩
        have hu : s.1.stage? i = some (.creating l (.undoing b h)) := by
          rw [hstep]
          exact stage?_setStage_self _ _ _
        refine (undoing_run ((ho.run _).segment (step_segment r _)) hu hd).resolve_left fun hu => ?_
        -- The shutdown has drained by then, so no create is undoing anything any more.
        have hend := (done (List.append_nil es₁).symm hret).1.drained
        rw [he, run_shutdown_append, run_cons] at hend
        cases hend.locking hu
      unloaded := by
        intro i oid b l hx
        rw [(done (List.append_nil es₁).symm hret).2.count_eq]
        obtain ⟨hl', hb'⟩ := attach_held hl ho hx
        exact List.count_eq_one_of_mem (nodup_instances hl') hb'
      empty := by
        intro fs gs o h hx r
        obtain ⟨he, -⟩ := done h hx
        refine ⟨?_, ?_, step_create_closed he.drained.closed, fun e i a hx => ?_⟩
        · rw [sessionList, he.sessions]
          rfl
        · simp [loadedBackends, BackendTable.loadedNames, OnceMap.computed, r, he.index]
        · exact he.drained.created (step_segment r e) hx }

/-- The one shutdown of a run that returns closes the registry against every create that is under
way with it or comes later. -/
theorem shutdown_closes (orders : Orders) (adapter : Adapter) (policy : Policy)
    (factories : Assoc BackendName FactoryId) (fallback : Option FactoryId) (es₀ es₁ : List Event)
    (id : CallId) (o : Outcome)
    (hid : ((unused orders adapter policy factories fallback).run es₀).1.nextCall = id)
    (h₀ : .start .shutdown ∉ es₀) (h₁ : .start .shutdown ∉ es₁)
    (hret : .reply id o ∈
      ((unused orders adapter policy factories fallback).run (es₀ ++ .start .shutdown :: es₁)).2) :
    ClosedBy id (unused orders adapter policy factories fallback) es₀ es₁ := by
  refine closedBy_of_run (orderly_new _ _ _ _) (loads_new orders _ _ _ _ 0) (draining_new _ _ _ _)
    ⟨fun hi => ?_, rfl, OnceMap.indexed_empty⟩ hid h₀ h₁ hret
  simp [unused, stage?_new] at hi

/-- A create comes as far as its attach, and is left there. -/
def lateCreate : List Event :=
  [.start (.create ⟨"slot1"⟩), .resume ⟨0, 0⟩, .resume ⟨0, 0⟩, .resolved ⟨0, 0⟩ (.ok ⟨"vendor"⟩),
    .resume ⟨0, 0⟩, .loaded 0 (.ok ())]

/-- The attach succeeds after a shutdown was made, and is undone before the shutdown has its
turn. -/
def lateAttach : List Event :=
  [.attached 0 (.ok ⟨7⟩) default, .detached 0 (.ok ()), .resume ⟨1, 0⟩, .unloaded 1 (.ok ())]

theorem shutdown_closes_late_create :
    ((unused .asPut .static ⟨true, false⟩ [] (some 0)).run lateCreate).1.nextCall = 1 ∧
      .start .shutdown ∉ lateCreate ∧ .start .shutdown ∉ lateAttach ∧
      .reply 1 (.shutDown (.ok ())) ∈ ((unused .asPut .static ⟨true, false⟩ [] (some 0)).run
        (lateCreate ++ .start .shutdown :: lateAttach)).2 ∧
      ClosedBy 1 (unused .asPut .static ⟨true, false⟩ [] (some 0)) lateCreate lateAttach := by
  have hid : ((unused .asPut .static ⟨true, false⟩ [] (some 0)).run lateCreate).1.nextCall = 1 := by
    decide
  have h₀ : .start .shutdown ∉ lateCreate := by simp [lateCreate]
  have h₁ : .start .shutdown ∉ lateAttach := by simp [lateAttach]
  have hret : .reply 1 (.shutDown (.ok ())) ∈ ((unused .asPut .static ⟨true, false⟩ [] (some 0)).run
      (lateCreate ++ .start .shutdown :: lateAttach)).2 := List.mem_of_getElem? (i := 6) rfl
  exact ⟨hid, h₀, h₁, hret, shutdown_closes _ _ _ _ _ _ _ 1 _ hid h₀ h₁ hret⟩

end Registry

end SlotBroker
