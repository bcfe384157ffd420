import SlotBroker.Proofs.Registry.Creation
import SlotBroker.Proofs.Registry.Roster

/-!
# One session at a location

Where only one session is allowed at a location, no location ever has two. A create looks for a
session once, when its turn in the line of the location has come, and puts its own among the others
long after. What it saw still holds then: it has held the location all the time (`Exclusive.free`),
and nobody else puts a session there.
-/

namespace SlotBroker

namespace Registry

variable {r r' : Registry} {e : Event} {fx : List Effect}

structure Exclusive (r : Registry) : Prop where
  policy : r.policy.allowMultipleSessions = false
  order : Orderly r
  sorted : Sorted r.sessions
  /-- There is no session where a create is at work. -/
  free : ∀ {i l s}, r.stage? i = some (.creating l s) → s ≠ .locking →
    ∀ x ∈ r.sessions, x.info.location ≠ l
  apart : r.sessions.Pairwise fun x y => x.info.location ≠ y.info.location

theorem sessionAt?_none {l : Location} (h : r.sessionAt? l = none) :
    ∀ x ∈ r.sessions, x.info.location ≠ l := by
  intro x hx hl
  simp only [sessionAt?, Option.map_eq_none_iff, List.find?_eq_none] at h
  exact h x hx (by simpa using hl)

theorem sessionAt?_some {l : Location} {oid : Oid} (hs : Sorted r.sessions)
    (h : r.sessionAt? l = some oid) : ∃ s, r.getSession oid = .ok s ∧ s.location = l := by
  simp only [sessionAt?, Option.map_eq_some_iff] at h
  obtain ⟨x, hx, rfl⟩ := h
  have hl := List.find?_some hx
  refine ⟨x.info, ?_, by simpa using hl⟩
  have hf : r.find? x.info.oid = some x := hs.find? (List.mem_of_find?_eq_some hx)
  simp only [getSession, hf]

theorem apart_insertSession {s : LiveSession} {xs : List LiveSession}
    (hs : ∀ x ∈ xs, x.info.location ≠ s.info.location)
    (h : xs.Pairwise fun x y => x.info.location ≠ y.info.location) :
    (insertSession s xs).Pairwise fun x y => x.info.location ≠ y.info.location := by
  induction xs with
  | nil => exact List.pairwise_singleton _ _
  | cons y ys ih =>
    obtain ⟨hy, hys⟩ := List.pairwise_cons.1 h
    obtain ⟨hsy, hsys⟩ := List.forall_mem_cons.1 hs
    simp only [insertSession]
    split
    · exact List.pairwise_cons.2 ⟨fun x hx => (hs x hx).symm, h⟩
    · split
      · exact List.pairwise_cons.2 ⟨fun x hx => (hsys x hx).symm, hys⟩
      · refine List.pairwise_cons.2 ⟨fun x hx => ?_, ih hsys hys⟩
        rcases mem_insertSession hx with rfl | hx
        · exact hsy
        · exact hy x hx

theorem Exclusive.free_before (h : Exclusive r) {i : CallId} {l : Location} {s : CreateStage}
    (hc : Creates r e fx i l s) (hs : s ≠ .locking) : ∀ x ∈ r.sessions, x.info.location ≠ l := by
  cases hc with
  | same hi => exact h.free hi hs
  | made => exact absurd rfl hs
  | joins _ _ _ hp => exact sessionAt?_none (hp h.policy)
  | @seeks s₀ _ hi hs₀ | @attaches s₀ _ _ hi hs₀ =>
    refine h.free hi ?_
    rintro rfl
    exact hs₀
  | undoes hi => exact h.free hi CreateStage.noConfusion

theorem Exclusive.segment (h : Exclusive r) (hg : Segment r e r' fx) : Exclusive r' where
  policy := by rw [hg.policy, h.policy]
  order := h.order.segment hg
  sorted := h.sorted.segment h.order hg
  free {i l s} hi hs := by
    have hc := hg.creating hi
    have old := h.free_before hc hs
    cases hg.rosters h.order with
    | same hx => exact hx ▸ old
    | @commits id l' name b oid hd now _ hid _ _ hend hx =>
      rw [hx]
      intro x hmem
      rcases mem_insertSession hmem with rfl | hmem
      · -- The create that commits holds its location, so the other one is elsewhere.
        rintro rfl
        have hd := hc.head h.order hs
        rw [h.order.head hid rfl, Option.some.injEq] at hd
        rw [← hd, hend] at hi
        cases hi
      · exact old x hmem
    | ends _ _ _ hx =>
      rw [hx]
      exact fun x hmem => old x (List.mem_filter.1 hmem).1
    | clears _ hx => simp [hx]
  apart := by
    cases hg.rosters h.order with
    | same hx => exact hx ▸ h.apart
    | commits _ hid _ _ _ hx =>
      exact hx ▸ apart_insertSession (h.free hid CreateStage.noConfusion) h.apart
    | ends _ _ _ hx => exact hx ▸ List.Pairwise.filter _ h.apart
    | clears _ hx => exact hx ▸ List.Pairwise.nil

theorem exclusive_new (adapter : Adapter) (fresh : Bool) (order : CallId → Arrangement Location)
    (t : BackendTable) :
    Exclusive (new adapter ⟨false, fresh⟩ order t) where
  policy := rfl
  order := orderly_new adapter _ order t
  sorted := List.Pairwise.nil
  free hi := by simp [stage?_new] at hi
  apart := List.Pairwise.nil

/-- A create that finds its location busy names a session that is live there. What the platform
answers is passed on as it is, even if it is that. -/
theorem Segment.busy (h : Exclusive r) (hg : Segment r e r' fx) {id : CallId} {l : Location}
    {oid : Oid} (hfx : Effect.reply id (.created (.error (.locationBusy l oid))) ∈ fx) :
    (∃ part, e = .resolved ⟨id, part⟩ (.error (.locationBusy l oid))) ∨
      r.stage? id = some (.creating l .locking) ∧
        ∃ s, r.getSession oid = .ok s ∧ s.location = l := by
  cases hg with
  | createBusy hs _ _ _ hat =>
    simp only [List.mem_singleton, Effect.reply.injEq, Outcome.created.injEq, Except.error.injEq,
      BrokerError.locationBusy.injEq] at hfx
    obtain ⟨rfl, rfl, rfl⟩ := hfx
    exact .inr ⟨hs, sessionAt?_some h.sorted hat⟩
  | @resolveFailed t l' cell err hs =>
    simp only [List.mem_singleton, Effect.reply.injEq, Outcome.created.injEq,
      Except.error.injEq] at hfx
    obtain ⟨rfl, rfl⟩ := hfx
    exact .inl ⟨t.part, rfl⟩
  | refused h => cases h <;> simp at hfx
  | enumerated _ h | partReady _ _ _ h | partResolved _ _ h => exact (h.wide hfx).elim
  | unloaded _ h | unloadFailed _ h => exact (h.wide hfx).elim
  | shutdownMade h | drained _ _ h | releaseGone _ _ _ h | released _ h | releaseFailed _ h =>
    exact (h.wide hfx).elim
  | _ => simp at hfx

theorem length_filter_le_one {xs : List Session}
    (h : xs.Pairwise fun x y => x.location ≠ y.location) (l : Location) :
    (xs.filter fun s => s.location == l).length ≤ 1 := by
  have hf := List.Pairwise.filter (fun s : Session => s.location == l) h
  have hl : ∀ x ∈ xs.filter fun s => s.location == l, x.location = l := fun x hx => by
    simpa using (List.mem_filter.1 hx).2
  generalize (xs.filter fun s => s.location == l) = ys at hf hl ⊢
  rcases ys with _ | ⟨x, _ | ⟨y, ys⟩⟩
  · exact Nat.zero_le 1
  · exact Nat.le_refl 1
  · have hxy := (List.pairwise_cons.1 hf).1 y (by simp)
    exact absurd ((hl x (by simp)).trans (hl y (by simp)).symm) hxy

/-- Where only one session is allowed at a location, every location has at most one at every moment,
and a create that finds its location busy is told of the session that is live there. An error that
the platform answers is handed on as it is. -/
theorem single_session (adapter : Adapter) (fresh : Bool) (order : CallId → Arrangement Location)
    (t : BackendTable) (es : List Event) :
    let r := ((new adapter ⟨false, fresh⟩ order t).run es).1
    (∀ l, (r.sessionList.filter fun s => s.location == l).length ≤ 1) ∧
      ∀ e id l oid, .reply id (.created (.error (.locationBusy l oid))) ∈ (r.step e).2 →
        (∃ part, e = .resolved ⟨id, part⟩ (.error (.locationBusy l oid))) ∨
          r.stage? id = some (.creating l .locking) ∧
            ∃ s, r.getSession oid = .ok s ∧ s.location = l := by
  intro r
  have h : Exclusive r := run_induction (exclusive_new adapter fresh order t) Exclusive.segment es
  refine ⟨length_filter_le_one ?_, fun e id l oid hfx => (step_segment r e).busy h hfx⟩
  rw [sessionList, List.pairwise_map]
  exact h.apart

end Registry

end SlotBroker
