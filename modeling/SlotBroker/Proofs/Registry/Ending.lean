import SlotBroker.Proofs.Registry.Numbering

/-!
# How a session ends

A session ends when a call has detached it, or when a shutdown ends all there are (`Ends`). Its oid
is dead then and stays so (`Dead`), and once a call has detached it no other call is detaching it
any more (`Detached`). Until then a session stays as it is, whatever is done (`Sound.session`).
-/

namespace SlotBroker

namespace Registry

/-- The session that an event ends: the call that was detaching it has done so. -/
def ending? (r : Registry) : Event → Option Oid
  | .detached id (.ok ()) => (r.stage? id).bind Stage.detaches?
  | _ => none

/-- A step ends the session with an oid: a call has detached it, or a shutdown ends all there are.
-/
def Ends (oid : Oid) (r : Registry) (e : Event) : Prop :=
  r.ending? e = some oid ∨ Clears r (r.step e).2

/-- Some step of a run is of a kind. -/
def Occurs (P : Registry → Event → Prop) : Registry → List Event → Prop
  | _, [] => False
  | r, e :: es => P r e ∨ Occurs P (r.step e).1 es

variable {r r' : Registry} {e : Event} {es : List Event} {fx : List Effect} {id i j : CallId}
  {oid : Oid} {l : Location} {s : Stage} {x : LiveSession}

/-! ## Steps that end sessions -/

theorem Unloads.clears_id {errors : List BrokerError} {cells : List Nat} {r₀ : Registry}
    (h : Unloads r₀ id errors cells r' fx) (hc : Clears r fx) :
    ∀ b cells errors, r.stage? id ≠ some (.unloading b cells errors) := by
  obtain ⟨j, hfx, hj⟩ := hc
  rcases h.effects with ⟨b, rfl⟩ | ⟨o, rfl⟩ <;> simp at hfx
  · exact hfx ▸ hj
  · exact hfx ▸ hj

theorem Releases.cleared {errors : List BrokerError} {oids : List Oid} {r₀ : Registry}
    (h : Releases r₀ id errors oids r' fx) (hc : Clears r fx) : r'.sessions = [] := by
  cases h with
  | stands =>
    obtain ⟨_, hfx, -⟩ := hc
    simp at hfx
  | unloads _ h => exact h.frame.1

theorem Drains.cleared {ls : List Location} {r₀ : Registry} (h : Drains r₀ id ls r' fx)
    (hc : Clears r fx) : r'.sessions = [] := by
  cases h with
  | stands =>
    obtain ⟨_, hfx, -⟩ := hc
    simp at hfx
  | releases h => exact h.cleared hc

theorem Segment.cleared (ho : Orderly r) (hg : Segment r e r' fx) (hc : Clears r fx) :
    r'.sessions = [] := by
  cases hg.shuts ho with
  | other _ hfx => exact absurd hc (not_clears hfx)
  | made _ h => exact h.cleared hc
  | drained _ _ h => exact h.cleared hc
  | detaches => exact absurd hc (not_clears (by simp [Effect.shuts]))
  | releases _ _ h => exact h.cleared hc
  | unloaded hs h => exact absurd hs (h.clears_id hc _ _ _)
  | dropped => exact absurd hc (not_clears (by simp))

theorem find?_eraseSession (oid oid' : Oid) (r : Registry) :
    (r.eraseSession oid).find? oid' = if oid = oid' then none else r.find? oid' := by
  simp only [find?, eraseSession, List.find?_filter]
  split
  · rename_i h
    simp [h]
  · rename_i h
    congr 1
    funext x
    by_cases hx : x.info.oid = oid'
    · simp [hx, Ne.symm h]
    · simp [hx]

theorem step_removed (hs : r.stage? id = some (.removing oid l true)) :
    (r.step (.detached id (.ok ()))).1 = ((r.eraseSession oid).leaveLine l id).endCall id := by
  have hs' : Assoc.get? id r.calls = some (.removing oid l true) := hs
  simp only [step, hs', removeDetached, endRemove]

theorem step_released {rest : List Oid} {errors : List BrokerError}
    (hs : r.stage? id = some (.releasing oid l true rest errors)) :
    Releases ((r.eraseSession oid).leaveLine l id) id errors rest
      (r.step (.detached id (.ok ()))).1 (r.step (.detached id (.ok ()))).2 := by
  have hs' : Assoc.get? id r.calls = some (.releasing oid l true rest errors) := hs
  simp only [step, hs', releaseDetached]
  exact releaseNext_releases _ _ _ _

theorem Releases.find?_none {errors : List BrokerError} {oids : List Oid}
    (h : Releases r id errors oids r' fx) (hf : r.find? oid = none) : r'.find? oid = none := by
  cases h with
  | stands => exact hf
  | unloads _ h =>
    simp only [find?, h.frame.1]
    rfl

theorem Releases.detaches? {errors : List BrokerError} {oids : List Oid}
    (h : Releases r id errors oids r' fx) (hs : r'.stage? id = some s) : s.detaches? = none := by
  cases hd : s.detaches? with
  | none => rfl
  | some oid =>
    obtain ⟨l, ht, -⟩ := Stage.target?_of_detaches? hd
    rw [(h.target hs ht).1] at hd
    cases hd

/-- What an event does that ends a session: the session is gone, and its call detaches no more. -/
theorem ending_step (h : r.ending? e = some oid) :
    ∃ id s, e = .detached id (.ok ()) ∧ r.stage? id = some s ∧ s.detaches? = some oid ∧
      (r.step e).1.find? oid = none ∧
      (∀ i, i ≠ id → (r.step e).1.stage? i = r.stage? i) ∧
      ∀ s', (r.step e).1.stage? id = some s' → s'.detaches? = none := by
  unfold ending? at h
  split at h
  · rename_i id
    obtain ⟨s, hs, hd⟩ := Option.bind_eq_some_iff.1 h
    refine ⟨id, s, rfl, hs, hd, ?_⟩
    unfold Stage.detaches? at hd
    split at hd
    · rename_i l
      cases hd
      rw [step_removed hs]
      refine ⟨(find?_eraseSession oid oid r).trans (if_pos rfl), fun i hi => ?_, fun s' hs' => ?_⟩
      · simp [Ne.symm hi]
      · simp at hs'
    · rename_i l rest errors
      cases hd
      have hr := step_released hs
      have hf := (find?_eraseSession oid oid r).trans (if_pos rfl)
      refine ⟨hr.find?_none hf, fun i hi => ?_, fun s' hs' => ?_⟩
      · exact hr.stage? hi
      · exact hr.detaches? hs'
    · cases hd
  · cases h

/-! ## Dead oids -/

/-- The oid has been taken, and is neither with a create nor live any more. -/
structure Dead (oid : Oid) (r : Registry) : Prop where
  spent : Spent oid r
  gone : r.find? oid = none

/-- The session has been detached, and nobody is about to do so again. -/
structure Detached (oid : Oid) (r : Registry) : Prop where
  dead : Dead oid r
  alone : ∀ {i s}, r.stage? i = some s → s.detaches? ≠ some oid

theorem Dead.segment (h : Dead oid r) (ho : Orderly r) (hr : Room fx r) (hg : Segment r e r' fx) :
    Dead oid r' where
  spent := (hg.tries ho).spent hr h.spent
  gone := by
    have hf := h.gone
    simp only [find?] at hf ⊢
    cases hg.rosters ho with
    | same hs => rw [hs, hf]
    | @commits _ _ _ _ oid' _ _ _ ha _ _ _ hs =>
      have hne : oid' ≠ oid := by
        rintro rfl
        exact h.spent.attached ha
      rw [hs, find?_insertSession, if_neg hne, hf]
    | ends _ _ _ hs =>
      rw [hs, List.find?_eq_none]
      intro x hx
      exact List.find?_eq_none.1 hf x (List.mem_filter.1 hx).1
    | clears _ hs => rw [hs, List.find?_nil]

theorem Detached.segment (h : Detached oid r) (ho : Orderly r) (hr : Room fx r)
    (hg : Segment r e r' fx) : Detached oid r' where
  dead := h.dead.segment ho hr hg
  alone {i s} hi hd := by
    obtain ⟨l, ht, -⟩ := Stage.target?_of_detaches? hd
    cases hg.aims hi ht with
    | same hi => exact h.alone hi hd
    | found _ _ _ hn => simp [hn] at hd
    | turns _ _ _ hf =>
      rw [h.dead.gone] at hf
      cases hf

theorem Dead.run (h : Dead oid r) (hs : Sound r) (hl : Lasts r es) : Dead oid (r.run es).1 :=
  hs.run_induction Dead.segment hl h

theorem Detached.run (h : Detached oid r) (hs : Sound r) (hl : Lasts r es) :
    Detached oid (r.run es).1 :=
  hs.run_induction Detached.segment hl h

/-- A session that a call has detached is dead, and no other call was detaching it. -/
theorem Sound.detached (h : Sound r) (hl : Lasts r (e :: es)) (he : r.ending? e = some oid) :
    Detached oid (r.step e).1 := by
  have hg := step_segment r e
  obtain ⟨id, s, -, hs, hd, hf, hi, hid⟩ := ending_step he
  obtain ⟨l, ht, -⟩ := Stage.target?_of_detaches? hd
  have hsp := (h.numbered.target hs ht).1
  refine ⟨⟨(hg.tries h.order).spent (hl.cons h.order).1 hsp, hf⟩, fun {i s'} hi' hd' => ?_⟩
  by_cases hii : i = id
  · subst hii
    rw [hid s' hi'] at hd'
    cases hd'
  · rw [hi i hii] at hi'
    exact hii (h.numbered.once hi' hd' hs hd)

/-! ## Live oids -/

theorem mem_insertSession_of_mem {xs : List LiveSession} {y : LiveSession} (hx : x ∈ xs)
    (hne : y.info.oid ≠ x.info.oid) : x ∈ insertSession y xs := by
  induction xs with
  | nil => cases hx
  | cons z zs ih =>
    simp only [insertSession]
    split
    · exact List.mem_cons_of_mem _ hx
    · split
      · rename_i he
        rcases List.mem_cons.1 hx with rfl | hx
        · exact absurd he hne
        · exact List.mem_cons_of_mem _ hx
      · rcases List.mem_cons.1 hx with rfl | hx
        · exact List.mem_cons_self
        · exact List.mem_cons_of_mem _ (ih hx)

/-- A live session stays as it is in every step that does not end it. -/
theorem Sound.keeps (h : Sound r) (hx : x ∈ r.sessions) (he : ¬ Ends x.info.oid r e) :
    x ∈ (r.step e).1.sessions := by
  cases (step_segment r e).rosters h.order with
  | same hs => exact hs ▸ hx
  | commits _ ha _ _ _ hs =>
    rw [hs]
    refine mem_insertSession_of_mem hx ?_
    rintro rfl
    exact (h.numbered.live x hx).attached ha
  | @ends id s oid hd hs ho hss =>
    rw [hss, List.mem_filter]
    refine ⟨hx, ?_⟩
    simp only [Bool.not_eq_true', beq_eq_false_iff_ne]
    rintro rfl
    refine he (.inl ?_)
    rw [hd]
    simp only [ending?, hs, Option.bind_some, ho]
  | clears hc => exact absurd (.inr hc) he

theorem Sound.ends (h : Sound r) (hl : Lasts r (e :: es)) (hx : x ∈ r.sessions)
    (he : Ends x.info.oid r e) : Dead x.info.oid (r.step e).1 := by
  rcases he with he | hc
  · exact (h.detached hl he).dead
  · have hg := step_segment r e
    refine ⟨(hg.tries h.order).spent (hl.cons h.order).1 (h.numbered.live x hx), ?_⟩
    simp only [find?, hg.cleared h.order hc]
    rfl

/-- A live session stays as it is until a step ends it, and then it is dead. -/
theorem Sound.session (h : Sound r) (hl : Lasts r es) (hx : x ∈ r.sessions) :
    (¬ Occurs (Ends x.info.oid) r es → x ∈ (r.run es).1.sessions) ∧
      (Occurs (Ends x.info.oid) r es → Dead x.info.oid (r.run es).1) := by
  induction es generalizing r with
  | nil => exact ⟨fun _ => hx, fun h => h.elim⟩
  | cons e es ih =>
    have hl' := (hl.cons h.order).2
    by_cases he : Ends x.info.oid r e
    · exact ⟨fun hn => absurd (.inl he) hn, fun _ => (h.ends hl hx he).run (h.step hl) hl'⟩
    · obtain ⟨h₁, h₂⟩ := ih (h.step hl) hl' (h.keeps hx he)
      exact ⟨fun hn => h₁ fun ho => hn (.inr ho), fun ho => h₂ (ho.resolve_left he)⟩

end Registry

end SlotBroker
