import SlotBroker.Proofs.Registry.Answers

/-!
# Removing some of the sessions

When nothing happens but that some sessions are removed, and they detach, the others stay as they
are (`Withdrawn`). Once every removal has returned the sessions that it was for are gone, and the
registry has exactly those that were to stay (`withdrawn_sessions`).
-/

namespace SlotBroker

namespace Registry

/-- Only sessions with some oids are removed, and they detach. -/
def Withdraws (oids : List Oid) : Event → Prop
  | .start (.remove oid) => oid ∈ oids
  | .resume _ => True
  | .detached _ (.ok ()) => True
  | _ => False

/-- How removals of sessions with some oids have gone so far. -/
structure Withdrawn (r₀ : Registry) (oids : List Oid) (es : List Event) (r : Registry) : Prop where
  removing : ∀ {i s}, r.stage? i = some s → ∃ oid l d, s = .removing oid l d ∧ oid ∈ oids
  kept : ∀ x ∈ r₀.sessions, x.info.oid ∉ oids → x ∈ r.sessions
  old : ∀ x ∈ r.sessions, x ∈ r₀.sessions
  /-- A session that was to be removed is gone, or its removal is under way. -/
  gone : ∀ {oid}, .start (.remove oid) ∈ es →
    r.find? oid = none ∨ ∃ i l d, r.stage? i = some (.removing oid l d)

variable {r r' r₀ : Registry} {e : Event} {es : List Event} {fx : List Effect} {i : CallId}
  {oids : List Oid} {oid : Oid} {l : Location}

theorem withdrawn_start (h₀ : ∀ i, r₀.stage? i = none) : Withdrawn r₀ oids [] r₀ where
  removing hs := by
    rw [h₀] at hs
    cases hs
  kept x hx _ := hx
  old x hx := hx
  gone h := by cases h

theorem Withdrawn.same (h : Withdrawn r₀ oids es r) (he : ∀ c, e ≠ .start c) :
    Withdrawn r₀ oids (es ++ [e]) r where
  removing := h.removing
  kept := h.kept
  old := h.old
  gone hm := by
    rcases List.mem_append.1 hm with hm | hm
    · exact h.gone hm
    · exact absurd (List.mem_singleton.1 hm).symm (he _)

/-- A removal moves on, or ends with its session gone. -/
theorem Withdrawn.moves {s : Option Stage} {d : Bool} (h : Withdrawn r₀ oids es r)
    (he : ∀ c, e ≠ .start c) (hi : r.stage? i = some (.removing oid l d))
    (hs : ∀ j, r'.stage? j = if i = j then s else r.stage? j)
    (hd : s = some (.removing oid l true) ∨ s = none ∧ r'.find? oid = none)
    (hold : ∀ x ∈ r'.sessions, x ∈ r.sessions)
    (hkept : ∀ x ∈ r.sessions, x.info.oid ∉ oids → x ∈ r'.sessions)
    (hgone : ∀ o, r.find? o = none → r'.find? o = none) :
    Withdrawn r₀ oids (es ++ [e]) r' where
  removing {j s'} hj := by
    rw [hs] at hj
    split at hj
    · obtain ⟨oid', l', d', heq, hm⟩ := h.removing hi
      cases heq
      rcases hd with rfl | ⟨rfl, -⟩
      · cases hj
        exact ⟨_, _, _, rfl, hm⟩
      · cases hj
    · exact h.removing hj
  kept x hx hm := hkept x (h.kept x hx hm) hm
  old x hx := h.old x (hold x hx)
  gone {o} hm := by
    rcases (h.same he).gone hm with hf | ⟨j, l', d', hj⟩
    · exact .inl (hgone o hf)
    · by_cases hij : i = j
      · subst hij
        rw [hi] at hj
        cases hj
        rcases hd with rfl | ⟨-, hf⟩
        · exact .inr ⟨i, l, true, by rw [hs, if_pos rfl]⟩
        · exact .inl hf
      · exact .inr ⟨j, l', d', by rw [hs, if_neg hij, hj]⟩

/-- A session is to be removed: it is gone already, or its removal is under way now. -/
theorem Withdrawn.made (h : Withdrawn r₀ oids es r) (ho : Orderly r) (hm : oid ∈ oids) :
    Withdrawn r₀ oids (es ++ [.start (.remove oid)]) (r.step (.start (.remove oid))).1 := by
  cases hf : r.find? oid with
  | none =>
    have hstep : (r.step (.start (.remove oid))).1 = { r with nextCall := r.nextCall + 1 } := by
      simp only [step, start, hf, answerNow]
    rw [hstep]
    refine ⟨h.removing, h.kept, h.old, fun {o} hmem => ?_⟩
    rcases List.mem_append.1 hmem with hmem | hmem
    · exact h.gone hmem
    · cases List.mem_singleton.1 hmem
      exact .inl hf
  | some x =>
    have hstep : (r.step (.start (.remove oid))).1 =
        (r.enroll (.removing oid x.info.location false)).standAt x.info.location r.nextCall := by
      simp only [step, start, hf]
    have hs (j : CallId) : (r.step (.start (.remove oid))).1.stage? j =
        if r.nextCall = j then some (.removing oid x.info.location false) else r.stage? j := by
      rw [hstep, stage?_standAt, stage?_enroll]
    have hx : (r.step (.start (.remove oid))).1.sessions = r.sessions := by
      rw [hstep]
      rfl
    refine ⟨fun {j s} hj => ?_, fun y hy hn => hx ▸ h.kept y hy hn, fun y hy => h.old y (hx ▸ hy),
      fun {o} hmem => ?_⟩
    · rw [hs] at hj
      split at hj
      · cases hj
        exact ⟨_, _, _, rfl, hm⟩
      · exact h.removing hj
    · rcases List.mem_append.1 hmem with hmem | hmem
      · rcases h.gone hmem with hg | ⟨j, l, d, hj⟩
        · exact .inl (by rw [find?, hx]; exact hg)
        · exact .inr ⟨j, l, d, by rw [hs, if_neg (Nat.ne_of_gt (ho.fresh hj)), hj]⟩
      · cases List.mem_singleton.1 hmem
        exact .inr ⟨r.nextCall, _, _, by rw [hs, if_pos rfl]⟩

theorem Withdrawn.segment (h : Withdrawn r₀ oids es r) (he : Withdraws oids e)
    (hn : ∀ c, e ≠ .start c) (hg : Segment r e r' fx) : Withdrawn r₀ oids (es ++ [e]) r' := by
  have no {i s} (hs : r.stage? i = some s) (hno : ∀ oid l d, s ≠ .removing oid l d) : False := by
    obtain ⟨oid, l, d, rfl, -⟩ := h.removing hs
    exact hno oid l d rfl
  cases hg with
  | idle => exact h.same hn
  | removeGone hs _ hf =>
    exact h.moves hn hs (fun _ => stage?_endCall _ _ _) (.inr ⟨rfl, hf⟩) (fun _ => id)
      (fun _ hx _ => hx) fun _ => id
  | removeDetaches hs =>
    exact h.moves hn hs (fun _ => stage?_setStage _ _ _ _) (.inl rfl) (fun _ => id)
      (fun _ hx _ => hx) fun _ => id
  | @removed i oid l hs =>
    obtain ⟨_, _, _, heq, hm⟩ := h.removing hs
    cases heq
    refine h.moves hn hs (fun _ => stage?_endCall _ _ _) (.inr ⟨rfl, ?_⟩)
      (fun x hx => (List.mem_filter.1 hx).1) (fun x hx hno => ?_) fun o hf => ?_
    · exact (find?_eraseSession oid oid r).trans (if_pos rfl)
    · refine List.mem_filter.2 ⟨hx, ?_⟩
      have hne : x.info.oid ≠ oid := fun h => hno (h ▸ hm)
      simpa using hne
    · refine (find?_eraseSession oid o r).trans ?_
      split
      · rfl
      · exact hf
  | refused | listMade | createMade | removeMade | shutdownMade => exact absurd rfl (hn _)
  | partJoins hs | partReady hs | partAsks hs | createClosed hs | createBusy hs | createJoins hs
  | createReady hs | createAsks hs | loadStarts hs | unserved hs | fetched hs | drained hs
  | releaseGone hs | releaseDetaches hs | reclaims hs | undone hs | released hs | reclaimed hs =>
    exact (no hs fun _ _ _ => Stage.noConfusion).elim
  | _ => exact he.elim

theorem Withdrawn.run (ho : Orderly r₀) (h₀ : ∀ i, r₀.stage? i = none)
    (he : ∀ e ∈ es, Withdraws oids e) : Withdrawn r₀ oids es (r₀.run es).1 := by
  induction es using List.reverseRecOn with
  | nil => exact withdrawn_start h₀
  | append_singleton es e ih =>
    obtain ⟨hes, hlast⟩ := List.forall_mem_append.1 he
    have hfe := hlast e (List.mem_singleton_self e)
    rw [run_concat]
    -- A `Segment` may be idle at any event, but a removal that is made is not.
    by_cases hn : ∀ c, e ≠ .start c
    · exact (ih hes).segment hfe hn (step_segment _ e)
    · obtain ⟨c, rfl⟩ := not_forall_not.1 hn
      cases c with
      | remove oid => exact (ih hes).made (ho.run es) hfe
      | list | create | shutdown => exact hfe.elim

theorem Sorted.nodup {xs : List LiveSession} (h : Sorted xs) : xs.Nodup := by
  refine List.Pairwise.imp (fun {x y} hlt => ?_) h
  rintro rfl
  exact UInt64.lt_irrefl _ hlt

/-- The sessions of a registry are known by what is among them. -/
theorem Sorted.ext {xs ys : List LiveSession} (hx : Sorted xs) (hy : Sorted ys)
    (h : ∀ x, x ∈ xs ↔ x ∈ ys) : xs = ys := by
  have hp := (List.perm_ext_iff_of_nodup hx.nodup hy.nodup).2 h
  refine hp.eq_of_pairwise (fun x y _ _ hxy hyx => ?_) hx hy
  exact absurd (Oid.lt_trans hxy hyx) (UInt64.lt_irrefl _)

/-- Once all removals have returned, the sessions with other oids are those that are left. -/
theorem withdrawn_sessions (ho : Orderly r₀) (hx : Sorted r₀.sessions)
    (h₀ : ∀ i, r₀.stage? i = none) (he : ∀ e ∈ es, Withdraws oids e)
    (hall : ∀ oid ∈ oids, .start (.remove oid) ∈ es) (hdone : ∀ i, (r₀.run es).1.stage? i = none) :
    (r₀.run es).1.sessions = r₀.sessions.filter fun x => x.info.oid ∉ oids := by
  have h := Withdrawn.run ho h₀ he
  have hx' : Sorted (r₀.run es).1.sessions :=
    (run_induction (P := fun r => Orderly r ∧ Sorted r.sessions) ⟨ho, hx⟩
      (fun h hg => ⟨h.1.segment hg, h.2.segment h.1 hg⟩) es).2
  refine hx'.ext (hx.filter _) fun x => ?_
  rw [List.mem_filter, decide_eq_true_eq]
  refine ⟨fun hm => ⟨h.old x hm, fun hoid => ?_⟩, fun ⟨hm, hno⟩ => h.kept x hm hno⟩
  rcases h.gone (hall _ hoid) with hf | ⟨i, l, d, hi⟩
  · have hf' : (r₀.run es).1.find? x.info.oid = some x := hx'.find? hm
    rw [hf] at hf'
    cases hf'
  · rw [hdone] at hi
    cases hi

end Registry

end SlotBroker
