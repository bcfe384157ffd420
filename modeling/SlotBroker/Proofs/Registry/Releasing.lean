import SlotBroker.Proofs.Registry.Numbering
import SlotBroker.Proofs.Registry.Unloading

/-!
# What a shutdown leaves behind

A shutdown goes through the sessions that were live when it had drained. As long as no detach of its
own fails, every session that is still live is the present one or is still to come (`Covered`), so
none is left when it comes to the backends, and the step in which it clears the sessions changes
nothing: sessions come and go one at a time (`Segment.exact`).
-/

namespace SlotBroker

/-- The sessions that a shutdown has still before it. -/
def Stage.left? : Stage → Option (List Oid)
  | .releasing oid _ _ rest _ => some (oid :: rest)
  | .unloading _ _ _ => some []
  | _ => none

theorem Stage.undrained?_of_left? {s : Stage} {oids : List Oid} (h : s.left? = some oids) :
    s.undrained? = some [] := by
  cases s <;> simp_all [left?, undrained?]

namespace Registry

/-- Every shutdown that has drained has all live sessions still before it. -/
def Covered (r : Registry) : Prop :=
  ∀ i s oids, r.stage? i = some s → s.left? = some oids → ∀ x ∈ r.sessions, x.info.oid ∈ oids

/-- The event is no failed release. -/
def Releasable (r : Registry) (e : Event) : Prop :=
  ∀ i oid l rest errors x, e = .detached i (.error x) →
    r.stage? i ≠ some (.releasing oid l true rest errors)

/-- How a step changes the sessions as long as no release fails. -/
inductive Exact (r : Registry) (e : Event) (r' : Registry) : Prop
  | same (h : r'.sessions = r.sessions)
  | commits {id l name b oid h now} (he : e = .attached id (.ok h) now)
      (hs : r.stage? id = some (.creating l (.attaching name b oid)))
      (h : r'.sessions = insertSession ⟨⟨oid, l, name, h, now⟩, b⟩ r.sessions)
  | ends {id s oid} (he : e = .detached id (.ok ())) (hs : r.stage? id = some s)
      (hd : s.detaches? = some oid)
      (h : r'.sessions = r.sessions.filter fun s => !(s.info.oid == oid))

variable {r r' : Registry} {e : Event} {fx : List Effect} {id i : CallId}
  {errors : List BrokerError} {oids : List Oid}

theorem Covered.vacant {b : InstanceId} {cells : List Nat} (h : Covered r) (hd : Draining r)
    (hs : r.stage? i = some (.unloading b cells errors)) : Vacant r where
  drained := hd _ _ _ hs rfl
  sessions := List.eq_nil_iff_forall_not_mem.2 fun x hx =>
    absurd (h _ _ _ hs rfl x hx) List.not_mem_nil

/-! ## Going on to the next session -/

theorem find?_ne_none {x : LiveSession} (hx : x ∈ r.sessions) : r.find? x.info.oid ≠ none :=
  fun hn => List.find?_eq_none.1 hn x hx (beq_self_eq_true _)

/-- A shutdown that has all live sessions before it loses none on its way to the next. -/
theorem Releases.covers (h : Releases r id errors oids r' fx)
    (hc : ∀ x ∈ r.sessions, x.info.oid ∈ oids) : r'.sessions = r.sessions ∧
      ∀ s oids, r'.stage? id = some s → s.left? = some oids →
        ∀ x ∈ r'.sessions, x.info.oid ∈ oids := by
  cases h with
  | stands hg hf =>
    refine ⟨rfl, fun s oids hs hl x hx => ?_⟩
    simp only [stage?_setStage, if_true, Option.some.injEq] at hs
    subst hs
    cases hl
    rcases List.mem_append.1 (hc x hx) with hm | hm
    · exact absurd (hg _ hm) (find?_ne_none hx)
    · exact hm
  | unloads hg h =>
    have hnone : r'.sessions = [] := h.frame.1
    refine ⟨?_, fun s oids _ _ x hx => ?_⟩
    · rw [hnone]
      exact (List.eq_nil_iff_forall_not_mem.2 fun x hx => find?_ne_none hx (hg _ (hc x hx))).symm
    · rw [hnone] at hx
      cases hx

theorem Drains.covers {ls : List Location} (h : Drains r id ls r' fx) :
    r'.sessions = r.sessions ∧ ∀ s oids, r'.stage? id = some s → s.left? = some oids →
      ∀ x ∈ r'.sessions, x.info.oid ∈ oids := by
  cases h with
  | stands =>
    refine ⟨rfl, fun s oids hs hl => ?_⟩
    simp only [stage?_setStage, if_true, Option.some.injEq] at hs
    subst hs
    cases hl
  | releases h => exact h.covers fun x hx => List.mem_map.2 ⟨x, hx, rfl⟩

theorem Passes.covers {oid : Oid} {l : Location} {d : Bool} {rest : List Oid} {r₀ : Registry}
    (hp : Passes r e i oid d r₀) (hr : Releasable r e)
    (hs : r.stage? i = some (.releasing oid l d rest errors))
    (hc : ∀ x ∈ r.sessions, x.info.oid ∈ oid :: rest) : ∀ x ∈ r₀.sessions, x.info.oid ∈ rest := by
  intro x hx
  cases hp with
  | gone hn =>
    rcases List.mem_cons.1 (hc x hx) with rfl | hm
    · exact absurd hn (find?_ne_none hx)
    · exact hm
  | released =>
    obtain ⟨hx, hne⟩ := List.mem_filter.1 hx
    rcases List.mem_cons.1 (hc x hx) with rfl | hm
    · simp at hne
    · exact hm
  | failed he => exact absurd hs (hr _ _ _ _ _ _ he)

theorem Segment.exact (hc : Covered r) (ho : Orderly r) (hr : Releasable r e)
    (hg : Segment r e r' fx) : Exact r e r' := by
  cases hg.shuts ho with
  | other _ hfx =>
    cases hg.rosters ho with
    | same h => exact .same h
    | commits he hs _ _ _ h => exact .commits he hs h
    | ends he hs hd h => exact .ends he hs hd h
    | clears h => exact absurd h (not_clears hfx)
  | made _ h => exact .same h.covers.1
  | drained _ _ h => exact .same h.covers.1
  | detaches => exact .same rfl
  | releases hs hp h =>
    have hrest := (h.covers (hp.covers hr hs (hc _ _ _ hs rfl))).1
    cases hp with
    | gone => exact .same hrest
    | released he => exact .ends he hs rfl hrest
    | failed he => exact absurd hs (hr _ _ _ _ _ _ he)
  | unloaded _ h => exact .same h.frame.1
  | dropped _ _ he =>
    cases hg.rosters ho with
    | same h => exact .same h
    | commits he' => cases he.symm.trans he'
    | ends he' => cases he.symm.trans he'
    | clears h => exact absurd h (not_clears (by simp))

theorem Covered.segment (hc : Covered r) (hd : Draining r) (ho : Orderly r) (hr : Releasable r e)
    (hg : Segment r e r' fx) : Covered r' := by
  intro i s oids hi hl
  have kept (hi : r.stage? i = some s) : ∀ x ∈ r'.sessions, x.info.oid ∈ oids := fun x hx =>
    hc i s oids hi hl x ((hd i s [] hi (Stage.undrained?_of_left? hl)).sessions ho hg x hx)
  cases hg.shuts ho with
  | other hst =>
    exact kept ((hst i s (Stage.shuts_of_undrained? (Stage.undrained?_of_left? hl))).1 hi)
  | made _ h =>
    by_cases hne : i = r.nextCall
    · exact h.covers.2 s oids (hne ▸ hi) hl
    · exact kept (by rw [h.stage? hne] at hi; exact hi)
  | @drained j _ _ _ _ hst hh h =>
    by_cases hne : i = j
    · exact h.covers.2 s oids (hne ▸ hi) hl
    · exact kept (by rw [h.stage? hne] at hi; exact hi)
  | @detaches j _ _ _ _ _ hst =>
    by_cases hne : i = j
    · subst hne
      simp only [stage?_setStage, if_true, Option.some.injEq] at hi
      subst hi
      exact hc i _ _ hst hl
    · exact kept (by simpa [Ne.symm hne] using hi)
  | @releases j _ _ _ _ _ _ r₀ _ _ hst hp h =>
    by_cases hne : i = j
    · exact (h.covers (hp.covers hr hst (hc _ _ _ hst rfl))).2 s oids (hne ▸ hi) hl
    · have h₀ : r₀.stage? i = r.stage? i := by cases hp <;> rfl
      exact kept (by rw [h.stage? hne, stage?_leaveLine, h₀] at hi; exact hi)
  | @unloaded j _ _ _ _ _ _ hst h =>
    by_cases hne : i = j
    · intro x hx
      rw [h.frame.1] at hx
      exact absurd (hc _ _ _ hst rfl x hx) List.not_mem_nil
    · exact kept (by rw [h.stage? hne] at hi; exact hi)
  | dropped _ _ _ h =>
    rw [h] at hi
    split at hi
    · cases hi
    · exact kept hi

theorem covered_new (adapter : Adapter) (policy : Policy) (order : CallId → Arrangement Location)
    (t : BackendTable) :
    Covered (new adapter policy order t) := by
  intro i s oids hi
  simp [stage?_new] at hi

end Registry

end SlotBroker
