import SlotBroker.Proofs.Registry.Creation
import SlotBroker.Proofs.Registry.Roster

/-!
# How a shutdown goes on

`Segment.shuts` tells a step of a shutdown from a step of anything else, which leaves every
shutdown where it is.

A shutdown closes the registry first and then stands once in every line there is. A create at work
holds its location, so it is at one of the lines that are still to come (`Within`), and once the
shutdown has been through all of them no create is at work any more (`Drained`). Both stay so
whatever happens then: a create that has its turn later finds the registry closed.
-/

namespace SlotBroker

/-- A shutdown in progress. -/
def Stage.shuts : Stage → Prop
  | .draining _ _ | .releasing _ _ _ _ _ | .unloading _ _ _ => True
  | _ => False

/-- The locations in whose lines a shutdown has still to have its turn. -/
def Stage.undrained? : Stage → Option (List Location)
  | .draining l rest => some (l :: rest)
  | .releasing _ _ _ _ _ | .unloading _ _ _ => some []
  | _ => none

theorem Stage.shuts_of_undrained? {s : Stage} {ls : List Location}
    (h : s.undrained? = some ls) : s.shuts := by
  cases s <;> simp_all [undrained?, shuts]

/-- What only a shutdown does. -/
def Effect.shuts : Effect → Prop
  | .unload _ _ | .reply _ (.shutDown _) => True
  | _ => False

namespace Registry

/-- How a shutdown comes to go on with the sessions left to it: the present one is gone, or it is
released, or releasing it has failed. -/
inductive Passes (r : Registry) (e : Event) (i : CallId) (oid : Oid) : Bool → Registry → Prop
  | gone (h : r.find? oid = none) : Passes r e i oid false r
  | released (he : e = .detached i (.ok ())) : Passes r e i oid true (r.eraseSession oid)
  | failed {x} (he : e = .detached i (.error x)) : Passes r e i oid true r

/-- What a step does to the shutdowns. -/
inductive Shuts (r : Registry) (e : Event) : Registry → List Effect → Prop
  | other {r' fx} (hs : ∀ i s, s.shuts → (r'.stage? i = some s ↔ r.stage? i = some s))
      (hfx : ∀ x ∈ fx, ¬ x.shuts) : Shuts r e r' fx
  | made {r' fx} (he : e = .start .shutdown)
      (h : Drains { r with closed := true, nextCall := r.nextCall + 1 } r.nextCall
        r.drainOrder r' fx) : Shuts r e r' fx
  | drained {i l rest r' fx} (hs : r.stage? i = some (.draining l rest))
      (hh : r.holder? l = some i) (h : Drains (r.leaveLine l i) i rest r' fx) : Shuts r e r' fx
  | detaches {i oid l rest errors s} (hs : r.stage? i = some (.releasing oid l false rest errors))
      (hh : r.holder? l = some i) (h : r.find? oid = some s) :
      Shuts r e (r.setStage i (.releasing oid l true rest errors))
        [.detach i s.backend s.info.handle]
  | releases {i oid l d rest errors errors' r₀ r' fx}
      (hs : r.stage? i = some (.releasing oid l d rest errors)) (hp : Passes r e i oid d r₀)
      (h : Releases (r₀.leaveLine l i) i errors' rest r' fx) : Shuts r e r' fx
  | unloaded {i b cells errors errors' r' fx} (hs : r.stage? i = some (.unloading b cells errors))
      (h : Unloads r i errors' cells r' fx) : Shuts r e r' fx
  | dropped {i s tending} (hs : r.stage? i = some s) (ht : s.shuts) (he : e = .drop i tending)
      {r'} (h : ∀ j, r'.stage? j = if i = j then none else r.stage? j) : Shuts r e r' []

variable {r r' : Registry} {e : Event} {fx : List Effect} {id i : CallId}

theorem stage?_shuts {s s₀ : Stage} (hs : s.shuts) (h₀ : r.stage? id = some s₀) (hn : ¬ s₀.shuts)
    (hr : ∀ j, id ≠ j → r'.stage? j = r.stage? j) (hr' : ∀ s, r'.stage? id = some s → ¬ s.shuts) :
    r'.stage? i = some s ↔ r.stage? i = some s := by
  by_cases hi : id = i
  · subst hi
    refine ⟨fun h => absurd hs (hr' s h), fun h => absurd hs ?_⟩
    rw [← Option.some.inj (h₀.symm.trans h)]
    exact hn
  · rw [hr i hi]

theorem Segment.shuts (ho : Orderly r) (hg : Segment r e r' fx) : Shuts r e r' fx := by
  have alone {i : CallId} {s₀ : Stage} (hs : r.stage? i = some s₀) (hn : ¬ s₀.shuts)
      (hr : ∀ j, r'.stage? j = if i = j then none else r.stage? j) (hfx : fx = []) :
      Shuts r e r' fx := by
    refine .other (fun j s ht => stage?_shuts ht hs hn (fun j hj => ?_) ?_) (by simp [hfx])
    · simp [hr, hj]
    · simp [hr]
  cases hg with
  | shutdownMade h => exact .made rfl h
  | drained hs hh h => exact .drained hs hh h
  | releaseDetaches hs hh h => exact .detaches hs hh h
  | releaseGone hs _ hg h => exact .releases hs (.gone hg) h
  | released hs h => exact .releases hs (.released rfl) h
  | releaseFailed hs h => exact .releases hs (.failed rfl) h
  | unloaded hs h | unloadFailed hs h => exact .unloaded hs h
  | dropStanding hs hl =>
    rcases hl with rfl | ⟨_, _, _, rfl⟩ | ⟨_, _, rfl⟩ | ⟨_, rfl⟩ | ⟨_, _, _, _, rfl⟩
    · exact alone hs (fun h => h) (by simp) rfl
    · exact alone hs (fun h => h) (by simp) rfl
    · exact alone hs (fun h => h) (by simp) rfl
    · exact .dropped hs trivial rfl (by simp)
    · exact .dropped hs trivial rfl (by simp)
  | dropAlone hs hl =>
    rcases hl with rfl | ⟨_, _, _, rfl⟩ | ⟨_, _, _, rfl⟩
    · exact alone hs (fun h => h) (by simp) rfl
    · exact .dropped hs trivial rfl (by simp)
    · exact alone hs (fun h => h) (by simp) rfl
  | enumerated hs h | partReady hs _ _ h | partResolved hs _ h =>
    refine .other (fun i s ht => ?_) ?_
    · refine stage?_shuts ht hs (fun h => h) (fun j hj => h.stage? (Ne.symm hj)) fun s hs => ?_
      obtain ⟨_, rfl⟩ := h.stage?_self hs
      exact fun h => h
    · rcases h.effects with rfl | ⟨_, rfl⟩ <;> simp [Effect.shuts]
  | refused h =>
    refine .other (fun i s ht => Iff.rfl) ?_
    cases h <;> simp [Effect.shuts]
  | idle | reset => exact .other (fun i s ht => Iff.rfl) (by simp)
  | _ =>
    refine .other (fun i s ht => ?_) (by simp [Effect.shuts])
    have := ho.not_made
    simp
    grind [Stage.shuts]

theorem not_clears (hfx : ∀ x ∈ fx, ¬ x.shuts) : ¬ Clears r fx := by
  rintro ⟨_, ⟨_, h⟩ | ⟨_, h⟩, -⟩
  · exact hfx _ h trivial
  · exact hfx _ h trivial

/-- Only a shutdown clears a registry. -/
theorem Segment.clears (ho : Orderly r) (hg : Segment r e r' fx) (hc : Clears r fx) :
    e = .start .shutdown ∨ ∃ i s, r.stage? i = some s ∧ s.shuts := by
  cases hg.shuts ho with
  | other _ hfx => exact absurd hc (not_clears hfx)
  | made he => exact .inl he
  | drained hs | detaches hs | releases hs | unloaded hs => exact .inr ⟨_, _, hs, trivial⟩
  | dropped hs h => exact .inr ⟨_, _, hs, h⟩

/-- A shutdown in progress was so before the step, unless it has just been made. -/
theorem Segment.shutting {s : Stage} (ho : Orderly r) (hg : Segment r e r' fx)
    (hi : r'.stage? i = some s) (hs : s.shuts) :
    (∃ s₀, r.stage? i = some s₀ ∧ s₀.shuts) ∨ e = .start .shutdown ∧ i = r.nextCall := by
  have moved {j : CallId} {s₀ : Stage} {r₀ : Registry} (hj : r.stage? j = some s₀) (h₀ : s₀.shuts)
      (hr : i ≠ j → r'.stage? i = r₀.stage? i) (hr₀ : r₀.stage? i = r.stage? i) :
      ∃ s₀, r.stage? i = some s₀ ∧ s₀.shuts := by
    by_cases hij : i = j
    · exact ⟨s₀, hij ▸ hj, h₀⟩
    · exact ⟨s, by rw [← hr₀, ← hr hij, hi], hs⟩
  cases hg.shuts ho with
  | other h => exact .inl ⟨s, (h i s hs).1 hi, hs⟩
  | made he h =>
    by_cases hij : i = r.nextCall
    · exact .inr ⟨he, hij⟩
    · rw [h.stage? hij] at hi
      exact .inl ⟨s, hi, hs⟩
  | drained hj _ h => exact .inl (moved hj trivial h.stage? rfl)
  | detaches hj =>
    refine .inl (moved hj trivial (fun hij => ?_) rfl)
    exact (stage?_setStage _ _ _ _).trans (if_neg (Ne.symm hij))
  | releases hj hp h => exact .inl (moved hj trivial h.stage? (by cases hp <;> rfl))
  | unloaded hj h => exact .inl (moved hj trivial h.stage? rfl)
  | dropped hj h₀ _ h =>
    refine .inl (moved hj h₀ (fun hij => ?_) rfl)
    exact (h i).trans (if_neg (Ne.symm hij))

/-! ## Draining -/

/-- The registry is closed, and creates are at work nowhere else than at the given locations. -/
structure Within (ls : List Location) (r : Registry) : Prop where
  closed : r.closed = true
  at_work : ∀ {i l s}, r.stage? i = some (.creating l s) → s ≠ .locking → l ∈ ls

/-- The registry is closed, and no create is at work any more. -/
abbrev Drained (r : Registry) : Prop := Within [] r

variable {l : Location} {ls : List Location}

/-- A create that is at work in a closed registry was at work before the step. -/
theorem Within.segment (h : Within ls r) (hg : Segment r e r' fx) : Within ls r' where
  closed := hg.closed h.closed
  at_work hi hs := by
    cases hg.creating hi with
    | same hb => exact h.at_work hb hs
    | made => exact absurd rfl hs
    | joins _ _ ho =>
      rw [h.closed] at ho
      cases ho
    | seeks hb hs₀ | attaches hb hs₀ =>
      refine h.at_work hb ?_
      rintro rfl
      exact hs₀
    | undoes hb => exact h.at_work hb CreateStage.noConfusion

/-- A shutdown that is the head of a line knows that no create is at work there. -/
theorem Within.tail (h : Within (l :: ls) r) (ho : Orderly r) {s : Stage}
    (hs : r.stage? i = some s) (ht : s.shuts) (hh : r.holder? l = some i) : Within ls r where
  closed := h.closed
  at_work {j l' s'} hj hw := by
    rcases List.mem_cons.1 (h.at_work hj hw) with rfl | hl
    · have hd := ho.head hj (l := l') (by cases s' <;> first | rfl | exact absurd rfl hw)
      rw [← holder?_eq, hh, Option.some.injEq] at hd
      rw [← hd, hs] at hj
      cases hj
      exact ht.elim
    · exact hl

/-- Every shutdown has the locations where creates may be at work still before it. -/
def Draining (r : Registry) : Prop :=
  ∀ i s ls, r.stage? i = some s → s.undrained? = some ls → Within ls r

theorem Releases.undrained {errors : List BrokerError} {oids : List Oid} {s : Stage}
    (h : Releases r id errors oids r' fx) (hs : r'.stage? id = some s) :
    s.undrained? = some [] := by
  cases h with
  | stands =>
    simp only [stage?_setStage, if_true, Option.some.injEq] at hs
    exact hs ▸ rfl
  | unloads _ h =>
    obtain ⟨_, _, rfl⟩ := h.stage?_self hs
    rfl

theorem Drains.undrained {s : Stage} (h : Drains r id ls r' fx) (hs : r'.stage? id = some s) :
    s.undrained? = some ls := by
  cases h with
  | stands =>
    simp only [stage?_setStage, if_true, Option.some.injEq] at hs
    exact hs ▸ rfl
  | releases h => exact h.undrained hs

theorem Drains.within (ho : Orderly r)
    (h : Drains { r with closed := true, nextCall := r.nextCall + 1 } r.nextCall
      r.drainOrder r' fx) : Within r.drainOrder r' where
  closed := h.frame.2.2.1
  at_work {i l s} hi _ := by
    have hne : i ≠ r.nextCall := by
      rintro rfl
      exact h.not_creating hi
    rw [h.stage? hne] at hi
    exact mem_drainOrder.2 (ho.mem_keys hi rfl)

theorem Draining.segment (h : Draining r) (ho : Orderly r) (hg : Segment r e r' fx) :
    Draining r' := by
  intro i s ls hi hs
  have kept (hi : r.stage? i = some s) : Within ls r' := (h i s ls hi hs).segment hg
  cases hg.shuts ho with
  | other hst => exact kept ((hst i s (Stage.shuts_of_undrained? hs)).1 hi)
  | made _ hd =>
    by_cases hne : i = r.nextCall
    · subst hne
      rw [hd.undrained hi, Option.some.injEq] at hs
      subst hs
      exact hd.within ho
    · exact kept (by rw [hd.stage? hne] at hi; exact hi)
  | @drained j l rest _ _ hst hh hd =>
    by_cases hne : i = j
    · subst hne
      rw [hd.undrained hi, Option.some.injEq] at hs
      subst hs
      exact ((h i _ _ hst rfl).tail ho hst trivial hh).segment hg
    · exact kept (by rw [hd.stage? hne] at hi; exact hi)
  | @detaches j _ _ _ _ _ hst =>
    by_cases hne : i = j
    · subst hne
      simp only [stage?_setStage, if_true, Option.some.injEq] at hi
      subst hi
      exact (h i _ _ hst hs).segment hg
    · exact kept (by simpa [Ne.symm hne] using hi)
  | @releases j _ _ _ _ _ _ r₀ _ _ hst hp hd =>
    by_cases hne : i = j
    · subst hne
      rw [hd.undrained hi] at hs
      exact (h i _ _ hst hs).segment hg
    · have h₀ : r₀.stage? i = r.stage? i := by cases hp <;> rfl
      exact kept (by rw [hd.stage? hne, stage?_leaveLine, h₀] at hi; exact hi)
  | @unloaded j _ _ _ _ _ _ hst hu =>
    by_cases hne : i = j
    · subst hne
      obtain ⟨_, _, rfl⟩ := hu.stage?_self hi
      exact (h i _ _ hst hs).segment hg
    · exact kept (by rw [hu.stage? hne] at hi; exact hi)
  | @dropped j t _ hst _ _ _ hd =>
    rw [hd] at hi
    split at hi
    · cases hi
    · exact kept hi

theorem draining_new (adapter : Adapter) (policy : Policy) (order : CallId → Arrangement Location)
    (t : BackendTable) :
    Draining (new adapter policy order t) := by
  intro i s ls hi
  simp [stage?_new] at hi

theorem Draining.run (h : Draining r) (ho : Orderly r) (es : List Event) :
    Draining (r.run es).1 := by
  induction es generalizing r with
  | nil => exact h
  | cons e es ih =>
    have hg := step_segment r e
    exact ih (h.segment ho hg) (ho.segment hg)

end Registry

end SlotBroker
