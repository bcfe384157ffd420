import SlotBroker.Proofs.Registry.Sequential

/-!
# One call alone

A call is alone if no other is in progress when it is made and nothing else is begun until it
returns. What the platform and the backends answer is left open. Every step from its making to its
return is then its own or does nothing (`Alone.solitary`): no other call returns, the call is not
given up, and in the end no call is in progress again.
-/

namespace SlotBroker

namespace Registry

/-- A call was made at a moment `a`, when no call was in progress, and returns at a moment `n`.
Nothing is begun in between. -/
structure Alone (r₀ : Registry) (es : List Event) (c : Call) (i : CallId) (o : Outcome)
    (a n : Nat) : Prop where
  made : HappensAt (Makes c i) r₀ es a
  returned : HappensAt (Returns i o) r₀ es n
  idle : ∀ j, (r₀.moment es a).stage? j = none
  begins : ∀ k ≤ n, a < k → ∀ e ∈ es[k]?, e.begins = false

/-- No call is in progress but one. -/
structure Solitary (c : Call) (i : CallId) (r : Registry) : Prop where
  alone : ∀ {j s}, r.stage? j = some s → j = i ∧ s.call? = some c
  opened : ∀ {j l s}, r.stage? j = some (.creating l s) → r.closed = false
  commits : ∀ {j l b h}, r.stage? j ≠ some (.creating l (.undoing b h))

variable {r r₀ : Registry} {e : Event} {es : List Event} {c : Call} {i j : CallId}
  {o o' : Outcome} {s : Stage} {a k n : Nat}

theorem solitary_of_idle (h : ∀ j, r.stage? j = none) : Solitary c i r where
  alone hs := by cases (h _).symm.trans hs
  opened hs := by cases (h _).symm.trans hs
  commits hs := by cases (h _).symm.trans hs

theorem Solitary.step (h : Solitary c i r) (he : e.begins = false ∨ Makes c i r e) :
    Solitary c i (r.step e).1 := by
  have hg := step_segment r e
  have made {c' : Call} {j : CallId} (hm : Makes c' j r e) : j = i ∧ c' = c := by
    obtain ⟨rfl, rfl⟩ := hm
    rcases he with he | ⟨he, hi⟩
    · cases he
    · cases he
      exact ⟨hi, rfl⟩
  have alone {j : CallId} {s : Stage} (hs : (r.step e).1.stage? j = some s) :
      j = i ∧ s.call? = some c := by
    have hp := hg.purpose hs
    generalize s.call? = k at hp
    cases hp with
    | same hs => exact h.alone hs
    | made hm =>
      obtain ⟨hj, rfl⟩ := made hm
      exact ⟨hj, rfl⟩
    | background hs => exact absurd hs h.commits
  refine ⟨alone, fun {j l s} hs => ?_, fun {j l b h'} hs => ?_⟩
  · have hne : e ≠ .start .shutdown := by
      rintro rfl
      rcases he with he | ⟨he, -⟩
      · cases he
      · cases he
        cases (alone hs).2
    -- A create is made only while the registry is open, and nobody has closed it since.
    rw [hg.closed_eq hne]
    cases hg.creating hs with
    | made _ ho => exact ho
    | same hb | joins hb | seeks hb | attaches hb | undoes hb => exact h.opened hb
  · cases hg.creating hs with
    | same hb => exact h.commits hb
    | seeks _ _ hs' => exact hs'
    | undoes hb hc =>
      rw [h.opened hb] at hc
      cases hc

/-- A call that is given up is over, and nobody is told anything. -/
theorem step_drop (ho : Orderly r) (hs : r.stage? i = some s) (tending : Bool) :
    (r.step (.drop i tending)).1.stage? i = none ∧
      ∀ j o, ¬ Returns j o r (.drop i tending) := by
  have hs' : Assoc.get? i r.calls = some s := hs
  have hi := Nat.ne_of_gt (ho.fresh hs)
  simp only [Returns, step, hs']
  cases s with
  | listing parts =>
    simp only [dropAt]
    rw [leaveParts_eq]
    simp
  | creating l s =>
    cases s with
    | undoing b h => cases tending <;> simp [dropAt, reclaim, hi]
    | _ => simp [dropAt]
  | _ => simp [dropAt]

/-! ## In the course of a run -/

theorem Alone.le (h : Alone r₀ es c i o a n) (ho : Orderly r₀) : a ≤ n :=
  (in_progress ho h.made h.returned).1

theorem Alone.event (h : Alone r₀ es c i o a n) (hak : a ≤ k) (hkn : k ≤ n)
    (he : es[k]? = some e) : e.begins = false ∨ Makes c i (r₀.moment es k) e := by
  rcases Nat.eq_or_lt_of_le hak with rfl | hak
  · exact .inr (h.made.of_event he)
  · exact .inl (h.begins k hkn hak e he)

theorem Alone.solitary (h : Alone r₀ es c i o a n) (hak : a ≤ k) (hkn : k ≤ n + 1) :
    Solitary c i (r₀.moment es k) :=
  moment_keeps hak (solitary_of_idle h.idle) fun _ _ ha hlt he hk =>
    hk.step (h.event ha (Nat.le_of_lt_succ (Nat.lt_of_lt_of_le hlt hkn)) he)

/-- No other call returns, and this one returns once. -/
theorem Alone.returns (h : Alone r₀ es c i o a n) (ho : Orderly r₀) (hak : a ≤ k) (hkn : k ≤ n)
    (hr : HappensAt (Returns j o') r₀ es k) : j = i ∧ k = n ∧ o' = o := by
  obtain ⟨e, he, hx⟩ := id hr
  have hj : j = i := by
    rcases (step_segment _ e).answers hx with ⟨s, _, hs, -⟩ | ⟨_, hm, -⟩
    · exact ((h.solitary hak (Nat.le_succ_of_le hkn)).alone hs).1
    · rcases h.event hak hkn he with hb | hm'
      · rw [hm.1] at hb
        cases hb
      · exact hm.2.symm.trans hm'.2
  subst hj
  exact ⟨rfl, returned_once ho hr h.returned⟩

theorem Alone.not_dropped {tending : Bool} (h : Alone r₀ es c i o a n) (ho : Orderly r₀)
    (hak : a ≤ k) (hkn : k ≤ n) (he : es[k]? = some (.drop j tending)) :
    (r₀.moment es k).stage? j = none := by
  cases hs : (r₀.moment es k).stage? j with
  | none => rfl
  | some s =>
    obtain ⟨rfl, -⟩ := (h.solitary hak (Nat.le_succ_of_le hkn)).alone hs
    obtain ⟨hnone, hret⟩ := step_drop (ho.moment es k) hs tending
    rcases Nat.eq_or_lt_of_le hkn with rfl | hkn
    · exact absurd (h.returned.of_event he) (hret j o)
    · obtain ⟨s', hs'⟩ := (in_progress ho h.made h.returned).2 (k + 1) (Nat.lt_succ_of_le hak) hkn
      rw [moment_succ he, hnone] at hs'
      cases hs'

theorem Alone.idle_again (h : Alone r₀ es c i o a n) (ho : Orderly r₀) (j : CallId) :
    (r₀.moment es (n + 1)).stage? j = none := by
  obtain ⟨e, he, hx⟩ := h.returned
  have hover := ((step_segment _ e).returns (ho.moment es n) hx).1
  rw [← moment_succ he] at hover
  cases hs : (r₀.moment es (n + 1)).stage? j with
  | none => rfl
  | some s =>
    obtain ⟨rfl, -⟩ := (h.solitary (Nat.le_succ_of_le (h.le ho)) (Nat.le_refl _)).alone hs
    cases hover.stage?.symm.trans hs

end Registry

end SlotBroker
