import SlotBroker.Proofs.Registry.Answers
import SlotBroker.Proofs.Registry.Exclusion
import SlotBroker.Proofs.Registry.Listing

/-!
# How a create is let in

A create asks two things: whether its location is listed, when it is made, and whether the location
is free, when its turn there has come. A create that returns a session had the first answer when it
was made, and from its turn to its return no session was live at its location (`create_admitted`).
Between the two it may have waited for a removal, and what it was told first may have been
forgotten, so there need not be a moment at which both are so (`not_atomic`).
-/

namespace SlotBroker

namespace Registry

/-- The turn of a create at its location has come, and it goes on to seek its backend there. -/
def Enters (i : CallId) (l : Location) (r : Registry) (e : Event) : Prop :=
  r.stage? i = some (.creating l .locking) ∧
    ∃ cell, (r.step e).1.stage? i = some (.creating l (.resolving cell))

/-- No session is live at a location. -/
def Free (l : Location) (r : Registry) : Prop := ∀ s ∈ r.sessionList, s.location ≠ l

variable {r r' r₀ : Registry} {e : Event} {es : List Event} {fx : List Effect} {i : CallId}
  {k n : Nat} {l : Location} {s : CreateStage}

/-- A create that waits for its location was made, and its location was listed then. -/
theorem Segment.locking (hg : Segment r e r' fx)
    (hi : r'.stage? i = some (.creating l .locking)) :
    r.stage? i = some (.creating l .locking) ∨ Makes (.create l) i r e ∧
      (r.policy.requireFreshListing = true → r'.wasListed l = true) := by
  cases hg with
  | createMade ho hl =>
    simp only [stage?_standAt, stage?_enroll] at hi
    split at hi
    · rename_i hid
      cases hi
      exact .inr ⟨⟨rfl, hid⟩, hl⟩
    · exact .inl hi
  | shutdownMade h => exact .inl (stage?_aside hi h.not_creating h.stage? rfl)
  | drained _ _ h => exact .inl (stage?_aside hi h.not_creating h.stage? rfl)
  | releaseGone _ _ _ h | released _ h | releaseFailed _ h =>
    exact .inl (stage?_aside hi h.not_creating h.stage? rfl)
  | unloaded _ h | unloadFailed _ h => exact .inl (stage?_aside hi h.not_creating h.stage? rfl)
  | enumerated _ h | partReady _ _ _ h | partResolved _ _ h =>
    exact .inl (stage?_aside hi h.not_creating h.stage? rfl)
  | idle | reset | refused => exact .inl hi
  | _ =>
    simp at hi
    grind

/-! ## From its making to its return -/

theorem locking_made (h₀ : ∀ i, r₀.stage? i = none)
    (hi : (r₀.moment es n).stage? i = some (.creating l .locking)) :
    ∃ k < n, HappensAt (Makes (.create l) i) r₀ es k ∧
      ((r₀.moment es k).policy.requireFreshListing = true →
        (r₀.moment es (k + 1)).wasListed l = true) := by
  induction n with
  | zero => simp [h₀] at hi
  | succ n ih =>
    cases he : es[n]? with
    | none =>
      rw [moment_end _ he] at hi
      obtain ⟨k, hk, h⟩ := ih hi
      exact ⟨k, Nat.lt_succ_of_lt hk, h⟩
    | some e =>
      have hr := moment_succ (r := r₀) he
      rcases (step_segment (r₀.moment es n) e).locking (by rw [← hr, hi]) with hi | ⟨hm, hl⟩
      · obtain ⟨k, hk, h⟩ := ih hi
        exact ⟨k, Nat.lt_succ_of_lt hk, h⟩
      · exact ⟨n, Nat.lt_succ_self n, ⟨e, he, hm⟩, fun hp => by rw [hr, hl hp]⟩

/-- A create is at work at a location: its turn there has come. -/
def Works (i : CallId) (l : Location) (r : Registry) : Prop :=
  ∃ s, r.stage? i = some (.creating l s) ∧ s ≠ .locking

theorem Creates.before (h : Creates r e fx i l s) (hs : s ≠ .locking)
    (hi : (r.step e).1.stage? i = some (.creating l s)) : Works i l r ∨ Enters i l r e := by
  cases h with
  | same h => exact .inl ⟨_, h, hs⟩
  | made => exact absurd rfl hs
  | joins h => exact .inr ⟨h, _, hi⟩
  | @seeks s₀ _ h hs₀ | @attaches s₀ _ _ h hs₀ =>
    refine .inl ⟨s₀, h, ?_⟩
    rintro rfl
    exact hs₀
  | undoes h => exact .inl ⟨_, h, CreateStage.noConfusion⟩

/-- A create at work had its turn, and has been at work since. -/
theorem works_entered (h₀ : ∀ i, r₀.stage? i = none) (hw : Works i l (r₀.moment es n)) :
    ∃ k < n, HappensAt (Enters i l) r₀ es k ∧
      ∀ j, k < j → j ≤ n → Works i l (r₀.moment es j) := by
  induction n with
  | zero =>
    obtain ⟨s, hs, -⟩ := hw
    simp [h₀] at hs
  | succ n ih =>
    have extend (h : Works i l (r₀.moment es n)) : ∃ k < n + 1, HappensAt (Enters i l) r₀ es k ∧
        ∀ j, k < j → j ≤ n + 1 → Works i l (r₀.moment es j) := by
      obtain ⟨k, hk, he, hj⟩ := ih h
      refine ⟨k, Nat.lt_succ_of_lt hk, he, fun j hkj hjn => ?_⟩
      rcases Nat.le_succ_iff.1 hjn with hjn | rfl
      · exact hj j hkj hjn
      · exact hw
    cases he : es[n]? with
    | none => exact extend (moment_end r₀ he ▸ hw)
    | some e =>
      obtain ⟨s, hs, hne⟩ := hw
      rw [moment_succ he] at hs
      rcases ((step_segment _ e).creating hs).before hne hs with h | h
      · exact extend h
      · refine ⟨n, Nat.lt_succ_self n, ⟨e, he, h⟩, fun j hkj hjn => ?_⟩
        obtain rfl : j = n + 1 := Nat.le_antisymm hjn hkj
        exact ⟨s, by rw [moment_succ he, hs], hne⟩

/-! ## A free location -/

theorem Exclusive.free_works (h : Exclusive r) (hw : Works i l r) : Free l r := by
  obtain ⟨s, hs, hne⟩ := hw
  intro x hx
  obtain ⟨y, hy, rfl⟩ := List.mem_map.1 hx
  exact h.free hs hne y hy

theorem Exclusive.free_enters (h : Exclusive r) (he : Enters i l r e) : Free l r := by
  obtain ⟨hi, cell, hs⟩ := he
  intro x hx
  obtain ⟨y, hy, rfl⟩ := List.mem_map.1 hx
  exact h.free_before ((step_segment r e).creating hs) CreateStage.noConfusion y hy

/-- The listing stays while nothing is forgotten and no list returns. -/
theorem Rests.listed (ho : Orderly r₀) (h : Rests r₀ es k n) (hk : k ≤ n) :
    (r₀.moment es n).listed = (r₀.moment es k).listed := by
  refine moment_keeps (Q := fun r => r.listed = (r₀.moment es k).listed) hk rfl
    fun j e hj hjn he hl => ?_
  obtain ⟨hf, hr⟩ := h j hj hjn
  rw [← hl]
  cases step_notes (ho.moment es j) e with
  | same h => exact h
  | @lists i m _ _ hfx =>
    refine absurd ⟨e, he, ?_⟩ (hr i m)
    simp [Returns, hfx]
      | forgets _ hc => exact absurd ⟨e, he, hc⟩ hf

theorem policy_run (r : Registry) (es : List Event) : (r.run es).1.policy = r.policy :=
  run_induction (P := fun r' => r'.policy = r.policy) rfl (fun h hg => hg.policy.trans h) es

/-! ## What a create was told -/

/-- A create was made at a moment `a`, had its turn at a moment `b` and returns a session at a
moment `c`. -/
structure Admitted (r₀ : Registry) (es : List Event) (i : CallId) (s : Session) (a b c : Nat) :
    Prop where
  made : HappensAt (Makes (.create s.location) i) r₀ es a
  made_before : a < b
  enters : HappensAt (Enters i s.location) r₀ es b
  enters_before : b < c
  /-- The location was listed when the create was made. -/
  listed : (r₀.moment es (a + 1)).wasListed s.location = true
  /-- From its turn to its return no session was live there, if only one is allowed. -/
  free : r₀.policy.allowMultipleSessions = false →
    ∀ n, b ≤ n → n ≤ c → Free s.location (r₀.moment es n)
  /-- Unless a list returned while it waited, or what was known was forgotten, the location was
  still listed when it had its turn. -/
  at_once : Rests r₀ es (a + 1) b → (r₀.moment es b).wasListed s.location = true

/-- A create that returns a session was made when its location was listed, and had its turn after
that when the location was free, which it stayed. -/
theorem create_admitted (adapter : Adapter) (multiple : Bool)
    (order : CallId → Arrangement Location) (t : BackendTable) (es : List Event)
    {i : CallId} {s : Session} {c : Nat}
    (h : HappensAt (Returns i (.created (.ok s))) (new adapter ⟨multiple, true⟩ order t) es c) :
    ∃ a b, Admitted (new adapter ⟨multiple, true⟩ order t) es i s a b c := by
  have ho := orderly_new adapter ⟨multiple, true⟩ order t
  have h₀ := stage?_new adapter ⟨multiple, true⟩ order t
  obtain ⟨e, -, hret⟩ := h
  obtain ⟨backend, hs, -, -, -⟩ := (step_segment _ e).commits hret
  obtain ⟨b, hbc, hb, hworks⟩ := works_entered h₀ ⟨_, hs, CreateStage.noConfusion⟩
  obtain ⟨e', -, henters⟩ := id hb
  obtain ⟨a, hab, ha, hlisted⟩ := locking_made h₀ henters.1
  have hl := hlisted (by rw [moment, policy_run]; rfl)
  refine ⟨a, b, ha, hab, hb, hbc, hl, fun hm n hbn hnc => ?_, fun hr => ?_⟩
  · obtain rfl : multiple = false := hm
    have hx (n : Nat) : Exclusive ((new adapter ⟨false, true⟩ order t).moment es n) :=
      run_induction (exclusive_new adapter true order t) Exclusive.segment _
    rcases Nat.eq_or_lt_of_le hbn with rfl | hbn
    · exact (hx b).free_enters henters
    · exact (hx n).free_works (hworks n hbn hnc)
  · rw [wasListed, hr.listed ho hab]
    exact hl

/-- Every create that returns a session had a moment, between its making and its return, at which
its location was listed and, if only one session is allowed there, free. -/
def Atomic (r₀ : Registry) (es : List Event) : Prop :=
  ∀ i s c, HappensAt (Returns i (.created (.ok s))) r₀ es c →
    ∃ a n, HappensAt (Makes (.create s.location) i) r₀ es a ∧ a ≤ n ∧ n ≤ c ∧
      (r₀.moment es n).wasListed s.location = true ∧
      (r₀.policy.allowMultipleSessions = false → Free s.location (r₀.moment es n))

/-- A location is listed and a session is created there. It is being detached when another create is
made, and what is known about the locations is forgotten before it is gone. -/
def createAcrossReset : List Event :=
  [.start .list, .enumerated 0 (.ok [⟨"slot1"⟩]), .resume ⟨0, 0⟩, .resume ⟨0, 0⟩,
    .resolved ⟨0, 0⟩ (.ok ⟨"vendor"⟩),
    .start (.create ⟨"slot1"⟩), .resume ⟨1, 0⟩, .resume ⟨1, 0⟩, .resume ⟨1, 0⟩, .loaded 1 (.ok ()),
    .attached 1 (.ok ⟨7⟩) default,
    .start (.remove ⟨1⟩), .resume ⟨2, 0⟩, .start (.create ⟨"slot1"⟩), .reset, .detached 2 (.ok ()),
    .resume ⟨3, 0⟩, .resume ⟨3, 0⟩, .resolved ⟨3, 0⟩ (.ok ⟨"vendor"⟩), .resume ⟨3, 0⟩,
    .attached 3 (.ok ⟨8⟩) default]

theorem create_admitted_across_reset :
    HappensAt (Returns 3 (.created (.ok ⟨⟨2⟩, ⟨"slot1"⟩, ⟨"vendor"⟩, ⟨8⟩, default⟩)))
        (unused .asPut .static .strict [] (some 0)) createAcrossReset 20 ∧
      ∃ a b, Admitted (unused .asPut .static .strict [] (some 0)) createAcrossReset 3
        ⟨⟨2⟩, ⟨"slot1"⟩, ⟨"vendor"⟩, ⟨8⟩, default⟩ a b 20 := by
  have h : HappensAt (Returns 3 (.created (.ok ⟨⟨2⟩, ⟨"slot1"⟩, ⟨"vendor"⟩, ⟨8⟩, default⟩)))
      (unused .asPut .static .strict [] (some 0)) createAcrossReset 20 :=
    ⟨_, rfl, List.mem_of_getElem? (i := 0) rfl⟩
  exact ⟨h, create_admitted .static false _ _ _ h⟩

/-- A create may return a session although at no moment its location was both listed and free. -/
theorem not_atomic : ¬ Atomic (unused .asPut .static .strict [] (some 0)) createAcrossReset := by
  intro h
  obtain ⟨a, n, ⟨e, he, rfl, hi⟩, han, hn, hl, hf⟩ :=
    h 3 ⟨⟨2⟩, ⟨"slot1"⟩, ⟨"vendor"⟩, ⟨8⟩, default⟩ 20 ⟨_, rfl, List.mem_of_getElem? (i := 0) rfl⟩
  -- The other create of the run has another number.
  have hnum : ∀ a < 12,
      ((unused .asPut .static .strict [] (some 0)).moment createAcrossReset a).nextCall ≠ 3 := by
    decide
  have ha : 13 ≤ a := by
    rcases Nat.lt_trichotomy a 12 with ha | rfl | ha
    · exact absurd hi (hnum a ha)
    · cases he
    · exact ha
  -- Up to the reset the location is taken, and after it no location is listed.
  have hbusy : ∀ n ≤ 20, 13 ≤ n →
      ((unused .asPut .static .strict [] (some 0)).moment createAcrossReset n).wasListed ⟨"slot1"⟩ =
        true →
      ∃ s ∈ ((unused .asPut .static .strict [] (some 0)).moment createAcrossReset n).sessionList,
        s.location = ⟨"slot1"⟩ := by
    decide
  obtain ⟨s, hs, hloc⟩ := hbusy n hn (Nat.le_trans ha han) hl
  exact hf rfl s hs hloc

end Registry

end SlotBroker
