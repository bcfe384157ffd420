import SlotBroker.Proofs.Registry.Answering

/-!
# The backend of a location

A location is resolved once and for all who look for its backend, until what is known about the
locations is forgotten (`resolved_once`). A question looks up the cell of its location once, and
those that have done so with nothing forgotten in between are at one cell (`LookedIn.cell`). Once
everything is forgotten the next cell is a new one (`cellOf?_forgotten`), so what is told to those
who have looked before comes to a cell that no location has any more.
-/

namespace SlotBroker

/-- What a question has come to fits a cell: it waits there, or asks from there, or has the name
that is in it. -/
def Part.Fits (c : Nat) (m : OnceMap Location Ticket BackendName) : Part → Prop
  | .fresh => False
  | .waiting c' | .asking c' => c' = c
  | .named b => m.valueAt? c = some b

/-- What a call tells when it returns has a backend for a location, as the answer of a question. -/
def Outcome.Tells (t : Ticket) (l : Location) (b : BackendName) : Outcome → Prop
  | .listed (.ok m) => m.entries[t.part]? = some ⟨l, b⟩
  | .created (.ok s) => t.part = 0 ∧ s.location = l ∧ s.backend = b
  | _ => False

namespace Registry

/-- A question looks up the cell of its location. -/
def LooksIn (t : Ticket) (l : Location) (c : Nat) (r : Registry) (e : Event) : Prop :=
  r.part? t = some (l, .fresh) ∧ (r.step e).1.part? t = some (l, .waiting c)

def LooksUp (t : Ticket) (l : Location) (r : Registry) (e : Event) : Prop :=
  ∃ c, LooksIn t l c r e

/-- The platform is asked for the backend of a location. -/
def Inquires (t : Ticket) (l : Location) (r : Registry) (e : Event) : Prop :=
  .resolve t l ∈ (r.step e).2

/-- Between two moments of a run nothing is forgotten. -/
def Remembers (r₀ : Registry) (es : List Event) (a b : Nat) : Prop :=
  ∀ j, a < j → j < b → ¬ HappensAt Forgets r₀ es j

/-- Two questions have looked for the backend of a location, and nothing was forgotten from the one
to the other. -/
def Together (r₀ : Registry) (es : List Event) (l : Location) (t t' : Ticket) : Prop :=
  ∃ k k', HappensAt (LooksUp t l) r₀ es k ∧ HappensAt (LooksUp t' l) r₀ es k' ∧
    Remembers r₀ es k k' ∧ Remembers r₀ es k' k

variable {r r' r₀ : Registry} {e : Event} {es : List Event} {fx : List Effect} {i : CallId}
  {t t' : Ticket} {l l' : Location} {b b' : BackendName} {c c' k k' n n' : Nat}

/-! ## Cells in the course of a run -/

theorem Placed.run (h : Placed r) (ho : Orderly r) (es : List Event) : Placed (r.run es).1 :=
  (run_induction (P := fun r => Orderly r ∧ Placed r) ⟨ho, h⟩
    (fun h hg => ⟨h.1.segment hg, h.2.resolves (hg.resolves h.1)⟩) es).2

theorem Placed.moment (h : Placed r) (ho : Orderly r) (es : List Event) (n : Nat) :
    Placed (r.moment es n) :=
  h.run ho _

theorem length_moment (ho : Orderly r₀) (h : n ≤ n') :
    (r₀.moment es n).resolutions.cells.length ≤ (r₀.moment es n').resolutions.cells.length :=
  moment_keeps (Q := fun r => _ ≤ r.resolutions.cells.length) h (Nat.le_refl _) fun k e _ _ _ hk =>
    Nat.le_trans hk (step_resolves (ho.moment es k) e).length

theorem cellOf?_moment (ho : Orderly r₀) (hn : n ≤ n')
    (hf : ∀ j, n ≤ j → j < n' → ¬ HappensAt Forgets r₀ es j)
    (hc : (r₀.moment es n).resolutions.cellOf? l = some c) :
    (r₀.moment es n').resolutions.cellOf? l = some c :=
  moment_keeps (Q := fun r => r.resolutions.cellOf? l = some c) hn hc fun k e hk hkn he hc =>
    (step_resolves (ho.moment es k) e).cellOf? (fun h => hf k hk hkn ⟨e, he, h⟩) hc

theorem valueAt?_moment (ho : Orderly r₀) (hp : Placed r₀) (hn : n ≤ n')
    (hv : (r₀.moment es n).resolutions.valueAt? c = some b) :
    (r₀.moment es n').resolutions.valueAt? c = some b :=
  moment_keeps (Q := fun r => r.resolutions.valueAt? c = some b) hn hv fun k e _ _ _ hv =>
    (step_resolves (ho.moment es k) e).valueAt? (hp.moment ho es k) hv

/-- A location that has a cell after everything was forgotten has a new one. -/
theorem cellOf?_forgotten (ho : Orderly r₀) (hf : HappensAt Forgets r₀ es k) (hn : k < n)
    (hc : (r₀.moment es n).resolutions.cellOf? l = some c) :
    (r₀.moment es k).resolutions.cells.length ≤ c := by
  induction hn with
  | refl =>
    obtain ⟨e, he, hf⟩ := hf
    rw [moment_succ he, hf.cellOf? (ho.moment es k) l] at hc
    cases hc
  | @step n hn ih =>
    cases he : es[n]? with
    | none =>
      rw [moment_end _ he] at hc
      exact ih hc
    | some e =>
      rw [moment_succ he] at hc
      rcases (step_resolves (ho.moment es n) e).cellOf?_or hc with hc | rfl
      · exact ih hc
      · exact length_moment ho (Nat.le_of_lt hn)

/-! ## Looking up a cell -/

theorem LooksIn.cellOf? (ho : Orderly r) (h : LooksIn t l c r e) :
    (r.step e).1.resolutions.cellOf? l = some c := by
  obtain ⟨hf, hw⟩ := h
  have old (hc : Carries r (r.step e).1 t) : False := by
    rcases hc l _ hw with hw | ⟨hw, -⟩
    · rw [hf] at hw
      cases hw
    · cases hw
  cases step_resolves ho e with
  | other _ hc | leaves _ _ hc | forgets _ _ hc => exact (old (hc t)).elim
  | @joins u l' hp hp' hm hc =>
    by_cases hu : t = u
    · subst hu
      rw [hp'] at hw
      cases hw
      rw [hm, OnceMap.cellOf?_join, if_pos rfl]
    · exact (old (hc t hu)).elim
  | @asks u _ _ hp _ _ _ hc =>
    refine (old (hc t ?_)).elim
    rintro rfl
    rw [hf] at hp
    cases hp
  | @reads u _ _ _ hp _ _ _ hc =>
    refine (old (hc t ?_)).elim
    rintro rfl
    rw [hf] at hp
    cases hp
  | @fills u _ _ _ hp _ _ _ hc =>
    refine (old (hc t ?_)).elim
    rintro rfl
    rw [hf] at hp
    cases hp

/-- A step in which a question looks up a cell forgets nothing. -/
theorem LooksIn.not_forgets (ho : Orderly r) (h : LooksIn t l c r e) : ¬ Forgets r e := by
  intro hf
  have hc := h.cellOf? ho
  rw [hf.cellOf? ho] at hc
  cases hc

/-- A question has looked up the cell of its location at a moment of a run. -/
def LookedIn (r₀ : Registry) (es : List Event) (t : Ticket) (l : Location) (c k : Nat) : Prop :=
  HappensAt (LooksIn t l c) r₀ es k

theorem LookedIn.cellOf? (ho : Orderly r₀) (h : LookedIn r₀ es t l c k) :
    (r₀.moment es (k + 1)).resolutions.cellOf? l = some c := by
  obtain ⟨e, he, h⟩ := h
  rw [moment_succ he]
  exact h.cellOf? (ho.moment es k)

/-- A location has the cell that a question has looked up, if nothing was forgotten since. -/
theorem LookedIn.kept (ho : Orderly r₀) (h : LookedIn r₀ es t l c k) (hr : Remembers r₀ es k n)
    (hn : k < n) : (r₀.moment es n).resolutions.cellOf? l = some c :=
  cellOf?_moment ho hn (fun j hj => hr j hj) (h.cellOf? ho)

theorem Remembers.through (ho : Orderly r₀) (hr : Remembers r₀ es k n)
    (h : LookedIn r₀ es t l c n) : Remembers r₀ es k (n + 1) := by
  intro j hkj hjn hf
  rcases Nat.lt_succ_iff_lt_or_eq.1 hjn with hjn | rfl
  · exact hr j hkj hjn hf
  · obtain ⟨e, he, h⟩ := h
    exact h.not_forgets (ho.moment es j) (hf.of_event he)

/-- When a location has the cell that a question has looked up, the question was looking for this
location, and nothing was forgotten since. -/
theorem LookedIn.current (ho : Orderly r₀) (hp : Placed r₀) (h : LookedIn r₀ es t l c k)
    (hc : (r₀.moment es n).resolutions.cellOf? l' = some c) (hn : k < n) :
    l = l' ∧ Remembers r₀ es k n := by
  have hr : Remembers r₀ es k n := by
    intro j hkj hjn hf
    have hlt := (hp.moment ho es (k + 1)).apart.lt (h.cellOf? ho)
    have hle := cellOf?_forgotten ho hf hjn hc
    exact absurd hlt (Nat.not_lt.2 (Nat.le_trans (length_moment ho hkj) hle))
  exact ⟨(hp.moment ho es n).apart.inj (h.kept ho hr hn) hc, hr⟩

/-- Of two questions that have looked up one cell, the second has done so with nothing forgotten
since. -/
theorem LookedIn.remembers (ho : Orderly r₀) (hp : Placed r₀) (h : LookedIn r₀ es t l c k)
    (h' : LookedIn r₀ es t' l' c k') : Remembers r₀ es k k' := by
  intro j hkj hjk
  have hlt : k < k' + 1 := Nat.lt_succ_of_lt (Nat.lt_trans hkj hjk)
  exact (h.current ho hp (h'.cellOf? ho) hlt).2 j hkj (Nat.lt_succ_of_lt hjk)

/-- Questions that have looked up one cell were looking for one location. -/
theorem LookedIn.location (ho : Orderly r₀) (hp : Placed r₀) (h : LookedIn r₀ es t l c k)
    (h' : LookedIn r₀ es t' l' c k') : l = l' := by
  rcases Nat.le_total k k' with hk | hk
  · exact (h.current ho hp (h'.cellOf? ho) (Nat.lt_succ_of_le hk)).1
  · exact (h'.current ho hp (h.cellOf? ho) (Nat.lt_succ_of_le hk)).1.symm

/-- Questions that have looked for one location, with nothing forgotten in between, have looked up
one cell. -/
theorem LookedIn.cell (ho : Orderly r₀) (h : LookedIn r₀ es t l c k)
    (h' : LookedIn r₀ es t' l c' k') (hr : Remembers r₀ es k k') (hr' : Remembers r₀ es k' k) :
    c = c' := by
  have later {t t' c c' k k'} (h : LookedIn r₀ es t l c k) (h' : LookedIn r₀ es t' l c' k')
      (hr : Remembers r₀ es k k') (hk : k ≤ k') : c = c' := by
    have hc := h.kept ho (hr.through ho h') (Nat.lt_succ_of_le hk)
    rw [h'.cellOf? ho] at hc
    exact (Option.some.inj hc).symm
  rcases Nat.le_total k k' with hk | hk
  · exact later h h' hr hk
  · exact (later h' h hr' hk).symm

/-! ## A question looks up a cell once -/

theorem Segment.unbegun (hg : Segment r e r' fx) (h : Unbegun i r') : Unbegun i r := by
  rcases h with h | h
  · cases hg with
    | idle | reset | refused => exact .inl h
    | shutdownMade hd =>
      exact .inl (stage?_aside h (fun hs => by cases hd.undrained hs) hd.stage? rfl)
    | drained _ _ hd =>
      exact .inl (stage?_aside h (fun hs => by cases hd.undrained hs) hd.stage? rfl)
    | releaseGone _ _ _ hr | released _ hr | releaseFailed _ hr =>
      exact .inl (stage?_aside h (fun hs => by cases hr.undrained hs) hr.stage? rfl)
    | unloaded _ hu | unloadFailed _ hu =>
      refine .inl (stage?_aside h (fun hs => ?_) hu.stage? rfl)
      obtain ⟨_, _, hs⟩ := hu.stage?_self hs
      cases hs
    | enumerated _ hl | partReady _ _ _ hl | partResolved _ _ hl =>
      refine .inl (stage?_aside h (fun hs => ?_) hl.stage? rfl)
      obtain ⟨_, hs⟩ := hl.stage?_self hs
      cases hs
    | _ =>
      simp at h
      grind [Unbegun]
  · exact .inr (Nat.le_trans hg.nextCall_le h)

/-- A question that has looked up a cell does not come to look up another one. -/
theorem LookedIn.never_fresh (ho : Orderly r₀) (h : LookedIn r₀ es t l c k) (hn : k < n) :
    ¬ Unbegun t.call (r₀.moment es n) ∧ ∀ l', (r₀.moment es n).part? t ≠ some (l', .fresh) := by
  refine moment_keeps (Q := fun r => ¬ Unbegun t.call r ∧ ∀ l', r.part? t ≠ some (l', .fresh)) hn ?_
    fun m e _ _ _ hm => ⟨fun hu => hm.1 ((step_segment _ e).unbegun hu), fun l' hp => ?_⟩
  · obtain ⟨e, he, hf, hw⟩ := h
    rw [moment_succ he]
    refine ⟨fun hu => ?_, fun l' hp => ?_⟩
    · rcases (step_segment _ e).unbegun hu with hu | hu
      · simp [part?, hu, Stage.part?] at hf
      · rw [part?] at hf
        obtain ⟨s, hs, -⟩ := Option.bind_eq_some_iff.1 hf
        exact absurd ((ho.moment es k).fresh hs) (Nat.not_lt.2 hu)
    · rw [hw] at hp
      cases hp
  · cases (step_resolves (ho.moment es m) e).comes hp with
    | same hp => exact hm.2 l' hp
    | begins hu => exact hm.1 hu

theorem LookedIn.unique (ho : Orderly r₀) (h : LookedIn r₀ es t l c k)
    (h' : LookedIn r₀ es t l' c' k') : k = k' ∧ c = c' := by
  obtain ⟨e, he, hf, hw⟩ := id h
  obtain ⟨_, -, hf', -⟩ := id h'
  rcases Nat.lt_trichotomy k k' with hk | rfl | hk
  · exact absurd hf' ((h.never_fresh ho hk).2 l')
  · have hw' := (HappensAt.of_event h' he).2
    rw [hw] at hw'
    cases hw'
    exact ⟨rfl, rfl⟩
  · exact absurd hf ((h'.never_fresh ho hk).2 l)

/-! ## What a question has come to -/

/-- A name that a question comes to is in the cell where it waits, or is the answer to what it has
asked from there. -/
def Names (t : Ticket) (l : Location) (b : BackendName) (c : Nat) (r : Registry) (e : Event) :
    Prop :=
  r.resolutions.valueAt? c = some b ∨ r.part? t = some (l, .asking c) ∧ Succeeds t l b r e

theorem Names.valueAt? (hp : Placed r) (ho : Orderly r) (h : Names t l b c r e) :
    (r.step e).1.resolutions.valueAt? c = some b := by
  rcases h with h | ⟨h, hs⟩
  · exact (step_resolves ho e).valueAt? hp h
  · exact (hp.succeeds hs h).2

theorem Learns.names (h : Learns t l b r e) : ∃ p, r.part? t = some (l, p) ∧ p ≠ .fresh ∧
    ∀ c, p.Fits c r.resolutions → Names t l b c r e := by
  cases h with
  | before h => exact ⟨_, h, Part.noConfusion, fun c hc => .inl hc⟩
  | reads hp ht =>
    refine ⟨_, hp, Part.noConfusion, fun c hc => .inl ?_⟩
    subst hc
    exact OnceMap.turn_ready_iff.1 ht
  | told h =>
    obtain ⟨⟨cell, hp⟩, -⟩ := id h
    refine ⟨_, hp, Part.noConfusion, fun c hc => .inr ⟨?_, h⟩⟩
    subst hc
    exact hp

/-- What a question has come to fits the cell that it has looked up. -/
theorem looked_in (ho : Orderly r₀) (hp : Placed r₀) (h₀ : ∀ i, r₀.stage? i = none) {p : Part}
    (h : (r₀.moment es n).part? t = some (l, p)) (hf : p ≠ .fresh) :
    ∃ k < n, ∃ c, LookedIn r₀ es t l c k ∧ p.Fits c (r₀.moment es n).resolutions := by
  induction n generalizing p with
  | zero =>
    rw [moment_zero, part?_of_none (h₀ _)] at h
    cases h
  | succ n ih =>
    cases he : es[n]? with
    | none =>
      rw [moment_end _ he] at h ⊢
      obtain ⟨k, hk, c, hl⟩ := ih h hf
      exact ⟨k, Nat.lt_succ_of_lt hk, c, hl⟩
    | some e =>
      rw [moment_succ he] at h ⊢
      -- Where the question was before tells which cell it had looked up.
      have before {q : Part} (hq : (r₀.moment es n).part? t = some (l, q)) (hqf : q ≠ .fresh)
          (hfit : ∀ c, q.Fits c (r₀.moment es n).resolutions →
            p.Fits c ((r₀.moment es n).step e).1.resolutions) :
          ∃ k < n + 1, ∃ c, LookedIn r₀ es t l c k ∧
            p.Fits c ((r₀.moment es n).step e).1.resolutions := by
        obtain ⟨k, hk, c, hl, hqc⟩ := ih hq hqf
        exact ⟨k, Nat.lt_succ_of_lt hk, c, hl, hfit c hqc⟩
      cases (step_resolves (ho.moment es n) e).comes h with
      | same hq =>
        refine before hq hf fun c hc => ?_
        cases p with
        | fresh => exact hc
        | waiting | asking => exact hc
        | named => exact (step_resolves (ho.moment es n) e).valueAt? (hp.moment ho es n) hc
      | begins => exact absurd rfl hf
      | joins hq => exact ⟨n, Nat.lt_succ_self n, _, ⟨e, he, hq, h⟩, rfl⟩
      | asks hq => exact before hq Part.noConfusion fun c hc => hc
      | learns hl =>
        obtain ⟨q, hq, hqf, hn⟩ := hl.names
        exact before hq hqf fun c hc => (hn c hc).valueAt? (hp.moment ho es n) (ho.moment es n)

/-- A question that has been asked was so from a moment on, and had looked up its cell before. -/
theorem inquired (ho : Orderly r₀) (h₀ : ∀ i, r₀.stage? i = none)
    (h : InFlight t l (r₀.moment es n)) : ∃ s < n, HappensAt (Inquires t l) r₀ es s ∧
      (∃ c, (r₀.moment es s).part? t = some (l, .waiting c)) ∧
      ∀ j, s < j → j ≤ n → InFlight t l (r₀.moment es j) := by
  induction n with
  | zero =>
    obtain ⟨c, h⟩ := h
    rw [moment_zero, part?_of_none (h₀ _)] at h
    cases h
  | succ n ih =>
    have extend (hn : InFlight t l (r₀.moment es n)) : ∃ s < n + 1,
        HappensAt (Inquires t l) r₀ es s ∧
        (∃ c, (r₀.moment es s).part? t = some (l, .waiting c)) ∧
        ∀ j, s < j → j ≤ n + 1 → InFlight t l (r₀.moment es j) := by
      obtain ⟨s, hs, ha, hw, hj⟩ := ih hn
      refine ⟨s, Nat.lt_succ_of_lt hs, ha, hw, fun j hsj hjn => ?_⟩
      rcases Nat.le_succ_iff.1 hjn with hjn | rfl
      · exact hj j hsj hjn
      · exact h
    cases he : es[n]? with
    | none => exact extend (moment_end r₀ he ▸ h)
    | some e =>
      obtain ⟨c, hc⟩ := id h
      rw [moment_succ he] at hc
      cases (step_resolves (ho.moment es n) e).comes hc with
      | same hc => exact extend ⟨c, hc⟩
      | asks hc hfx =>
        refine ⟨n, Nat.lt_succ_self n, ⟨e, he, ?_⟩, ⟨c, hc⟩, fun j hnj hjn => ?_⟩
        · rw [Inquires, hfx]
          exact List.mem_singleton_self _
        · obtain rfl : j = n + 1 := Nat.le_antisymm hjn hnj
          exact h

/-- A name in a cell is the answer to what a question has asked from there. -/
theorem filled (ho : Orderly r₀) (hp : Placed r₀) (hv : r₀.resolutions.valueAt? c = none)
    (h : (r₀.moment es n).resolutions.valueAt? c = some b) : ∃ n' < n, ∃ t l,
      (r₀.moment es n').part? t = some (l, .asking c) ∧
      HappensAt (Succeeds t l b) r₀ es n' := by
  induction n with
  | zero =>
    rw [moment_zero, hv] at h
    cases h
  | succ n ih =>
    cases he : es[n]? with
    | none =>
      rw [moment_end _ he] at h
      obtain ⟨n', hn', hs⟩ := ih h
      exact ⟨n', Nat.lt_succ_of_lt hn', hs⟩
    | some e =>
      rw [moment_succ he] at h
      rcases (step_resolves (ho.moment es n) e).valueAt?_or (hp.moment ho es n) h with
        h | ⟨t, l, hq, hs⟩
      · obtain ⟨n', hn', hs⟩ := ih h
        exact ⟨n', Nat.lt_succ_of_lt hn', hs⟩
      · exact ⟨n, Nat.lt_succ_self n, t, l, hq, e, he, hs⟩

/-- A name in a cell is the answer that a question has had which had looked up this cell. -/
theorem answered (ho : Orderly r₀) (hp : Placed r₀) (h₀ : ∀ i, r₀.stage? i = none)
    (hv : r₀.resolutions.valueAt? c = none)
    (h : (r₀.moment es n).resolutions.valueAt? c = some b) : ∃ t l k n', k < n' ∧ n' < n ∧
      LookedIn r₀ es t l c k ∧ HappensAt (Succeeds t l b) r₀ es n' := by
  obtain ⟨n', hn', t, l, hq, hs⟩ := filled ho hp hv h
  obtain ⟨k, hk, _, hl, rfl⟩ := looked_in ho hp h₀ hq Part.noConfusion
  exact ⟨t, l, k, n', hk, hn', hl, hs⟩

/-! ## Resolving once -/

/-- How the locations are resolved in a run. -/
structure ResolvedOnce (r₀ : Registry) (es : List Event) : Prop where
  inquires : ∀ {n t l}, HappensAt (Inquires t l) r₀ es n → InFlight t l (r₀.moment es (n + 1))
  /-- A question in flight looked up the cell of its location, then the platform was asked, and it
  has been in flight since. -/
  in_flight : ∀ {n t l}, InFlight t l (r₀.moment es n) → ∃ k s, k < s ∧ s < n ∧
    HappensAt (LooksUp t l) r₀ es k ∧ HappensAt (Inquires t l) r₀ es s ∧
    ∀ j, s < j → j ≤ n → InFlight t l (r₀.moment es j)
  /-- Of those who look together one question at a time is in flight. -/
  one_in_flight : ∀ {n t t' l}, Together r₀ es l t t' → InFlight t l (r₀.moment es n) →
    InFlight t' l (r₀.moment es n) → t = t'
  /-- Of those who look together one question ever succeeds, and that once. -/
  one_success : ∀ {n n' t t' l b b'}, Together r₀ es l t t' →
    HappensAt (Succeeds t l b) r₀ es n → HappensAt (Succeeds t' l b') r₀ es n' →
    n = n' ∧ t = t' ∧ b = b'
  /-- Who comes to a name has it from the success of those who look together. -/
  named : ∀ {n t l b}, (r₀.moment es n).part? t = some (l, .named b) →
    ∃ t' n', n' < n ∧ HappensAt (Succeeds t' l b) r₀ es n' ∧ Together r₀ es l t t'
  told : ∀ {n t l b o}, HappensAt (Returns t.call o) r₀ es n → o.Tells t l b →
    ∃ t' n', n' ≤ n ∧ HappensAt (Succeeds t' l b) r₀ es n' ∧ Together r₀ es l t t'
  /-- A name in the cache is the answer to what was asked since everything was forgotten. -/
  cached : ∀ {n l b}, (r₀.moment es n).resolutions.get? l = some b → ∃ t k s n',
    k < s ∧ s < n' ∧ n' < n ∧ HappensAt (LooksUp t l) r₀ es k ∧
    HappensAt (Inquires t l) r₀ es s ∧ HappensAt (Succeeds t l b) r₀ es n' ∧
    Remembers r₀ es k n
  /-- The answer to who looked since everything was forgotten is in the cache. -/
  kept : ∀ {n n' t l b k}, HappensAt (LooksUp t l) r₀ es k →
    HappensAt (Succeeds t l b) r₀ es n' → n' < n → Remembers r₀ es k n →
    (r₀.moment es n).resolutions.get? l = some b
  /-- Only such an answer brings a name into the cache. -/
  fresh : ∀ {n l b}, (r₀.moment es (n + 1)).resolutions.get? l = some b →
    (r₀.moment es n).resolutions.get? l = some b ∨
    ∃ t, HappensAt (Succeeds t l b) r₀ es n ∧
      ∃ k < n, HappensAt (LooksUp t l) r₀ es k ∧ Remembers r₀ es k n
  forgotten : ∀ {n}, HappensAt Forgets r₀ es n → ∀ l,
    (r₀.moment es (n + 1)).resolutions.get? l = none

theorem LookedIn.looks_up (h : LookedIn r₀ es t l c k) : HappensAt (LooksUp t l) r₀ es k := by
  obtain ⟨e, he, h⟩ := h
  exact ⟨e, he, c, h⟩

theorem LookedIn.together (ho : Orderly r₀) (hp : Placed r₀) (h : LookedIn r₀ es t l c k)
    (h' : LookedIn r₀ es t' l c k') : Together r₀ es l t t' :=
  ⟨k, k', h.looks_up, h'.looks_up, h.remembers ho hp h', h'.remembers ho hp h⟩

theorem HappensAt.looked_in (h : HappensAt (LooksUp t l) r₀ es k) :
    ∃ c, LookedIn r₀ es t l c k := by
  obtain ⟨e, he, c, h⟩ := h
  exact ⟨c, e, he, h⟩

theorem Together.cell (ho : Orderly r₀) (h : Together r₀ es l t t') : ∃ c k k',
    LookedIn r₀ es t l c k ∧ LookedIn r₀ es t' l c k' := by
  obtain ⟨k, k', h, h', hr, hr'⟩ := h
  obtain ⟨c, hc⟩ := h.looked_in
  obtain ⟨c', hc'⟩ := h'.looked_in
  obtain rfl := hc.cell ho hc' hr hr'
  exact ⟨c, k, k', hc, hc'⟩

theorem LookedIn.asking (ho : Orderly r₀) (hp : Placed r₀) (h₀ : ∀ i, r₀.stage? i = none)
    (h : LookedIn r₀ es t l c k) (hf : InFlight t l (r₀.moment es n)) :
    k < n ∧ (r₀.moment es n).part? t = some (l, .asking c) := by
  obtain ⟨a, ha⟩ := hf
  obtain ⟨k', hk, c', h', rfl⟩ := looked_in ho hp h₀ ha Part.noConfusion
  obtain ⟨rfl, rfl⟩ := h.unique ho h'
  exact ⟨hk, ha⟩

/-- An answer comes into the cell that its question has looked up, and stays there. -/
theorem LookedIn.success (ho : Orderly r₀) (hp : Placed r₀) (h₀ : ∀ i, r₀.stage? i = none)
    (h : LookedIn r₀ es t l c k) (hs : HappensAt (Succeeds t l b) r₀ es n') :
    k < n' ∧ (r₀.moment es n').resolutions.valueAt? c = none ∧
      ∀ n, n' < n → (r₀.moment es n).resolutions.valueAt? c = some b := by
  obtain ⟨e, he, hs⟩ := hs
  obtain ⟨hk, ha⟩ := h.asking ho hp h₀ hs.1
  obtain ⟨hnone, hsome⟩ := (hp.moment ho es n').succeeds hs ha
  refine ⟨hk, hnone, fun n hn => valueAt?_moment ho hp hn ?_⟩
  rw [moment_succ he, hsome]

/-- A question in flight looked up its cell, and then the platform was asked. -/
theorem InFlight.since (ho : Orderly r₀) (hp : Placed r₀) (h₀ : ∀ i, r₀.stage? i = none)
    (h : InFlight t l (r₀.moment es n)) : ∃ k s c, k < s ∧ s < n ∧ LookedIn r₀ es t l c k ∧
      HappensAt (Inquires t l) r₀ es s ∧ ∀ j, s < j → j ≤ n → InFlight t l (r₀.moment es j) := by
  obtain ⟨s, hs, hi, ⟨a, ha⟩, hj⟩ := inquired ho h₀ h
  obtain ⟨k, hk, c, hl, -⟩ := looked_in ho hp h₀ ha Part.noConfusion
  exact ⟨k, s, c, hk, hs, hl, hi, hj⟩

/-- A name in the cell that a question has looked up is the success of those who look together. -/
theorem LookedIn.answered (ho : Orderly r₀) (hp : Placed r₀) (h₀ : ∀ i, r₀.stage? i = none)
    (hv : r₀.resolutions.valueAt? c = none) (h : LookedIn r₀ es t l c k)
    (hb : (r₀.moment es n).resolutions.valueAt? c = some b) :
    ∃ t' n', n' < n ∧ HappensAt (Succeeds t' l b) r₀ es n' ∧ Together r₀ es l t t' := by
  obtain ⟨t', l', k', n', -, hn', h', hs⟩ := Registry.answered ho hp h₀ hv hb
  obtain rfl := h.location ho hp h'
  exact ⟨t', n', hn', hs, h.together ho hp h'⟩

/-- Who learns a name has it from the success of those who look together. -/
theorem Learns.answered (ho : Orderly r₀) (hp : Placed r₀) (h₀ : ∀ i, r₀.stage? i = none)
    (hv : ∀ c, r₀.resolutions.valueAt? c = none) (he : es[n]? = some e)
    (h : Learns t l b (r₀.moment es n) e) :
    ∃ t' n', n' ≤ n ∧ HappensAt (Succeeds t' l b) r₀ es n' ∧ Together r₀ es l t t' := by
  obtain ⟨q, hq, hqf, hn⟩ := h.names
  obtain ⟨k, -, c, hl, hc⟩ := looked_in ho hp h₀ hq hqf
  rcases hn c hc with hb | ⟨-, hs⟩
  · obtain ⟨t', n', hn', hs⟩ := hl.answered ho hp h₀ (hv c) hb
    exact ⟨t', n', Nat.le_of_lt hn', hs⟩
  · exact ⟨t, n, Nat.le_refl n, ⟨e, he, hs⟩, hl.together ho hp hl⟩

/-- What a call tells when it returns, it has learned. -/
theorem Segment.learned {o : Outcome} (hg : Segment r e r' fx) (hx : .reply t.call o ∈ fx)
    (ht : o.Tells t l b) : Learns t l b r e := by
  unfold Outcome.Tells at ht
  split at ht
  · exact hg.lists_learned hx ht
  · obtain ⟨hk, rfl, rfl⟩ := ht
    obtain ⟨_, hs, -⟩ := hg.commits hx
    refine .before ?_
    rw [part?, hs, hk]
    rfl
  · exact ht.elim

/-- A name in the cache is the answer to what was asked since everything was forgotten. -/
theorem cached (ho : Orderly r₀) (hp : Placed r₀) (h₀ : ∀ i, r₀.stage? i = none)
    (hv : ∀ c, r₀.resolutions.valueAt? c = none)
    (hb : (r₀.moment es n).resolutions.get? l = some b) : ∃ t k s n', k < s ∧ s < n' ∧ n' < n ∧
      HappensAt (LooksUp t l) r₀ es k ∧ HappensAt (Inquires t l) r₀ es s ∧
      HappensAt (Succeeds t l b) r₀ es n' ∧ Remembers r₀ es k n := by
  obtain ⟨c, hc, hb⟩ := Option.bind_eq_some_iff.1 hb
  obtain ⟨t, l', k, n', hkn, hn', hl, hs⟩ := answered ho hp h₀ (hv c) hb
  obtain ⟨rfl, hr⟩ := hl.current ho hp hc (Nat.lt_trans hkn hn')
  obtain ⟨_, -, hf, -⟩ := id hs
  obtain ⟨k', s, _, hks, hsn, hl', hi, -⟩ := hf.since ho hp h₀
  obtain ⟨rfl, -⟩ := hl.unique ho hl'
  exact ⟨t, k, s, n', hks, hsn, hn', hl.looks_up, hi, hs, hr⟩

/-- The answer to who looked since everything was forgotten is in the cache. -/
theorem get?_kept (ho : Orderly r₀) (hp : Placed r₀) (h₀ : ∀ i, r₀.stage? i = none)
    (hk : HappensAt (LooksUp t l) r₀ es k) (hs : HappensAt (Succeeds t l b) r₀ es n')
    (hn : n' < n) (hr : Remembers r₀ es k n) :
    (r₀.moment es n).resolutions.get? l = some b := by
  obtain ⟨c, hl⟩ := hk.looked_in
  obtain ⟨hkn, -, hval⟩ := hl.success ho hp h₀ hs
  rw [OnceMap.get?, hl.kept ho hr (Nat.lt_trans hkn hn), Option.bind_some, hval n hn]

/-- A location is resolved once for all who look for its backend until everything is forgotten, and
what they are told is kept as long. -/
theorem resolved_once (adapter : Adapter) (policy : Policy) (order : CallId → Arrangement Location)
    (t : BackendTable) (es : List Event) :
    ResolvedOnce (new adapter policy order t) es := by
  have ho := orderly_new adapter policy order t
  have hp := placed_new adapter policy order t
  have h₀ := stage?_new adapter policy order t
  have hv (c : Nat) : (new adapter policy order t).resolutions.valueAt? c = none := rfl
  generalize new adapter policy order t = r₀ at ho hp h₀ hv ⊢
  refine ⟨?inquires, ?in_flight, ?one_in_flight, ?one_success, ?named, ?told,
    cached ho hp h₀ hv, get?_kept ho hp h₀, ?fresh, ?forgotten⟩
  case inquires =>
    rintro n t l ⟨e, he, h⟩
    rw [moment_succ he]
    exact ((step_resolves (ho.moment es n) e).asks_iff h).2
  case in_flight =>
    intro n t l h
    obtain ⟨k, s, c, hks, hsn, hl, hi, hj⟩ := h.since ho hp h₀
    exact ⟨k, s, hks, hsn, hl.looks_up, hi, hj⟩
  case one_in_flight =>
    intro n t t' l h hf hf'
    obtain ⟨c, k, k', hl, hl'⟩ := h.cell ho
    have hpn := hp.moment ho es n
    exact OnceMap.compute_unique (hpn.asking (hl.asking ho hp h₀ hf).2)
      (hpn.asking (hl'.asking ho hp h₀ hf').2)
  case one_success =>
    intro n n' t t' l b b' h hs hs'
    obtain ⟨c, k, k', hl, hl'⟩ := h.cell ho
    obtain ⟨-, hnone, hsome⟩ := hl.success ho hp h₀ hs
    obtain ⟨-, hnone', hsome'⟩ := hl'.success ho hp h₀ hs'
    rcases Nat.lt_trichotomy n n' with hn | rfl | hn
    · rw [hsome n' hn] at hnone'
      cases hnone'
    · obtain ⟨e, he, hs⟩ := hs
      exact ⟨rfl, hs.unique (hs'.of_event he)⟩
    · rw [hsome' n hn] at hnone
      cases hnone
  case named =>
    intro n t l b h
    obtain ⟨k, -, c, hl, hc⟩ := looked_in ho hp h₀ h Part.noConfusion
    exact hl.answered ho hp h₀ (hv c) hc
  case told =>
    rintro n t l b o ⟨e, he, hx⟩ ht
    exact ((step_segment _ e).learned hx ht).answered ho hp h₀ hv he
  case fresh =>
    intro n l b hb
    obtain ⟨t, k, s, n', hks, hsn, hn', hk, -, hs, hr⟩ := cached ho hp h₀ hv hb
    have hr' : Remembers r₀ es k n := fun j hkj hjn => hr j hkj (Nat.lt_succ_of_lt hjn)
    rcases Nat.lt_succ_iff_lt_or_eq.1 hn' with hn' | rfl
    · exact .inl (get?_kept ho hp h₀ hk hs hn' hr')
    · exact .inr ⟨t, hs, k, Nat.lt_trans hks hsn, hk, hr'⟩
  case forgotten =>
    rintro n ⟨e, he, hf⟩ l
    rw [moment_succ he, OnceMap.get?, hf.cellOf? (ho.moment es n)]
    rfl

end Registry

end SlotBroker
