import SlotBroker.Proofs.Registry.Admission
import SlotBroker.Proofs.Registry.Purpose
import SlotBroker.Proofs.Registry.Resolution

/-!
# One call at a time

A run is `Sequential` if calls are made, and what is known about the locations is forgotten, only
when no call is in progress, and if nobody shuts the registry down. What the platform and the
backends answer is left open.

Then a call finds the cache as it was when the call began, but for what it has added itself. So its
questions stand at the present cells of their locations, and every location that is listed has its
name in the cache (`InTurn`). From its making to its return nothing is forgotten, and no other list
returns (`Sequential.rests`).
-/

namespace SlotBroker

/-- A call is made, or what is known about the locations is to be forgotten. -/
def Event.begins : Event → Bool
  | .start _ | .reset => true
  | _ => false

instance Event.decidableShutdown : ∀ e : Event, Decidable (e = .start .shutdown)
  | .start c => decidable_of_iff (c = .shutdown) ⟨congrArg Event.start, Event.start.inj⟩
  | .resume _ | .enumerated _ _ | .resolved _ _ | .loaded _ _ | .attached _ _ _ | .detached _ _
  | .unloaded _ _ | .drop _ _ | .reset => isFalse Event.noConfusion

/-- What a question has come to is what the cache has for its location now. -/
def Part.Current (l : Location) (m : OnceMap Location Ticket BackendName) : Part → Prop
  | .fresh => True
  | .waiting c | .asking c => m.cellOf? l = some c
  | .named b => m.get? l = some b

theorem OnceMap.get?_of_cell {κ ω α : Type} [DecidableEq κ] {m : OnceMap κ ω α} {k : κ} {c : Nat}
    (hc : m.cellOf? k = some c) : m.get? k = m.valueAt? c := by
  rw [OnceMap.get?, hc, Option.bind_some]

namespace Registry

/-- A step that begins something has its turn: no call is in progress. No step shuts the registry
down. -/
structure Turns (r : Registry) (e : Event) : Prop where
  no_shutdown : e ≠ .start .shutdown
  begins : e.begins = true → ∀ i, r.stage? i = none

/-- One call after another is made in a run, and the registry is not shut down. -/
def Sequential (r₀ : Registry) (es : List Event) : Prop :=
  ∀ n e, es[n]? = some e → Turns (r₀.moment es n) e

/-! ## Checking a run -/

theorem none_in_progress_iff {r : Registry} :
    (∀ i, r.stage? i = none) ↔ r.calls.isEmpty = true := by
  unfold stage?
  cases r.calls with
  | nil => simp
  | cons p calls =>
    simp only [List.isEmpty_cons, Bool.false_eq_true, iff_false]
    intro h
    have hp := h p.1
    simp [Assoc.get?] at hp

instance (r : Registry) (e : Event) : Decidable (Turns r e) :=
  decidable_of_iff (e ≠ .start .shutdown ∧ (e.begins = true → r.calls.isEmpty = true))
    ⟨fun h => ⟨h.1, fun hb => none_in_progress_iff.2 (h.2 hb)⟩,
      fun h => ⟨h.no_shutdown, fun hb => none_in_progress_iff.1 (h.begins hb)⟩⟩

theorem sequential_cons {r : Registry} {e : Event} {es : List Event} :
    Sequential r (e :: es) ↔ Turns r e ∧ Sequential (r.step e).1 es := throughout_cons

instance decidableSequential : ∀ (r : Registry) (es : List Event), Decidable (Sequential r es)
  | _, [] => isTrue fun _ _ he => by cases he
  | r, e :: es =>
    have := decidableSequential (r.step e).1 es
    decidable_of_iff (Turns r e ∧ Sequential (r.step e).1 es) sequential_cons.symm

/-! ## The state between two calls and within one -/

/-- What is the case at every moment of a sequential run, if creates need a listing. -/
structure InTurn (r : Registry) : Prop where
  opened : r.closed = false
  policy : r.policy.requireFreshListing = true
  alone : ∀ {i j s s'}, r.stage? i = some s → r.stage? j = some s' → i = j
  serves : ∀ {i s}, r.stage? i = some s → s.call? ≠ none ∧ s.call? ≠ some .shutdown
  commits : ∀ {i l b h}, r.stage? i ≠ some (.creating l (.undoing b h))
  questions : ∀ {t l p}, r.part? t = some (l, p) → p.Current l r.resolutions
  listed : ∀ {ls}, r.listed = some ls → ∀ l ∈ ls, ∃ b, r.resolutions.get? l = some b
  creating : ∀ {i l s}, r.stage? i = some (.creating l s) → r.wasListed l = true

variable {r r' r₀ : Registry} {e : Event} {es : List Event} {fx : List Effect} {i j : CallId}
  {t : Ticket} {l : Location} {b : BackendName} {c c' : Call} {a a' k n n' : Nat} {o : Outcome}

/-! ## What a step keeps -/

theorem Resolves.get?_kept (hp : Placed r) (h : Resolves r e r' fx)
    (hf : ¬ (e = .reset ∨ Clears r fx)) (hb : r.resolutions.get? l = some b) :
    r'.resolutions.get? l = some b := by
  obtain ⟨c, hc, hv⟩ := Option.bind_eq_some_iff.1 hb
  rw [OnceMap.get?_of_cell (h.cellOf? hf hc)]
  exact h.valueAt? hp hv

theorem InTurn.not_clears (h : InTurn r) (ho : Orderly r) (ht : Turns r e)
    (hg : Segment r e r' fx) : ¬ Clears r fx := by
  intro hc
  rcases hg.clears ho hc with he | ⟨i, s, hs, hsh⟩
  · exact ht.no_shutdown he
  · exact (h.serves hs).2 (Stage.call?_of_shuts hsh)

/-- Nothing is forgotten unless that is asked for. -/
theorem InTurn.not_forgets (h : InTurn r) (ho : Orderly r) (ht : Turns r e) (he : e ≠ .reset) :
    ¬ Forgets r e := by
  rintro (rfl | hc)
  · exact he rfl
  · exact h.not_clears ho ht (step_segment r e) hc

/-- A step that begins something finds no call in progress, so a call that is in progress goes
on. -/
theorem Turns.goes_on {s : Stage} (ht : Turns r e) (hs : r.stage? i = some s) :
    ¬ e.begins = true := by
  intro hb
  rw [ht.begins hb i] at hs
  cases hs

theorem InTurn.remembers {s : Stage} (h : InTurn r) (ho : Orderly r) (ht : Turns r e)
    (hs : r.stage? i = some s) : ¬ Forgets r e := by
  refine h.not_forgets ho ht ?_
  rintro rfl
  exact ht.goes_on hs rfl

/-- A name that a question comes to is in the cache then. -/
theorem InTurn.learns (h : InTurn r) (ho : Orderly r) (hp : Placed r) (hf : ¬ Forgets r e)
    (hl : Learns t l b r e) : (r.step e).1.resolutions.get? l = some b := by
  have hr := step_resolves ho e
  cases hl with
  | before hq => exact hr.get?_kept hp hf (h.questions hq)
  | reads hq ht =>
    refine hr.get?_kept hp hf ?_
    rw [OnceMap.get?_of_cell (h.questions hq)]
    exact OnceMap.turn_ready_iff.1 ht
  | told hs =>
    obtain ⟨⟨c, hq⟩, -⟩ := id hs
    rw [OnceMap.get?_of_cell (hr.cellOf? hf (h.questions hq))]
    exact (hp.succeeds hs hq).2

theorem part?_in_progress {q : Location × Part} (h : r.part? t = some q) :
    ∃ s, r.stage? t.call = some s := by
  rw [part?] at h
  obtain ⟨s, hs, -⟩ := Option.bind_eq_some_iff.1 h
  exact ⟨s, hs⟩

theorem Learns.in_progress (h : Learns t l b r e) : ∃ s, r.stage? t.call = some s := by
  obtain ⟨p, hp, -⟩ := h.names
  exact part?_in_progress hp

/-- A call in progress was so before a step, or is made in it. -/
theorem InTurn.before {s : Stage} (h : InTurn r) (hs : (r.step e).1.stage? i = some s) :
    (∃ s', r.stage? i = some s' ∧ s'.call? = s.call?) ∨
      ∃ c, s.call? = some c ∧ Makes c i r e := by
  have hpur := (step_segment r e).purpose hs
  generalize hc : s.call? = c at hpur
  cases hpur with
  | same hs => exact .inl ⟨_, hs, rfl⟩
  | made hm => exact .inr ⟨_, rfl, hm⟩
  | background hs => exact absurd hs h.commits

/-- A call is made where none is in progress. -/
theorem Turns.idle_of_makes (ht : Turns r e) (hm : Makes c i r e) : r.stage? j = none :=
  ht.begins (by rw [hm.1]; rfl) j

theorem InTurn.step_alone {s s' : Stage} (h : InTurn r) (ht : Turns r e)
    (hi : (r.step e).1.stage? i = some s) (hj : (r.step e).1.stage? j = some s') : i = j := by
  rcases h.before hi with ⟨_, hi, -⟩ | ⟨_, -, hi⟩ <;>
    rcases h.before hj with ⟨_, hj, -⟩ | ⟨_, -, hj⟩
  · exact h.alone hi hj
  · cases hi.symm.trans (ht.idle_of_makes hj)
  · cases hj.symm.trans (ht.idle_of_makes hi)
  · exact hi.2.symm.trans hj.2

theorem InTurn.step_serves {s : Stage} (h : InTurn r) (ht : Turns r e)
    (hs : (r.step e).1.stage? i = some s) : s.call? ≠ none ∧ s.call? ≠ some .shutdown := by
  rcases h.before hs with ⟨s', hs', hc⟩ | ⟨c, hc, hm⟩
  · exact hc ▸ h.serves hs'
  · rw [hc]
    refine ⟨Option.some_ne_none c, fun hsh => ht.no_shutdown ?_⟩
    rw [hm.1, Option.some.inj hsh]

theorem InTurn.step_commits {backend : InstanceId} {handle : Handle} (h : InTurn r) :
    (r.step e).1.stage? i ≠ some (.creating l (.undoing backend handle)) := by
  intro hs
  cases (step_segment r e).creating hs with
  | same hs => exact h.commits hs
  | seeks _ _ hs' => exact hs'
  | undoes _ hc =>
    rw [h.opened] at hc
    cases hc

/-- What a question has come to is current, as that stays so or is so when it comes there. -/
theorem InTurn.step_questions {p : Part} (h : InTurn r) (ho : Orderly r) (hp : Placed r)
    (ht : Turns r e) (hq : (r.step e).1.part? t = some (l, p)) :
    p.Current l (r.step e).1.resolutions := by
  have hr := step_resolves ho e
  have kept {q : Location × Part} (hq : r.part? t = some q) : ¬ Forgets r e := by
    obtain ⟨s, hs⟩ := part?_in_progress hq
    exact h.remembers ho ht hs
  cases hr.comes hq with
  | same hq =>
    have hcur := h.questions hq
    cases p with
    | fresh => trivial
    | waiting | asking => exact hr.cellOf? (kept hq) hcur
    | named => exact hr.get?_kept hp (kept hq) hcur
  | begins => trivial
  | joins hq' => exact LooksIn.cellOf? ho ⟨hq', hq⟩
  | asks hq' => exact hr.cellOf? (kept hq') (h.questions hq')
  | learns hl =>
    obtain ⟨q, hq', -⟩ := hl.names
    exact h.learns ho hp (kept hq') hl

/-- The listing that counts after a step did so before it, or comes from a list that has learned the
name at each location. -/
theorem InTurn.step_listed {ls : List Location} (h : InTurn r) (ho : Orderly r) (hp : Placed r)
    (hls : (r.step e).1.listed = some ls) (hl : l ∈ ls) :
    ∃ b, (r.step e).1.resolutions.get? l = some b := by
  cases step_notes ho e with
  | same hsame hne hc =>
    rw [hsame] at hls
    obtain ⟨b, hb⟩ := h.listed hls l hl
    exact ⟨b, (step_resolves ho e).get?_kept hp (not_or.2 ⟨hne, hc⟩) hb⟩
  | @lists i m hlists _ hfx =>
    rw [hlists] at hls
    cases hls
    obtain ⟨d, hd, rfl⟩ := List.mem_map.1 hl
    obtain ⟨k, hk⟩ := List.mem_iff_getElem?.1 hd
    have hx : .reply i (.listed (.ok m)) ∈ (r.step e).2 := by simp [hfx]
    have hlearns := (step_segment r e).lists_learned hx hk
    exact ⟨d.backend, h.learns ho hp (Returns.list_alone ho hx).1 hlearns⟩
  | forgets hforgets =>
    rw [hforgets] at hls
    cases hls

/-- While a create is in progress the listing that it has seen counts. -/
theorem InTurn.wasListed_kept {s : Stage} (h : InTurn r) (ho : Orderly r) (ht : Turns r e)
    (hs : r.stage? i = some s) (hc : s.call? = some (.create l)) :
    (r.step e).1.wasListed l = true := by
  obtain ⟨s, rfl⟩ := Stage.creating_of_call? hc
  cases step_notes ho e with
  | same hsame =>
    rw [wasListed, hsame]
    exact h.creating hs
  | @lists j m _ hj =>
    -- The list that returns would be in progress beside the create.
    rcases hj with ⟨-, hj⟩ | ⟨parts, hj, -⟩ <;>
    · obtain rfl := h.alone hs hj
      rw [hs] at hj
      cases hj
  | forgets _ hf => exact absurd hf (h.remembers ho ht hs)

theorem InTurn.step_creating {s : CreateStage} (h : InTurn r) (ho : Orderly r) (ht : Turns r e)
    (hs : (r.step e).1.stage? i = some (.creating l s)) : (r.step e).1.wasListed l = true := by
  rcases h.before hs with ⟨s', hs', hc⟩ | ⟨c, hc, hm⟩
  · exact h.wasListed_kept ho ht hs' hc
  · cases hc
    have hnone : r.stage? i = none := hm.2 ▸ ho.not_made
    cases (step_segment r e).creating hs with
    | made =>
      rcases (step_segment r e).locking hs with hs | ⟨-, hl⟩
      · rw [hnone] at hs
        cases hs
      · exact hl h.policy
    | same h' | joins h' | seeks h' | attaches h' | undoes h' =>
      rw [hnone] at h'
      cases h'

theorem InTurn.step (h : InTurn r) (ho : Orderly r) (hp : Placed r) (ht : Turns r e) :
    InTurn (r.step e).1 where
  opened := ((step_segment r e).closed_eq ht.no_shutdown).trans h.opened
  policy := by rw [(step_segment r e).policy, h.policy]
  alone := h.step_alone ht
  serves := h.step_serves ht
  commits := h.step_commits
  questions := h.step_questions ho hp ht
  listed hls _ hl := h.step_listed ho hp hls hl
  creating := h.step_creating ho ht

/-! ## A sequential run -/

theorem inTurn_new (adapter : Adapter) (multiple : Bool) (order : CallId → Arrangement Location)
    (t : BackendTable) :
    InTurn (new adapter ⟨multiple, true⟩ order t) where
  opened := rfl
  policy := rfl
  alone hi := by cases hi
  serves hi := by cases hi
  commits hi := by cases hi
  questions hp := by cases hp
  listed hl := by cases hl
  creating hi := by cases hi

variable (hs : Sequential r₀ es) (ho : Orderly r₀) (hp : Placed r₀) (hi : InTurn r₀)

include hs ho hp hi

theorem Sequential.in_turn (n : Nat) : InTurn (r₀.moment es n) :=
  moment_keeps (Nat.zero_le n) hi fun k e _ _ he hk =>
    hk.step (ho.moment es k) (hp.moment ho es k) (hs k e he)

/-- From the making of a call to its return nothing is forgotten. -/
theorem Sequential.remembers (hm : HappensAt (Makes c i) r₀ es a)
    (hr : HappensAt (Returns i o) r₀ es n) (haj : a ≤ k) (hjn : k ≤ n) :
    ¬ HappensAt Forgets r₀ es k := by
  have hk := hs.in_turn ho hp hi k
  rintro ⟨e, he, hf⟩
  rcases Nat.eq_or_lt_of_le haj with rfl | haj
  · obtain ⟨rfl, -⟩ := hm.of_event he
    exact hk.not_forgets (ho.moment es a) (hs a _ he) Event.noConfusion hf
  · obtain ⟨s, hst⟩ := (in_progress ho hm hr).2 k haj hjn
    exact hk.remembers (ho.moment es k) (hs k e he) hst hf

/-- From the making of a call to its return no other call returns. -/
theorem Sequential.returns_alone {j : CallId} {o' : Outcome}
    (hm : HappensAt (Makes c i) r₀ es a) (hr : HappensAt (Returns i o) r₀ es n) (hak : a ≤ k)
    (hkn : k ≤ n) (hr' : HappensAt (Returns j o') r₀ es k) : j = i := by
  obtain ⟨e, he, hx⟩ := hr'
  have ht := hs k e he
  rcases Nat.eq_or_lt_of_le hak with rfl | hak
  · obtain ⟨rfl, hnew⟩ := hm.of_event he
    rcases (step_segment _ _).answers hx with ⟨s, _, hst, -⟩ | ⟨_, ⟨-, hj⟩, -⟩
    · exact absurd rfl (ht.goes_on hst)
    · exact hj.symm.trans hnew
  · obtain ⟨s, hst⟩ := (in_progress ho hm hr).2 k hak hkn
    rcases (step_segment _ e).answers hx with ⟨s', _, hst', -⟩ | ⟨_, ⟨rfl, -⟩, -⟩
    · exact (hs.in_turn ho hp hi k).alone hst' hst
    · exact absurd rfl (ht.goes_on hst)

/-- While a call that is no list with a result is in progress, the listing that counts stays. -/
theorem Sequential.rests (hm : HappensAt (Makes c i) r₀ es a)
    (hr : HappensAt (Returns i o) r₀ es n) (hno : ∀ m, o ≠ .listed (.ok m)) :
    Rests r₀ es a (n + 1) := by
  intro k hak hkn
  have hkn := Nat.le_of_lt_succ hkn
  refine ⟨hs.remembers ho hp hi hm hr hak hkn, fun j m hr' => ?_⟩
  obtain rfl := hs.returns_alone ho hp hi hm hr hak hkn hr'
  exact hno m (returned_once ho hr' hr).2.symm

end Registry

end SlotBroker
