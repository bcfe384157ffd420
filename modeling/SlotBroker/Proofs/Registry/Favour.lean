import SlotBroker.Proofs.Registry.Resolution

/-!
# Runs that favour the creates

In a favourable run nothing is asked of the registry but to create sessions at some locations, and
all that the creates ask for succeeds (`Favours`). Then every step moves one create on, or ends it
with a session of its own or because it finds one there (`Fans`), for nothing else can go wrong
(`Calm`).
-/

namespace SlotBroker

/-- The location for which an event requests a session. -/
def Event.request? : Event → Option Location
  | .start (.create l) => some l
  | _ => none

/-- A create whose attach is undone will not return a session. -/
def CreateStage.undoes : CreateStage → Prop
  | .undoing _ _ => True
  | _ => False

namespace Registry

/-- Only creates are made, at some locations, and what they ask for succeeds: the platform names a
backend that the table can load, and the backend loads and attaches. -/
def Favours (r₀ : Registry) (ls : List Location) : Event → Prop
  | .start (.create l) => l ∈ ls
  | .resume _ => True
  | .resolved _ (.ok b) => (r₀.backends.factoryFor? b).isSome = true
  | .loaded _ (.ok ()) => True
  | .attached _ (.ok _) _ => True
  | _ => False

instance (r₀ : Registry) (ls : List Location) : DecidablePred (Favours r₀ ls) := fun e =>
  match e with
  | .start (.create l) => inferInstanceAs (Decidable (l ∈ ls))
  | .resolved _ (.ok b) =>
    inferInstanceAs (Decidable ((r₀.backends.factoryFor? b).isSome = true))
  | .resume _ | .loaded _ (.ok ()) | .attached _ (.ok _) _ => .isTrue trivial
  | .start .list | .start (.remove _) | .start .shutdown | .enumerated _ _ | .resolved _ (.error _)
  | .loaded _ (.error _) | .attached _ (.error _) _ | .detached _ _ | .unloaded _ _ | .drop _ _
  | .reset => .isFalse id

/-- Since a moment the registry has only had creates to do, at some locations, and all of them were
favoured. -/
structure Calm (r₀ : Registry) (ls : List Location) (r : Registry) : Prop where
  closed : r.closed = false
  listed : r.listed = r₀.listed
  policy : r.policy = r₀.policy
  factories : ∀ b, r.backends.factoryFor? b = r₀.backends.factoryFor? b
  creating : ∀ {i s}, r.stage? i = some s → ∃ l c, s = .creating l c ∧ l ∈ ls ∧ ¬ c.undoes
  /-- Nothing is forgotten, so a create is at the cell of its location. -/
  waiting : ∀ {t l c}, r.part? t = some (l, .waiting c) → r.resolutions.cellOf? l = some c
  asking : ∀ {t l c}, r.part? t = some (l, .asking c) → r.resolutions.cellOf? l = some c
  /-- What the creates are named, the table can load. -/
  cached : ∀ {l b}, l ∈ ls → r.resolutions.get? l = some b →
    (r₀.backends.factoryFor? b).isSome = true
  named : ∀ {t l b}, r.part? t = some (l, .named b) → (r₀.backends.factoryFor? b).isSome = true

/-- What a step does when all creates are favoured. -/
inductive Fans (r : Registry) (e : Event) (r' : Registry) (fx : List Effect) : Prop
  | waits (he : e.request? = none) (h : r' = r) (hfx : fx = [])
  | made {l} (he : e = .start (.create l)) (hx : r'.sessions = r.sessions)
      (hn : r'.nextCall = r.nextCall + 1) (hfx : fx = [])
      (hs : ∀ j, r'.stage? j = if r.nextCall = j then some (.creating l .locking) else r.stage? j)
  | moves {i l s s'} (he : e.request? = none) (hi : r.stage? i = some (.creating l s))
      (hu : ¬ s'.undoes) (hx : r'.sessions = r.sessions) (hn : r'.nextCall = r.nextCall)
      (hfx : ∀ j o, .reply j o ∉ fx)
      (hs : ∀ j, r'.stage? j = if i = j then some (.creating l s') else r.stage? j)
  | busy {i l x} (he : e.request? = none) (hi : r.stage? i = some (.creating l .locking))
      (hm : x ∈ r.sessions) (hl : x.info.location = l) (hx : r'.sessions = r.sessions)
      (hn : r'.nextCall = r.nextCall)
      (hfx : fx = [.reply i (.created (.error (.locationBusy l x.info.oid)))])
      (hs : ∀ j, r'.stage? j = if i = j then none else r.stage? j)
  | commits {i a b} (he : e.request? = none)
      (hi : r.stage? i = some (.creating a.location (.attaching a.backend b a.oid)))
      (hx : r'.sessions = insertSession ⟨a, b⟩ r.sessions) (hn : r'.nextCall = r.nextCall)
      (hfx : fx = [.reply i (.created (.ok a))])
      (hs : ∀ j, r'.stage? j = if i = j then none else r.stage? j)

variable {r r' r₀ : Registry} {e : Event} {es : List Event} {fx : List Effect} {i : CallId}
  {ls : List Location} {l : Location}

theorem sessionAt?_mem {oid : Oid} (h : r.sessionAt? l = some oid) :
    ∃ x ∈ r.sessions, x.info.location = l ∧ x.info.oid = oid := by
  simp only [sessionAt?, Option.map_eq_some_iff] at h
  obtain ⟨x, hx, rfl⟩ := h
  exact ⟨x, List.mem_of_find?_eq_some hx, by simpa using List.find?_some hx, rfl⟩

theorem Calm.factory {s : CreateStage} {name : BackendName} (hc : Calm r₀ ls r)
    (hs : r.stage? i = some (.creating l s)) (hp : s.part? = some (.named name)) :
    (r.backends.factoryFor? name).isSome = true := by
  rw [hc.factories]
  exact hc.named (t := ⟨i, 0⟩) (l := l) (by rw [part?_of_creating hs, hp]; rfl)

theorem Segment.fans (hc : Calm r₀ ls r) (he : Favours r₀ ls e) (hn : e.request? = none)
    (hg : Segment r e r' fx) : Fans r e r' fx ∧ r'.closed = r.closed ∧ r'.listed = r.listed := by
  have no {i s} (hs : r.stage? i = some s) (hno : ∀ l c, s = .creating l c → c.undoes) : False := by
    obtain ⟨l, c, rfl, -, hu⟩ := hc.creating hs
    exact hu (hno l c rfl)
  cases hg with
  | idle => exact ⟨.waits hn rfl rfl, rfl, rfl⟩
  | createBusy hs _ _ _ hat =>
    obtain ⟨x, hx, hl, rfl⟩ := sessionAt?_mem hat
    exact ⟨.busy rfl hs hx hl rfl rfl rfl fun _ => stage?_endCall _ _ _, rfl, rfl⟩
  | createJoins hs | createReady hs | createAsks hs | createResolved hs | loadStarts hs
  | fetched hs | loaded hs =>
    exact ⟨.moves rfl hs id rfl rfl (by simp) fun _ => stage?_setStage _ _ _ _, rfl, rfl⟩
  | committed hs =>
    exact ⟨.commits rfl hs rfl rfl rfl fun _ => stage?_endCall _ _ _, rfl, rfl⟩
  -- What is left out may not happen, or has nothing to happen to.
  | createClosed _ _ hcl | attachedLate _ hcl =>
    rw [hc.closed] at hcl
    cases hcl
  | unserved hs _ hf =>
    have hsome := hc.factory hs rfl
    rw [hf] at hsome
    cases hsome
  | partJoins hs | partReady hs | partAsks hs | partResolved hs | removeGone hs
  | removeDetaches hs | drained hs | releaseGone hs | releaseDetaches hs | reclaims hs =>
    exact (no hs fun _ _ h => by cases h).elim
  | refused h =>
    cases h with
    | closed | unlisted => cases hn
    | gone => exact he.elim
  | createMade => cases hn
  | _ => exact he.elim

/-- A create that is made is let in. -/
theorem Calm.made (hc : Calm r₀ ls r)
    (hl : r₀.policy.requireFreshListing = true → r₀.wasListed l = true) :
    r.step (.start (.create l)) = ((r.enroll (.creating l .locking)).standAt l r.nextCall, []) := by
  have hw : (r.policy.requireFreshListing && !r.wasListed l) = false := by
    rw [hc.policy, wasListed, hc.listed, ← wasListed]
    cases hp : r₀.policy.requireFreshListing with
    | false => rfl
    | true => simp [hl hp]
  simp only [step, start, hc.closed, hw, Bool.false_eq_true, if_false]

theorem step_fans (hc : Calm r₀ ls r) (he : Favours r₀ ls e)
    (hl : ∀ l ∈ ls, r₀.policy.requireFreshListing = true → r₀.wasListed l = true) :
    Fans r e (r.step e).1 (r.step e).2 ∧ (r.step e).1.closed = r.closed ∧
      (r.step e).1.listed = r.listed := by
  cases hn : e.request? with
  | none => exact (step_segment r e).fans hc he hn
  | some l =>
    obtain rfl : e = .start (.create l) := by
      unfold Event.request? at hn
      split at hn
      · cases hn
        rfl
      · cases hn
    rw [hc.made (hl l he)]
    exact ⟨.made rfl rfl rfl rfl fun _ => stage?_enroll _ _ _, rfl, rfl⟩

/-! ## It stays calm -/

theorem Tends.factoryFor? (h : Tends r fx r') (b : BackendName) :
    r'.backends.factoryFor? b = r.backends.factoryFor? b := by
  cases h with
  | same h | joins _ _ h | leaves _ _ _ h | takes _ h => rw [h] <;> rfl

/-- Which factory loads a backend is settled from the start. -/
theorem Segment.factoryFor? (ho : Orderly r) (hg : Segment r e r' fx) (b : BackendName) :
    r'.backends.factoryFor? b = r.backends.factoryFor? b := by
  cases hg.serves ho with
  | other h => exact h.factoryFor? b
  | starts | fetched | loaded => rfl

theorem Calm.not_creating {s : Stage} (hc : Calm r₀ ls r) (hs : r.stage? i = some s)
    (hn : ∀ l c, s ≠ .creating l c) : False := by
  obtain ⟨l, c, h, -⟩ := hc.creating hs
  exact hn l c h

theorem Calm.not_forgets (hc : Calm r₀ ls r) (ho : Orderly r) (he : Favours r₀ ls e)
    (hg : Segment r e r' fx) : ¬ (e = .reset ∨ Clears r fx) := by
  rintro (rfl | hcl)
  · exact he
  · cases hg.shuts ho with
    | other _ hfx => exact not_clears hfx hcl
    | made h =>
      subst h
      exact he
    | drained hs | detaches hs | releases hs | unloaded hs =>
      exact hc.not_creating hs fun _ _ => Stage.noConfusion
    | dropped _ _ h =>
      subst h
      exact he

theorem Calm.mem {t : Ticket} {p : Part} (hc : Calm r₀ ls r) (hp : r.part? t = some (l, p)) :
    l ∈ ls := by
  obtain ⟨s, hs, hq⟩ := Option.bind_eq_some_iff.1 hp
  obtain ⟨l', c, rfl, hl, -⟩ := hc.creating hs
  simp only [Stage.part?] at hq
  split at hq
  · obtain ⟨_, -, hq⟩ := Option.map_eq_some_iff.1 hq
    cases hq
    exact hl
  · cases hq

theorem Succeeds.loadable {t : Ticket} {b : BackendName} (h : Succeeds t l b r e)
    (he : Favours r₀ ls e) : (r₀.backends.factoryFor? b).isSome = true := by
  obtain ⟨-, u, rfl, -⟩ := h
  exact he

theorem Calm.cached_step {b : BackendName} (hc : Calm r₀ ls r) (hp : Placed r)
    (he : Favours r₀ ls e) (hg : Resolves r e r' fx) (hl : l ∈ ls)
    (h : r'.resolutions.get? l = some b) : (r₀.backends.factoryFor? b).isSome = true := by
  obtain ⟨c, hcell, hv⟩ := Option.bind_eq_some_iff.1 h
  rcases hg.valueAt?_or hp hv with hv | ⟨t, l', -, hs⟩
  · rcases hg.cellOf?_or hcell with hcell | rfl
    · exact hc.cached hl (Option.bind_eq_some_iff.2 ⟨c, hcell, hv⟩)
    · simp [OnceMap.valueAt?] at hv
  · exact hs.loadable he

theorem Calm.named_step {t : Ticket} {b : BackendName} (hc : Calm r₀ ls r) (he : Favours r₀ ls e)
    (h : Learns t l b r e) : (r₀.backends.factoryFor? b).isSome = true := by
  cases h with
  | before h => exact hc.named h
  | reads hp ht =>
    exact hc.cached (hc.mem hp)
      (Option.bind_eq_some_iff.2 ⟨_, hc.waiting hp, OnceMap.turn_ready_iff.1 ht⟩)
  | told h => exact h.loadable he

theorem Fans.creating (hc : Calm r₀ ls r) (he : Favours r₀ ls e) (h : Fans r e r' fx) {s : Stage}
    (hs : r'.stage? i = some s) : ∃ l c, s = .creating l c ∧ l ∈ ls ∧ ¬ c.undoes := by
  cases h with
  | waits _ h => exact hc.creating (h ▸ hs)
  | made h _ _ _ hst =>
    rw [hst] at hs
    split at hs
    · cases hs
      subst h
      exact ⟨_, _, rfl, he, id⟩
    · exact hc.creating hs
  | moves _ hi hu _ _ _ hst =>
    rw [hst] at hs
    split at hs
    · cases hs
      obtain ⟨l, c, h, hl, -⟩ := hc.creating hi
      cases h
      exact ⟨_, _, rfl, hl, hu⟩
    · exact hc.creating hs
  | busy _ _ _ _ _ _ _ hst | commits _ _ _ _ _ hst =>
    rw [hst] at hs
    split at hs
    · cases hs
    · exact hc.creating hs

theorem Calm.step (hc : Calm r₀ ls r) (ho : Orderly r) (hp : Placed r) (he : Favours r₀ ls e)
    (hl : ∀ l ∈ ls, r₀.policy.requireFreshListing = true → r₀.wasListed l = true) :
    Calm r₀ ls (r.step e).1 := by
  obtain ⟨hf, hclosed, hlisted⟩ := step_fans hc he hl
  have hg := step_segment r e
  have hr := hg.resolves ho
  have hnf := hc.not_forgets ho he hg
  exact {
    closed := hclosed.trans hc.closed
    listed := hlisted.trans hc.listed
    policy := hg.policy.trans hc.policy
    factories := fun b => (hg.factoryFor? ho b).trans (hc.factories b)
    creating := hf.creating hc he
    waiting := fun {t l c} h => by
      cases hr.comes h with
      | same h => exact hr.cellOf? hnf (hc.waiting h)
      | joins hq => exact LooksIn.cellOf? ho ⟨hq, h⟩
    asking := fun {t l c} h => by
      cases hr.comes h with
      | same h => exact hr.cellOf? hnf (hc.asking h)
      | asks h => exact hr.cellOf? hnf (hc.waiting h)
    cached := hc.cached_step hp he hr
    named := fun {t l b} h => by
      cases hr.comes h with
      | same h => exact hc.named h
      | learns h => exact hc.named_step he h }

end Registry

end SlotBroker
