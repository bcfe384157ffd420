import SlotBroker.Proofs.Registry.Answers
import SlotBroker.Proofs.Registry.Moments

/-!
# What a call is for

The stage at which a call waits tells what was asked for (`Stage.call?`), and only a background call
was asked for by nobody. A call keeps that from stage to stage (`Segment.purpose`), and what it
returns in the end answers it (`Segment.answers`).
-/

namespace SlotBroker

/-- What was asked for by a call that waits at a stage. -/
def Stage.call? : Stage → Option Call
  | .enumerating | .listing _ => some .list
  | .creating l _ => some (.create l)
  | .removing oid _ _ => some (.remove oid)
  | .draining _ _ | .releasing _ _ _ _ _ | .unloading _ _ _ => some .shutdown
  | .reclaiming _ _ _ => none

/-- What a call returns is of the kind that was asked for. -/
def Outcome.Answers : Call → Outcome → Prop
  | .list, .listed _ => True
  | .create l, .created r => ∀ s, r = .ok s → s.location = l
  | .remove _, .removed _ => True
  | .shutdown, .shutDown _ => True
  | _, _ => False

theorem Stage.call?_of_undrained? {s : Stage} {ls : List Location} (h : s.undrained? = some ls) :
    s.call? = some .shutdown := by
  cases s <;> first | rfl | cases h

theorem Stage.call?_of_shuts {s : Stage} (h : s.shuts) : s.call? = some .shutdown := by
  cases s <;> first | rfl | exact h.elim

theorem Stage.creating_of_call? {s : Stage} {l : Location} (h : s.call? = some (.create l)) :
    ∃ s', s = .creating l s' := by
  cases s with
  | creating l' s' =>
    cases h
    exact ⟨s', rfl⟩
  | _ => cases h

namespace Registry

/-- Where a call that waits after a step comes from. -/
inductive Purpose (r : Registry) (e : Event) (i : CallId) : Option Call → Prop
  | same {s} (h : r.stage? i = some s) : Purpose r e i s.call?
  | made {c} (h : Makes c i r e) : Purpose r e i (some c)
  | background {id l b h} (hs : r.stage? id = some (.creating l (.undoing b h)))
      (he : e = .drop id true) (hi : r.nextCall = i) : Purpose r e i none

variable {r r' r₁ : Registry} {e : Event} {fx : List Effect} {i id : CallId} {s : Stage}
  {o : Outcome}

theorem Purpose.of_stage {s' : Stage} (h : r.stage? i = some s') (hc : s'.call? = s.call?) :
    Purpose r e i s.call? :=
  hc ▸ .same h

theorem Segment.purpose (hg : Segment r e r' fx) (hi : r'.stage? i = some s) :
    Purpose r e i s.call? := by
  -- The step moves one call, and every other one is where it was.
  have moves {j : CallId} (hs : i ≠ j → r'.stage? i = r.stage? i)
      (hj : ∀ s, r'.stage? j = some s → Purpose r e j s.call?) : Purpose r e i s.call? := by
    by_cases hij : i = j
    · subst hij
      exact hj s hi
    · exact .same (by rw [← hs hij, hi])
  cases hg with
  | enumerated hs h =>
    refine moves h.stage? fun s hj => ?_
    obtain ⟨_, rfl⟩ := h.stage?_self hj
    exact .of_stage hs rfl
  | partReady hs _ _ h | partResolved hs _ h =>
    refine moves h.stage? fun s hj => ?_
    obtain ⟨_, rfl⟩ := h.stage?_self hj
    exact .of_stage hs rfl
  | shutdownMade h =>
    refine moves h.stage? fun s hj => ?_
    rw [Stage.call?_of_undrained? (h.undrained hj)]
    exact .made ⟨rfl, rfl⟩
  | drained hs _ h =>
    refine moves h.stage? fun s hj => ?_
    exact .of_stage hs (Stage.call?_of_undrained? (h.undrained hj)).symm
  | releaseGone hs _ _ h | released hs h | releaseFailed hs h =>
    refine moves h.stage? fun s hj => ?_
    exact .of_stage hs (Stage.call?_of_undrained? (h.undrained hj)).symm
  | unloaded hs h | unloadFailed hs h =>
    refine moves h.stage? fun s hj => ?_
    obtain ⟨_, _, rfl⟩ := h.stage?_self hj
    exact .of_stage hs rfl
  | idle | reset | refused => exact .same hi
  | listMade | createMade | removeMade =>
    simp only [stage?_standAt, stage?_enroll] at hi
    split at hi
    · cases hi
      exact .made ⟨rfl, by assumption⟩
    · exact .same hi
  | dropUndoing hs =>
    simp only [stage?_enroll, stage?_endCall] at hi
    split at hi
    · cases hi
      exact .background hs rfl (by assumption)
    · split at hi
      · cases hi
      · exact .same hi
  | partJoins hs | partAsks hs | createJoins hs | createReady hs | createAsks hs | createResolved hs
  | loadStarts hs | fetched hs | loaded hs | attachedLate hs | removeDetaches hs
  | releaseDetaches hs | reclaims hs =>
    rw [stage?_setStage] at hi
    split at hi
    · rename_i hij
      subst hij
      cases hi
      exact .of_stage hs rfl
    · exact .same hi
  | _ =>
    rw [stage?_endCall] at hi
    split at hi
    · cases hi
    · exact .same hi

/-! ## What a call returns -/

theorem Refused.answers {c : Call} (h : Refused r c o) : o.Answers c := by
  cases h with
  | closed | unlisted =>
    intro s hs
    cases hs
  | gone => trivial

theorem Lists.answers {parts : List (Location × Part)} (h : Lists r id parts r' fx)
    (hx : .reply i o ∈ fx) : i = id ∧ o.Answers .list := by
  cases h with
  | waits => cases hx
  | ends =>
    cases List.mem_singleton.1 hx
    exact ⟨rfl, trivial⟩

/-- A shutdown tells nothing but what it came to. -/
theorem answers_of_shuts (hr : .reply i o ∈ fx → i = id ∧ r'.stage? id = none ∧ fx = [.reply i o])
    (hfx : fx = [] ∨ (∃ b, fx = [.unload id b]) ∨ ∃ o, fx = [.reply id (.shutDown o)])
    (hx : .reply i o ∈ fx) : i = id ∧ o.Answers .shutdown := by
  obtain ⟨rfl, -, -⟩ := hr hx
  rcases hfx with rfl | ⟨_, rfl⟩ | ⟨_, rfl⟩
  · cases hx
  · cases List.mem_singleton.1 hx
  · cases List.mem_singleton.1 hx
    exact ⟨rfl, trivial⟩

/-- A call that returns has been in progress, or is answered as soon as it is made. What it returns
answers what was asked for. -/
theorem Segment.answers (hg : Segment r e r' fx) (hx : .reply i o ∈ fx) :
    (∃ s c, r.stage? i = some s ∧ s.call? = some c ∧ o.Answers c) ∨
      ∃ c, Makes c i r e ∧ o.Answers c := by
  cases hg with
  | refused h =>
    cases List.mem_singleton.1 hx
    exact .inr ⟨_, ⟨rfl, rfl⟩, h.answers⟩
  | enumerated hs h | partReady hs _ _ h | partResolved hs _ h =>
    obtain ⟨rfl, ha⟩ := h.answers hx
    exact .inl ⟨_, _, hs, rfl, ha⟩
  | shutdownMade h =>
    obtain ⟨rfl, ha⟩ := answers_of_shuts h.reply h.effects hx
    exact .inr ⟨_, ⟨rfl, rfl⟩, ha⟩
  | drained hs _ h =>
    obtain ⟨rfl, ha⟩ := answers_of_shuts h.reply h.effects hx
    exact .inl ⟨_, _, hs, rfl, ha⟩
  | releaseGone hs _ _ h | released hs h | releaseFailed hs h =>
    obtain ⟨rfl, ha⟩ := answers_of_shuts h.reply h.effects hx
    exact .inl ⟨_, _, hs, rfl, ha⟩
  | unloaded hs h | unloadFailed hs h =>
    obtain ⟨rfl, ha⟩ := answers_of_shuts h.reply (.inr h.effects) hx
    exact .inl ⟨_, _, hs, rfl, ha⟩
  | enumerateFailed hs | partFailed hs | removeGone hs | removed hs | removeFailed hs =>
    cases List.mem_singleton.1 hx
    exact .inl ⟨_, _, hs, rfl, trivial⟩
  | committed hs =>
    cases List.mem_singleton.1 hx
    refine .inl ⟨_, _, hs, rfl, fun s h => ?_⟩
    cases h
    rfl
  | createClosed hs | createBusy hs | resolveFailed hs | unserved hs | loadFailed hs
  | attachFailed hs | undone hs =>
    cases List.mem_singleton.1 hx
    refine .inl ⟨_, _, hs, rfl, fun s h => ?_⟩
    cases h
  | _ => simp at hx

/-! ## From the making of a call on -/

/-- A call was made, and what it was made for can still be told as long as it is in progress. -/
structure AskedFor (i : CallId) (c : Call) (r : Registry) : Prop where
  made : i < r.nextCall
  stage : ∀ s, r.stage? i = some s → s.call? = some c

variable {c : Call}

theorem AskedFor.step (ho : Orderly r) (h : AskedFor i c r ∨ Makes c i r e) :
    AskedFor i c (r.step e).1 := by
  have hg := step_segment r e
  constructor
  · rcases h with h | ⟨rfl, hi⟩
    · exact Nat.lt_of_lt_of_le h.made hg.nextCall_le
    · rw [nextCall_start, hi]
      exact Nat.lt_succ_self i
  · intro s hs
    have hp := hg.purpose hs
    generalize s.call? = k at hp
    cases hp with
    | same hs =>
      rcases h with h | ⟨-, hi⟩
      · exact h.stage _ hs
      · exact absurd (ho.fresh hs) (hi ▸ Nat.lt_irrefl _)
    | made hm =>
      obtain ⟨rfl, hi⟩ := hm
      rcases h with h | ⟨he, -⟩
      · exact absurd h.made (hi ▸ Nat.lt_irrefl _)
      · cases he
        rfl
    | background _ he hi =>
      subst he
      rcases h with h | ⟨he, -⟩
      · exact absurd h.made (hi ▸ Nat.lt_irrefl _)
      · cases he

/-- What a call returns answers what it was made for. -/
theorem AskedFor.answers (ho : Orderly r) (h : AskedFor i c r ∨ Makes c i r e)
    (hx : Returns i o r e) : o.Answers c := by
  rcases (step_segment r e).answers hx with ⟨s, c', hs, hc, ha⟩ | ⟨c', ⟨he, hi⟩, ha⟩
  · rcases h with h | ⟨-, hi⟩
    · rw [h.stage s hs, Option.some.injEq] at hc
      exact hc ▸ ha
    · exact absurd (ho.fresh hs) (hi ▸ Nat.lt_irrefl _)
  · rcases h with h | ⟨he', -⟩
    · exact absurd h.made (hi ▸ Nat.lt_irrefl _)
    · rw [he] at he'
      cases he'
      exact ha

/-! ### In the course of a run -/

variable {r₀ : Registry} {es : List Event} {c' : Call} {o' : Outcome} {a a' k n n' : Nat}

theorem nextCall_moment (r₀ : Registry) (es : List Event) (hn : n ≤ n') :
    (r₀.moment es n).nextCall ≤ (r₀.moment es n').nextCall :=
  moment_keeps (Q := fun r => (r₀.moment es n).nextCall ≤ r.nextCall) hn (Nat.le_refl _)
    fun _ e _ _ _ hk => Nat.le_trans hk (step_segment _ e).nextCall_le

theorem Over.moment (h : Over i (r₀.moment es n)) (hn : n ≤ n') : Over i (r₀.moment es n') :=
  moment_keeps hn h fun _ e _ _ _ hk => ((step_segment _ e).over hk).1

/-- A number is given to a call once. -/
theorem made_once (h : HappensAt (Makes c i) r₀ es a) (h' : HappensAt (Makes c' i) r₀ es a') :
    a = a' ∧ c = c' := by
  have later {a a' : Nat} {c c' : Call} (h : HappensAt (Makes c i) r₀ es a)
      (h' : HappensAt (Makes c' i) r₀ es a') : ¬ a < a' := by
    obtain ⟨_, he, rfl, hi⟩ := h
    obtain ⟨_, -, -, hi'⟩ := h'
    intro ha
    have hle := nextCall_moment r₀ es (Nat.succ_le_of_lt ha)
    rw [moment_succ he, nextCall_start, hi, hi'] at hle
    exact Nat.not_succ_le_self i hle
  obtain rfl : a = a' := Nat.le_antisymm (Nat.not_lt.1 (later h' h)) (Nat.not_lt.1 (later h h'))
  obtain ⟨e, he, rfl, -⟩ := h
  obtain ⟨h', -⟩ := h'.of_event he
  cases h'
  exact ⟨rfl, rfl⟩

/-- A call returns once. -/
theorem returned_once (ho : Orderly r₀) (h : HappensAt (Returns i o) r₀ es n)
    (h' : HappensAt (Returns i o') r₀ es n') : n = n' ∧ o = o' := by
  have later {n n' : Nat} {o o' : Outcome} (h : HappensAt (Returns i o) r₀ es n)
      (h' : HappensAt (Returns i o') r₀ es n') : ¬ n < n' := by
    obtain ⟨e, he, hx⟩ := h
    obtain ⟨e', -, hx'⟩ := h'
    intro hn
    have hover := ((step_segment _ e).returns (ho.moment es n) hx).1
    rw [← moment_succ he] at hover
    exact ((step_segment _ e').over (hover.moment hn)).2 o' hx'
  obtain rfl : n = n' := Nat.le_antisymm (Nat.not_lt.1 (later h' h)) (Nat.not_lt.1 (later h h'))
  obtain ⟨e, he, hx⟩ := h
  have hx' := h'.of_event he
  obtain ⟨-, hfx⟩ := (step_segment _ e).returns (ho.moment es n) hx
  rw [Returns, hfx] at hx'
  cases List.mem_singleton.1 hx'
  exact ⟨rfl, rfl⟩

theorem asked_for (ho : Orderly r₀) (h : HappensAt (Makes c i) r₀ es a) (hn : a < n) :
    AskedFor i c (r₀.moment es n) := by
  refine moment_keeps hn ?_ fun k _ _ _ _ hk => .step (ho.moment es k) (.inl hk)
  obtain ⟨e, he, hm⟩ := h
  rw [moment_succ he]
  exact .step (ho.moment es a) (.inr hm)

/-- A call is in progress only after it was made. -/
theorem made_before (ho : Orderly r₀) (hm : HappensAt (Makes c i) r₀ es a)
    (hst : (r₀.moment es n).stage? i = some s) : a < n := by
  by_contra hn
  have hlt := (ho.moment es n).fresh hst
  have hle := nextCall_moment r₀ es (Nat.not_lt.1 hn)
  obtain ⟨_, -, -, rfl⟩ := hm
  exact Nat.lt_irrefl _ (Nat.lt_of_lt_of_le hlt hle)

/-- A call that returns has been in progress since it was made. -/
theorem in_progress (ho : Orderly r₀) (hm : HappensAt (Makes c i) r₀ es a)
    (hr : HappensAt (Returns i o) r₀ es n) :
    a ≤ n ∧ ∀ k, a < k → k ≤ n → ∃ s, (r₀.moment es k).stage? i = some s := by
  obtain ⟨e, he, hx⟩ := hr
  constructor
  · refine Nat.not_lt.1 fun hn => ?_
    have hover := ((step_segment _ e).returns (ho.moment es n) hx).1
    obtain ⟨_, -, -, hi⟩ := hm
    have hlt := hover.made
    have hle := nextCall_moment r₀ es (Nat.succ_le_of_lt hn)
    rw [moment_succ he, hi] at hle
    exact Nat.lt_irrefl i (Nat.lt_of_lt_of_le hlt hle)
  · intro k hak hkn
    cases hs : (r₀.moment es k).stage? i with
    | some s => exact ⟨s, rfl⟩
    | none =>
      have hover : Over i (r₀.moment es k) := ⟨(asked_for ho hm hak).made, hs⟩
      exact absurd hx (((step_segment _ e).over (hover.moment hkn)).2 o)

theorem HappensAt.answers (ho : Orderly r₀) (hm : HappensAt (Makes c i) r₀ es a)
    (hr : HappensAt (Returns i o) r₀ es n) : o.Answers c := by
  have hn := (in_progress ho hm hr).1
  obtain ⟨e, he, hx⟩ := hr
  rcases Nat.eq_or_lt_of_le hn with rfl | hn
  · exact AskedFor.answers (ho.moment es a) (.inr (hm.of_event he)) hx
  · exact AskedFor.answers (ho.moment es n) (.inl (asked_for ho hm hn)) hx

end Registry

end SlotBroker
