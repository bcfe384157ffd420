import SlotBroker.Proofs.Registry.Answers
import SlotBroker.Proofs.Registry.Holding
import SlotBroker.Proofs.Registry.Moments

/-!
# Critical sections

The line of a location is there for good once it is there (`keys_moment`), and a step moves at most
one call in it (`Segment.keepsBut`): whoever waits for a location waits in one line with all others
who do. So there is one at work at a location at a time, and one request to a backend.

A request is under way from the step that asks the backend until the answer comes or the call is
given up (`Pending`). All that time the call waits for the answer at a stage where it holds the
location (`Pending.stage`), so the requests of two calls for one location never overlap. Only the
background call that detaches what a create that was given up has attached stands in no line.
-/

namespace SlotBroker

/-- What a backend is asked to do with a handle. -/
inductive Errand
  | attach
  | detach
  deriving DecidableEq, Repr

/-- A call that waits at this stage has made a request for the location, which it holds. -/
inductive Stage.Awaits : Errand → Location → Stage → Prop
  | attach {l name b oid} : Awaits .attach l (.creating l (.attaching name b oid))
  | undo {l b h} : Awaits .detach l (.creating l (.undoing b h))
  | remove {l oid} : Awaits .detach l (.removing oid l true)
  | release {l oid rest errors} : Awaits .detach l (.releasing oid l true rest errors)

theorem Stage.Awaits.holds {q : Errand} {l : Location} {s : Stage} (h : s.Awaits q l) :
    s.holds? = some l := by
  cases h <;> rfl

theorem Stage.Awaits.errand_unique {q q' : Errand} {l l' : Location} {s : Stage}
    (h : s.Awaits q l) (h' : s.Awaits q' l') : q = q' := by
  cases h <;> cases h' <;> rfl

theorem Stage.Awaits.frees {l : Location} {s : Stage} (h : s.Awaits .detach l) (i : CallId) :
    ∃ o, s.frees? i = some o := by
  cases h <;> exact ⟨_, rfl⟩

/-- A call that waits for a detach stands in a line, or is a background call. -/
theorem Stage.awaits_or_reclaims {s : Stage} {i : CallId} {o : Owner} (hf : s.frees? i = some o) :
    (∃ l, s.standsAt? = some l ∧ s.Awaits .detach l) ∨
      o = .call i ∧ ∃ b h, s = .reclaiming b h true := by
  unfold frees? at hf
  split at hf
  · exact .inl ⟨_, rfl, .undo⟩
  · cases hf
    exact .inr ⟨rfl, _, _, rfl⟩
  · exact .inl ⟨_, rfl, .remove⟩
  · exact .inl ⟨_, rfl, .release⟩
  · cases hf

/-- The backend has answered a request of a call, or the call is given up. -/
inductive Errand.Ends (i : CallId) : Errand → Event → Prop
  | attached {answer now} : Ends i .attach (.attached i answer now)
  | detached {answer} : Ends i .detach (.detached i answer)
  | dropped {q tending} : Ends i q (.drop i tending)

namespace Registry

variable {r r' r₁ : Registry} {e : Event} {fx : List Effect} {i j : CallId} {l l' : Location}
  {s : Stage} {q q' : Errand}

/-! ## The lines -/

/-- Lines in which one call has moved: it has stood in some of them and left some. -/
inductive Relined (i : CallId) (m : Assoc Location (List CallId)) :
    Assoc Location (List CallId) → Prop
  | same : Relined i m m
  | stands {m' l} (h : Relined i m m') :
    Relined i m (Assoc.put l ((Assoc.get? l m').getD [] ++ [i]) m')
  | leaves {m' l} (h : Relined i m m') : Relined i m (Assoc.modify l (fun line => line.erase i) m')

variable {m m' : Assoc Location (List CallId)}

theorem Relined.keys (h : Relined i m m') (hl : l ∈ Assoc.keys m) : l ∈ Assoc.keys m' := by
  induction h with
  | same => exact hl
  | stands _ ih => exact Assoc.mem_keys_put.2 (.inr ih)
  | leaves _ ih => rwa [Assoc.keys_modify]

theorem Relined.nodup (h : Relined i m m') (hm : (Assoc.keys m).Nodup) :
    (Assoc.keys m').Nodup := by
  induction h with
  | same => exact hm
  | stands _ ih => exact Assoc.nodup_put ih
  | leaves _ ih => rwa [Assoc.keys_modify]

/-- The others keep their places. -/
theorem Relined.others (h : Relined i m m') (l : Location) :
    ((Assoc.get? l m').getD []).filter (· ≠ i) = ((Assoc.get? l m).getD []).filter (· ≠ i) := by
  induction h with
  | same => rfl
  | @stands m' l' _ ih =>
    rw [Assoc.get?_put, ← ih]
    split
    · rename_i hl
      simp [hl]
    · rfl
  | @leaves m' l' _ ih =>
    rw [Assoc.get?_modify, ← ih]
    split
    · cases Assoc.get? l m' with
      | none => rfl
      | some line =>
        simp only [Option.map_some, Option.getD_some]
        rw [← List.erase_filter, List.erase_of_not_mem (by simp)]
    · rfl

theorem Releases.relined {errors : List BrokerError} {oids : List Oid}
    (h : Releases r₁ i errors oids r' fx) (hm : Relined i m r₁.lines) : Relined i m r'.lines := by
  cases h with
  | stands => exact .stands hm
  | unloads _ h =>
    rw [h.lines]
    exact hm

theorem Drains.relined {ls : List Location} (h : Drains r₁ i ls r' fx)
    (hm : Relined i m r₁.lines) : Relined i m r'.lines := by
  cases h with
  | stands => exact .stands hm
  | releases h => exact h.relined hm

/-- A step moves at most one call in the lines. -/
theorem Segment.relined (hg : Segment r e r' fx) : ∃ i, Relined i r.lines r'.lines := by
  cases hg with
  | createMade | removeMade => exact ⟨_, .stands .same⟩
  | shutdownMade h => exact ⟨_, h.relined .same⟩
  | drained _ _ h => exact ⟨_, h.relined (.leaves .same)⟩
  | releaseGone _ _ _ h | released _ h | releaseFailed _ h => exact ⟨_, h.relined (.leaves .same)⟩
  | createClosed | createBusy | resolveFailed | unserved | loadFailed | attachFailed | committed
  | undone | removeGone | removed | removeFailed => exact ⟨_, .leaves .same⟩
  | dropResolving | dropLoading | dropUndoing | dropUntended | dropStanding =>
    exact ⟨_, .leaves .same⟩
  | enumerated _ h | partReady _ _ _ h | partResolved _ _ h => exact ⟨0, h.lines ▸ .same⟩
  | unloaded _ h | unloadFailed _ h => exact ⟨0, h.lines ▸ .same⟩
  | _ => exact ⟨0, .same⟩

theorem keys_moment {es : List Event} {n n' : Nat} (hn : n ≤ n')
    (hl : l ∈ Assoc.keys (r.moment es n).lines) : l ∈ Assoc.keys (r.moment es n').lines :=
  moment_keeps (Q := fun r => l ∈ Assoc.keys r.lines) hn hl fun _ e _ _ _ hk =>
    (step_segment _ e).keys hk

theorem nodup_keys_moment (h : (Assoc.keys r.lines).Nodup) (es : List Event) (n : Nat) :
    (Assoc.keys (r.moment es n).lines).Nodup := by
  refine run_induction (P := fun r => (Assoc.keys r.lines).Nodup) h (fun h hg => ?_) _
  obtain ⟨_, hm⟩ := hg.relined
  exact hm.nodup h

/-! ## Requests -/

/-- A call that waits for an attach goes on waiting until it has the answer or is given up. -/
theorem Segment.attaching {name : BackendName} {b : InstanceId} {oid : Oid} (ho : Orderly r)
    (hg : Segment r e r' fx) (hs : r.stage? i = some (.creating l (.attaching name b oid))) :
    r'.stage? i = some (.creating l (.attaching name b oid)) ∨
      (∃ a now, e = .attached i a now) ∨ ∃ tending, e = .drop i tending := by
  have aside {j : CallId} {s₀ : Stage} {r₀ : Registry} (hj : r.stage? j = some s₀)
      (hn : s₀ ≠ .creating l (.attaching name b oid)) (hr : i ≠ j → r'.stage? i = r₀.stage? i)
      (hr₀ : r₀.stage? i = r.stage? i) :
      r'.stage? i = some (.creating l (.attaching name b oid)) := by
    have hij : i ≠ j := by
      rintro rfl
      exact hn (Option.some.inj (hj.symm.trans hs))
    rw [hr hij, hr₀, hs]
  cases hg with
  | shutdownMade hd => exact .inl ((hd.stage? (Nat.ne_of_lt (ho.fresh hs))).trans hs)
  | drained hj _ hd => exact .inl (aside hj Stage.noConfusion hd.stage? rfl)
  | releaseGone hj _ _ hd => exact .inl (aside hj Stage.noConfusion hd.stage? rfl)
  | released hj hd | releaseFailed hj hd =>
    exact .inl (aside hj Stage.noConfusion hd.stage? rfl)
  | unloaded hj hd | unloadFailed hj hd => exact .inl (aside hj Stage.noConfusion hd.stage? rfl)
  | enumerated hj hd | partReady hj _ _ hd | partResolved hj _ hd =>
    exact .inl (aside hj Stage.noConfusion hd.stage? rfl)
  | idle | reset | refused => exact .inl hs
  | _ =>
    have hi := Nat.ne_of_lt (ho.fresh hs)
    simp
    grind

theorem Segment.awaits (ho : Orderly r) (hg : Segment r e r' fx) (hs : r.stage? i = some s)
    (ha : s.Awaits q l) (he : ¬ q.Ends i e) : r'.stage? i = some s := by
  cases q with
  | attach =>
    cases ha
    rcases hg.attaching ho hs with hs' | ⟨a, now, rfl⟩ | ⟨tending, rfl⟩
    · exact hs'
    · exact absurd .attached he
    · exact absurd .dropped he
  | detach =>
    obtain ⟨o, hf⟩ := ha.frees i
    rcases hg.frees ho hs hf with hs' | ⟨a, rfl⟩ | ⟨tending, rfl⟩
    · exact hs'
    · exact absurd .detached he
    · exact absurd .dropped he

/-- A step makes a request for a location. A detach is for the location in whose line its call
stands. -/
inductive Begins (i : CallId) (l : Location) (r : Registry) (e : Event) : Errand → Prop
  | attach {oid b} (hx : .attach i oid b l ∈ (r.step e).2) : Begins i l r e .attach
  | detach {b h s} (hx : .detach i b h ∈ (r.step e).2) (hs : (r.step e).1.stage? i = some s)
      (hl : s.standsAt? = some l) : Begins i l r e .detach

/-- Who makes a request then awaits the answer, -/
theorem Begins.awaits (ho : Orderly r) (h : Begins i l r e q) :
    ∃ s, (r.step e).1.stage? i = some s ∧ s.Awaits q l := by
  have hg := step_segment r e
  cases h with
  | attach hx =>
    obtain ⟨-, -, name, hs⟩ := (hg.tries ho).attach hx
    exact ⟨_, hs, .attach⟩
  | @detach b h s hx hs hl =>
    obtain ⟨s', o, -, hs', hf, -⟩ := hg.asks hx
    rw [hs, Option.some.injEq] at hs'
    subst hs'
    rcases Stage.awaits_or_reclaims hf with ⟨l', hl', ha⟩ | ⟨-, _, _, rfl⟩
    · rw [hl, Option.some.injEq] at hl'
      exact ⟨s, hs, hl' ▸ ha⟩
    · cases hl

theorem Segment.not_attaching (ho : Orderly r) (hg : Segment r e r' fx) {oid : Oid}
    {b : InstanceId} (hx : .attach i oid b l ∈ fx) (hs : r.stage? i = some s) :
    ¬ s.Awaits .attach l' := by
  rintro ⟨⟩
  cases hg.serves ho with
  | other _ _ _ hfx => exact hfx _ hx trivial
  | starts => cases List.mem_singleton.1 hx
  | fetched hi | loaded hi =>
    cases List.mem_singleton.1 hx
    cases hi.symm.trans hs

theorem Segment.not_detaching (hg : Segment r e r' fx) {b : InstanceId} {h : Handle}
    (hx : .detach i b h ∈ fx) (hs : r.stage? i = some s) : ¬ s.Awaits .detach l' := by
  intro ha
  cases hg with
  | attachedLate hi | removeDetaches hi | releaseDetaches hi | reclaims hi =>
    cases List.mem_singleton.1 hx
    cases hi.symm.trans hs
    cases ha
  | refused h => cases h <;> simp at hx
  | enumerated _ h | partReady _ _ _ h | partResolved _ _ h => exact (h.wide hx).elim
  | unloaded _ h | unloadFailed _ h => exact (h.wide hx).elim
  | shutdownMade h | drained _ _ h | releaseGone _ _ _ h | released _ h | releaseFailed _ h =>
    exact (h.wide hx).elim
  | _ => simp at hx

/-- and did not await such an answer before. -/
theorem Begins.not_awaits (ho : Orderly r) (h : Begins i l r e q) (hs : r.stage? i = some s) :
    ¬ s.Awaits q l' := by
  cases h with
  | attach hx => exact (step_segment r e).not_attaching ho hx hs
  | detach hx => exact (step_segment r e).not_detaching hx hs

/-! ## The course of a request -/

/-- A request that was made at one moment is under way at another: it has not been answered, and its
call has not been given up. -/
structure Pending (q : Errand) (i : CallId) (l : Location) (r₀ : Registry) (es : List Event)
    (k n : Nat) : Prop where
  lt : k < n
  begins : HappensAt (fun r e => Begins i l r e q) r₀ es k
  lasts : ∀ m, k < m → m < n → ¬ HappensAt (fun _ e => q.Ends i e) r₀ es m

variable {r₀ : Registry} {es : List Event} {k k' n n' : Nat}

theorem Pending.before (h : Pending q i l r₀ es k n) (hk : k < n') (hn : n' ≤ n) :
    Pending q i l r₀ es k n' :=
  ⟨hk, h.begins, fun m hm hm' => h.lasts m hm (Nat.lt_of_lt_of_le hm' hn)⟩

/-- As long as a request is under way its call awaits the answer. -/
theorem Pending.stage (ho : Orderly r₀) (h : Pending q i l r₀ es k n) :
    ∃ s, (r₀.moment es n).stage? i = some s ∧ s.Awaits q l := by
  obtain ⟨hk, ⟨e, he, hb⟩, hl⟩ := h
  refine moment_keeps (Q := fun r => ∃ s, r.stage? i = some s ∧ s.Awaits q l) hk ?_
    fun m e hm hmn he ⟨s, hs, ha⟩ => ⟨s, ?_, ha⟩
  · rw [moment_succ he]
    exact hb.awaits (ho.moment es k)
  · exact (step_segment _ e).awaits (ho.moment es m) hs ha
      fun hend => hl m hm hmn ⟨e, he, hend⟩

/-- A call does not make a request again while it is under way. -/
theorem Pending.not_lt (ho : Orderly r₀) (h : Pending q i l r₀ es k n)
    (h' : Pending q i l r₀ es k' n) : ¬ k < k' := by
  intro hk
  obtain ⟨s, hs, ha⟩ := (h.before hk (Nat.le_of_lt h'.lt)).stage ho
  obtain ⟨e, -, hb⟩ := h'.begins
  exact hb.not_awaits (ho.moment es k') hs ha

/-- Two requests that are under way for one location are one. -/
theorem Pending.unique (ho : Orderly r₀) (h : Pending q i l r₀ es k n)
    (h' : Pending q' j l r₀ es k' n) : q = q' ∧ i = j ∧ k = k' := by
  obtain ⟨s, hs, ha⟩ := h.stage ho
  obtain ⟨s', hs', ha'⟩ := h'.stage ho
  obtain rfl := (ho.moment es n).holds_unique hs' ha'.holds hs ha.holds
  obtain rfl := Option.some.inj (hs.symm.trans hs')
  obtain rfl := ha.errand_unique ha'
  exact ⟨rfl, rfl, Nat.le_antisymm (Nat.not_lt.1 (h'.not_lt ho h)) (Nat.not_lt.1 (h.not_lt ho h'))⟩

/-! ## The sections of a run -/

/-- What the work at the locations is like in a run. -/
structure Sectioned (r₀ : Registry) (es : List Event) : Prop where
  /-- A location that has a line keeps it, -/
  kept : ∀ {n n' l}, n ≤ n' → l ∈ Assoc.keys (r₀.moment es n).lines →
    l ∈ Assoc.keys (r₀.moment es n').lines
  /-- and has no other. -/
  single : ∀ n, (Assoc.keys (r₀.moment es n).lines).Nodup
  /-- It stays the same line: but for one call at a time everybody keeps the place. -/
  others : ∀ n, ∃ i, ∀ l, ((r₀.moment es (n + 1)).line l).filter (· ≠ i) =
    ((r₀.moment es n).line l).filter (· ≠ i)
  /-- Whoever waits for a location or is at work there stands in its line. -/
  stands : ∀ {n i s l}, (r₀.moment es n).stage? i = some s → s.standsAt? = some l →
    l ∈ Assoc.keys (r₀.moment es n).lines ∧ i ∈ (r₀.moment es n).line l
  /-- Whoever is at work there is the head of the line, -/
  head : ∀ {n i s l}, (r₀.moment es n).stage? i = some s → s.holds? = some l →
    (r₀.moment es n).holder? l = some i
  /-- so that there is one at a time. -/
  alone : ∀ {n i j s s' l}, (r₀.moment es n).stage? i = some s → s.holds? = some l →
    (r₀.moment es n).stage? j = some s' → s'.holds? = some l → i = j
  /-- Whoever asks to have a handle detached stands in a line, but for the background calls. -/
  asked : ∀ {n e i b h}, es[n]? = some e → .detach i b h ∈ ((r₀.moment es n).step e).2 →
    (∃ l, Begins i l (r₀.moment es n) e .detach) ∨
      (r₀.moment es (n + 1)).stage? i = some (.reclaiming b h true)
  /-- One request at a time is under way for a location. -/
  apart : ∀ {n l q q' i j k k'}, Pending q i l r₀ es k n → Pending q' j l r₀ es k' n →
    q = q' ∧ i = j ∧ k = k'

theorem others_moment (r₀ : Registry) (es : List Event) (n : Nat) :
    ∃ i, ∀ l, ((r₀.moment es (n + 1)).line l).filter (· ≠ i) =
      ((r₀.moment es n).line l).filter (· ≠ i) := by
  cases he : es[n]? with
  | none => exact ⟨0, fun l => by rw [moment_end _ he]⟩
  | some e =>
    obtain ⟨i, hm⟩ := (step_segment (r₀.moment es n) e).relined
    exact ⟨i, fun l => by rw [moment_succ he]; exact hm.others l⟩

theorem detach_asked {b : InstanceId} {h : Handle} (hx : .detach i b h ∈ (r.step e).2) :
    (∃ l, Begins i l r e .detach) ∨ (r.step e).1.stage? i = some (.reclaiming b h true) := by
  obtain ⟨s, o, c, hs, hf, hc, rfl, rfl⟩ := (step_segment r e).asks hx
  rcases Stage.awaits_or_reclaims hf with ⟨l, hl, -⟩ | ⟨rfl, b, h, rfl⟩
  · exact .inl ⟨l, .detach hx hs hl⟩
  · rw [holding_call hs] at hc
    cases hc
    exact .inr hs

theorem critical_sections (adapter : Adapter) (policy : Policy)
    (order : CallId → Arrangement Location) (t : BackendTable)
    (es : List Event) : Sectioned (new adapter policy order t) es := by
  have ho := orderly_new adapter policy order t
  have hn : (Assoc.keys (new adapter policy order t).lines).Nodup := List.nodup_nil
  exact {
    kept := keys_moment
    single := nodup_keys_moment hn es
    others := others_moment _ es
    stands := fun hs hl =>
      ⟨(ho.moment es _).mem_keys hs hl, ((ho.moment es _).mem_line _ _).2 ⟨_, hs, hl⟩⟩
    head := fun hs hl => by rw [holder?_eq]; exact (ho.moment es _).head hs hl
    alone := fun hs hl hs' hl' => (ho.moment es _).holds_unique hs' hl' hs hl
    asked := fun he hx => by rw [moment_succ he]; exact detach_asked hx
    apart := Pending.unique ho }

end Registry

end SlotBroker
