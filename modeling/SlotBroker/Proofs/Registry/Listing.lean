import SlotBroker.Proofs.Registry.Ending
import SlotBroker.Proofs.Registry.Moments

/-!
# The listing that counts

A list puts down its locations when it returns, not when it enumerates them. So the listing that
counts is that of the list that returned last (`listed_latest`), and it may be older than one that
another list has put down before, or than what was forgotten in the meantime
(`not_neverOutdated`). What makes a listing outdated has happened before its list returned.
-/

namespace SlotBroker

namespace Registry

/-! ## What a step does to the listing -/

/-- How a list has come to its locations: the platform has just told them, or has done so before. -/
def Finds (r : Registry) (e : Event) (i : CallId) (ls : List Location) : Prop :=
  e = .enumerated i (.ok ls) ∧ r.stage? i = some .enumerating ∨
    ∃ parts, r.stage? i = some (.listing parts) ∧ parts.map Prod.fst = ls

/-- What a step does to the listing that counts. -/
inductive Notes (r : Registry) (e : Event) (fx : List Effect) (r' : Registry) : Prop
  | same (h : r'.listed = r.listed) (he : e ≠ .reset) (hc : ¬ Clears r fx)
      (hfx : ∀ i m, .reply i (.listed (.ok m)) ∉ fx)
  | lists {i m} (h : r'.listed = some m.keys) (hi : Finds r e i m.keys)
      (hfx : fx = [.reply i (.listed (.ok m))])
  | forgets (h : r'.listed = none) (hf : e = .reset ∨ Clears r fx)
      (hfx : ∀ i m, .reply i (.listed (.ok m)) ∉ fx)

variable {r r' r₀ : Registry} {e : Event} {es : List Event} {fx : List Effect} {id i : CallId}
  {k n : Nat} {m : Listing}

theorem keys_of_allNamed? : ∀ {parts : List (Location × Part)} {entries : List Descriptor},
    allNamed? parts = some entries → entries.map Descriptor.location = parts.map Prod.fst
  | [], entries, h => by
    cases h
    rfl
  | (l, .named b) :: parts, entries, h => by
    obtain ⟨rest, hr, rfl⟩ := Option.map_eq_some_iff.1 h
    rw [List.map_cons, List.map_cons, keys_of_allNamed? hr]

theorem map_fst_set {parts : List (Location × Part)} {l : Location} {p : Part}
    (h : parts[k]? = some (l, p)) (q : Part) :
    (parts.set k (l, q)).map Prod.fst = parts.map Prod.fst := by
  refine List.ext_getElem? fun j => ?_
  simp only [List.getElem?_map, List.getElem?_set]
  split
  · rename_i hj
    subst hj
    split
    · simp [h]
    · rename_i hlt
      simp [List.getElem?_eq_none (Nat.le_of_not_lt hlt)]
  · rfl

theorem Lists.notes {parts : List (Location × Part)} {r₁ : Registry}
    (h : Lists r₁ id parts r' fx) (hl : r₁.listed = r.listed) (he : e ≠ .reset)
    (hi : Finds r e id (parts.map Prod.fst)) : Notes r e fx r' := by
  cases h with
  | waits => exact .same hl he (not_clears (by simp)) (by simp)
  | @ends entries ha =>
    have hk : Listing.keys ⟨entries⟩ = parts.map Prod.fst := keys_of_allNamed? ha
    refine .lists (m := ⟨entries⟩) ?_ ?_ rfl
    · rw [hk]
      rfl
    · rw [hk]
      exact hi

theorem Releases.notes {errors : List BrokerError} {oids : List Oid} {r₁ : Registry}
    (h : Releases r₁ id errors oids r' fx) (hl : r₁.listed = r.listed) (he : e ≠ .reset)
    (hs : ∀ b cells errors, r.stage? id ≠ some (.unloading b cells errors)) :
    Notes r e fx r' := by
  cases h with
  | stands => exact .same hl he (not_clears (by simp)) (by simp)
  | unloads _ h =>
    refine .forgets ?_ (.inr (h.clears hs)) ?_
    · cases h <;> rfl
    · rcases h.effects with ⟨_, rfl⟩ | ⟨_, rfl⟩ <;> simp

theorem Drains.notes {ls : List Location} {r₁ : Registry} (h : Drains r₁ id ls r' fx)
    (hl : r₁.listed = r.listed) (he : e ≠ .reset)
    (hs : ∀ b cells errors, r.stage? id ≠ some (.unloading b cells errors)) :
    Notes r e fx r' := by
  cases h with
  | stands => exact .same hl he (not_clears (by simp)) (by simp)
  | releases h => exact h.notes hl he hs

theorem Unloads.notes {b : InstanceId} {cells cells' : List Nat}
    {errors errors' : List BrokerError} (h : Unloads r id errors cells r' fx) (he : e ≠ .reset)
    (hs : r.stage? id = some (.unloading b cells' errors')) : Notes r e fx r' := by
  refine .same (by cases h <;> rfl) he (fun hc => h.clears_id hc _ _ _ hs) ?_
  rcases h.effects with ⟨_, rfl⟩ | ⟨_, rfl⟩ <;> simp

theorem Segment.notes (ho : Orderly r) (hg : Segment r e r' fx) (he : e ≠ .reset) :
    Notes r e fx r' := by
  cases hg with
  | reset => exact absurd rfl he
  | enumerated hs h =>
    refine h.notes rfl he (.inl ⟨?_, hs⟩)
    simp [Function.comp_def]
  | partReady hs hp _ h | partResolved hs hp h =>
    exact h.notes rfl he (.inr ⟨_, hs, (map_fst_set hp _).symm⟩)
  | shutdownMade h => exact h.notes rfl he (by simp [ho.not_made])
  | drained hs _ h => exact h.notes rfl he (by simp [hs])
  | releaseGone hs _ _ h | released hs h | releaseFailed hs h => exact h.notes rfl he (by simp [hs])
  | unloaded hs h | unloadFailed hs h => exact h.notes he hs
  | refused h => refine .same rfl he (not_clears ?_) ?_ <;> cases h <;> simp [Effect.shuts]
  | _ => exact .same rfl he (not_clears (by simp [Effect.shuts])) (by simp)

theorem step_notes (ho : Orderly r) (e : Event) : Notes r e (r.step e).2 (r.step e).1 := by
  by_cases he : e = .reset
  · subst he
    exact .forgets rfl (.inl rfl) (by simp [step])
  · exact (step_segment r e).notes ho he

/-! ## Where a list has its locations from -/

theorem Segment.lists {parts : List (Location × Part)} (hg : Segment r e r' fx)
    (hi : r'.stage? i = some (.listing parts)) : Finds r e i (parts.map Prod.fst) := by
  have aside {j : CallId} {r₁ : Registry} (h₁ : r₁.stage? i = r.stage? i)
      (hs : i ≠ j → r'.stage? i = r₁.stage? i)
      (hj : r'.stage? j = some (.listing parts) → Finds r e j (parts.map Prod.fst)) :
      Finds r e i (parts.map Prod.fst) := by
    by_cases hij : i = j
    · subst hij
      exact hj hi
    · rw [hs hij, h₁] at hi
      exact .inr ⟨parts, hi, rfl⟩
  cases hg with
  | enumerated hs h =>
    refine aside rfl h.stage? fun hj => ?_
    cases h with
    | waits =>
      simp only [stage?_setStage, if_true, Option.some.injEq, Stage.listing.injEq] at hj
      subst hj
      exact .inl ⟨by simp [Function.comp_def], hs⟩
    | ends => simp at hj
  | partReady hs hp _ h | partResolved hs hp h =>
    refine aside rfl h.stage? fun hj => ?_
    cases h with
    | waits =>
      simp only [stage?_setStage, if_true, Option.some.injEq, Stage.listing.injEq] at hj
      subst hj
      exact .inr ⟨_, hs, (map_fst_set hp _).symm⟩
    | ends => simp at hj
  | partJoins hs hp | partAsks hs hp =>
    simp only [stage?_setStage] at hi
    split at hi
    · rename_i hij
      subst hij
      cases hi
      exact .inr ⟨_, hs, (map_fst_set hp _).symm⟩
    · exact .inr ⟨parts, hi, rfl⟩
  | shutdownMade h => exact aside rfl h.stage? fun hs => by cases h.undrained hs
  | drained _ _ h => exact aside rfl h.stage? fun hs => by cases h.undrained hs
  | releaseGone _ _ _ h | released _ h | releaseFailed _ h =>
    exact aside rfl h.stage? fun hs => by cases h.undrained hs
  | unloaded _ h | unloadFailed _ h =>
    refine aside rfl h.stage? fun hs => ?_
    obtain ⟨_, _, hs⟩ := h.stage?_self hs
    cases hs
  | idle | reset | refused => exact .inr ⟨parts, hi, rfl⟩
  | _ =>
    simp at hi
    grind [Finds]

/-- The locations of a list are those that the platform has told it. -/
theorem Finds.enumerated {ls : List Location} (h₀ : ∀ i, r₀.stage? i = none)
    (he : es[n]? = some e) (h : Finds (r₀.moment es n) e i ls) :
    ∃ k ≤ n, HappensAt (Enumerates i ls) r₀ es k := by
  induction n generalizing e with
  | zero =>
    rcases h with h | ⟨parts, hs, -⟩
    · exact ⟨0, Nat.le_refl _, e, he, h⟩
    · simp [h₀] at hs
  | succ n ih =>
    rcases h with h | ⟨parts, hs, rfl⟩
    · exact ⟨n + 1, Nat.le_refl _, e, he, h⟩
    · obtain ⟨e', he'⟩ := event_before he
      rw [moment_succ he'] at hs
      obtain ⟨k, hk, hen⟩ := ih he' ((step_segment _ e').lists hs)
      exact ⟨k, Nat.le_succ_of_le hk, hen⟩

/-! ## The listing of the list that returned last -/

/-- A list has enumerated at a moment `k` and has returned at a moment `k'` before `n`. -/
structure Listed (r₀ : Registry) (es : List Event) (i : CallId) (m : Listing) (k k' n : Nat) :
    Prop where
  enumerated : HappensAt (Enumerates i m.keys) r₀ es k
  returned : HappensAt (Returns i (.listed (.ok m))) r₀ es k'
  le : k ≤ k'
  lt : k' < n

/-- Since a list has enumerated, what was known about the locations was forgotten, or another list
has returned that enumerated later. -/
def Outdated (r₀ : Registry) (es : List Event) (i : CallId) (k n : Nat) : Prop :=
  (∃ j, k ≤ j ∧ j < n ∧ HappensAt Forgets r₀ es j) ∨
    ∃ i' m j j', i' ≠ i ∧ k < j ∧ Listed r₀ es i' m j j' n

/-- No list returns from a moment on, and nothing is forgotten. -/
def Rests (r₀ : Registry) (es : List Event) (k n : Nat) : Prop :=
  ∀ j, k ≤ j → j < n → ¬ HappensAt Forgets r₀ es j ∧
    ∀ i m, ¬ HappensAt (Returns i (.listed (.ok m))) r₀ es j

theorem Rests.succ (h : Rests r₀ es k n) (hf : ¬ HappensAt Forgets r₀ es n)
    (hr : ∀ i m, ¬ HappensAt (Returns i (.listed (.ok m))) r₀ es n) : Rests r₀ es k (n + 1) := by
  intro j hk hj
  rcases Nat.lt_succ_iff_lt_or_eq.1 hj with hj | rfl
  · exact h j hk hj
  · exact ⟨hf, hr⟩

/-- Where the listing that counts at a moment is from: there is none if no list has returned since
what was known was forgotten, and else it is that of the list that returned last. -/
inductive Latest (r₀ : Registry) (es : List Event) (n : Nat) : Option (List Location) → Prop
  | forgotten {k : Nat} (hk : k = 0 ∨ ∃ j, k = j + 1 ∧ HappensAt Forgets r₀ es j) (hn : k ≤ n)
      (h : Rests r₀ es k n) : Latest r₀ es n none
  | returned {i : CallId} {m : Listing} {k k' : Nat} (hl : Listed r₀ es i m k k' n)
      (h : Rests r₀ es (k' + 1) n) : Latest r₀ es n (some m.keys)

theorem Latest.succ {ls : Option (List Location)} (h : Latest r₀ es n ls)
    (hf : ¬ HappensAt Forgets r₀ es n)
    (hr : ∀ i m, ¬ HappensAt (Returns i (.listed (.ok m))) r₀ es n) : Latest r₀ es (n + 1) ls := by
  cases h with
  | forgotten hk hn h => exact .forgotten hk (Nat.le_succ_of_le hn) (h.succ hf hr)
  | returned hl h => exact .returned { hl with lt := Nat.lt_succ_of_lt hl.lt } (h.succ hf hr)

theorem latest_moment (ho : Orderly r₀) (h₀ : ∀ i, r₀.stage? i = none) (hl : r₀.listed = none)
    (es : List Event) (n : Nat) : Latest r₀ es n (r₀.moment es n).listed := by
  have rests (k : Nat) : Rests r₀ es k k := fun j hk hj => absurd hj (Nat.not_lt.2 hk)
  induction n with
  | zero =>
    rw [moment_zero, hl]
    exact .forgotten (.inl rfl) (Nat.le_refl 0) (rests 0)
  | succ n ih =>
    cases he : es[n]? with
    | none =>
      rw [moment_end _ he]
      have never {P : Registry → Event → Prop} : ¬ HappensAt P r₀ es n := by
        rintro ⟨e, he', -⟩
        rw [he] at he'
        cases he'
      exact ih.succ never fun _ _ => never
    | some e =>
      rw [moment_succ he]
      cases step_notes (ho.moment es n) e with
      | same h hne hc hfx =>
        rw [h]
        refine ih.succ (fun hf => ?_) fun i m hr => hfx i m (hr.of_event he)
        exact (hf.of_event he).elim hne hc
      | @lists i m h hi hfx =>
        obtain ⟨k, hk, hen⟩ := hi.enumerated h₀ he
        rw [h]
        refine .returned ⟨hen, ⟨e, he, ?_⟩, hk, Nat.lt_succ_self n⟩ (rests _)
        simp [Returns, hfx]
      | forgets h hf =>
        rw [h]
        exact .forgotten (.inr ⟨n, rfl, e, he, hf⟩) (Nat.le_refl _) (rests _)

/-- A list that returns is the only one then, and nothing is forgotten. -/
theorem Returns.list_alone (ho : Orderly r) (h : Returns i (.listed (.ok m)) r e) :
    ¬ Forgets r e ∧ ∀ i' m', Returns i' (.listed (.ok m')) r e → i' = i := by
  cases step_notes ho e with
  | same _ _ _ hfx => exact absurd h (hfx i m)
  | forgets _ _ hfx => exact absurd h (hfx i m)
  | lists _ _ hfx =>
    refine ⟨?_, fun i' m' h' => ?_⟩
    · rintro (rfl | hc)
      · cases h
      · rw [hfx] at hc
        exact not_clears (by simp [Effect.shuts]) hc
    · simp only [Returns, hfx, List.mem_singleton, Effect.reply.injEq] at h h'
      exact h'.1.trans h.1.symm

/-- If no list has returned since a list did, and nothing was forgotten, its listing is outdated
only by what had happened before. -/
theorem Listed.outdated {k' : Nat} (ho : Orderly r₀) (h : Listed r₀ es i m k k' n)
    (hr : Rests r₀ es (k' + 1) n) (hn : Outdated r₀ es i k n) : Outdated r₀ es i k k' := by
  obtain ⟨e, he, hret⟩ := h.returned
  obtain ⟨hnf, hone⟩ := hret.list_alone (ho.moment es k')
  rcases hn with ⟨j, hj, hjn, hf⟩ | ⟨i', m', j, j', hi, hj, hl⟩
  · rcases Nat.lt_trichotomy j k' with hlt | rfl | hlt
    · exact .inl ⟨j, hj, hlt, hf⟩
    · exact absurd (hf.of_event he) hnf
    · exact absurd hf (hr j hlt hjn).1
  · rcases Nat.lt_trichotomy j' k' with hlt | rfl | hlt
    · exact .inr ⟨i', m', j, j', hi, hj, { hl with lt := hlt }⟩
    · exact absurd (hone i' m' (hl.returned.of_event he)) hi
    · exact absurd hl.returned ((hr j' hlt hl.lt).2 i' m')

/-- The listing that counts is at every moment that of the list that returned last, if one has
returned since what was known was forgotten. It is outdated only by what happened between its
enumeration and its return. -/
theorem listed_latest (adapter : Adapter) (policy : Policy) (order : CallId → Arrangement Location)
    (t : BackendTable) (es : List Event) (n : Nat) :
    let r₀ := new adapter policy order t
    ((r₀.moment es n).listed = none ∧
        ∃ k ≤ n, (k = 0 ∨ ∃ j, k = j + 1 ∧ HappensAt Forgets r₀ es j) ∧ Rests r₀ es k n) ∨
      ∃ i m k k', (r₀.moment es n).listed = some m.keys ∧ Listed r₀ es i m k k' n ∧
        Rests r₀ es (k' + 1) n ∧ (Outdated r₀ es i k n → Outdated r₀ es i k k') := by
  intro r₀
  have ho : Orderly r₀ := orderly_new adapter policy order t
  have h := latest_moment ho (stage?_new adapter policy order t) rfl es n
  generalize hls : (r₀.moment es n).listed = ls at h
  cases h with
  | @forgotten k hk hn h => exact .inl ⟨rfl, k, hn, hk, h⟩
  | @returned i m k k' hl h => exact .inr ⟨i, m, k, k', rfl, hl, h, hl.outdated ho h⟩

/-- At no moment of a run is the listing that counts outdated. -/
def NeverOutdated (r₀ : Registry) (es : List Event) : Prop :=
  ∀ n, (r₀.moment es n).listed = none ∨
    ∃ i m k k', (r₀.moment es n).listed = some m.keys ∧ Listed r₀ es i m k k' n ∧
      ¬ Outdated r₀ es i k n

/-- What is known is forgotten while a list waits for a backend that it has asked for. -/
def listAcrossReset : List Event :=
  [.start .list, .enumerated 0 (.ok [⟨"slot1"⟩]), .resume ⟨0, 0⟩, .resume ⟨0, 0⟩, .reset,
    .resolved ⟨0, 0⟩ (.ok ⟨"vendor"⟩)]

/-- A list that has found a location enumerates, and another one that does not find it any more
returns before it. -/
def listAcrossList : List Event :=
  [.start .list, .enumerated 0 (.ok [⟨"slot1"⟩]), .start .list, .enumerated 1 (.ok []),
    .resume ⟨0, 0⟩, .resume ⟨0, 0⟩, .resolved ⟨0, 0⟩ (.ok ⟨"vendor"⟩)]

/-- A listing that counts may be outdated: a list puts down what it has found before everything was
forgotten, or before another list has found less and returned. -/
theorem not_neverOutdated :
    ¬ NeverOutdated (unused .asPut .static .strict [] (some 0)) listAcrossReset ∧
      ¬ NeverOutdated (unused .asPut .static .strict [] (some 0)) listAcrossList := by
  constructor
  · intro h
    obtain h | ⟨i, m, k, k', -, hl, ho⟩ := h 6
    · cases h
    · obtain ⟨e, he, rfl, -⟩ := hl.enumerated
      -- The only enumeration is before the reset.
      have hk : k ≤ 4 := by
        rcases k with _ | _ | _ | _ | _ | _ | k <;> simp [listAcrossReset] at he ⊢
      exact ho (.inl ⟨4, hk, by decide, .reset, rfl, .inl rfl⟩)
  · intro h
    obtain h | ⟨i, m, k, k', hm, hl, ho⟩ := h 7
    · cases h
    · have hkeys : m.keys = [⟨"slot1"⟩] := (Option.some.inj hm).symm
      obtain ⟨e, he, rfl, -⟩ := hl.enumerated
      rw [hkeys] at he
      -- The location was found by the list that enumerated first.
      obtain ⟨rfl, rfl⟩ : i = 0 ∧ k = 1 := by
        rcases k with _ | _ | _ | _ | _ | _ | _ | k <;> simp [listAcrossList] at he ⊢
        exact he.symm
      have hother :
          Listed (unused .asPut .static .strict [] (some 0)) listAcrossList 1 ⟨[]⟩ 3 3 7 :=
        ⟨⟨_, rfl, rfl, rfl⟩, ⟨_, rfl, List.mem_of_getElem? (i := 0) rfl⟩, Nat.le_refl 3, by decide⟩
      exact ho (.inr ⟨1, ⟨[]⟩, 3, 3, by decide, by decide, hother⟩)

end Registry

end SlotBroker
