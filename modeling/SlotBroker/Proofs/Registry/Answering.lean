import SlotBroker.Proofs.Registry.Questions

/-!
# The cells of the answers

A location keeps its cell until everything is forgotten, and a name stays in the cell that it has
come to. From a cell that is not yet filled only one question is asked at a time, so its answer is
the only one that the cell gets (`Placed`). A question comes to a name by its own answer or by one
that is in its cell (`Learns`).
-/

namespace SlotBroker

namespace Registry

variable {r r' r₁ : Registry} {e : Event} {fx : List Effect} {i : CallId} {t : Ticket}
  {l : Location}

/-! ## What a step does to the cells -/

/-- A location has a cell of its own, and a question that is asked is the one to fill its cell. -/
structure Placed (r : Registry) : Prop where
  apart : r.resolutions.Apart
  asking : ∀ {t l c}, r.part? t = some (l, .asking c) → r.resolutions.turn t c = .compute

variable {c : Nat} {b : BackendName}

theorem Resolves.length (h : Resolves r e r' fx) :
    r.resolutions.cells.length ≤ r'.resolutions.cells.length := by
  cases h with
  | other hm | asks _ _ _ hm | reads _ _ _ hm => exact Nat.le_of_eq (by rw [hm])
  | joins _ _ hm =>
    rw [hm]
    exact OnceMap.length_le_join _
  | fills _ _ _ hm => exact Nat.le_of_eq (by rw [hm, OnceMap.fill, OnceMap.length_modifyCell])
  | leaves _ hm => exact Nat.le_of_eq hm.length.symm
  | forgets _ hm => exact Nat.le_of_eq (by rw [hm, OnceMap.clear])

/-! ### Forgetting -/

theorem Releases.forgotten {errors : List BrokerError} {oids : List Oid}
    (h : Releases r₁ i errors oids r' fx) (hc : Clears r fx) : r'.resolutions.index = [] := by
  cases h with
  | stands =>
    obtain ⟨_, hfx, -⟩ := hc
    simp at hfx
  | unloads _ h => cases h <;> rfl

theorem Drains.forgotten {ls : List Location} (h : Drains r₁ i ls r' fx) (hc : Clears r fx) :
    r'.resolutions.index = [] := by
  cases h with
  | stands =>
    obtain ⟨_, hfx, -⟩ := hc
    simp at hfx
  | releases h => exact h.forgotten hc

theorem Segment.forgotten (ho : Orderly r) (hg : Segment r e r' fx) (hc : Clears r fx) :
    r'.resolutions.index = [] := by
  cases hg.shuts ho with
  | other _ hfx => exact absurd hc (not_clears hfx)
  | made _ h => exact h.forgotten hc
  | drained _ _ h => exact h.forgotten hc
  | detaches => exact absurd hc (not_clears (by simp [Effect.shuts]))
  | releases _ _ h => exact h.forgotten hc
  | unloaded hs h => exact absurd hs (h.clears_id hc _ _ _)
  | dropped => exact absurd hc (not_clears (by simp))

/-- When everything is forgotten no location has a cell. -/
theorem Forgets.cellOf? (ho : Orderly r) (hf : Forgets r e) (l : Location) :
    (r.step e).1.resolutions.cellOf? l = none := by
  rcases hf with rfl | hc
  · rfl
  · rw [OnceMap.cellOf?, (step_segment r e).forgotten ho hc]
    rfl

/-! ### Cells and their names -/

/-- A location keeps its cell until everything is forgotten. -/
theorem Resolves.cellOf? (h : Resolves r e r' fx) (hf : ¬ (e = .reset ∨ Clears r fx))
    (hc : r.resolutions.cellOf? l = some c) : r'.resolutions.cellOf? l = some c := by
  cases h with
  | other hm | asks _ _ _ hm | reads _ _ _ hm => rwa [hm]
  | joins _ _ hm =>
    rw [hm, OnceMap.cellOf?_join]
    split
    · rename_i h
      rw [(OnceMap.join_of_some (h ▸ hc)).1]
    · exact hc
  | fills _ _ _ hm =>
    rw [hm]
    exact hc
  | leaves _ hm => rwa [hm.cellOf?]
  | forgets hf' => exact absurd hf' hf

/-- The cell of a location is the one it had, or a new one. -/
theorem Resolves.cellOf?_or (h : Resolves r e r' fx) (hc : r'.resolutions.cellOf? l = some c) :
    r.resolutions.cellOf? l = some c ∨ c = r.resolutions.cells.length := by
  cases h with
  | other hm | asks _ _ _ hm | reads _ _ _ hm => exact .inl (hm ▸ hc)
  | @joins t l' _ _ hm =>
    rw [hm, OnceMap.cellOf?_join] at hc
    split at hc
    · rename_i hl
      subst hl
      cases hk : r.resolutions.cellOf? l' with
      | none => exact .inr (by rw [← Option.some.inj hc, (OnceMap.join_of_none hk).1])
      | some c' => exact .inl (by rw [← hc, (OnceMap.join_of_some hk).1])
    · exact .inl hc
  | fills _ _ _ hm =>
    rw [hm] at hc
    exact .inl hc
  | leaves _ hm => exact .inl (hm.cellOf? _ ▸ hc)
  | forgets _ hm =>
    rw [hm] at hc
    cases hc

theorem Placed.valueAt?_fill (h : Placed r) {c' : Nat} (hp : r.part? t = some (l, .asking c')) :
    (r.resolutions.fill c' b).valueAt? c = if c' = c then some b else r.resolutions.valueAt? c :=
  OnceMap.valueAt?_fill (h.asking hp)

/-- A name that is in a cell stays there. -/
theorem Resolves.valueAt? (hr : Placed r) (h : Resolves r e r' fx)
    (hc : r.resolutions.valueAt? c = some b) : r'.resolutions.valueAt? c = some b := by
  cases h with
  | other hm | asks _ _ _ hm | reads _ _ _ hm => rwa [hm]
  | joins _ _ hm => rwa [hm, OnceMap.valueAt?_join]
  | fills hp _ _ hm =>
    rw [hm, hr.valueAt?_fill hp, if_neg, hc]
    rintro rfl
    rw [OnceMap.valueAt?_of_compute (hr.asking hp)] at hc
    cases hc
  | leaves _ hm => rwa [hm.valueAt?]
  | forgets _ hm => rwa [hm, OnceMap.valueAt?_clear]

/-- A name comes into a cell as the answer of a question that was asked from there. -/
theorem Resolves.valueAt?_or (hr : Placed r) (h : Resolves r e r' fx)
    (hc : r'.resolutions.valueAt? c = some b) : r.resolutions.valueAt? c = some b ∨
      ∃ t l, r.part? t = some (l, .asking c) ∧ Succeeds t l b r e := by
  cases h with
  | other hm | asks _ _ _ hm | reads _ _ _ hm => exact .inl (hm ▸ hc)
  | joins _ _ hm => exact .inl (by rwa [hm, OnceMap.valueAt?_join] at hc)
  | @fills t l _ _ hp he _ hm =>
    rw [hm, hr.valueAt?_fill hp] at hc
    split at hc
    · rename_i hcell
      cases hc
      exact .inr ⟨t, l, hcell ▸ hp, he⟩
    · exact .inl hc
  | leaves _ hm => exact .inl (hm.valueAt? _ ▸ hc)
  | forgets _ hm => exact .inl (by rwa [hm, OnceMap.valueAt?_clear] at hc)

theorem Carries.asking (h : Carries r r' t) (hp : r'.part? t = some (l, .asking c)) :
    r.part? t = some (l, .asking c) :=
  (h l _ hp).resolve_right fun h => Part.noConfusion h.1

theorem Placed.resolves (hr : Placed r) (h : Resolves r e r' fx) : Placed r' where
  apart := by
    cases h with
    | other hm | asks _ _ _ hm | reads _ _ _ hm => exact hm ▸ hr.apart
    | joins _ _ hm => exact hm ▸ hr.apart.join _
    | fills _ _ _ hm => exact hm ▸ hr.apart.modifyCell
    | leaves _ hm => exact hm.apart hr.apart
    | forgets _ hm => exact hm ▸ OnceMap.Apart.clear
  asking {t' l' c'} hp' := by
    cases h with
    | other hm hc =>
      rw [hm]
      exact hr.asking ((hc t').asking hp')
    | @joins t l _ hp hm hc =>
      have hne : t' ≠ t := by
        rintro rfl
        rw [hp] at hp'
        cases hp'
      rw [hm]
      exact OnceMap.compute_join _ (hr.asking ((hc t' hne).asking hp'))
    | @asks t l cell _ ht hp hm hc =>
      rw [hm]
      by_cases hne : t' = t
      · subst hne
        rw [hp] at hp'
        cases hp'
        exact ht
      · exact hr.asking ((hc t' hne).asking hp')
    | @reads t l cell b _ _ hp hm hc =>
      have hne : t' ≠ t := by
        rintro rfl
        cases hp _ hp'
      rw [hm]
      exact hr.asking ((hc t' hne).asking hp')
    | @fills t l cell b hp he hp₁ hm hc =>
      have hne : t' ≠ t := by
        rintro rfl
        cases hp₁ _ hp'
      have hold := hr.asking ((hc t' hne).asking hp')
      rw [hm]
      refine OnceMap.compute_fill ?_ hold
      -- Another question asked from this cell would be the same one.
      rintro rfl
      exact hne (OnceMap.compute_unique hold (hr.asking hp))
    | @leaves i hi hm hc =>
      refine hm.compute ?_ (hr.asking ((hc t').asking hp'))
      rintro rfl
      rw [part?_of_none hi] at hp'
      cases hp'
    | forgets _ hm hc =>
      rw [hm]
      exact hr.asking ((hc t').asking hp')

/-! ## How a question is answered -/

/-- How a question comes to the name of a backend: it has it already, or it reads what another
question has been told, or it is told now. -/
inductive Learns (t : Ticket) (l : Location) (b : BackendName) (r : Registry) (e : Event) : Prop
  | before (h : r.part? t = some (l, .named b))
  | reads {cell} (hp : r.part? t = some (l, .waiting cell))
      (ht : r.resolutions.turn t cell = .ready b)
  | told (h : Succeeds t l b r e)

/-- How a question came to what it has come to in a step. -/
inductive Comes (r : Registry) (e : Event) (fx : List Effect) (t : Ticket) (l : Location) :
    Part → Prop
  | same {p} (h : r.part? t = some (l, p)) : Comes r e fx t l p
  | begins (h : Unbegun t.call r) : Comes r e fx t l .fresh
  | joins {cell} (h : r.part? t = some (l, .fresh)) : Comes r e fx t l (.waiting cell)
  | asks {cell} (h : r.part? t = some (l, .waiting cell)) (hfx : fx = [.resolve t l]) :
      Comes r e fx t l (.asking cell)
  | learns {name} (h : Learns t l name r e) : Comes r e fx t l (.named name)

theorem Resolves.comes {p : Part} (h : Resolves r e r' fx) (hp' : r'.part? t = some (l, p)) :
    Comes r e fx t l p := by
  have carried (hc : Carries r r' t) : Comes r e fx t l p := by
    rcases hc l _ hp' with h | ⟨rfl, h⟩
    · exact .same h
    · exact .begins h
  cases h with
  | other _ hc | leaves _ _ hc | forgets _ _ hc => exact carried (hc t)
  | @joins u _ hp hp₁ _ hc =>
    by_cases hu : t = u
    · subst hu
      rw [hp₁] at hp'
      cases hp'
      exact .joins hp
    · exact carried (hc t hu)
  | @asks u _ _ hp _ hp₁ _ hc hfx =>
    by_cases hu : t = u
    · subst hu
      rw [hp₁] at hp'
      cases hp'
      exact .asks hp hfx
    · exact carried (hc t hu)
  | @reads u _ _ _ hp ht hp₁ _ hc =>
    by_cases hu : t = u
    · subst hu
      cases hp₁ _ hp'
      exact .learns (.reads hp ht)
    · exact carried (hc t hu)
  | @fills u _ _ _ hp he hp₁ _ hc =>
    by_cases hu : t = u
    · subst hu
      cases hp₁ _ hp'
      exact .learns (.told he)
    · exact carried (hc t hu)

/-- An answer fills the cell from which the question was asked. -/
theorem Succeeds.fills (h : Succeeds t l b r e) : ∃ c, r.part? t = some (l, .asking c) ∧
    (r.step e).1.resolutions = r.resolutions.fill c b := by
  obtain ⟨⟨c, hp⟩, u, rfl, rfl⟩ := h
  refine ⟨c, hp, ?_⟩
  unfold asker at hp
  split at hp
  · rename_i l' s hs
    rw [part?_of_creating hs] at hp
    obtain ⟨p, hp, hc⟩ := Option.map_eq_some_iff.1 hp
    cases hc
    cases s <;>
      simp only [CreateStage.part?, Option.some.injEq, reduceCtorEq, Part.asking.injEq] at hp
    subst hp
    have hs' : Assoc.get? u.call r.calls = _ := hs
    simp only [step, hs']
    rfl
  · rename_i hs
    cases hst : r.stage? u.call with
    | none =>
      rw [part?_of_none hst] at hp
      cases hp
    | some s =>
      rw [part?, hst, Option.bind_some] at hp
      cases s with
      | listing parts =>
        have hs' : Assoc.get? u.call r.calls = _ := hst
        have hp' : parts[u.part]? = some (l, .asking c) := hp
        simp only [step, hs', listResolved, hp']
        exact (listProgress_lists _ _ _).resolutions
      | creating l' s => exact absurd hst (hs l' s)
      | _ => cases hp

theorem Placed.succeeds (hr : Placed r) (h : Succeeds t l b r e)
    (hp : r.part? t = some (l, .asking c)) :
    r.resolutions.valueAt? c = none ∧ (r.step e).1.resolutions.valueAt? c = some b := by
  obtain ⟨c', hp', hm⟩ := h.fills
  rw [hp] at hp'
  cases hp'
  exact ⟨OnceMap.valueAt?_of_compute (hr.asking hp), by rw [hm, hr.valueAt?_fill hp, if_pos rfl]⟩

/-- An answer is for one question. -/
theorem Succeeds.unique {t' : Ticket} {l' : Location} {b' : BackendName}
    (h : Succeeds t l b r e) (h' : Succeeds t' l' b' r e) : t = t' ∧ b = b' := by
  obtain ⟨-, u, rfl, rfl⟩ := h
  obtain ⟨-, u', he, rfl⟩ := h'
  cases he
  exact ⟨rfl, rfl⟩

theorem Resolves.asks_iff (h : Resolves r e r' fx) (hx : .resolve t l ∈ fx) :
    (∃ c, r.part? t = some (l, .waiting c)) ∧ InFlight t l r' := by
  cases h with
  | asks hp _ hp' _ _ hfx =>
    rw [hfx, List.mem_singleton, Effect.resolve.injEq] at hx
    obtain ⟨rfl, rfl⟩ := hx
    exact ⟨⟨_, hp⟩, _, hp'⟩
  | joins _ _ _ _ hfx => simp [hfx] at hx
  | other _ _ hfx | leaves _ _ _ hfx | forgets _ _ _ hfx => exact absurd hx (hfx t l)
  | reads _ _ _ _ _ hfx | fills _ _ _ _ _ hfx => exact absurd hx (hfx t l)

theorem getElem?_allNamed? : ∀ {parts : List (Location × Part)} {entries : List Descriptor}
    {k : Nat}, allNamed? parts = some entries → entries[k]? = some ⟨l, b⟩ →
      parts[k]? = some (l, .named b)
  | [], _, _, h, hk => by
    cases h
    cases hk
  | (l', .named b') :: parts, _, 0, h, hk => by
    obtain ⟨rest, -, rfl⟩ := Option.map_eq_some_iff.1 h
    cases hk
    rfl
  | (l', .named b') :: parts, _, k + 1, h, hk => by
    obtain ⟨rest, hr, rfl⟩ := Option.map_eq_some_iff.1 h
    rw [List.getElem?_cons_succ] at hk ⊢
    exact getElem?_allNamed? hr hk

/-- What a list tells, its questions have come to. -/
theorem Lists.learns {parts : List (Location × Part)} {l' : Location} {b' : BackendName}
    {m : Listing} (h : Lists r₁ t.call (parts.set t.part (l', .named b')) r' fx)
    (hs : r.stage? t.call = some (.listing parts)) (hl : Learns t l' b' r e) {k : Nat}
    (hx : .reply i (.listed (.ok m)) ∈ fx) (hk : m.entries[k]? = some ⟨l, b⟩) :
    Learns ⟨i, k⟩ l b r e := by
  cases h with
  | waits => cases hx
  | ends h =>
    simp only [List.mem_singleton, Effect.reply.injEq, Outcome.listed.injEq, Except.ok.injEq] at hx
    obtain ⟨rfl, rfl⟩ := hx
    have hp := getElem?_allNamed? h hk
    rw [List.getElem?_set] at hp
    split at hp
    · rename_i hk
      subst hk
      split at hp
      · cases hp
        exact hl
      · cases hp
    · exact .before ((part?_of_listing (t := ⟨t.call, k⟩) hs).trans hp)

theorem Segment.lists_learned {m : Listing} {k : Nat} (hg : Segment r e r' fx)
    (hx : .reply i (.listed (.ok m)) ∈ fx) (hk : m.entries[k]? = some ⟨l, b⟩) :
    Learns ⟨i, k⟩ l b r e := by
  cases hg with
  | enumerated _ h =>
    cases h with
    | waits => cases hx
    | ends h =>
      simp only [List.mem_singleton, Effect.reply.injEq, Outcome.listed.injEq,
        Except.ok.injEq] at hx
      obtain ⟨-, rfl⟩ := hx
      have hp := getElem?_allNamed? h hk
      simp at hp
  | partReady hs hp ht h => exact h.learns hs (.reads ((part?_of_listing hs).trans hp) ht) hx hk
  | @partResolved t _ _ _ _ _ _ hs hp h =>
    have hp' := (part?_of_listing hs).trans hp
    exact h.learns hs (.told ⟨⟨_, hp'⟩, t, rfl, by simp [asker, hs]⟩) hx hk
  | refused h => cases h <;> simp at hx
  | unloaded _ h | unloadFailed _ h => rcases h.effects with ⟨_, rfl⟩ | ⟨_, rfl⟩ <;> simp at hx
  | shutdownMade h | drained _ _ h | releaseGone _ _ _ h | released _ h | releaseFailed _ h =>
    rcases h.effects with rfl | ⟨_, rfl⟩ | ⟨_, rfl⟩ <;> simp at hx
  | _ => simp at hx

theorem placed_new (adapter : Adapter) (policy : Policy) (order : CallId → Arrangement Location)
    (t : BackendTable) :
    Placed (new adapter policy order t) where
  apart := OnceMap.apart_empty
  asking hp := by cases hp

end Registry

end SlotBroker
