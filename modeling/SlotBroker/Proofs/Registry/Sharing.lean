import SlotBroker.Proofs.Registry.Contention

/-!
# Loading for all at once

In a favourable run the creates that are named one backend share one load: a create is at the cell
of the backend it was named, and once a load from there has started it is under way or has brought
the backend (`Shares`). So no backend is loaded twice, nor one that was there before.
-/

namespace SlotBroker

/-- The backend that a load is for. -/
def Effect.loads? : Effect → Option BackendName
  | .load _ name _ => some name
  | _ => none

namespace Registry

/-- The backends whose loads have started among some effects. -/
def loadsOf (fx : List Effect) : List BackendName := fx.filterMap Effect.loads?

/-- A load from the cell of a backend has started: it is under way, or has brought the backend. -/
def Begun (name : BackendName) (r : Registry) : Prop :=
  ∃ c, r.backends.loads.cellOf? name = some c ∧
    ((∃ b, r.backends.loads.valueAt? c = some b) ∨
      ∃ i l, r.stage? i = some (.creating l (.loading name c)))

/-- How the loads of a favourable run have come about so far. -/
structure Shares (r₀ : Registry) (fx : List Effect) (r : Registry) : Prop where
  fetching : ∀ {i l name c}, r.stage? i = some (.creating l (.fetching name c)) →
    r.backends.loads.cellOf? name = some c
  loading : ∀ {i l name c}, r.stage? i = some (.creating l (.loading name c)) →
    r.backends.loads.cellOf? name = some c
  begun : ∀ name ∈ loadsOf fx, Begun name r
  once : (loadsOf fx).Nodup
  new : ∀ name ∈ loadsOf fx, r₀.backends.loads.get? name = none
  kept : ∀ {name b}, r₀.backends.loads.get? name = some b → r.backends.loads.get? name = some b

variable {r r' r₀ : Registry} {e : Event} {es : List Event} {fx fx' : List Effect} {i : CallId}
  {ls : List Location} {l : Location} {name : BackendName} {c : Nat}

theorem loadsOf_append : loadsOf (fx ++ fx') = loadsOf fx ++ loadsOf fx' :=
  List.filterMap_append

/-- A backend keeps its cell until the table is taken away. -/
theorem Serves.cellOf? (h : Serves r r' fx) (hn : ¬ Clears r fx)
    (hc : r.backends.loads.cellOf? name = some c) :
    r'.backends.loads.cellOf? name = some c := by
  cases h with
  | other ht =>
    cases ht with
    | same h => rwa [h]
    | joins _ _ h =>
      rw [h, BackendTable.join, OnceMap.cellOf?_join]
      split
      · rename_i h
        rw [(OnceMap.join_of_some (h ▸ hc)).1]
      · exact hc
    | leaves _ _ _ h =>
      rw [h]
      exact hc
    | takes hcl => exact absurd hcl hn
  | starts | fetched | loaded => exact hc

/-- A create comes to the cell of the backend that it is named. -/
theorem Segment.fetching (hg : Segment r e r' fx)
    (hi : r'.stage? i = some (.creating l (.fetching name c))) :
    r.stage? i = some (.creating l (.fetching name c)) ∨
      r'.backends = (r.backends.join i name).1 ∧ c = (r.backends.join i name).2 := by
  cases hg with
  | createReady | createResolved =>
    simp only [stage?_setStage] at hi
    split at hi
    · rename_i hij
      cases hi
      subst hij
      exact .inr ⟨rfl, rfl⟩
    · exact .inl hi
  | shutdownMade h => exact .inl (stage?_aside hi h.not_creating h.stage? rfl)
  | drained _ _ h => exact .inl (stage?_aside hi h.not_creating h.stage? rfl)
  | releaseGone _ _ _ h | released _ h | releaseFailed _ h =>
    exact .inl (stage?_aside hi h.not_creating h.stage? rfl)
  | unloaded _ h | unloadFailed _ h => exact .inl (stage?_aside hi h.not_creating h.stage? rfl)
  | enumerated _ h | partReady _ _ _ h | partResolved _ _ h =>
    exact .inl (stage?_aside hi h.not_creating h.stage? rfl)
  | idle | reset | refused => exact .inl hi
  | _ =>
    simp at hi
    grind

/-- A load that is favoured is under way until it brings the backend. -/
theorem Calm.loading (hc : Calm r₀ ls r) (ho : Orderly r) (hl : Loads r) (he : Favours r₀ ls e)
    (hg : Segment r e r' fx) (hi : r.stage? i = some (.creating l (.loading name c))) :
    r'.stage? i = some (.creating l (.loading name c)) ∨
      ∃ b, r'.backends.loads.valueAt? c = some b := by
  have no {j s} (hs : r.stage? j = some s) (hn : ∀ l c, s ≠ .creating l c) : False :=
    hc.not_creating hs hn
  have other {j s} (hs : r.stage? j = some s) (hn : s ≠ .creating l (.loading name c)) :
      j ≠ i := by
    rintro rfl
    rw [hi] at hs
    exact hn (Option.some.inj hs).symm
  cases hg with
  | loaded hs =>
    simp only [stage?_setStage]
    split
    · rename_i hij
      subst hij
      rw [hi] at hs
      cases hs
      refine .inr ⟨r.backends.loadCount, ?_⟩
      simp only [setStage_frame, BackendTable.loaded]
      rw [OnceMap.valueAt?_fill (hl.loading hi), if_pos rfl]
    · exact .inl hi
  | idle | refused => exact .inl hi
  | createMade =>
    simp only [stage?_standAt, stage?_enroll]
    rw [if_neg (Nat.ne_of_gt (ho.fresh hi))]
    exact .inl hi
  | createJoins hs | createReady hs | createAsks hs | createResolved hs | loadStarts hs
  | fetched hs | attachedLate hs =>
    rw [stage?_setStage, if_neg (other hs (by simp))]
    exact .inl hi
  | createClosed hs | createBusy hs | unserved hs | committed hs =>
    rw [stage?_endCall, if_neg (other hs (by simp))]
    exact .inl hi
  | partJoins hs | partReady hs | partAsks hs | partResolved hs | removeGone hs
  | removeDetaches hs | drained hs | releaseGone hs | releaseDetaches hs | reclaims hs =>
    exact (no hs fun _ _ => Stage.noConfusion).elim
  | _ => exact he.elim

theorem shares_start (r₀ : Registry) (h₀ : ∀ i, r₀.stage? i = none) : Shares r₀ [] r₀ where
  fetching hs := by
    rw [h₀] at hs
    cases hs
  loading hs := by
    rw [h₀] at hs
    cases hs
  begun _ h := by cases h
  once := List.nodup_nil
  new _ h := by cases h
  kept h := h

theorem Begun.step (h : Begun name r) (hc : Calm r₀ ls r) (ho : Orderly r) (hl : Loads r)
    (he : Favours r₀ ls e) (hg : Segment r e r' fx) : Begun name r' := by
  obtain ⟨c, hcell, hv⟩ := h
  refine ⟨c, (hg.serves ho).cellOf? (fun h => hc.not_forgets ho he hg (.inr h)) hcell, ?_⟩
  rcases hv with ⟨b, hb⟩ | ⟨i, l, hi⟩
  · exact .inl ⟨b, hg.valueAt? hl ho hb⟩
  · rcases hc.loading ho hl he hg hi with hi | hb
    · exact .inr ⟨i, l, hi⟩
    · exact .inl hb

/-- Whoever is to load a backend is the first to do so. -/
theorem Shares.first {cell : Nat} (h : Shares r₀ fx r) (hl : Loads r)
    (hs : r.stage? i = some (.creating l (.fetching name cell)))
    (ht : r.backends.loads.turn i cell = .compute) :
    name ∉ loadsOf fx ∧ r₀.backends.loads.get? name = none := by
  have hcell := h.fetching hs
  have hnone := OnceMap.valueAt?_of_compute ht
  constructor
  · intro hm
    obtain ⟨c, hc, hv⟩ := h.begun name hm
    rw [hcell] at hc
    cases hc
    -- Who loads from a cell is at the head of its line, and that is where `i` is.
    rcases hv with ⟨b, hb⟩ | ⟨j, l', hj⟩
    · rw [hnone] at hb
      cases hb
    · obtain rfl := OnceMap.compute_unique ht (hl.loading hj)
      rw [hs] at hj
      cases hj
  · cases hb : r₀.backends.loads.get? name with
    | none => rfl
    | some b =>
      have hk := h.kept hb
      rw [OnceMap.get?, hcell, Option.bind_some, hnone] at hk
      cases hk

/-- What loads start in a step: none, or one from the cell of a backend whose turn it is. -/
theorem Serves.loadsOf (h : Serves r r' fx) : loadsOf fx = [] ∨
    ∃ i l name cell, loadsOf fx = [name] ∧
      r.stage? i = some (.creating l (.fetching name cell)) ∧
      r.backends.loads.turn i cell = .compute ∧
      r'.stage? i = some (.creating l (.loading name cell)) := by
  cases h with
  | other _ _ _ hfx =>
    refine .inl (List.filterMap_eq_nil_iff.2 fun x hx => ?_)
    cases x with
    | load => exact absurd trivial (hfx _ hx)
    | _ => rfl
  | starts hs ht => exact .inr ⟨_, _, _, _, rfl, hs, ht, stage?_setStage_self _ _ _⟩
  | fetched | loaded => exact .inl rfl

theorem Serves.loading (h : Serves r r' fx)
    (hi : r'.stage? i = some (.creating l (.loading name c))) :
    r.stage? i = some (.creating l (.loading name c)) ∨
      r.stage? i = some (.creating l (.fetching name c)) := by
  cases h with
  | other _ _ hs => exact .inl (hs _ _ _ trivial hi)
  | starts hs =>
    simp only [stage?_setStage] at hi
    split at hi
    · rename_i hij
      cases hi
      exact .inr (hij ▸ hs)
    · exact .inl hi
  | fetched | loaded =>
    simp only [stage?_setStage] at hi
    split at hi
    · cases hi
    · exact .inl hi

theorem Shares.step (h : Shares r₀ fx r) (hc : Calm r₀ ls r) (ho : Orderly r) (hl : Loads r)
    (he : Favours r₀ ls e) (hg : Segment r e r' fx') : Shares r₀ (fx ++ fx') r' := by
  have hn : ¬ Clears r fx' := fun h => hc.not_forgets ho he hg (.inr h)
  have hcell {name c} : r.backends.loads.cellOf? name = some c →
      r'.backends.loads.cellOf? name = some c := (hg.serves ho).cellOf? hn
  have hloads := (hg.serves ho).loadsOf
  refine ⟨fun {i l name c} hi => ?_, fun hi => ?_, fun name hm => ?_, ?_, fun name hm => ?_,
    fun {name b} hb => ?_⟩
  · rcases hg.fetching hi with hi | ⟨hb, rfl⟩
    · exact hcell (h.fetching hi)
    · rw [hb, BackendTable.join, OnceMap.cellOf?_join, if_pos rfl]
  · rcases (hg.serves ho).loading hi with hi | hi
    · exact hcell (h.loading hi)
    · exact hcell (h.fetching hi)
  · rw [loadsOf_append] at hm
    rcases List.mem_append.1 hm with hm | hm
    · exact (h.begun name hm).step hc ho hl he hg
    · rcases hloads with hnil | ⟨i, l, name', cell, hone, hs, -, hs'⟩
      · rw [hnil] at hm
        cases hm
      · rw [hone] at hm
        cases List.mem_singleton.1 hm
        exact ⟨cell, hcell (h.fetching hs), .inr ⟨i, l, hs'⟩⟩
  · rw [loadsOf_append]
    rcases hloads with hnil | ⟨i, l, name', cell, hone, hs, ht, -⟩
    · rw [hnil, List.append_nil]
      exact h.once
    · rw [hone]
      refine List.nodup_append.2 ⟨h.once, List.nodup_singleton _, fun name hm name' hm' => ?_⟩
      rintro rfl
      cases List.mem_singleton.1 hm'
      exact (h.first hl hs ht).1 hm
  · rw [loadsOf_append] at hm
    rcases List.mem_append.1 hm with hm | hm
    · exact h.new name hm
    · rcases hloads with hnil | ⟨i, l, name', cell, hone, hs, ht, -⟩
      · rw [hnil] at hm
        cases hm
      · rw [hone] at hm
        cases List.mem_singleton.1 hm
        exact (h.first hl hs ht).2
  · obtain ⟨c, hc', hv⟩ := Option.bind_eq_some_iff.1 (h.kept hb)
    exact Option.bind_eq_some_iff.2 ⟨c, hcell hc', hg.valueAt? hl ho hv⟩

theorem Calm.shares (hc : Calm r₀ ls r₀) (h₀ : AtRest r₀) (ho : Orderly r₀) (hp : Placed r₀)
    (hl : Loads r₀)
    (hls : ∀ l ∈ ls, r₀.policy.requireFreshListing = true → r₀.wasListed l = true)
    (he : ∀ e ∈ es, Favours r₀ ls e) : Shares r₀ (r₀.run es).2 (r₀.run es).1 := by
  induction es using List.reverseRecOn with
  | nil => exact shares_start r₀ h₀.calls
  | append_singleton es e ih =>
    obtain ⟨hes, hlast⟩ := List.forall_mem_append.1 he
    rw [run_concat]
    exact (ih hes).step (hc.run ho hp hls hes).1 (ho.run es) (hl.run ho es).1
      (hlast e (List.mem_singleton_self e)) (step_segment _ e)

/-- No backend is loaded twice, nor one that was there before. -/
theorem Requests.shares (h : Requests r₀ es ls) (h₀ : AtRest r₀) (ho : Orderly r₀)
    (hp : Placed r₀) (hl : Loads r₀) : Shares r₀ (r₀.run es).2 (r₀.run es).1 :=
  (h.calm_start h₀).shares h₀ ho hp hl (fun l hl hf => h.listed hf l hl) h.favoured

end Registry

end SlotBroker
