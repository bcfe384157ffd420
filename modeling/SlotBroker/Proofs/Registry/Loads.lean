import SlotBroker.Proofs.Cells
import SlotBroker.Proofs.Registry.Creation
import SlotBroker.Proofs.Registry.Roster

/-!
# The loaded backends

`Segment.serves` tells what a step does to the backend table and to the creates that are served from
it. A load under way is the only one at its cell, so a cell gets a backend once, every backend is in
one cell, and an attach goes to a backend that is in a cell (`Loads`).
-/

namespace SlotBroker

/-- A create that is waiting for a load or for an attach. -/
def CreateStage.served : CreateStage → Prop
  | .loading _ _ | .attaching _ _ _ => True
  | _ => False

/-- What only a create does that is being served. -/
def Effect.serves : Effect → Prop
  | .load _ _ _ | .attach _ _ _ _ => True
  | _ => False

namespace Registry

/-- What a step does to the backend table, where it does not serve. -/
inductive Tends (r : Registry) (fx : List Effect) (r' : Registry) : Prop
  | same (h : r'.backends = r.backends)
  | joins {i l s name} (hs : r.stage? i = some (.creating l s)) (hw : s.seeks)
      (h : r'.backends = (r.backends.join i name).1)
  | leaves {i l s cell} (hs : r.stage? i = some (.creating l s)) (hw : s.seeks)
      (hi : r'.stage? i = none) (h : r'.backends = r.backends.leave i cell)
  | takes (hc : Clears r fx) (h : r'.backends = r.backends.takeAll.1)

/-- What a step does to the backend table and the creates that are served. -/
inductive Serves (r : Registry) : Registry → List Effect → Prop
  | other {r' fx} (hb : Tends r fx r') (hn : r'.nextOid = r.nextOid)
      (hs : ∀ i l s, s.served → r'.stage? i = some (.creating l s) →
        r.stage? i = some (.creating l s))
      (hfx : ∀ x ∈ fx, ¬ x.serves) : Serves r r' fx
  | starts {i l name cell f} (hs : r.stage? i = some (.creating l (.fetching name cell)))
      (ht : r.backends.loads.turn i cell = .compute) :
      Serves r (r.setStage i (.creating l (.loading name cell))) [.load i name f]
  | fetched {i l name cell b} (hs : r.stage? i = some (.creating l (.fetching name cell)))
      (ht : r.backends.loads.turn i cell = .ready b) :
      Serves r
        ({ r with nextOid := r.nextOid + 1 }.setStage i
          (.creating l (.attaching name b ⟨r.nextOid⟩))) [.attach i ⟨r.nextOid⟩ b l]
  | loaded {i l name cell} (hs : r.stage? i = some (.creating l (.loading name cell))) :
      Serves r
        ({ r with
            nextOid := r.nextOid + 1
            backends := (r.backends.loaded i cell (.ok ())).1 }.setStage i
          (.creating l (.attaching name r.backends.loadCount ⟨r.nextOid⟩)))
        [.attach i ⟨r.nextOid⟩ r.backends.loadCount l]

variable {r r' : Registry} {e : Event} {fx : List Effect} {id i : CallId}

theorem Releases.tends {errors : List BrokerError} {oids : List Oid} {r₀ : Registry}
    (h : Releases r₀ id errors oids r' fx) (hb : r₀.backends = r.backends)
    (hs : ∀ b cells errors, r.stage? id ≠ some (.unloading b cells errors)) : Tends r fx r' := by
  cases h with
  | stands => exact .same hb
  | unloads _ h =>
    refine .takes (h.clears hs) ?_
    rw [h.frame.2.2.2.2.1, (emptied_frame r₀).2.2.2.2.2.2.1, hb]

theorem Drains.tends {ls : List Location} {r₀ : Registry} (h : Drains r₀ id ls r' fx)
    (hb : r₀.backends = r.backends)
    (hs : ∀ b cells errors, r.stage? id ≠ some (.unloading b cells errors)) : Tends r fx r' := by
  cases h with
  | stands => exact .same hb
  | releases h => exact h.tends hb hs

theorem not_serves_of_wide {x : Effect} (h : x.wide) : ¬ x.serves := by
  intro hs
  cases x with
  | load | attach => exact h
  | _ => exact hs

theorem Serves.beside (hb : Tends r fx r') (hn : r'.nextOid = r.nextOid)
    (hc : ∀ {l s}, r'.stage? id ≠ some (.creating l s))
    (hs : ∀ i, i ≠ id → r'.stage? i = r.stage? i) (hfx : ∀ {x}, x ∈ fx → x.wide) :
    Serves r r' fx := by
  refine .other hb hn (fun i l s _ hi => ?_) fun x hx => not_serves_of_wide (hfx hx)
  have hne : i ≠ id := fun h => hc (h ▸ hi)
  rwa [← hs i hne]

theorem Serves.leaves {l : Location} {s : CreateStage} {cell : Nat}
    (hj : r.stage? id = some (.creating l s)) (hw : s.seeks)
    (hb : r'.backends = r.backends.leave id cell) (hn : r'.nextOid = r.nextOid)
    (hs : ∀ i, r'.stage? i = if id = i then none else r.stage? i)
    (hfx : ∀ x ∈ fx, ¬ x.serves) : Serves r r' fx := by
  refine .other (.leaves hj hw (by simp [hs]) hb) hn (fun i l s _ hi => ?_) hfx
  rw [hs] at hi
  split at hi
  · cases hi
  · exact hi

theorem Serves.comes {l : Location} {s : CreateStage} {name : BackendName} {cell : Nat}
    (hj : r.stage? id = some (.creating l s)) (hw : s.seeks)
    (hb : r'.backends = (r.backends.join id name).1) (hn : r'.nextOid = r.nextOid)
    (hs : ∀ i, r'.stage? i =
      if id = i then some (.creating l (.fetching name cell)) else r.stage? i) :
    Serves r r' [] := by
  refine .other (.joins hj hw hb) hn (fun i l s ht hi => ?_) (by simp)
  rw [hs] at hi
  split at hi
  · cases hi
    exact ht.elim
  · exact hi

theorem Segment.serves (ho : Orderly r) (hg : Segment r e r' fx) : Serves r r' fx := by
  cases hg with
  | loadStarts hs ht => exact .starts hs ht
  | fetched hs ht => exact .fetched hs ht
  | loaded hs => exact .loaded hs
  | createReady hs | createResolved hs =>
    exact .comes hs trivial rfl rfl fun _ => stage?_setStage _ _ _ _
  | unserved hs | loadFailed hs =>
    exact .leaves hs trivial rfl rfl (fun _ => stage?_endCall _ _ _) (by simp [Effect.serves])
  | dropLoading hs =>
    rcases hs with hs | hs
    · exact .leaves hs trivial rfl rfl (fun _ => stage?_endCall _ _ _) (by simp)
    · exact .leaves hs trivial rfl rfl (fun _ => stage?_endCall _ _ _) (by simp)
  | shutdownMade h =>
    exact .beside (h.tends rfl (by simp [ho.not_made])) h.frame.2.1 h.not_creating
      (fun _ hi => h.stage? hi) h.wide
  | drained hs _ h =>
    exact .beside (h.tends rfl (by simp [hs])) h.frame.2.1 h.not_creating (fun _ hi => h.stage? hi)
      h.wide
  | releaseGone hs _ _ h | released hs h | releaseFailed hs h =>
    exact .beside (h.tends rfl (by simp [hs])) h.frame.2.1 h.not_creating (fun _ hi => h.stage? hi)
      h.wide
  | unloaded _ h | unloadFailed _ h =>
    exact .beside (.same h.frame.2.2.2.2.1) h.frame.2.2.1 h.not_creating (fun _ hi => h.stage? hi)
      h.wide
  | enumerated _ h | partReady _ _ _ h | partResolved _ _ h =>
    exact .beside (.same h.frame.2.2.2.2.1) h.frame.2.2.1 h.not_creating (fun _ hi => h.stage? hi)
      h.wide
  | refused h =>
    refine .other (.same rfl) rfl (fun _ _ _ _ hi => hi) ?_
    cases h <;> simp [Effect.serves]
  | idle | reset => exact .other (.same rfl) rfl (fun _ _ _ _ hi => hi) (by simp)
  | _ =>
    refine .other (.same rfl) rfl (fun i l s ht hi => ?_) (by simp [Effect.serves])
    simp at hi
    grind [CreateStage.served]

theorem Releases.loadCount {errors : List BrokerError} {oids : List Oid}
    (h : Releases r id errors oids r' fx) : r'.backends.loadCount = r.backends.loadCount := by
  cases h with
  | stands => rfl
  | unloads _ h =>
    rw [h.frame.2.2.2.2.1]
    rfl

theorem Drains.loadCount {ls : List Location} (h : Drains r id ls r' fx) :
    r'.backends.loadCount = r.backends.loadCount := by
  cases h with
  | stands => rfl
  | releases h => exact h.loadCount

/-- A backend is loaded only when its load has succeeded. -/
theorem Segment.loadCount (hg : Segment r e r' fx) (he : ∀ i, e ≠ .loaded i (.ok ())) :
    r'.backends.loadCount = r.backends.loadCount := by
  cases hg with
  | loaded => exact absurd rfl (he _)
  | enumerated _ h | partReady _ _ _ h | partResolved _ _ h => rw [h.frame.2.2.2.2.1]
  | unloaded _ h | unloadFailed _ h => rw [h.frame.2.2.2.2.1]
  | shutdownMade h => exact h.loadCount
  | drained _ _ h => exact h.loadCount
  | releaseGone _ _ _ h | released _ h | releaseFailed _ h => exact h.loadCount
  | _ => rfl

/-! ## A load is the only one at its cell -/

structure Loads (r : Registry) : Prop where
  /-- A load under way is the one to fill its cell. -/
  loading : ∀ {i l name c}, r.stage? i = some (.creating l (.loading name c)) →
    r.backends.loads.turn i c = .compute
  known : ∀ {c b}, r.backends.loads.valueAt? c = some b → b < r.backends.loadCount
  distinct : ∀ {c c' b}, r.backends.loads.valueAt? c = some b →
    r.backends.loads.valueAt? c' = some b → c = c'
  attaching : ∀ {i l name b oid}, r.stage? i = some (.creating l (.attaching name b oid)) →
    ∃ c, r.backends.loads.valueAt? c = some b

variable {c : Nat} {b : InstanceId}

theorem Tends.valueAt? (h : Tends r fx r') :
    r'.backends.loads.valueAt? c = r.backends.loads.valueAt? c := by
  cases h with
  | same h => rw [h]
  | joins _ _ h => rw [h, BackendTable.join, OnceMap.valueAt?_join]
  | leaves _ _ _ h => rw [h, BackendTable.leave, OnceMap.valueAt?_leave]
  | takes _ h => rw [h, BackendTable.takeAll, OnceMap.valueAt?_clear]

theorem Tends.loadCount (h : Tends r fx r') : r'.backends.loadCount = r.backends.loadCount := by
  cases h with
  | same h | joins _ _ h | leaves _ _ _ h | takes _ h => rw [h] <;> rfl

theorem Tends.compute (h : Tends r fx r') (hi : r'.stage? i ≠ none)
    (ht : r.backends.loads.turn i c = .compute) : r'.backends.loads.turn i c = .compute := by
  cases h with
  | same h => rwa [h]
  | joins _ _ h =>
    rw [h]
    exact OnceMap.compute_join _ ht
  | leaves _ _ hj h =>
    rw [h]
    refine OnceMap.compute_leave ?_ ht
    rintro rfl
    exact hi hj
  | takes _ h => rwa [h]

/-- A backend that is in a cell stays there. -/
theorem Segment.valueAt? (h : Loads r) (ho : Orderly r) (hg : Segment r e r' fx)
    (hb : r.backends.loads.valueAt? c = some b) : r'.backends.loads.valueAt? c = some b := by
  cases hg.serves ho with
  | other ht => rwa [ht.valueAt?]
  | starts => exact hb
  | fetched => exact hb
  | @loaded i l name cell hs =>
    have hne : cell ≠ c := by
      rintro rfl
      rw [OnceMap.valueAt?_of_compute (h.loading hs)] at hb
      cases hb
    simp only [setStage_frame, BackendTable.loaded]
    rw [OnceMap.valueAt?_fill (h.loading hs), if_neg hne, hb]

/-- The backend that a load has brought is a new one, and its cell was empty. -/
theorem Loads.loaded {l : Location} {name : BackendName} {cell : Nat} (h : Loads r)
    (hs : r.stage? i = some (.creating l (.loading name cell))) :
    Loads ({ r with
        nextOid := r.nextOid + 1
        backends := (r.backends.loaded i cell (.ok ())).1 }.setStage i
      (.creating l (.attaching name r.backends.loadCount ⟨r.nextOid⟩))) := by
  have hv {c b} : (r.backends.loads.fill cell r.backends.loadCount).valueAt? c = some b ↔
      cell = c ∧ r.backends.loadCount = b ∨ cell ≠ c ∧ r.backends.loads.valueAt? c = some b := by
    rw [OnceMap.valueAt?_fill (h.loading hs)]
    by_cases hc : cell = c <;> simp [hc]
  refine ⟨fun hi => ?_, fun hb => ?_, fun hb hb' => ?_, fun hi => ?_⟩
  · simp only [stage?_setStage] at hi
    split at hi
    · cases hi
    · rename_i hij
      refine OnceMap.compute_fill ?_ (h.loading hi)
      -- Another load at this cell would be the same one.
      rintro rfl
      exact hij (OnceMap.compute_unique (h.loading hs) (h.loading hi))
  · rcases hv.1 hb with ⟨-, rfl⟩ | ⟨-, hb⟩
    · exact Nat.lt_succ_self _
    · exact Nat.lt_succ_of_lt (h.known hb)
  · rcases hv.1 hb with ⟨rfl, rfl⟩ | ⟨-, hb⟩
    · rcases hv.1 hb' with ⟨h', -⟩ | ⟨-, hb'⟩
      · exact h'
      · exact absurd (h.known hb') (Nat.lt_irrefl _)
    · rcases hv.1 hb' with ⟨-, rfl⟩ | ⟨-, hb'⟩
      · exact absurd (h.known hb) (Nat.lt_irrefl _)
      · exact h.distinct hb hb'
  · simp only [stage?_setStage] at hi
    split at hi
    · cases hi
      exact ⟨cell, hv.2 (.inl ⟨rfl, rfl⟩)⟩
    · obtain ⟨c, hc⟩ := h.attaching hi
      refine ⟨c, hv.2 (.inr ⟨?_, hc⟩)⟩
      rintro rfl
      rw [OnceMap.valueAt?_of_compute (h.loading hs)] at hc
      cases hc

theorem Loads.segment (h : Loads r) (ho : Orderly r) (hg : Segment r e r' fx) : Loads r' := by
  cases hg.serves ho with
  | other ht _ hs =>
    refine ⟨fun hi => ?_, fun hb => ?_, fun hb hb' => ?_, fun hi => ?_⟩
    · exact ht.compute (by simp [hi]) (h.loading (hs _ _ _ trivial hi))
    · rw [ht.valueAt?] at hb
      rw [ht.loadCount]
      exact h.known hb
    · rw [ht.valueAt?] at hb hb'
      exact h.distinct hb hb'
    · obtain ⟨c, hc⟩ := h.attaching (hs _ _ _ trivial hi)
      exact ⟨c, by rw [ht.valueAt?, hc]⟩
  | @starts i l name cell f hs ht =>
    refine ⟨fun hi => ?_, h.known, h.distinct, fun hi => ?_⟩
    · simp only [stage?_setStage] at hi
      split at hi
      · rename_i hij
        cases hi
        exact hij ▸ ht
      · exact h.loading hi
    · simp only [stage?_setStage] at hi
      split at hi
      · cases hi
      · exact h.attaching hi
  | @fetched i l name cell b hs ht =>
    refine ⟨fun hi => ?_, h.known, h.distinct, fun hi => ?_⟩
    · simp only [stage?_setStage] at hi
      split at hi
      · cases hi
      · exact h.loading hi
    · simp only [stage?_setStage] at hi
      split at hi
      · cases hi
        exact ⟨cell, OnceMap.turn_ready_iff.1 ht⟩
      · exact h.attaching hi
  | loaded hs => exact h.loaded hs

theorem loads_new (orders : Orders) (adapter : Adapter) (policy : Policy)
    (factories : Assoc BackendName FactoryId) (fallback : Option FactoryId) (n : Nat) :
    Loads (new adapter policy orders.lines
      ⟨factories, fallback, OnceMap.empty, n, orders.cells⟩) where
  loading hi := by simp [stage?_new] at hi
  known hb := by simp [new, OnceMap.empty, OnceMap.valueAt?] at hb
  distinct hb := by simp [new, OnceMap.empty, OnceMap.valueAt?] at hb
  attaching hi := by simp [stage?_new] at hi

theorem Loads.run (h : Loads r) (ho : Orderly r) (es : List Event) :
    Loads (r.run es).1 ∧
      ∀ {c b}, r.backends.loads.valueAt? c = some b →
        (r.run es).1.backends.loads.valueAt? c = some b := by
  induction es generalizing r with
  | nil => exact ⟨h, fun hb => hb⟩
  | cons e es ih =>
    have hg := step_segment r e
    obtain ⟨h', hv⟩ := ih (h.segment ho hg) (ho.segment hg)
    exact ⟨h', fun hb => hv (hg.valueAt? h ho hb)⟩

end Registry

end SlotBroker
