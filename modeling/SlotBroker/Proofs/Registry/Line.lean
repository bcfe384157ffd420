import SlotBroker.Proofs.Registry.Segment

/-!
# The lines of the locations

A call stands in the line of at most one location, the one of its stage, and once. A call that has
gone past the point where it waits for its location holds it: it is the head of the line. So no two
calls hold one location, whatever the events are (`Orderly.holds_unique`).

A shutdown leaves one line before it stands in the next. `OrderlyBut` is the state in between, where
one call stands nowhere whatever its stage is.
-/

namespace SlotBroker

/-- The location in whose line a call stands. -/
def Stage.standsAt? : Stage → Option Location
  | .creating l _ => some l
  | .removing _ l _ => some l
  | .draining l _ => some l
  | .releasing _ l _ _ _ => some l
  | _ => none

/-- The location that a call holds, once its turn has come and it is at work there. -/
def Stage.holds? : Stage → Option Location
  | .creating _ .locking => none
  | .creating l _ => some l
  | .removing _ l true => some l
  | .releasing _ l true _ _ => some l
  | _ => none

theorem Stage.standsAt?_of_holds? {s : Stage} {l : Location} (h : s.holds? = some l) :
    s.standsAt? = some l := by
  unfold holds? at h
  unfold standsAt?
  split at h <;> simp_all

namespace Registry

structure Orderly (r : Registry) : Prop where
  fresh : ∀ {id s}, r.stage? id = some s → id < r.nextCall
  nodup : ∀ l, (r.line l).Nodup
  mem_line : ∀ l id, id ∈ r.line l ↔ ∃ s, r.stage? id = some s ∧ s.standsAt? = some l
  head : ∀ {id s l}, r.stage? id = some s → s.holds? = some l → (r.line l).head? = some id

/-- Orderly but for one call, which stands in no line. -/
structure OrderlyBut (id : CallId) (r : Registry) : Prop where
  lt : id < r.nextCall
  fresh : ∀ {i s}, i ≠ id → r.stage? i = some s → i < r.nextCall
  nodup : ∀ l, (r.line l).Nodup
  mem_line : ∀ l i, i ∈ r.line l ↔ i ≠ id ∧ ∃ s, r.stage? i = some s ∧ s.standsAt? = some l
  head : ∀ {i s l}, i ≠ id → r.stage? i = some s → s.holds? = some l →
    (r.line l).head? = some i

variable {r r' : Registry} {id : CallId} {s s' : Stage} {l : Location}

theorem Orderly.congr (h : Orderly r) (hs : ∀ i, r'.stage? i = r.stage? i)
    (hl : ∀ l, r'.line l = r.line l) (hn : r'.nextCall = r.nextCall) : Orderly r' where
  fresh {i s} hi := by
    rw [hs] at hi
    rw [hn]
    exact h.fresh hi
  nodup l := by
    rw [hl]
    exact h.nodup l
  mem_line l i := by
    rw [hl, hs]
    exact h.mem_line l i
  head {i s l} hi hh := by
    rw [hs] at hi
    rw [hl]
    exact h.head hi hh

/-- No two calls hold one location. -/
theorem Orderly.holds_unique (h : Orderly r) {i : CallId} (hs : r.stage? id = some s)
    (hl : s.holds? = some l) (hs' : r.stage? i = some s') (hl' : s'.holds? = some l) : i = id := by
  have h₁ := h.head hs hl
  rw [h.head hs' hl'] at h₁
  exact Option.some.inj h₁

theorem Orderly.not_made (h : Orderly r) : r.stage? r.nextCall = none := by
  cases hs : r.stage? r.nextCall with
  | none => rfl
  | some s => exact absurd (h.fresh hs) (Nat.lt_irrefl _)

theorem Orderly.mem_keys (h : Orderly r) (hs : r.stage? id = some s) (hl : s.standsAt? = some l) :
    l ∈ Assoc.keys r.lines := by
  have hm := (h.mem_line l id).2 ⟨s, hs, hl⟩
  rw [Assoc.mem_keys_iff]
  unfold line at hm
  cases hg : Assoc.get? l r.lines with
  | none => simp [hg] at hm
  | some _ => rfl

/-! ## From order to order but for one -/

theorem Orderly.alone (h : Orderly r) (hs : r.stage? id = some s) (hl : s.standsAt? = none) :
    OrderlyBut id r where
  lt := h.fresh hs
  fresh _ hi := h.fresh hi
  nodup := h.nodup
  mem_line l i := by
    rw [h.mem_line]
    refine ⟨fun hi => ⟨?_, hi⟩, fun hi => hi.2⟩
    rintro rfl
    obtain ⟨s', hs', hl'⟩ := hi
    rw [hs] at hs'
    cases hs'
    rw [hl] at hl'
    cases hl'
  head _ hi hh := h.head hi hh

theorem Orderly.leaveLine (h : Orderly r) (hs : r.stage? id = some s) (hl : s.standsAt? = some l) :
    OrderlyBut id (r.leaveLine l id) where
  lt := h.fresh hs
  fresh _ hi := h.fresh hi
  nodup l' := by
    rw [line_leaveLine]
    split
    · exact (h.nodup l').erase id
    · exact h.nodup l'
  mem_line l' i := by
    simp only [line_leaveLine, stage?_leaveLine]
    split
    · rename_i hll
      subst hll
      rw [(h.nodup l).mem_erase_iff, h.mem_line]
    · rename_i hll
      rw [h.mem_line]
      refine ⟨fun hi => ⟨?_, hi⟩, fun hi => hi.2⟩
      rintro rfl
      obtain ⟨s', hs', hl'⟩ := hi
      rw [hs] at hs'
      cases hs'
      rw [hl] at hl'
      exact hll (Option.some.inj hl')
  head {i s' l'} hne hi hh := by
    have hd := h.head hi hh
    rw [line_leaveLine]
    split
    · cases hm : r.line l' with
      | nil => simp [hm] at hd
      | cons j js =>
        rw [hm, List.head?_cons, Option.some.injEq] at hd
        subst hd
        rw [List.erase_cons_tail (by simpa using hne)]
        rfl
    · exact hd

theorem Orderly.made (h : Orderly r) :
    OrderlyBut r.nextCall { r with nextCall := r.nextCall + 1 } where
  lt := Nat.lt_succ_self _
  fresh _ hi := Nat.lt_succ_of_lt (h.fresh hi)
  nodup := h.nodup
  mem_line l i := by
    simp only [line_with, stage?_with]
    rw [h.mem_line]
    refine ⟨fun hi => ⟨?_, hi⟩, fun hi => hi.2⟩
    rintro rfl
    obtain ⟨s', hs', -⟩ := hi
    exact absurd (h.fresh hs') (Nat.lt_irrefl _)
  head _ hi hh := h.head hi hh

/-! ## And back -/

theorem OrderlyBut.congr (h : OrderlyBut id r) (hs : ∀ i, r'.stage? i = r.stage? i)
    (hl : ∀ l, r'.line l = r.line l) (hn : r'.nextCall = r.nextCall) : OrderlyBut id r' where
  lt := by
    rw [hn]
    exact h.lt
  fresh {i s} hne hi := by
    rw [hs] at hi
    rw [hn]
    exact h.fresh hne hi
  nodup l := by
    rw [hl]
    exact h.nodup l
  mem_line l i := by
    rw [hl, hs]
    exact h.mem_line l i
  head {i s l} hne hi hh := by
    rw [hs] at hi
    rw [hl]
    exact h.head hne hi hh

theorem OrderlyBut.endCall (h : OrderlyBut id r) : Orderly (r.endCall id) where
  fresh {i s} hi := by
    simp only [stage?_endCall] at hi
    split at hi
    · cases hi
    · rename_i hne
      exact h.fresh (Ne.symm hne) hi
  nodup := h.nodup
  mem_line l i := by
    simp only [line_endCall, stage?_endCall]
    rw [h.mem_line]
    split
    · rename_i he
      simp [he]
    · rename_i hne
      simp [Ne.symm hne]
  head {i s l} hi hh := by
    simp only [stage?_endCall] at hi
    split at hi
    · cases hi
    · rename_i hne
      exact h.head (Ne.symm hne) hi hh

theorem OrderlyBut.setStage (h : OrderlyBut id r) (hs : s.standsAt? = none) :
    Orderly (r.setStage id s) where
  fresh {i s'} hi := by
    simp only [stage?_setStage] at hi
    split at hi
    · rename_i he
      exact he ▸ h.lt
    · rename_i hne
      exact h.fresh (Ne.symm hne) hi
  nodup := h.nodup
  mem_line l i := by
    simp only [line_setStage, stage?_setStage]
    rw [h.mem_line]
    split
    · rename_i he
      simp [he, hs]
    · rename_i hne
      simp [Ne.symm hne]
  head {i s' l} hi hh := by
    simp only [stage?_setStage] at hi
    split at hi
    · cases hi
      rw [Stage.standsAt?_of_holds? hh] at hs
      cases hs
    · rename_i hne
      exact h.head (Ne.symm hne) hi hh

theorem OrderlyBut.stand (h : OrderlyBut id r) (hs : s.standsAt? = some l) (hh : s.holds? = none) :
    Orderly ((r.standAt l id).setStage id s) where
  fresh {i s'} hi := by
    simp only [stage?_setStage, stage?_standAt] at hi
    split at hi
    · rename_i he
      exact he ▸ h.lt
    · rename_i hne
      exact h.fresh (Ne.symm hne) hi
  nodup l' := by
    have hid : id ∉ r.line l' := fun hm => ((h.mem_line l' id).1 hm).1 rfl
    simp only [line_setStage, line_standAt]
    split
    · rw [List.nodup_append]
      refine ⟨h.nodup l', by simp, fun i hi j hj => ?_⟩
      rintro rfl
      exact hid (List.mem_singleton.1 hj ▸ hi)
    · exact h.nodup l'
  mem_line l' i := by
    simp only [line_setStage, line_standAt, stage?_setStage, stage?_standAt]
    by_cases he : id = i
    · subst he
      have hid : id ∉ r.line l' := fun hm => ((h.mem_line l' id).1 hm).1 rfl
      by_cases hl : l = l' <;> simp [hl, hs, hid]
    · have hm := h.mem_line l' i
      simp only [ne_eq, Ne.symm he, not_false_eq_true, true_and] at hm
      by_cases hl : l = l' <;> simp [hl, he, Ne.symm he, hm]
  head {i s' l'} hi hh' := by
    simp only [stage?_setStage, stage?_standAt] at hi
    split at hi
    · cases hi
      rw [hh] at hh'
      cases hh'
    · rename_i hne
      have hd := h.head (Ne.symm hne) hi hh'
      simp only [line_setStage, line_standAt]
      split
      · rw [List.head?_append, hd]
        rfl
      · exact hd

/-- A call goes on where it stands. To hold its location it has to be the head of the line. -/
theorem Orderly.setStage (h : Orderly r) (hs : r.stage? id = some s)
    (hl : s'.standsAt? = s.standsAt?)
    (hh : ∀ l, s'.holds? = some l → (r.line l).head? = some id) : Orderly (r.setStage id s') where
  fresh {i t} hi := by
    simp only [stage?_setStage] at hi
    split at hi
    · rename_i he
      exact he ▸ h.fresh hs
    · exact h.fresh hi
  nodup := h.nodup
  mem_line l i := by
    simp only [line_setStage, stage?_setStage]
    rw [h.mem_line]
    split
    · rename_i he
      subst he
      simp [hs, hl]
    · rfl
  head {i t l} hi hh' := by
    simp only [stage?_setStage] at hi
    split at hi
    · rename_i he
      cases hi
      exact he ▸ hh l hh'
    · exact h.head hi hh'

/-! ## Every step keeps order -/

theorem Orderly.lists (h : Orderly r) {parts : List (Location × Part)} {fx : List Effect}
    (hs : r.stage? id = some s) (hl : s.standsAt? = none) (hg : Lists r id parts r' fx) :
    Orderly r' := by
  cases hg with
  | waits => exact (h.alone hs hl).setStage rfl
  | ends =>
    refine OrderlyBut.endCall ?_
    exact (h.alone hs hl).congr (fun _ => rfl) (fun _ => rfl) rfl

theorem OrderlyBut.unloads (h : OrderlyBut id r) {errors : List BrokerError} {cells : List Nat}
    {fx : List Effect} (hu : Unloads r id errors cells r' fx) : Orderly r' := by
  cases hu with
  | next => exact h.setStage rfl
  | ends => exact h.endCall

theorem OrderlyBut.releases (h : OrderlyBut id r) {errors : List BrokerError} {oids : List Oid}
    {fx : List Effect} (hg : Releases r id errors oids r' fx) : Orderly r' := by
  cases hg with
  | stands => exact h.stand rfl rfl
  | unloads _ hu =>
    refine OrderlyBut.unloads (r := r.emptied) ?_ hu
    exact h.congr (fun _ => rfl) (fun _ => rfl) rfl

theorem OrderlyBut.drains (h : OrderlyBut id r) {ls : List Location} {fx : List Effect}
    (hg : Drains r id ls r' fx) : Orderly r' := by
  cases hg with
  | stands => exact h.stand rfl rfl
  | releases hg => exact h.releases hg

theorem Orderly.leaves (h : Orderly r) (hs : r.stage? id = some s) (hl : s.standsAt? = some l)
    (hs' : ∀ i, r'.stage? i = r.stage? i) (hl' : ∀ l, r'.line l = r.line l)
    (hn : r'.nextCall = r.nextCall) : Orderly ((r'.leaveLine l id).endCall id) :=
  ((h.congr hs' hl' hn).leaveLine (by rw [hs', hs]) hl).endCall

theorem Orderly.worksOn (h : Orderly r) (hs : r.stage? id = some s) (hl : s.holds? = some l)
    (hl₁ : s'.holds? = some l) (hs' : ∀ i, r'.stage? i = r.stage? i)
    (hl' : ∀ l, r'.line l = r.line l) (hn : r'.nextCall = r.nextCall) :
    Orderly (r'.setStage id s') := by
  refine (h.congr hs' hl' hn).setStage (by rw [hs', hs]) ?_ fun l₂ hh => ?_
  · rw [Stage.standsAt?_of_holds? hl, Stage.standsAt?_of_holds? hl₁]
  · rw [hl₁] at hh
    cases hh
    rw [hl']
    exact h.head hs hl

theorem Orderly.takesTurn (h : Orderly r) (hs : r.stage? id = some s) (hl : s.standsAt? = some l)
    (hh : r.holder? l = some id) (hl₁ : s'.holds? = some l) (hs' : ∀ i, r'.stage? i = r.stage? i)
    (hl' : ∀ l, r'.line l = r.line l) (hn : r'.nextCall = r.nextCall) :
    Orderly (r'.setStage id s') := by
  refine (h.congr hs' hl' hn).setStage (by rw [hs', hs]) ?_ fun l₂ hh₂ => ?_
  · rw [hl, Stage.standsAt?_of_holds? hl₁]
  · rw [hl₁] at hh₂
    cases hh₂
    rw [hl', ← holder?_eq]
    exact hh

theorem Orderly.segment {e : Event} {fx : List Effect} (h : Orderly r) (hg : Segment r e r' fx) :
    Orderly r' := by
  cases hg with
  | idle => exact h
  | reset => exact h.congr (fun _ => rfl) (fun _ => rfl) rfl
  | refused =>
    exact ⟨fun hi => Nat.lt_succ_of_lt (h.fresh hi), h.nodup, h.mem_line, h.head⟩
  | listMade => exact h.made.setStage rfl
  | createMade => exact h.made.stand rfl rfl
  | removeMade => exact h.made.stand rfl rfl
  | shutdownMade hd =>
    refine OrderlyBut.drains ?_ hd
    exact h.made.congr (fun _ => rfl) (fun _ => rfl) rfl
  | enumerated hs hg => exact h.lists hs rfl hg
  | enumerateFailed hs => exact (h.alone hs rfl).endCall
  | partJoins hs =>
    refine OrderlyBut.setStage ?_ rfl
    exact (h.alone hs rfl).congr (fun _ => rfl) (fun _ => rfl) rfl
  | partReady hs _ _ hg => exact h.lists hs rfl hg
  | partAsks hs => exact (h.alone hs rfl).setStage rfl
  | partResolved hs _ hg =>
    refine Orderly.lists (r := { r with resolutions := r.resolutions.fill _ _ }) ?_ hs rfl hg
    exact h.congr (fun _ => rfl) (fun _ => rfl) rfl
  | partFailed hs =>
    refine OrderlyBut.endCall ?_
    exact (h.alone hs rfl).congr (fun _ => rfl) (fun _ => rfl) rfl
  | createClosed hs | createBusy hs =>
    exact h.leaves hs rfl (fun _ => rfl) (fun _ => rfl) rfl
  | createJoins hs hh => exact h.takesTurn hs rfl hh rfl (fun _ => rfl) (fun _ => rfl) rfl
  | createReady hs | createAsks hs | createResolved hs | loadStarts hs | fetched hs | loaded hs
  | attachedLate hs =>
    exact h.worksOn hs rfl rfl (fun _ => rfl) (fun _ => rfl) rfl
  | resolveFailed hs | unserved hs | loadFailed hs | attachFailed hs | committed hs | undone hs =>
    exact h.leaves hs rfl (fun _ => rfl) (fun _ => rfl) rfl
  | removeGone hs | removed hs | removeFailed hs =>
    exact h.leaves hs rfl (fun _ => rfl) (fun _ => rfl) rfl
  | removeDetaches hs hh | releaseDetaches hs hh =>
    exact h.takesTurn hs rfl hh rfl (fun _ => rfl) (fun _ => rfl) rfl
  | drained hs _ hg => exact (h.leaveLine hs rfl).drains hg
  | releaseGone hs _ _ hg | releaseFailed hs hg => exact (h.leaveLine hs rfl).releases hg
  | released hs hg =>
    refine OrderlyBut.releases ?_ hg
    refine Orderly.leaveLine ?_ hs rfl
    exact h.congr (fun _ => rfl) (fun _ => rfl) rfl
  | unloaded hs hg | unloadFailed hs hg => exact (h.alone hs rfl).unloads hg
  | reclaims hs => exact (h.alone hs rfl).setStage rfl
  | reclaimed hs => exact (h.alone hs rfl).endCall
  | dropList hs =>
    refine OrderlyBut.endCall ?_
    exact (h.alone hs rfl).congr (fun _ => rfl) (fun _ => rfl) rfl
  | dropResolving hs | dropLoading hs =>
    rcases hs with hs | hs
    · exact h.leaves hs rfl (fun _ => rfl) (fun _ => rfl) rfl
    · exact h.leaves hs rfl (fun _ => rfl) (fun _ => rfl) rfl
  | dropUndoing hs => exact ((h.leaveLine hs rfl).endCall.made).setStage rfl
  | dropUntended hs => exact (h.leaveLine hs rfl).endCall
  | dropStanding hs hl =>
    rcases hl with rfl | ⟨_, _, _, rfl⟩ | ⟨_, _, rfl⟩ | ⟨_, rfl⟩ | ⟨_, _, _, _, rfl⟩ <;>
      exact (h.leaveLine hs rfl).endCall
  | dropAlone hs hl =>
    rcases hl with rfl | ⟨_, _, _, rfl⟩ | ⟨_, _, _, rfl⟩ <;> exact (h.alone hs rfl).endCall

/-! ## Locations that have a line -/

@[simp] theorem mem_keys_standAt (l l' : Location) (id : CallId) (r : Registry) :
    l' ∈ Assoc.keys (r.standAt l id).lines ↔ l' = l ∨ l' ∈ Assoc.keys r.lines :=
  Assoc.mem_keys_put

@[simp] theorem keys_leaveLine (l : Location) (id : CallId) (r : Registry) :
    Assoc.keys (r.leaveLine l id).lines = Assoc.keys r.lines :=
  Assoc.keys_modify _ _ _

variable {e : Event} {fx : List Effect}

theorem Lists.lines {parts : List (Location × Part)} (h : Lists r id parts r' fx) :
    r'.lines = r.lines := by
  cases h <;> rfl

theorem Unloads.lines {errors : List BrokerError} {cells : List Nat}
    (h : Unloads r id errors cells r' fx) : r'.lines = r.lines := by
  cases h <;> rfl

theorem Releases.keys {errors : List BrokerError} {oids : List Oid}
    (h : Releases r id errors oids r' fx) (hl : l ∈ Assoc.keys r.lines) :
    l ∈ Assoc.keys r'.lines := by
  cases h with
  | stands => exact (mem_keys_standAt _ _ _ _).2 (.inr hl)
  | unloads _ h => exact h.lines ▸ hl

theorem Drains.keys {ls : List Location} (h : Drains r id ls r' fx)
    (hl : l ∈ Assoc.keys r.lines) : l ∈ Assoc.keys r'.lines := by
  cases h with
  | stands => exact (mem_keys_standAt _ _ _ _).2 (.inr hl)
  | releases h => exact h.keys hl

/-- A location that has a line keeps it. -/
theorem Segment.keys (hg : Segment r e r' fx) (hl : l ∈ Assoc.keys r.lines) :
    l ∈ Assoc.keys r'.lines := by
  have left {l' : Location} {id : CallId} {r₀ : Registry} (h : r₀.lines = r.lines) :
      l ∈ Assoc.keys (r₀.leaveLine l' id).lines := by
    rw [keys_leaveLine, h]
    exact hl
  cases hg with
  | createMade | removeMade => exact (mem_keys_standAt _ _ _ _).2 (.inr hl)
  | enumerated _ h | partReady _ _ _ h | partResolved _ _ h => exact h.lines ▸ hl
  | unloaded _ h | unloadFailed _ h => exact h.lines ▸ hl
  | shutdownMade h => exact h.keys hl
  | drained _ _ h => exact h.keys (left rfl)
  | releaseGone _ _ _ h | released _ h | releaseFailed _ h => exact h.keys (left rfl)
  | createClosed | createBusy | resolveFailed | unserved | loadFailed | attachFailed | committed
  | undone | removeGone | removed | removeFailed => exact left rfl
  | dropResolving | dropLoading | dropUndoing | dropUntended | dropStanding => exact left rfl
  | _ => exact hl

end Registry

end SlotBroker
