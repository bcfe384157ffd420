import SlotBroker.Proofs.Backend.Homes

/-!
# What becomes of a loaded backend

A backend is in one cell for good. Until the table gives its cells away the cell is in the index,
and then it is among those that a call goes through to unload them, one after another. So a backend
is in the table, or was told to unload, or is still to be told so (`Tracked`), if its load succeeded
before its cell was passed by (`accounted`).
-/

namespace SlotBroker.TableRun

/-- The backends that a call which unloads has still to come to. -/
def due (id : CallId) (r : TableRun) : List InstanceId :=
  match r.stage? id with
  | some (.unloading _ cells _) => cells.filterMap fun c => r.table.loads.valueAt? c
  | _ => []

/-- A backend is told to unload. -/
def Stops (b : InstanceId) (r : TableRun) (e : TableEvent) : Prop :=
  ∃ id, .unload id b ∈ (r.step e).2

/-- A call that unloads is given up. -/
def Deserts (r : TableRun) (e : TableEvent) : Prop :=
  ∃ id b cells errors, e = .drop id ∧ r.stage? id = some (.unloading b cells errors)

/-- A cell is in the index, or a call is still to come to it and to unload what is in it. -/
def Tracked (c : Nat) (r : TableRun) : Prop :=
  (∃ name, r.table.loads.cellOf? name = some c) ∨
    ∃ id b cells errors, r.stage? id = some (.unloading b cells errors) ∧ c ∈ cells

/-- A cell that was given away. -/
def Taken (c : Nat) (r : TableRun) : Prop :=
  c < r.table.loads.cells.length ∧ ∀ name, r.table.loads.cellOf? name ≠ some c

/-- No two cells have one backend, and every backend was counted when it was loaded. -/
structure Numbered (r : TableRun) : Prop where
  known : ∀ {c b}, r.table.loads.valueAt? c = some b → b < r.table.loadCount
  distinct : ∀ {c c' b}, r.table.loads.valueAt? c = some b →
    r.table.loads.valueAt? c' = some b → c = c'

variable {r r' : TableRun} {es : List TableEvent} {e : TableEvent} {fx : List TableEffect}
  {id i : CallId} {name name' : BackendName} {c c' m n : Nat} {b b' : InstanceId}
  {cells rest : List Nat} {errors : List BackendError} {order : Arrangement Nat}
  {fallback : Option FactoryId}

/-! ## The numbers of the backends -/

theorem Move.loadCount (hm : Move r e r' fx) : r.table.loadCount ≤ r'.table.loadCount ∧
    ∀ name c b, Fills name c b r e → b < r'.table.loadCount := by
  have hsame (ht : r'.table.loadCount = r.table.loadCount) (hf : ∀ name c b, ¬ Fills name c b r e) :
      r.table.loadCount ≤ r'.table.loadCount ∧
        ∀ name c b, Fills name c b r e → b < r'.table.loadCount :=
    ⟨Nat.le_of_eq ht.symm, fun name c b h => absurd h (hf name c b)⟩
  cases hm with
  | fills hs =>
    refine ⟨Nat.le_succ _, ?_⟩
    rintro name c b ⟨_, -, -, rfl⟩
    exact Nat.lt_succ_self _
  | idle hi =>
    refine hsame rfl ?_
    rintro name c b ⟨id, rfl, hs, -⟩
    exact hi name c hs
  | takes hu =>
    have ht := congrArg BackendTable.loadCount hu.table.1
    exact hsame ht (by simp [Fills])
  | unloaded _ hu | unloadFailed _ hu =>
    exact hsame (congrArg BackendTable.loadCount hu.table.1) (by simp [Fills])
  | _ => exact hsame rfl (by simp [Fills])

theorem Numbered.move (h : Numbered r) (hq : Seated r) (hm : Move r e r' fx) : Numbered r' := by
  obtain ⟨hle, hnew⟩ := hm.loadCount
  refine ⟨fun hb => ?_, fun {c c' b} hb hb' => ?_⟩
  · rcases (hq.valueAt?_move hm).1 hb with hb | ⟨name, hf⟩
    · exact Nat.lt_of_lt_of_le (h.known hb) hle
    · exact hnew name _ _ hf
  · rcases (hq.valueAt?_move hm).1 hb with hb | ⟨name, id, he, hs, hcount⟩ <;>
      rcases (hq.valueAt?_move hm).1 hb' with hb' | ⟨name', id', he', hs', hcount'⟩
    · exact h.distinct hb hb'
    · exact absurd (hcount' ▸ h.known hb) (Nat.lt_irrefl _)
    · exact absurd (hcount ▸ h.known hb') (Nat.lt_irrefl _)
    · rw [he] at he'
      cases he'
      rw [hs] at hs'
      cases hs'
      rfl

theorem numbered_moment (order : Arrangement Nat) (fallback : Option FactoryId)
    (es : List TableEvent) (n : Nat) :
    Numbered ((unused order fallback).moment es n) := by
  have hboth : Seated ((unused order fallback).moment es n) ∧
      Numbered ((unused order fallback).moment es n) := by
    refine moment_induction (Q := fun r => Seated r ∧ Numbered r) ?_ (fun h hm => ?_) es n
    · refine ⟨seated_new order fallback, ⟨fun hb => ?_, fun hb => ?_⟩⟩ <;> cases hb
    · exact ⟨h.1.move hm, h.2.move h.1 hm⟩
  exact hboth.2

/-! ## One backend after another -/

/-- A backend in one of the cells that are left is the next to be unloaded, or comes later. -/
theorem mem_nextLoaded {t : BackendTable} (hc : c ∈ cells) (hv : t.loads.valueAt? c = some b) :
    ∃ b' rest, t.nextLoaded cells = some (b', rest) ∧ (b' = b ∨ c ∈ rest) := by
  induction cells with
  | nil => cases hc
  | cons c' cs ih =>
    simp only [BackendTable.nextLoaded]
    cases hv' : t.loads.valueAt? c' with
    | some b' =>
      refine ⟨b', cs, rfl, ?_⟩
      rcases List.mem_cons.1 hc with rfl | hc
      · rw [hv] at hv'
        exact .inl (Option.some.inj hv').symm
      · exact .inr hc
    | none =>
      rcases List.mem_cons.1 hc with rfl | hc
      · rw [hv] at hv'
        cases hv'
      · exact ih hc

theorem nextLoaded_subset {t : BackendTable} (h : t.nextLoaded cells = some (b, rest)) :
    rest ⊆ cells ∧ ∃ c ∈ cells, t.loads.valueAt? c = some b := by
  induction cells with
  | nil => cases h
  | cons c cs ih =>
    simp only [BackendTable.nextLoaded] at h
    split at h
    · rename_i hv
      cases h
      exact ⟨List.subset_cons_self _ _, c, List.mem_cons_self, hv⟩
    · obtain ⟨hsub, c', hc', hv⟩ := ih h
      exact ⟨List.subset_cons_of_subset _ hsub, c', List.mem_cons_of_mem _ hc', hv⟩

/-- What becomes of the cells that a call unloads. -/
theorem Unloads.tracked (h : Unloads r id errors cells r' fx) (hc : c ∈ cells)
    (hv : r.table.loads.valueAt? c = some b) : (∃ b cells errors,
      r'.stage? id = some (.unloading b cells errors) ∧ c ∈ cells) ∨ .unload id b ∈ fx := by
  obtain ⟨b', rest, hn, hb⟩ := mem_nextLoaded hc hv
  cases h with
  | next hn' =>
    rw [hn] at hn'
    cases hn'
    rcases hb with rfl | hrest
    · exact .inr List.mem_cons_self
    · exact .inl ⟨b', rest, errors, by simp, hrest⟩
  | ends hn' =>
    rw [hn] at hn'
    cases hn'

/-- What a step does to the calls that unload. -/
inductive Clearing (r : TableRun) (e : TableEvent) (r' : TableRun) (fx : List TableEffect) : Prop
  | keeps (he : e ≠ .start .unloadAll)
      (hs : ∀ id b cells errors, r'.stage? id = some (.unloading b cells errors) ↔
        r.stage? id = some (.unloading b cells errors))
      (hfx : ∀ id b, .unload id b ∉ fx)
  | takes (he : e = .start .unloadAll)
      (hu : Unloads { r with nextCall := r.nextCall + 1, table := r.table.takeAll.1 } r.nextCall []
        r.table.takeAll.2 r' fx)
  | goes {id b cells errors errors'} (he : e ≠ .start .unloadAll)
      (hs : r.stage? id = some (.unloading b cells errors))
      (hu : Unloads r id errors' cells r' fx)
  | deserts (h : Deserts r e)
      (hs : ∀ id b cells errors, r'.stage? id = some (.unloading b cells errors) →
        r.stage? id = some (.unloading b cells errors))
      (hfx : ∀ id b, .unload id b ∉ fx)

theorem Clearing.ended {s : TableStage} (he : e ≠ .start .unloadAll)
    (ht : ∀ j, r'.stage? j = if id = j then none else r.stage? j) (hs : r.stage? id = some s)
    (hseat : s.seat? = some (name, c)) (hfx : ∀ id b, .unload id b ∉ fx) : Clearing r e r' fx := by
  refine .keeps he (fun j b cells errors => ?_) hfx
  rw [ht]
  split
  · rename_i hj
    subst hj
    rw [hs]
    refine ⟨fun h => (nomatch h), fun h => ?_⟩
    cases h
    cases hseat
  · rfl

theorem Queued.clearing (h : Queued r) (hm : Move r e r' fx) : Clearing r e r' fx := by
  cases hm with
  | idle hi =>
    refine .keeps ?_ (fun _ _ _ _ => Iff.rfl) (by simp)
    rintro rfl
    exact hi
  | registers => exact .keeps (by simp) (fun _ _ _ _ => Iff.rfl) (by simp)
  | asks =>
    refine .keeps (by simp) (fun id b cells errors => ?_) (by simp)
    rw [stage?_asked]
    split
    · rename_i hid
      rw [← hid, h.not_made]
      simp
    · rfl
  | takes hu => exact .takes rfl hu
  | begins hs =>
    refine .keeps (by simp) (fun id b cells errors => ?_) (by simp)
    rw [stage?_setStage]
    split
    · rename_i hid
      rw [← hid, hs]
      simp
    · rfl
  | reads hs => exact .ended (by simp) (fun j => stage?_endCall _ j r) hs rfl (by simp)
  | unserved hs | fails hs => exact .ended (by simp) (fun j => stage?_left _ j _) hs rfl (by simp)
  | fills hs => exact .ended (by simp) (fun j => stage?_filled _ j _) hs rfl (by simp)
  | leaves hs ht => exact .ended (by simp) (fun j => stage?_left _ j _) hs ht (by simp)
  | unloaded hs hu => exact .goes (by simp) hs hu
  | unloadFailed hs hu => exact .goes (by simp) hs hu
  | @givesUp id _ _ _ hs =>
    refine .deserts ⟨_, _, _, _, rfl, hs⟩ (fun j b cells errors hj => ?_) (by simp)
    rw [stage?_endCall] at hj
    split at hj
    · cases hj
    · exact hj

/-! ## Cells that were given away -/

theorem Move.length_cells (hm : Move r e r' fx) :
    r.table.loads.cells.length ≤ r'.table.loads.cells.length := by
  cases hm with
  | asks => exact OnceMap.length_le_join _
  | fills | unserved | fails | leaves => exact Nat.le_of_eq OnceMap.length_modifyCell.symm
  | takes hu | unloaded _ hu | unloadFailed _ hu =>
    have hl := congrArg (fun loads => loads.cells.length) hu.loads
    exact Nat.le_of_eq hl.symm
  | _ => exact Nat.le_refl _

/-- A cell that was given away does not come back. -/
theorem Taken.move (h : Taken c r) (hm : Move r e r' fx) : Taken c r' := by
  refine ⟨Nat.lt_of_lt_of_le h.1 hm.length_cells, fun name hc => ?_⟩
  rcases cellOf?_before hm hc with hc | rfl
  · exact h.2 name hc
  · exact Nat.lt_irrefl _ h.1

theorem Seated.taken_of_takes (h : Seated r) {r₁ : TableRun}
    (hl : r₁.table.loads = r.table.loads.clear) (hu : Unloads r₁ id errors cells r' fx)
    (hc : c ∈ r.table.takeAll.2) : Taken c r' := by
  obtain ⟨⟨name, _⟩, hp, rfl⟩ := List.mem_map.1 (BackendTable.mem_takeAll.1 hc)
  have hlt := h.filed.lt (h.filed.mem_index.1 hp)
  refine ⟨?_, fun name hk => ?_⟩
  · rw [hu.loads, hl]
    exact hlt
  · rw [hu.loads, hl] at hk
    cases hk

theorem Unloads.subset {b' : InstanceId} {cells' : List Nat} {errors' : List BackendError}
    (h : Unloads r id errors cells r' fx)
    (hs : r'.stage? id = some (.unloading b' cells' errors')) : cells' ⊆ cells := by
  cases h with
  | next hn =>
    simp only [stage?_setStage, if_true] at hs
    cases hs
    exact (nextLoaded_subset hn).1
  | ends => simp at hs

theorem Unloads.stops (h : Unloads r id errors cells r' fx) (hb : .unload i b ∈ fx) :
    ∃ c ∈ cells, r.table.loads.valueAt? c = some b := by
  cases h with
  | next hn =>
    simp only [List.mem_singleton, TableEffect.unload.injEq] at hb
    obtain ⟨-, rfl⟩ := hb
    exact (nextLoaded_subset hn).2
  | ends => simp at hb

/-- The cells that are still to be come to were given away. -/
def Withdrawn (r : TableRun) : Prop :=
  ∀ id b cells errors c, r.stage? id = some (.unloading b cells errors) → c ∈ cells → Taken c r

theorem Withdrawn.move (h : Withdrawn r) (hq : Seated r) (hm : Move r e r' fx) : Withdrawn r' := by
  intro i b cells errors c hs hc
  cases hq.toQueued.clearing hm with
  | keeps _ hsame => exact (h i b cells errors c ((hsame i b cells errors).1 hs) hc).move hm
  | takes _ hu =>
    by_cases hi : i = r.nextCall
    · subst hi
      exact hq.taken_of_takes rfl hu (hu.subset hs hc)
    · rw [hu.stage? hi] at hs
      exact (h i b cells errors c hs hc).move hm
  | @goes id b₀ cells₀ errors₀ errors' _ hs₀ hu =>
    by_cases hi : i = id
    · subst hi
      exact (h i b₀ cells₀ errors₀ c hs₀ (hu.subset hs hc)).move hm
    · rw [hu.stage? hi] at hs
      exact (h i b cells errors c hs hc).move hm
  | deserts _ hback => exact (h i b cells errors c (hback i b cells errors hs) hc).move hm

/-- The cell of a backend that is told to unload was given away. -/
theorem Withdrawn.stops (h : Withdrawn r) (hq : Seated r) (hm : Move r e r' fx)
    (hb : .unload id b ∈ fx) : ∃ c, r.table.loads.valueAt? c = some b ∧ Taken c r' := by
  cases hq.toQueued.clearing hm with
  | keeps _ _ hfx => exact absurd hb (hfx id b)
  | takes _ hu =>
    obtain ⟨c, hc, hv⟩ := hu.stops hb
    exact ⟨c, hv, hq.taken_of_takes rfl hu hc⟩
  | @goes i b₀ cells₀ errors₀ errors' _ hs₀ hu =>
    obtain ⟨c, hc, hv⟩ := hu.stops hb
    exact ⟨c, hv, (h i b₀ cells₀ errors₀ c hs₀ hc).move hm⟩
  | deserts _ _ hfx => exact absurd hb (hfx id b)

/-! ## Backends that are tracked -/

/-- A backend is tracked until it is told to unload. -/
theorem Tracked.move (h : Tracked c r) (hq : Seated r) (hm : Move r e r' fx)
    (hd : ¬ Deserts r e) (hv : r.table.loads.valueAt? c = some b) :
    Tracked c r' ∨ ∃ id, .unload id b ∈ fx := by
  have hgoes {id r₁ errors cells} (hu : Unloads r₁ id errors cells r' fx) (hc : c ∈ cells)
      (hv : r₁.table.loads.valueAt? c = some b) : Tracked c r' ∨ ∃ id, .unload id b ∈ fx := by
    rcases hu.tracked hc hv with hs | hb
    · exact .inl (.inr ⟨_, hs⟩)
    · exact .inr ⟨_, hb⟩
  cases hq.toQueued.clearing hm with
  | keeps he hs =>
    rcases h with ⟨name, hc⟩ | ⟨i, b', cells, errors, hi, hc⟩
    · exact .inl (.inl ⟨name, cellOf?_move hm he hc⟩)
    · exact .inl (.inr ⟨i, b', cells, errors, (hs i b' cells errors).2 hi, hc⟩)
  | takes _ hu =>
    rcases h with ⟨name, hc⟩ | ⟨i, b', cells, errors, hi, hc⟩
    · exact hgoes hu (BackendTable.mem_takeAll.2
        (List.mem_map_of_mem (f := Prod.snd) (hq.filed.mem_index.2 hc))) hv
    · refine .inl (.inr ⟨i, b', cells, errors, ?_, hc⟩)
      rw [hu.stage? (Nat.ne_of_lt (hq.fresh hi))]
      exact hi
  | @goes id _ _ _ _ he hs hu =>
    rcases h with ⟨name, hc⟩ | ⟨i, b', cells, errors, hi, hc⟩
    · exact .inl (.inl ⟨name, cellOf?_move hm he hc⟩)
    · by_cases hid : i = id
      · subst hid
        rw [hs] at hi
        cases hi
        exact hgoes hu hc hv
      · refine .inl (.inr ⟨i, b', cells, errors, ?_, hc⟩)
        rw [hu.stage? hid, hi]
  | deserts hde => exact absurd hde hd

end SlotBroker.TableRun
