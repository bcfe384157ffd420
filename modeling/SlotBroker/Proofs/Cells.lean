import SlotBroker.Once

/-!
# The cells of a cache

A cell that has its value keeps it: standing in line and leaving change no value, and a cell is
filled only by the head of its line, while it is empty. A key keeps its cell until the cache is
cleared, no other key has that cell (`Apart`), and after that its next one is new. Until the cache
is cleared for the first time its index names every cell there is, each once (`Indexed`).
-/

namespace SlotBroker

namespace OnceMap

variable {κ ω α : Type} {m : OnceMap κ ω α} {w w' : ω} {c c' : Nat}

/-! ## Values -/

theorem valueAt?_modifyCell {f : Once ω α → Once ω α} (hf : ∀ x, (f x).value = x.value) :
    valueAt? c (m.modifyCell c' f) = valueAt? c m := by
  simp only [valueAt?, modifyCell, List.getElem?_modify]
  cases m.cells[c]? with
  | none => rfl
  | some x =>
    by_cases h : c' = c
    · simp [h, hf]
    · simp [h]

@[simp] theorem valueAt?_join [DecidableEq κ] (k : κ) :
    valueAt? c (m.join w k).1 = valueAt? c m := by
  unfold join
  split
  · refine valueAt?_modifyCell fun x => ?_
    unfold Once.join
    split <;> rfl
  · simp only [valueAt?, List.getElem?_append]
    split
    · rfl
    · rename_i h
      rw [List.getElem?_eq_none (Nat.le_of_not_lt h)]
      cases c - m.cells.length <;> rfl

@[simp] theorem valueAt?_leave [DecidableEq ω] : valueAt? c (m.leave w c') = valueAt? c m :=
  valueAt?_modifyCell fun _ => rfl

@[simp] theorem valueAt?_clear : valueAt? c m.clear = valueAt? c m := rfl

/-! ## Turns -/

section Turns

variable [DecidableEq ω]

theorem turn_compute_iff : m.turn w c = .compute ↔
    ∃ x, m.cells[c]? = some x ∧ x.value = none ∧ x.line.head? = some w := by
  unfold turn
  cases m.cells[c]? with
  | none => simp
  | some x =>
    simp only [Once.turn, Option.some.injEq, exists_eq_left']
    cases x.value with
    | none => simp
    | some a => simp

theorem turn_ready_iff {a : α} : m.turn w c = .ready a ↔ m.valueAt? c = some a := by
  unfold turn valueAt?
  cases m.cells[c]? with
  | none => simp
  | some x =>
    unfold Once.turn
    cases hv : x.value with
    | none => by_cases hl : x.line.head? = some w <;> simp [hv, hl]
    | some b => simp [hv]

theorem valueAt?_of_compute (h : m.turn w c = .compute) : m.valueAt? c = none := by
  obtain ⟨x, hx, hv, -⟩ := turn_compute_iff.1 h
  simp [valueAt?, hx, hv]

theorem valueAt?_fill {a : α} (h : m.turn w c' = .compute) :
    valueAt? c (m.fill c' a) = if c' = c then some a else valueAt? c m := by
  obtain ⟨x, hx, -, -⟩ := turn_compute_iff.1 h
  simp only [valueAt?, fill, modifyCell, List.getElem?_modify]
  split
  · rename_i hc
    subst hc
    simp [hx, Once.fill]
  · simp

theorem compute_unique (h : m.turn w c = .compute) (h' : m.turn w' c = .compute) : w = w' := by
  obtain ⟨x, hx, -, hw⟩ := turn_compute_iff.1 h
  obtain ⟨y, hy, -, hw'⟩ := turn_compute_iff.1 h'
  rw [hx, Option.some.injEq] at hy
  rw [hy, hw', Option.some.injEq] at hw
  exact hw.symm

theorem compute_join [DecidableEq κ] (k : κ) (h : m.turn w c = .compute) :
    (m.join w' k).1.turn w c = .compute := by
  obtain ⟨x, hx, hv, hl⟩ := turn_compute_iff.1 h
  rw [turn_compute_iff]
  unfold join
  split
  · rename_i cell _
    simp only [modifyCell, List.getElem?_modify, hx]
    by_cases hc : cell = c
    · refine ⟨Once.join w' x, by simp [hc], ?_, ?_⟩
      · simp [Once.join, hv]
      · simp [Once.join, hv, List.head?_append, hl]
    · exact ⟨x, by simp [hc], hv, hl⟩
  · refine ⟨x, ?_, hv, hl⟩
    rw [List.getElem?_append_left (List.getElem?_eq_some_iff.1 hx).1, hx]

theorem compute_leave (hw : w ≠ w') (h : m.turn w c = .compute) :
    (m.leave w' c').turn w c = .compute := by
  obtain ⟨x, hx, hv, hl⟩ := turn_compute_iff.1 h
  rw [turn_compute_iff]
  simp only [leave, modifyCell, List.getElem?_modify, hx]
  by_cases hc : c' = c
  · refine ⟨Once.leave w' x, by simp [hc], hv, ?_⟩
    cases hx' : x.line with
    | nil => simp [hx'] at hl
    | cons y ys =>
      rw [hx', List.head?_cons, Option.some.injEq] at hl
      subst hl
      simp only [Once.leave, hx']
      rw [List.erase_cons_tail (by simpa using hw)]
      rfl
  · exact ⟨x, by simp [hc], hv, hl⟩

theorem compute_fill {a : α} (hc : c' ≠ c) (h : m.turn w c = .compute) :
    (m.fill c' a).turn w c = .compute := by
  obtain ⟨x, hx, hv, hl⟩ := turn_compute_iff.1 h
  rw [turn_compute_iff]
  exact ⟨x, by simp [fill, modifyCell, hx, hc], hv, hl⟩

end Turns

/-! ## The cell of a key -/

theorem length_modifyCell {f : Once ω α → Once ω α} :
    (m.modifyCell c f).cells.length = m.cells.length := by
  simp [modifyCell]

theorem cellOf?_join [DecidableEq κ] (k k' : κ) :
    (m.join w k).1.cellOf? k' = if k = k' then some (m.join w k).2 else m.cellOf? k' := by
  unfold join
  split
  · rename_i cell hk
    split
    · rename_i h
      rw [← h, ← hk]
      rfl
    · rfl
  · simp only [cellOf?]
    split
    · rename_i h
      rw [h, Assoc.get?_put_self]
    · rename_i h
      exact Assoc.get?_put_of_ne h _ _

theorem join_of_some [DecidableEq κ] {k : κ} (h : m.cellOf? k = some c) :
    (m.join w k).2 = c ∧ (m.join w k).1.cells.length = m.cells.length := by
  simp [join, h, length_modifyCell]

theorem join_of_none [DecidableEq κ] {k : κ} (h : m.cellOf? k = none) :
    (m.join w k).2 = m.cells.length ∧ (m.join w k).1.cells.length = m.cells.length + 1 := by
  simp [join, h]

theorem length_le_join [DecidableEq κ] (k : κ) :
    m.cells.length ≤ (m.join w k).1.cells.length := by
  cases h : m.cellOf? k with
  | none => simp [join_of_none h]
  | some c => simp [join_of_some h]

/-- The cell of a key is one of those there are, and no other key has it. -/
structure Apart [DecidableEq κ] (m : OnceMap κ ω α) : Prop where
  lt : ∀ {k c}, m.cellOf? k = some c → c < m.cells.length
  inj : ∀ {k k' c}, m.cellOf? k = some c → m.cellOf? k' = some c → k = k'

theorem Apart.modifyCell [DecidableEq κ] {f : Once ω α → Once ω α} (h : Apart m) :
    Apart (m.modifyCell c f) where
  lt hk := by
    rw [length_modifyCell]
    exact h.lt hk
  inj := h.inj

theorem Apart.clear [DecidableEq κ] : Apart m.clear where
  lt hk := by cases hk
  inj hk := by cases hk

theorem apart_empty [DecidableEq κ] : Apart (empty : OnceMap κ ω α) where
  lt hk := by cases hk
  inj hk := by cases hk

theorem Apart.join [DecidableEq κ] (h : Apart m) (k : κ) : Apart (m.join w k).1 := by
  cases hk : m.cellOf? k with
  | some c =>
    obtain ⟨hc, hl⟩ := join_of_some (w := w) hk
    have same (k') : (m.join w k).1.cellOf? k' = m.cellOf? k' := by
      rw [cellOf?_join, hc]
      split
      · rename_i h
        rw [← h, hk]
      · rfl
    refine ⟨fun hk' => ?_, fun hk' hk'' => ?_⟩
    · rw [same] at hk'
      exact hl ▸ h.lt hk'
    · rw [same] at hk' hk''
      exact h.inj hk' hk''
  | none =>
    obtain ⟨hc, hl⟩ := join_of_none (w := w) hk
    -- The new cell comes after all there were.
    have new {k' c'} (hk' : (m.join w k).1.cellOf? k' = some c') :
        k = k' ∧ c' = m.cells.length ∨ m.cellOf? k' = some c' ∧ c' < m.cells.length := by
      rw [cellOf?_join, hc] at hk'
      split at hk'
      · cases hk'
        exact .inl ⟨‹_›, rfl⟩
      · exact .inr ⟨hk', h.lt hk'⟩
    refine ⟨fun hk' => ?_, fun hk' hk'' => ?_⟩
    · rcases new hk' with ⟨-, rfl⟩ | ⟨-, hlt⟩ <;> omega
    · rcases new hk' with ⟨rfl, hc'⟩ | ⟨hk', hlt⟩ <;>
        rcases new hk'' with ⟨rfl, hc''⟩ | ⟨hk'', hlt'⟩
      · rfl
      · omega
      · omega
      · exact h.inj hk' hk''

/-! ## The index -/

/-- The index names every cell there is, each once. -/
def Indexed (m : OnceMap κ ω α) : Prop :=
  (m.index.map Prod.snd).Perm (List.range m.cells.length)

theorem put_of_absent [DecidableEq κ] {k : κ} {n : Nat} {xs : Assoc κ Nat}
    (h : Assoc.get? k xs = none) : Assoc.put k n xs = xs ++ [(k, n)] := by
  induction xs with
  | nil => rfl
  | cons p xs ih =>
    obtain ⟨k', n'⟩ := p
    simp only [Assoc.get?] at h
    split at h
    · cases h
    · rename_i hk
      simp [Assoc.put, hk, ih h]

theorem Indexed.join [DecidableEq κ] (h : Indexed m) (k : κ) : Indexed (m.join w k).1 := by
  unfold OnceMap.join
  split
  · simpa [Indexed, modifyCell] using h
  · rename_i hk
    simp only [Indexed] at h ⊢
    rw [put_of_absent hk, List.map_append, List.length_append, List.length_singleton,
      List.range_succ]
    exact h.append_right _

theorem Indexed.modifyCell {f : Once ω α → Once ω α} (h : Indexed m) :
    Indexed (m.modifyCell c f) := by
  simpa [Indexed, OnceMap.modifyCell] using h

theorem indexed_empty : Indexed (empty : OnceMap κ ω α) := .nil

end OnceMap

end SlotBroker
