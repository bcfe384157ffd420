import SlotBroker.Proofs.Cells

/-!
# The lines of the cells of a cache

Who stands in the line of a cell after each change of the cache. Whoever comes stands at the end of
the line of one cell, if that cell has no value yet; filling a cell ends its line; and the head of
the line of a cell without a value is the one to compute it.
-/

namespace SlotBroker.OnceMap

variable {κ ω α : Type} {m : OnceMap κ ω α} {w : ω} {c c' : Nat}

/-- The line of a cell. -/
def lineAt (c : Nat) (m : OnceMap κ ω α) : List ω := m.cells[c]?.elim [] Once.line

theorem lineAt_modifyCell {f : Once ω α → Once ω α} (hc : c' ≠ c) :
    lineAt c (m.modifyCell c' f) = lineAt c m := by
  simp [lineAt, modifyCell, hc]

theorem lineAt_fill {a : α} : lineAt c (m.fill c' a) = if c' = c then [] else lineAt c m := by
  split
  · rename_i hc
    subst hc
    simp only [lineAt, fill, modifyCell, List.getElem?_modify, if_true]
    cases m.cells[c']? <;> rfl
  · rename_i hc
    exact lineAt_modifyCell hc

theorem lineAt_join [DecidableEq κ] (h : Apart m) (k : κ) : lineAt c (m.join w k).1 =
    if (m.join w k).2 = c ∧ m.valueAt? c = none then lineAt c m ++ [w] else lineAt c m := by
  unfold join
  split
  · rename_i cell hk
    by_cases hc : cell = c
    · subst hc
      obtain ⟨x, hx⟩ : ∃ x, m.cells[cell]? = some x := ⟨_, List.getElem?_eq_getElem (h.lt hk)⟩
      simp only [lineAt, valueAt?, modifyCell, List.getElem?_modify, hx, if_true, true_and,
        Option.map_eq_map, Option.map_some, Option.elim_some, Option.bind_some, Once.join]
      cases x.value <;> rfl
    · rw [lineAt_modifyCell hc, if_neg fun h => hc h.1]
  · rcases Nat.lt_trichotomy c m.cells.length with hlt | rfl | hgt
    · rw [if_neg fun h => absurd h.1 (Nat.ne_of_gt hlt)]
      simp [lineAt, List.getElem?_append_left hlt]
    · simp [lineAt, valueAt?, Once.join, Once.empty]
    · rw [if_neg fun h => absurd h.1 (Nat.ne_of_lt hgt)]
      simp only [lineAt]
      rw [List.getElem?_eq_none (by simp; omega), List.getElem?_eq_none (by omega)]

section Turns

variable [DecidableEq ω]

theorem lineAt_leave : lineAt c (m.leave w c') =
    if c' = c then (lineAt c m).erase w else lineAt c m := by
  split
  · rename_i hc
    subst hc
    simp only [lineAt, leave, modifyCell, List.getElem?_modify, if_true]
    cases m.cells[c']? <;> rfl
  · rename_i hc
    exact lineAt_modifyCell hc

theorem turn_compute_iff_head :
    m.turn w c = .compute ↔ m.valueAt? c = none ∧ (m.lineAt c).head? = some w := by
  rw [turn_compute_iff]
  cases hx : m.cells[c]? with
  | none => simp [lineAt, hx]
  | some x => simp [lineAt, valueAt?, hx]

end Turns

end SlotBroker.OnceMap
