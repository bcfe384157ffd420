import Mathlib.Data.List.DropRight
import SlotBroker.Text.Blank

/-!
# Trimmed lines

Trimming what is trimmed changes nothing (`trim_trim`), and a blank at the end of a text is lost in
trimming (`trim_concat`). So the carriage return that a line may end with does not matter to a line
that is trimmed, and neither do the blanks that a text ends with matter to its trimmed lines: they
make its last line longer, or add lines that are blank (`contents_trimEnd`).
-/

namespace SlotBroker.Text

/-! ## Trimming -/

theorem trim_nil : trim [] = [] := rfl

theorem trimEnd_eq (cs : List Char) : trimEnd cs = cs.rdropWhile isBlank := rfl

theorem trimEnd_trimEnd (cs : List Char) : trimEnd (trimEnd cs) = trimEnd cs := by
  rw [trimEnd_eq, trimEnd_eq, List.rdropWhile_idempotent]

theorem trimStart_trim (cs : List Char) : trimStart (trim cs) = trim cs := by
  unfold trimStart
  rw [List.dropWhile_eq_self_iff]
  intro hl hb
  -- The trimmed text begins as the text that was trimmed at its start only.
  obtain ⟨rest, hr⟩ : trim cs <+: trimStart cs := List.rdropWhile_prefix _ _
  have hs : 0 < (trimStart cs).length := by
    rw [← hr, List.length_append]
    omega
  have hh : (trimStart cs)[0] = (trim cs)[0] := by
    simp only [← hr, List.getElem_append_left hl]
  have hself : (trimStart cs).dropWhile isBlank = trimStart cs := List.dropWhile_idempotent _ _
  rw [List.dropWhile_eq_self_iff] at hself
  exact hself hs (hh ▸ hb)

@[simp] theorem trim_trim (cs : List Char) : trim (trim cs) = trim cs := by
  conv_lhs => rw [trim, trimStart_trim]
  rw [trim, trimEnd_trimEnd]

theorem trim_concat (cs : List Char) {c : Char} (hc : isBlank c = true) :
    trim (cs ++ [c]) = trim cs := by
  have hs : trimStart (cs ++ [c]) = trimStart cs ++ [c] ∨
      trimStart cs = [] ∧ trimStart (cs ++ [c]) = [] := by
    unfold trimStart
    rw [List.dropWhile_append]
    split
    · rename_i h
      exact .inr ⟨List.isEmpty_iff.1 h, by simp [hc]⟩
    · exact .inl rfl
  unfold trim
  rcases hs with hs | ⟨hn, hs⟩
  · rw [hs, trimEnd_eq, trimEnd_eq, List.rdropWhile_concat_pos _ _ _ hc]
  · rw [hs, hn]

theorem trim_eq_nil_iff {cs : List Char} : trim cs = [] ↔ ∀ c ∈ cs, isBlank c = true := by
  unfold trim
  rw [trimEnd_eq, List.rdropWhile_eq_nil_iff]
  constructor
  · intro h c hc
    rw [← List.takeWhile_append_dropWhile (p := isBlank) (l := cs), List.mem_append] at hc
    rcases hc with hc | hc
    · exact List.mem_takeWhile_imp hc
    · exact h c hc
  · exact fun h c hc => h c (List.dropWhile_subset _ hc)

/-- A text that begins and ends with no blank is trimmed. -/
theorem trim_eq_self {cs : List Char} (hh : ∀ c ∈ cs.head?, isBlank c = false)
    (hl : ∀ c ∈ cs.getLast?, isBlank c = false) : trim cs = cs := by
  have hs : trimStart cs = cs := by
    rcases cs with _ | ⟨c, cs⟩
    · rfl
    · exact List.dropWhile_cons_of_neg (by simp [hh c rfl])
  rw [trim, hs, trimEnd_eq, List.rdropWhile_eq_self_iff]
  intro hne
  simp [hl _ (List.getLast?_eq_some_getLast hne)]

/-- A trimmed text ends with no blank. -/
theorem not_blank_of_getLast? {cs : List Char} {c : Char} (h : (trim cs).getLast? = some c) :
    isBlank c = false := by
  have hn : (trimStart cs).rdropWhile isBlank ≠ [] := by
    intro hn
    rw [trim, trimEnd_eq, hn] at h
    cases h
  have hlast := List.rdropWhile_last_not isBlank _ hn
  rw [trim, trimEnd_eq, List.getLast?_eq_some_getLast hn] at h
  cases h
  simpa using hlast

theorem trim_of_not_blank {cs : List Char} (h : ∀ c ∈ cs, isBlank c = false) : trim cs = cs :=
  trim_eq_self (fun c hc => h c (List.mem_of_mem_head? hc))
    fun c hc => h c (List.mem_of_getLast? hc)

theorem isAllBlank_iff {cs : List Char} : isAllBlank cs = true ↔ trim cs = [] := by
  rw [isAllBlank, List.all_eq_true, trim_eq_nil_iff]

/-! ## Lines -/

theorem splitLines_cons {c : Char} {cs l : List Char} {ls : List (List Char)} (hc : c ≠ '\n')
    (h : splitLines cs = l :: ls) : splitLines (c :: cs) = (c :: l) :: ls := by
  rw [splitLines, h]
  exact hc

theorem splitLines_eq_splitOn (cs : List Char) : splitLines cs = cs.splitOn '\n' := by
  induction cs with
  | nil => rfl
  | cons c cs ih =>
    rw [List.splitOn_cons_eq_if_modifyHead, ← ih]
    by_cases hc : c = '\n'
    · rw [hc]
      rfl
    · obtain ⟨l, ls, hl⟩ := List.exists_cons_of_ne_nil (ih ▸ List.splitOn_ne_nil '\n' cs)
      rw [if_neg (by simpa using hc), splitLines_cons hc hl, hl, List.modifyHead_cons]

/-- A character at the end of a text goes to its last line, or begins one. -/
theorem splitLines_concat (cs : List Char) (c : Char) :
    ∃ ls l, splitLines cs = ls ++ [l] ∧
      splitLines (cs ++ [c]) = ls ++ if c = '\n' then [l, []] else [l ++ [c]] := by
  induction cs with
  | nil =>
    refine ⟨[], [], rfl, ?_⟩
    by_cases hc : c = '\n' <;> simp [splitLines, hc]
  | cons d cs ih =>
    obtain ⟨ls, l, hl, hs⟩ := ih
    by_cases hd : d = '\n'
    · refine ⟨[] :: ls, l, ?_, ?_⟩
      · rw [hd, splitLines, hl, List.cons_append]
      · rw [hd, List.cons_append, splitLines, hs, List.cons_append]
    · rcases ls with _ | ⟨l₀, ls⟩
      · refine ⟨[], d :: l, splitLines_cons hd hl, ?_⟩
        by_cases hc : c = '\n'
        · rw [if_pos hc] at hs ⊢
          exact splitLines_cons hd hs
        · rw [if_neg hc] at hs ⊢
          exact splitLines_cons hd hs
      · exact ⟨(d :: l₀) :: ls, l, splitLines_cons hd hl, splitLines_cons hd hs⟩

theorem trim_dropReturn (l : List Char) : trim (dropReturn l) = trim l := by
  unfold dropReturn
  split
  · rename_i h
    obtain ⟨l, rfl⟩ := List.getLast?_eq_some_iff.1 h
    rw [List.dropLast_concat, trim_concat l (by decide)]
  · rfl

/-- The pieces of a text between its line feeds, each without a carriage return at its end. -/
def printed (cs : List Char) : List (List Char) := (cs.splitOn '\n').map dropReturn

/-- What is printed on the lines of a text, trimmed and without the lines that are blank. -/
def contents (cs : List Char) : List (List Char) := ((printed cs).map trim).filter (· ≠ [])

theorem map_dropReturn_trim (ls : List (List Char)) :
    (ls.map dropReturn).map trim = ls.map trim := by
  simp [trim_dropReturn]

theorem contents_eq (cs : List Char) :
    contents cs = ((splitLines cs).map trim).filter (· ≠ []) := by
  rw [contents, printed, map_dropReturn_trim, splitLines_eq_splitOn]

theorem map_trim_lines (cs : List Char) : ((lines cs).map trim).filter (· ≠ []) = contents cs := by
  obtain ⟨ls, l, hl, -⟩ := splitLines_concat cs '\n'
  rw [contents_eq, lines, hl]
  simp only [List.dropLast_concat, List.getLast?_concat]
  rcases l with _ | ⟨c, l⟩
  · rw [map_dropReturn_trim, List.map_append, List.filter_append]
    simp [trim_nil]
  · rw [List.map_append, map_dropReturn_trim, List.map_append]

theorem contents_concat (cs : List Char) {c : Char} (hc : isBlank c = true) :
    contents (cs ++ [c]) = contents cs := by
  obtain ⟨ls, l, hl, hs⟩ := splitLines_concat cs c
  rw [contents_eq, contents_eq, hs, hl, List.map_append, List.map_append, List.filter_append,
    List.filter_append]
  congr 1
  split
  · by_cases ht : trim l = [] <;> simp [ht, trim_nil]
  · simp [trim_concat l hc]

theorem mem_contents {cs l : List Char} :
    l ∈ contents cs ↔ (∃ line ∈ printed cs, trim line = l) ∧ l ≠ [] := by
  simp [contents]

theorem contents_trimEnd (cs : List Char) : contents (trimEnd cs) = contents cs := by
  induction cs using List.reverseRecOn with
  | nil => rfl
  | append_singleton cs c ih =>
    by_cases hc : isBlank c = true
    · rw [trimEnd_eq, List.rdropWhile_concat_pos _ _ _ hc, ← trimEnd_eq, ih, contents_concat cs hc]
    · rw [trimEnd_eq, List.rdropWhile_concat_neg _ _ _ hc]

/-- A text without blanks is all that its only line holds. -/
theorem contents_of_not_blank {cs : List Char} (hn : cs ≠ [])
    (hb : ∀ c ∈ cs, isBlank c = false) : contents cs = [cs] := by
  have hl : cs.splitOn '\n' = [cs] := by
    refine List.splitOnP_eq_singleton fun c hc => ?_
    rw [beq_eq_false_iff_ne]
    rintro rfl
    exact absurd (hb _ hc) (by decide)
  rw [contents_eq, splitLines_eq_splitOn, hl]
  simp [trim_of_not_blank hb, hn]

end SlotBroker.Text
