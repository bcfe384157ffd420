import SlotBroker.Net.DomainName

/-!
# Names in ASCII

What is known of how domain names are written in ASCII can be had without any table, if names in
other characters are given up: `DomainNames.plainOnly` writes plain names in small letters and no
others, and it is lawful (`lawful_plainOnly`).
-/

namespace SlotBroker.Net

variable {c : Char} {name ascii : List Char}

/-! ## Characters -/

theorem isAlphanum_iff : c.isAlphanum = true ↔
    (65 ≤ c.toNat ∧ c.toNat ≤ 90 ∨ 97 ≤ c.toNat ∧ c.toNat ≤ 122) ∨ 48 ≤ c.toNat ∧ c.toNat ≤ 57 := by
  change ((decide (65 ≤ c.val ∧ c.val ≤ 90) || (decide (97 ≤ c.val) && decide (c.val ≤ 122))) ||
    (decide (48 ≤ c.val) && decide (c.val ≤ 57))) = true ↔ _
  simp only [Bool.or_eq_true, Bool.and_eq_true, decide_eq_true_eq]
  rfl

/-- A claim about every character of a text that can be checked going through them. -/
theorem forall_mem_of_all {l : List Char} {P : Char → Prop} [DecidablePred P]
    (h : (l.all fun c => decide (P c)) = true) : ∀ c ∈ l, P c := by
  simpa only [List.all_eq_true, decide_eq_true_eq] using h

theorem of_mem_intercalate {sep : List Char} {ls : List (List Char)}
    (h : c ∈ sep.intercalate ls) : c ∈ sep ∨ ∃ l ∈ ls, c ∈ l := by
  induction ls with
  | nil => simp at h
  | cons l ls ih =>
    rcases ls with _ | ⟨l', ls⟩
    · rw [List.intercalate_singleton] at h
      exact .inr ⟨l, List.mem_cons_self, h⟩
    · rw [List.intercalate_cons_cons, List.mem_append, List.mem_append] at h
      rcases h with (h | h) | h
      · exact .inr ⟨l, List.mem_cons_self, h⟩
      · exact .inl h
      · exact (ih h).imp_right fun ⟨l, hl, hc⟩ => ⟨l, List.mem_cons_of_mem _ hl, hc⟩

theorem toLower_ascii (h : c.toNat < 0x80) : c.toLower.toNat < 0x80 ∧
    c.toLower.toLower = c.toLower ∧ (isForbidden c = false → isForbidden c.toLower = false) := by
  have hall : ∀ n : Fin 0x80, (Char.ofNat n).toLower.toNat < 0x80 ∧
      (Char.ofNat n).toLower.toLower = (Char.ofNat n).toLower ∧
      (isForbidden (Char.ofNat n) = false → isForbidden (Char.ofNat n).toLower = false) := by
    decide +kernel
  have hc := hall ⟨c.toNat, h⟩
  rwa [Char.ofNat_toNat] at hc

namespace DomainNames

/-! ## The rule for plain names -/

/-- Plain names are written in small letters, unless a character must not stand in them. Other names
are not written. -/
@[reducible] def plainOnly : DomainNames where
  toAscii name :=
    if Plain name ∧ name.any isForbidden = false then some (name.map Char.toLower) else none

theorem toAscii_plainOnly_eq_some_iff : plainOnly.toAscii name = some ascii ↔
    Plain name ∧ (∀ c ∈ name, isForbidden c = false) ∧ ascii = name.map Char.toLower := by
  have hany : name.any isForbidden = false ↔ ∀ c ∈ name, isForbidden c = false := by simp
  change (if _ then _ else _) = _ ↔ _
  rw [Option.ite_none_right_eq_some, hany, Option.some.injEq, and_assoc, eq_comm]

theorem Plain.map_toLower (h : Plain name) :
    (name.map Char.toLower).map Char.toLower = name.map Char.toLower := by
  rw [List.map_map, List.map_inj_left]
  exact fun c hc => (toLower_ascii (h.1 c hc)).2.1

/-- A plain name is one also in small letters. -/
theorem Plain.lower (h : Plain name) : Plain (name.map Char.toLower) := by
  refine ⟨?_, ?_⟩
  · intro c hc
    obtain ⟨d, hd, rfl⟩ := List.mem_map.1 hc
    exact (toLower_ascii (h.1 d hd)).1
  · rw [h.map_toLower]
    exact h.2

theorem lawful_plainOnly : plainOnly.Lawful := by
  constructor
  case written =>
    intro name ascii h c hc
    obtain ⟨hp, hf, rfl⟩ := toAscii_plainOnly_eq_some_iff.1 h
    obtain ⟨d, hd, rfl⟩ := List.mem_map.1 hc
    obtain ⟨hascii, -, hforbidden⟩ := toLower_ascii (hp.1 d hd)
    exact ⟨hascii, hforbidden (hf d hd)⟩
  case settled =>
    intro name ascii h
    obtain ⟨hp, hf, rfl⟩ := toAscii_plainOnly_eq_some_iff.1 h
    refine toAscii_plainOnly_eq_some_iff.2 ⟨hp.lower, fun c hc => ?_, hp.map_toLower.symm⟩
    obtain ⟨d, hd, rfl⟩ := List.mem_map.1 hc
    exact (toLower_ascii (hp.1 d hd)).2.2 (hf d hd)
  case bracket =>
    intro name hb
    rw [Option.eq_none_iff_forall_ne_some]
    intro ascii h
    exact absurd ((toAscii_plainOnly_eq_some_iff.1 h).2.1 '[' hb) (by decide)
  case plain =>
    intro name hp
    change (if _ then _ else _) = _
    cases name.any isForbidden <;> simp [hp]

end DomainNames

end SlotBroker.Net
