import SlotBroker.Assoc

/-!
# Look-ups in association lists

What a look-up finds after a change, for the key that is changed and for any other. Writing never
makes a key occur twice (`nodup_put`). Where every key occurs once, a look-up finds exactly the
pairs that are there (`get?_eq_some_iff`), and erasing a key takes one pair away (`length_erase`).
-/

namespace SlotBroker

namespace Assoc

variable {κ ν : Type} {k k' : κ} {v : ν} {m : Assoc κ ν}

@[simp] theorem keys_nil : keys ([] : Assoc κ ν) = [] := rfl

@[simp] theorem keys_cons (p : κ × ν) (m : Assoc κ ν) : keys (p :: m) = p.1 :: keys m := rfl

variable [DecidableEq κ]

theorem get?_put (k k' : κ) (v : ν) (m : Assoc κ ν) :
    get? k (put k' v m) = if k' = k then some v else get? k m := by
  split
  · rename_i h
    rw [h, get?_put_self]
  · rename_i h
    exact get?_put_of_ne h v m

theorem get?_erase (k k' : κ) (m : Assoc κ ν) :
    get? k (erase k' m) = if k' = k then none else get? k m := by
  split
  · rename_i h
    rw [h, get?_erase_self]
  · rename_i h
    exact get?_erase_of_ne h m

theorem get?_modify (k k' : κ) (f : ν → ν) (m : Assoc κ ν) :
    get? k (modify k' f m) = if k' = k then (get? k m).map f else get? k m := by
  induction m with
  | nil => simp [modify]
  | cons p m ih =>
    obtain ⟨k₁, v₁⟩ := p
    by_cases h₁ : k₁ = k'
    · by_cases h₂ : k' = k <;> simp [modify, get?, h₁, h₂]
    · by_cases h₂ : k₁ = k
      · subst h₂
        simp [modify, get?, h₁, Ne.symm h₁]
      · simp only [modify, get?, h₁, h₂, if_false, ih]

theorem mem_keys_iff {k : κ} {m : Assoc κ ν} : k ∈ keys m ↔ (get? k m).isSome := by
  induction m with
  | nil => simp [keys]
  | cons p m ih =>
    obtain ⟨k₁, v₁⟩ := p
    simp only [keys, List.map_cons, List.mem_cons, get?] at ih ⊢
    by_cases h : k₁ = k
    · simp [h]
    · rw [ih]
      simp [h, Ne.symm h]

theorem mem_keys_put : k' ∈ keys (put k v m) ↔ k' = k ∨ k' ∈ keys m := by
  induction m with
  | nil => simp [put]
  | cons p m ih =>
    obtain ⟨k₁, v₁⟩ := p
    by_cases h : k₁ = k
    · simp [put, h]
    · simp only [put, h, if_false, keys_cons, List.mem_cons, ih]
      exact or_left_comm

@[simp] theorem keys_modify (k : κ) (f : ν → ν) (m : Assoc κ ν) : keys (modify k f m) = keys m := by
  induction m with
  | nil => rfl
  | cons p m ih =>
    obtain ⟨k₁, v₁⟩ := p
    by_cases h : k₁ = k <;> simp [modify, h, ih]

/-- What is put somewhere and then changed was put there changed. -/
theorem modify_put (k : κ) (v : ν) (f : ν → ν) (m : Assoc κ ν) :
    modify k f (put k v m) = put k (f v) m := by
  induction m with
  | nil => simp [put, modify]
  | cons p m ih =>
    obtain ⟨k₁, v₁⟩ := p
    by_cases h : k₁ = k <;> simp [put, modify, h, ih]

theorem put_put (k : κ) (v v' : ν) (m : Assoc κ ν) : put k v' (put k v m) = put k v' m := by
  induction m with
  | nil => simp [put]
  | cons p m ih =>
    obtain ⟨k₁, v₁⟩ := p
    by_cases h : k₁ = k <;> simp [put, h, ih]

theorem put_self (h : get? k m = some v) : put k v m = m := by
  induction m with
  | nil => cases h
  | cons p m ih =>
    obtain ⟨k₁, v₁⟩ := p
    by_cases hk : k₁ = k
    · simp only [get?, hk, if_true, Option.some.injEq] at h
      simp [put, hk, h]
    · simp only [get?, hk, if_false] at h
      simp [put, hk, ih h]

theorem length_put (h : get? k m = none) : (put k v m).length = m.length + 1 := by
  induction m with
  | nil => rfl
  | cons p m ih =>
    obtain ⟨k₁, v₁⟩ := p
    by_cases hk : k₁ = k
    · simp [get?, hk] at h
    · simp only [get?, hk, if_false] at h
      simp [put, hk, ih h]

theorem nodup_put (h : (keys m).Nodup) : (keys (put k v m)).Nodup := by
  induction m with
  | nil => simp [put]
  | cons p m ih =>
    obtain ⟨k₁, v₁⟩ := p
    obtain ⟨hk, hm⟩ := List.nodup_cons.1 h
    by_cases hk₁ : k₁ = k
    · simpa [put, hk₁] using h
    · simp only [put, hk₁, if_false, keys_cons, List.nodup_cons]
      refine ⟨fun hmem => ?_, ih hm⟩
      exact (mem_keys_put.1 hmem).elim hk₁ hk

theorem mem_put {p : κ × ν} (h : p ∈ put k v m) : p = (k, v) ∨ p ∈ m := by
  induction m with
  | nil => exact .inl (List.mem_singleton.1 h)
  | cons q m ih =>
    obtain ⟨k₁, v₁⟩ := q
    by_cases hk : k₁ = k
    · simp only [put, hk, if_true, List.mem_cons] at h ⊢
      exact h.imp_right .inr
    · simp only [put, hk, if_false, List.mem_cons] at h ⊢
      rcases h with h | h
      · exact .inr (.inl h)
      · exact (ih h).imp_right .inr

theorem mem_of_get? (h : get? k m = some v) : (k, v) ∈ m := by
  induction m with
  | nil => cases h
  | cons p m ih =>
    obtain ⟨k₁, v₁⟩ := p
    by_cases hk : k₁ = k
    · simp only [get?, hk, if_true, Option.some.injEq] at h
      simp [hk, h]
    · simp only [get?, hk, if_false] at h
      exact List.mem_cons_of_mem _ (ih h)

theorem get?_eq_none (h : k ∉ keys m) : get? k m = none := by
  cases hg : get? k m with
  | none => rfl
  | some v => exact absurd (List.mem_map_of_mem (f := Prod.fst) (mem_of_get? hg)) h

theorem erase_sublist (k : κ) (m : Assoc κ ν) : (erase k m).Sublist m := by
  induction m with
  | nil => exact .refl _
  | cons p m ih =>
    obtain ⟨k₁, v₁⟩ := p
    simp only [erase]
    split
    · exact ih.cons _
    · exact ih.cons_cons _

theorem nodup_erase (h : (keys m).Nodup) : (keys (erase k m)).Nodup :=
  h.sublist ((erase_sublist k m).map Prod.fst)

theorem erase_of_not_mem (h : k ∉ keys m) : erase k m = m := by
  induction m with
  | nil => rfl
  | cons p m ih =>
    obtain ⟨k₁, v₁⟩ := p
    obtain ⟨hk, hm⟩ := not_or.1 (mt List.mem_cons.2 h)
    simp [erase, Ne.symm hk, ih hm]

theorem length_erase (h : (keys m).Nodup) (hk : k ∈ keys m) :
    (erase k m).length + 1 = m.length := by
  induction m with
  | nil => cases hk
  | cons p m ih =>
    obtain ⟨k₁, v₁⟩ := p
    obtain ⟨hm, hn⟩ := List.nodup_cons.1 h
    by_cases hk₁ : k₁ = k
    · subst hk₁
      simp [erase, erase_of_not_mem hm]
    · have hkm : k ∈ keys m := (List.mem_cons.1 hk).resolve_left (Ne.symm hk₁)
      simp [erase, hk₁, ih hn hkm]

theorem get?_eq_some_iff (h : (keys m).Nodup) : get? k m = some v ↔ (k, v) ∈ m := by
  refine ⟨mem_of_get?, fun hm => ?_⟩
  induction m with
  | nil => cases hm
  | cons p m ih =>
    obtain ⟨hk, hm'⟩ := List.nodup_cons.1 h
    rcases List.mem_cons.1 hm with rfl | hm
    · simp [get?]
    · have hne : p.1 ≠ k := by
        intro hp
        exact hk (hp ▸ List.mem_map_of_mem (f := Prod.fst) hm)
      simpa only [get?, hne, if_false] using ih hm' hm

end Assoc

end SlotBroker
