import SlotBroker.Proofs.Backend.Simulated
import SlotBroker.Proofs.Registry.Holding

/-!
# Handles of simulated backends

Everybody who holds a handle holds one that is attached, nobody else holds it, and every handle that
is attached is held (`Held`), as far as the backends are not unloaded. Each operation of a simulated
backend keeps that, as long as who holds what changes along with it. What has to be ruled out is
that a new handle is one that somebody holds: the handles are counted, and all that are attached
were counted before (`Held.used`).
-/

namespace SlotBroker

/-- What is held is attached where it is said to be, by one owner each, and what is attached is
held, in every backend that is not unloaded. -/
structure Held (H : Owner → Option Holding) (bs : List SimulatedBackend)
    (gone : List InstanceId) : Prop where
  known : ∀ {o c}, H o = some c → c.backend < bs.length
  unique : ∀ {o o' c c'}, H o = some c → H o' = some c' → c.backend = c'.backend →
    c.handle = c'.handle → o = o'
  owned : ∀ {b} {sb : SimulatedBackend} {k l}, bs[b]? = some sb → b ∉ gone →
    Assoc.get? k sb.attached = some l → ∃ o c, H o = some c ∧ c.backend = b ∧ c.handle = ⟨k⟩
  attached : ∀ {o c} {sb : SimulatedBackend}, H o = some c → bs[c.backend]? = some sb →
    c.backend ∉ gone →
    ∃ l, Assoc.get? c.handle.id sb.attached = some l ∧ (c.location = none ∨ c.location = some l)
  used : ∀ {b : InstanceId} {sb : SimulatedBackend} {k l}, bs[b]? = some sb →
    Assoc.get? k sb.attached = some l → k.toNat < sb.next.toNat

namespace Held

variable {H : Owner → Option Holding} {bs : List SimulatedBackend} {gone : List InstanceId}
  {o o' : Owner} {b b' : InstanceId} {sb sb' : SimulatedBackend} {l : Location} {c : Holding}

theorem update_eq_some {v : Option Holding} : Function.update H o v o' = some c ↔
    o' = o ∧ v = some c ∨ o' ≠ o ∧ H o' = some c := by
  by_cases h : o' = o
  · subst h
    simp
  · simp [h]

theorem set_eq_some (hb : bs[b]? = some sb) {y : SimulatedBackend} :
    (bs.set b sb')[b']? = some y ↔ b' = b ∧ sb' = y ∨ b' ≠ b ∧ bs[b']? = some y := by
  have hlt := (List.getElem?_eq_some_iff.1 hb).1
  by_cases h : b' = b
  · subst h
    simp [hlt]
  · simp [h, Ne.symm h]

theorem free (h : Held H bs gone) (hb : bs[b]? = some sb) (hg : b ∉ gone) (ho : H o = some c)
    (hc : c.backend = b) : c.handle ≠ ⟨sb.next⟩ := by
  intro hh
  subst hc
  obtain ⟨l, hl, -⟩ := h.attached ho hb hg
  rw [hh] at hl
  exact Nat.lt_irrefl _ (h.used hb hl)

theorem attach (h : Held H bs gone) (ho : H o = none) (hb : bs[b]? = some sb) (hg : b ∉ gone)
    (hn : sb.next.toNat + 1 < UInt64.size) :
    Held (Function.update H o (some ⟨b, (sb.attach l).2, some l⟩)) (bs.set b (sb.attach l).1)
      gone where
  known {o' c} hc := by
    rw [List.length_set]
    rcases update_eq_some.1 hc with ⟨-, hc⟩ | ⟨-, hc⟩
    · cases hc
      exact (List.getElem?_eq_some_iff.1 hb).1
    · exact h.known hc
  unique {o₁ o₂ c₁ c₂} h₁ h₂ hbk hh := by
    rcases update_eq_some.1 h₁ with ⟨rfl, g₁⟩ | ⟨-, g₁⟩ <;>
      rcases update_eq_some.1 h₂ with ⟨rfl, g₂⟩ | ⟨-, g₂⟩
    · rfl
    · cases g₁
      exact absurd hh.symm (h.free hb hg g₂ hbk.symm)
    · cases g₂
      exact absurd hh (h.free hb hg g₁ hbk)
    · exact h.unique g₁ g₂ hbk hh
  owned {b' sb' k l'} hb' hg' hk := by
    have old {k : UInt64} {l' : Location} {sb' : SimulatedBackend} (hb' : bs[b']? = some sb')
        (hk : Assoc.get? k sb'.attached = some l') :
        ∃ o' c, Function.update H o (some ⟨b, (sb.attach l).2, some l⟩) o' = some c ∧
          c.backend = b' ∧ c.handle = ⟨k⟩ := by
      obtain ⟨o', c, hc, hcb, hch⟩ := h.owned hb' hg' hk
      refine ⟨o', c, update_eq_some.2 (.inr ⟨?_, hc⟩), hcb, hch⟩
      rintro rfl
      cases ho.symm.trans hc
    rcases (set_eq_some hb).1 hb' with ⟨rfl, rfl⟩ | ⟨-, hb'⟩
    · rw [SimulatedBackend.get?_attach] at hk
      split at hk
      · rename_i hnk
        subst hnk
        exact ⟨o, _, update_eq_some.2 (.inl ⟨rfl, rfl⟩), rfl, rfl⟩
      · exact old hb hk
    · exact old hb' hk
  attached {o' c sb'} hc hb' hg' := by
    rcases update_eq_some.1 hc with ⟨-, hc⟩ | ⟨-, hc⟩
    · cases hc
      rcases (set_eq_some hb).1 hb' with ⟨-, rfl⟩ | ⟨hne, -⟩
      · exact ⟨l, SimulatedBackend.get?_attach.trans (if_pos rfl), .inr rfl⟩
      · exact absurd rfl hne
    · rcases (set_eq_some hb).1 hb' with ⟨hcb, rfl⟩ | ⟨-, hb'⟩
      · obtain ⟨l', hl', hloc⟩ := h.attached hc (hcb ▸ hb) hg'
        refine ⟨l', ?_, hloc⟩
        rw [SimulatedBackend.get?_attach, if_neg, hl']
        exact fun hid => h.free hb hg hc hcb (by rw [hid])
      · exact h.attached hc hb' hg'
  used {b' sb' k l'} hb' hk := by
    rcases (set_eq_some hb).1 hb' with ⟨rfl, rfl⟩ | ⟨-, hb'⟩
    · rw [SimulatedBackend.next_attach hn]
      rw [SimulatedBackend.get?_attach] at hk
      split at hk
      · rename_i hnk
        rw [hnk]
        exact Nat.lt_succ_self _
      · exact Nat.lt_succ_of_lt (h.used hb hk)
    · exact h.used hb' hk

theorem detach (h : Held H bs gone) (ho : H o = some c) (hb : bs[c.backend]? = some sb) :
    Held (Function.update H o none) (bs.set c.backend (sb.detach c.handle).1) gone where
  known {o' c'} hc := by
    rw [List.length_set]
    rcases update_eq_some.1 hc with ⟨-, hc⟩ | ⟨-, hc⟩
    · cases hc
    · exact h.known hc
  unique {o₁ o₂ c₁ c₂} h₁ h₂ := by
    rcases update_eq_some.1 h₁ with ⟨-, h₁⟩ | ⟨-, h₁⟩
    · cases h₁
    · rcases update_eq_some.1 h₂ with ⟨-, h₂⟩ | ⟨-, h₂⟩
      · cases h₂
      · exact h.unique h₁ h₂
  owned {b' sb' k l'} hb' hg' hk := by
    -- The handle that is left attached is another one, so its owner is another.
    have old {sb' : SimulatedBackend} (hb' : bs[b']? = some sb')
        (hk : Assoc.get? k sb'.attached = some l') (hne : ¬ (c.backend = b' ∧ c.handle = ⟨k⟩)) :
        ∃ o' c', Function.update H o none o' = some c' ∧ c'.backend = b' ∧ c'.handle = ⟨k⟩ := by
      obtain ⟨o', c', hc, hcb, hch⟩ := h.owned hb' hg' hk
      refine ⟨o', c', update_eq_some.2 (.inr ⟨?_, hc⟩), hcb, hch⟩
      rintro rfl
      cases ho.symm.trans hc
      exact hne ⟨hcb, hch⟩
    rcases (set_eq_some hb).1 hb' with ⟨rfl, rfl⟩ | ⟨hne, hb'⟩
    · rw [SimulatedBackend.get?_detach] at hk
      split at hk
      · cases hk
      · rename_i hne
        exact old hb hk fun hc => hne (by rw [hc.2])
    · exact old hb' hk fun hc => hne hc.1.symm
  attached {o' c' sb'} hc hb' hg' := by
    rcases update_eq_some.1 hc with ⟨-, hc⟩ | ⟨hoo, hc⟩
    · cases hc
    · rcases (set_eq_some hb).1 hb' with ⟨hcb, rfl⟩ | ⟨-, hb'⟩
      · obtain ⟨l', hl', hloc⟩ := h.attached hc (hcb ▸ hb) hg'
        refine ⟨l', ?_, hloc⟩
        rw [SimulatedBackend.get?_detach, if_neg, hl']
        exact fun hid => hoo (h.unique hc ho hcb (by rw [Handle.mk.injEq, hid]))
      · exact h.attached hc hb' hg'
  used {b' sb' k l'} hb' hk := by
    rcases (set_eq_some hb).1 hb' with ⟨rfl, rfl⟩ | ⟨-, hb'⟩
    · rw [SimulatedBackend.next_detach]
      rw [SimulatedBackend.get?_detach] at hk
      split at hk
      · cases hk
      · exact h.used hb hk
    · exact h.used hb' hk

/-- A handle goes from its owner to somebody who holds nothing. -/
theorem pass (h : Held H bs gone) (ho : H o = some c) (ho' : H o' = none) :
    Held (Function.update (Function.update H o none) o' (some ⟨c.backend, c.handle, none⟩)) bs
      gone where
  known {o₁ c₁} h₁ := by
    have hk := h.known ho
    rcases update_eq_some.1 h₁ with ⟨-, h₁⟩ | ⟨-, h₁⟩
    · cases h₁
      exact hk
    · rcases update_eq_some.1 h₁ with ⟨-, h₁⟩ | ⟨-, h₁⟩
      · cases h₁
      · exact h.known h₁
  unique {o₁ o₂ c₁ c₂} h₁ h₂ hb hh := by
    have other {o₁ : Owner} {c₁ : Holding} (h₁ : Function.update H o none o₁ = some c₁)
        (hb : c₁.backend = c.backend) (hh : c₁.handle = c.handle) : False := by
      rcases update_eq_some.1 h₁ with ⟨-, h₁⟩ | ⟨hne, h₁⟩
      · cases h₁
      · exact hne (h.unique h₁ ho hb hh)
    rcases update_eq_some.1 h₁ with ⟨rfl, g₁⟩ | ⟨-, g₁⟩ <;>
      rcases update_eq_some.1 h₂ with ⟨rfl, g₂⟩ | ⟨-, g₂⟩
    · rfl
    · cases g₁
      exact (other g₂ hb.symm hh.symm).elim
    · cases g₂
      exact (other g₁ hb hh).elim
    · rcases update_eq_some.1 g₁ with ⟨-, g₁⟩ | ⟨-, g₁⟩
      · cases g₁
      · rcases update_eq_some.1 g₂ with ⟨-, g₂⟩ | ⟨-, g₂⟩
        · cases g₂
        · exact h.unique g₁ g₂ hb hh
  owned {b sb k l} hb hg hk := by
    obtain ⟨o₁, c₁, h₁, hcb, hch⟩ := h.owned hb hg hk
    by_cases hoo : o₁ = o
    · subst hoo
      cases ho.symm.trans h₁
      exact ⟨o', _, update_eq_some.2 (.inl ⟨rfl, rfl⟩), hcb, hch⟩
    · refine ⟨o₁, c₁, update_eq_some.2 (.inr ⟨?_, update_eq_some.2 (.inr ⟨hoo, h₁⟩)⟩), hcb, hch⟩
      rintro rfl
      cases ho'.symm.trans h₁
  attached {o₁ c₁ sb} h₁ hb hg := by
    rcases update_eq_some.1 h₁ with ⟨-, h₁⟩ | ⟨-, h₁⟩
    · cases h₁
      obtain ⟨l, hl, -⟩ := h.attached ho hb hg
      exact ⟨l, hl, .inl rfl⟩
    · rcases update_eq_some.1 h₁ with ⟨-, h₁⟩ | ⟨-, h₁⟩
      · cases h₁
      · exact h.attached h₁ hb hg
  used := h.used

theorem load (h : Held H bs gone) (name : BackendName) (latency : Time.Span) :
    Held H (bs ++ [SimulatedBackend.load name latency]) gone := by
  have old {b : InstanceId} {sb : SimulatedBackend} {k : UInt64} {l : Location}
      (hb : (bs ++ [SimulatedBackend.load name latency])[b]? = some sb)
      (hk : Assoc.get? k sb.attached = some l) : bs[b]? = some sb := by
    rw [List.getElem?_append] at hb
    split at hb
    · exact hb
    · obtain rfl := List.mem_singleton.1 (List.mem_of_getElem? hb)
      simp [SimulatedBackend.load] at hk
  refine ⟨fun ho => ?_, h.unique, fun hb hg hk => h.owned (old hb hk) hg hk, fun ho hb hg => ?_,
    fun hb hk => h.used (old hb hk) hk⟩
  · rw [List.length_append]
    exact Nat.lt_add_right _ (h.known ho)
  · rw [List.getElem?_append_left (h.known ho)] at hb
    exact h.attached ho hb hg

theorem unload (h : Held H bs gone) (hb : bs[b]? = some sb) :
    Held H (bs.set b sb.unload) (b :: gone) where
  known ho := by
    rw [List.length_set]
    exact h.known ho
  unique := h.unique
  owned hb' hg hk := by
    obtain ⟨hne, hg⟩ := not_or.1 (mt List.mem_cons.2 hg)
    rcases (set_eq_some hb).1 hb' with ⟨rfl, -⟩ | ⟨-, hb'⟩
    · exact absurd rfl hne
    · exact h.owned hb' hg hk
  attached ho hb' hg := by
    obtain ⟨hne, hg⟩ := not_or.1 (mt List.mem_cons.2 hg)
    rcases (set_eq_some hb).1 hb' with ⟨hcb, -⟩ | ⟨-, hb'⟩
    · exact absurd hcb hne
    · exact h.attached ho hb' hg
  used hb' hk := by
    rcases (set_eq_some hb).1 hb' with ⟨-, rfl⟩ | ⟨-, hb'⟩
    · simp [SimulatedBackend.unload] at hk
    · exact h.used hb' hk

end Held

end SlotBroker
