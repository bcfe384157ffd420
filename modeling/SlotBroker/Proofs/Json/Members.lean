import Mathlib.Tactic.SplitIfs
import SlotBroker.Json.Reader
import SlotBroker.Proofs.Assoc

/-!
# The keys of a record that was read

A key that is written again in a record is no new member, so the members of a record that was read
have distinct keys (`nodup_of_document`).
-/

namespace SlotBroker.Json.Reader

variable {fuel depth : Nat} {first : Bool} {ms members : List (String × Json)}
  {cs rest : List Char} {s : String}

theorem map_eq_ok_iff {ε α β : Type} {x : Except ε α} {f : α → β} {b : β} :
    x.map f = .ok b ↔ ∃ a, x = .ok a ∧ f a = b := by
  rcases x with e | a <;> simp [Except.map]

theorem nodup_readMembers (hm : (Assoc.keys members).Nodup)
    (h : readMembers fuel depth first members cs = .ok (ms, rest)) : (Assoc.keys ms).Nodup := by
  induction fuel generalizing first members cs with
  | zero => cases h
  | succ fuel ih =>
    rw [readMembers] at h
    split at h
    · cases h
    · obtain ⟨_, -, h⟩ := map_eq_ok_iff.1 h
      cases h
      exact hm
    · split at h
      · cases h
      split at h
      · cases h
      split at h
      · cases h
      exact ih (Assoc.nodup_put hm) h

theorem ofNumber_ne_record (n : Number) : ofNumber n ≠ .record ms := by
  cases n <;> exact Json.noConfusion

/-- A record that was read was read member by member. -/
theorem record_of_readValue (h : readValue fuel depth cs = .ok (.record ms, rest)) :
    ∃ fuel depth cs, readMembers fuel depth true [] cs = .ok (ms, rest) := by
  rcases fuel with _ | fuel
  · cases h
  rw [readValue] at h
  split at h
  · cases h
  split_ifs at h <;> simp only [map_eq_ok_iff, Prod.mk.injEq, reduceCtorEq, false_and, and_false,
    exists_false, ofNumber_ne_record] at h
  obtain ⟨⟨ms', rest'⟩, hr, hms, rfl⟩ := h
  cases hms
  exact ⟨_, _, _, hr⟩

theorem nodup_of_document (h : document value s = .ok (.record ms)) : (Assoc.keys ms).Nodup := by
  unfold document at h
  split at h
  · cases h
  · rename_i v rest hv
    split at h
    · cases h
      obtain ⟨_, _, _, hr⟩ := record_of_readValue hv
      exact nodup_readMembers (by simp) hr
    · cases h

end SlotBroker.Json.Reader
