import SlotBroker.Backend.Simulated
import SlotBroker.Proofs.Assoc

/-!
# What a simulated backend does

What each operation makes of the handles that are attached and of the counter, and what it answers.
To detach a handle succeeds if it is attached (`detach_some`), and otherwise nothing is changed
(`detach_none`).
-/

namespace SlotBroker.SimulatedBackend

variable {sb : SimulatedBackend} {h : Handle} {k : UInt64} {l : Location}

theorem detach_some (ha : Assoc.get? h.id sb.attached = some l) :
    sb.detach h = ({ sb with attached := Assoc.erase h.id sb.attached }, .ok ()) := by
  unfold detach
  rw [ha]

theorem detach_none (ha : Assoc.get? h.id sb.attached = none) : sb.detach h =
    (sb, .error ⟨sb.name.text, .invalidHandle,
      s!"handle {Text.decimal h.id.toNat} is not attached"⟩) := by
  unfold detach
  rw [ha]

theorem get?_attach : Assoc.get? k (sb.attach l).1.attached =
    if sb.next = k then some l else Assoc.get? k sb.attached :=
  Assoc.get?_put k sb.next l sb.attached

theorem get?_detach : Assoc.get? k (sb.detach h).1.attached =
    if h.id = k then none else Assoc.get? k sb.attached := by
  cases ha : Assoc.get? h.id sb.attached with
  | some l =>
    rw [detach_some ha]
    exact Assoc.get?_erase k h.id sb.attached
  | none =>
    rw [detach_none ha]
    split
    · rename_i hk
      rw [← hk, ha]
    · rfl

theorem next_detach : (sb.detach h).1.next = sb.next := by
  cases ha : Assoc.get? h.id sb.attached with
  | some l => rw [detach_some ha]
  | none => rw [detach_none ha]

theorem detach_ok (ha : Assoc.get? h.id sb.attached = some l) : (sb.detach h).2 = .ok () := by
  rw [detach_some ha]

theorem next_attach (hn : sb.next.toNat + 1 < UInt64.size) :
    (sb.attach l).1.next.toNat = sb.next.toNat + 1 := by
  have h : (sb.attach l).1.next = sb.next + 1 := rfl
  rw [h, UInt64.toNat_add, UInt64.toNat_one, Nat.mod_eq_of_lt hn]

/-- One more is attached, if the next handle is not attached already. -/
theorem size_attach (hn : Assoc.get? sb.next sb.attached = none) :
    (sb.attach l).1.size = sb.size + 1 :=
  Assoc.length_put hn

theorem size_detach (hs : (Assoc.keys sb.attached).Nodup)
    (ha : Assoc.get? h.id sb.attached = some l) : (sb.detach h).1.size + 1 = sb.size := by
  rw [detach_some ha]
  exact Assoc.length_erase hs (Assoc.mem_keys_iff.2 (by rw [ha, Option.isSome_some]))

end SlotBroker.SimulatedBackend
