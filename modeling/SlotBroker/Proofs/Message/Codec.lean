import SlotBroker.Message.Basic
import SlotBroker.Proofs.Wire.Schema

/-!
# Messages and their bytes

Every message is read back from its bytes, whatever texts and numbers stand in it. Each field of a
schema has a part of the message to itself, so stretch after stretch of the bytes puts in what the
message has there (`copies`, one for each kind of message; those with other messages inside use the
result for these). A message inside a message is written even if all of it has default values, so
that it is not taken for one that is missing.
-/

namespace SlotBroker

open Wire (Schema Field)

/-- Messages of this kind are read back from their bytes. These are fields in the order of their
numbers, and there is none that could have been left out, as it would change nothing about the
default message. Bytes are counted with 64 bits, as memory is. -/
structure Wire.Schema.Faithful {σ : Type} [Inhabited σ] (s : Schema σ) : Prop where
  decode_encode : ∀ m, (s.encode m).length < UInt64.size → s.decode (s.encode m) = some m
  fields : ∀ m, (s.encode m).length < UInt64.size →
    ∃ fs, Wire.readFields Schema.depthLimit (s.encode m) = some fs ∧
      fs.Pairwise (fun g g' => g.number ≤ g'.number) ∧
      ∀ g ∈ fs, ∃ d, s.mergeField Schema.depthLimit default g = some d ∧ d ≠ default

theorem Wire.Schema.Numbered.faithful {σ : Type} [Inhabited σ] {s : Schema σ}
    (hn : s.Numbered) (h : ∀ depth m, s.Copies (depth + 1) m default m) : s.Faithful where
  decode_encode m hlen := (h 98 m).mergeBytes hn hlen
  fields m hlen := (h 99 m).fields hn hlen _

namespace Message

open Wire.FieldSchema (copies_text copies_word copies_signed copies_enumeration copies_message
  copies_messages)

variable {depth : Nat}

namespace Descriptor

theorem copies (m : Descriptor) : schema.Copies depth m default m := by
  refine .cons (copies_text ?_ rfl) (.cons (copies_text ?_ rfl) .nil) <;>
    exact ⟨fun _ _ => rfl, fun _ => rfl, fun _ _ _ => rfl, rfl⟩

theorem numbered : schema.Numbered := ⟨by decide, by decide⟩

end Descriptor

namespace Listing

theorem copies (m : Listing) : schema.Copies (depth + 1) m default m :=
  .cons (copies_messages ⟨fun _ _ => rfl, fun _ => rfl, fun _ _ _ => rfl, rfl⟩ rfl
    fun d => d.copies.mergeBytes Descriptor.numbered) .nil

theorem numbered : schema.Numbered := ⟨by decide, by decide⟩

end Listing

namespace Session

theorem copies (m : Session) : schema.Copies depth m default m := by
  refine .cons (copies_word ?_ rfl)
    (.cons (copies_text ?_ rfl)
    (.cons (copies_text ?_ rfl)
    (.cons (copies_word ?_ rfl)
    (.cons (copies_signed ?_ rfl) .nil)))) <;>
    exact ⟨fun _ _ => rfl, fun _ => rfl, fun _ _ _ => rfl, rfl⟩

theorem numbered : schema.Numbered := ⟨by decide, by decide⟩

end Session

namespace ModuleInfo

theorem copies (m : ModuleInfo) : schema.Copies (depth + 1) m default m := by
  obtain ⟨session, adapter⟩ := m
  refine .cons (y := ⟨session, 0⟩) (copies_message (fun _ _ => rfl) rfl rfl
    (fun s => s.copies.mergeBytes Session.numbered) ?_) (.cons (copies_enumeration ?_ rfl) .nil)
  · cases session <;> rfl
  · exact ⟨fun _ _ => rfl, fun _ => rfl, fun _ _ _ => rfl, rfl⟩

theorem numbered : schema.Numbered := ⟨by decide, by decide⟩

end ModuleInfo

namespace BrokerInfo

theorem copies (m : BrokerInfo) : schema.Copies depth m default m := by
  refine .cons (copies_text ?_ rfl)
    (.cons (copies_text ?_ rfl)
    (.cons (copies_enumeration ?_ rfl)
    (.cons (copies_signed ?_ rfl)
    (.cons (copies_word ?_ rfl) .nil)))) <;>
    exact ⟨fun _ _ => rfl, fun _ => rfl, fun _ _ _ => rfl, rfl⟩

theorem numbered : schema.Numbered := ⟨by decide, by decide⟩

end BrokerInfo

namespace Create

theorem copies (m : Create) : schema.Copies depth m default m :=
  .cons (copies_text ⟨fun _ _ => rfl, fun _ => rfl, fun _ _ _ => rfl, rfl⟩ rfl) .nil

theorem numbered : schema.Numbered := ⟨by decide, by decide⟩

end Create

namespace Created

theorem copies (m : Created) : schema.Copies (depth + 1) m default m := by
  obtain ⟨session⟩ := m
  refine .cons (copies_message (fun _ _ => rfl) rfl rfl
    (fun s => s.copies.mergeBytes Session.numbered) ?_) .nil
  cases session <;> rfl

theorem numbered : schema.Numbered := ⟨by decide, by decide⟩

end Created

namespace Remove

theorem copies (m : Remove) : schema.Copies depth m default m :=
  .cons (copies_word ⟨fun _ _ => rfl, fun _ => rfl, fun _ _ _ => rfl, rfl⟩ rfl) .nil

theorem numbered : schema.Numbered := ⟨by decide, by decide⟩

end Remove

namespace HealthQuestion

theorem copies (m : HealthQuestion) : schema.Copies depth m default m :=
  .cons (copies_text ⟨fun _ _ => rfl, fun _ => rfl, fun _ _ _ => rfl, rfl⟩ rfl) .nil

theorem numbered : schema.Numbered := ⟨by decide, by decide⟩

end HealthQuestion

namespace Health

theorem copies (m : Health) : schema.Copies depth m default m :=
  .cons (copies_enumeration ⟨fun _ _ => rfl, fun _ => rfl, fun _ _ _ => rfl, rfl⟩ rfl) .nil

theorem numbered : schema.Numbered := ⟨by decide, by decide⟩

end Health

/-- The bytes of some text or message inside a message are not empty, even if it is. -/
theorem writeKey_append_ne_nil (k : Nat) (kind : Wire.Kind) (bs : List UInt8) :
    Wire.writeKey k kind ++ bs ≠ [] := by
  simp [Wire.writeKey, Wire.writeVarint_ne_nil]

/-- All messages are read back from their bytes, and a session that is missing is told from one
that has nothing but default values. -/
theorem encodings_faithful :
    Descriptor.schema.Faithful ∧ Listing.schema.Faithful ∧ Session.schema.Faithful ∧
      ModuleInfo.schema.Faithful ∧ BrokerInfo.schema.Faithful ∧ Create.schema.Faithful ∧
      Created.schema.Faithful ∧ Remove.schema.Faithful ∧ HealthQuestion.schema.Faithful ∧
      Health.schema.Faithful ∧
      (∀ s adapter, ModuleInfo.schema.encode ⟨some s, adapter⟩ ≠
        ModuleInfo.schema.encode ⟨none, adapter⟩) ∧
      ∀ s, Created.schema.encode ⟨some s⟩ ≠ Created.schema.encode ⟨none⟩ := by
  refine ⟨Descriptor.numbered.faithful fun _ m => m.copies,
    Listing.numbered.faithful fun _ m => m.copies,
    Session.numbered.faithful fun _ m => m.copies,
    ModuleInfo.numbered.faithful fun _ m => m.copies,
    BrokerInfo.numbered.faithful fun _ m => m.copies,
    Create.numbered.faithful fun _ m => m.copies,
    Created.numbered.faithful fun _ m => m.copies,
    Remove.numbered.faithful fun _ m => m.copies,
    HealthQuestion.numbered.faithful fun _ m => m.copies,
    Health.numbered.faithful fun _ m => m.copies, ?_, ?_⟩
  · intro s adapter h
    exact writeKey_append_ne_nil _ _ _ (List.append_left_eq_self.1 h)
  · intro s h
    exact writeKey_append_ne_nil _ _ _ (List.append_left_eq_self.1 h)

/-- Ten bytes for a time before the epoch, and ten for an adapter that nobody knows. -/
theorem encodings_faithful_negative :
    ModuleInfo.schema.decode (ModuleInfo.schema.encode
      ⟨some ⟨18446744073709551615, "plug:é", "", 128, -1⟩, -1⟩) =
        some ⟨some ⟨18446744073709551615, "plug:é", "", 128, -1⟩, -1⟩ := by
  have hlen : (ModuleInfo.schema.encode
      ⟨some ⟨18446744073709551615, "plug:é", "", 128, -1⟩, -1⟩).length = 47 := by decide +kernel
  refine encodings_faithful.2.2.2.1.decode_encode _ ?_
  rw [hlen]
  decide

end Message

end SlotBroker
