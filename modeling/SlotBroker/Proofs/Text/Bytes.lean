import SlotBroker.Text.Bytes

/-!
# Reading what was written

Bytes read as a text exactly if they are the text's own (`ofBytes?_eq_some_iff`). A byte below 128
stands in them exactly for the character that it is (`mem_toBytes_iff`).
-/

namespace SlotBroker.Text

theorem toList_loop_eq (bs : ByteArray) (i : Nat) (r : List UInt8) :
    ByteArray.toList.loop bs i r = r.reverse ++ bs.data.toList.drop i := by
  fun_induction ByteArray.toList.loop bs i r with
  | case1 i r h ih =>
    have hi : i < bs.data.toList.length := h
    rw [ih, List.drop_eq_getElem_cons hi]
    simp [ByteArray.get!, h]
  | case2 i r h =>
    rw [List.drop_eq_nil_of_le (Nat.le_of_not_lt h), List.append_nil]

theorem toBytes_eq (s : String) : toBytes s = s.toUTF8.data.toList := by
  rw [toBytes, ByteArray.toList, toList_loop_eq]
  rfl

theorem ofBytes?_eq_some_iff {bs : List UInt8} {s : String} :
    ofBytes? bs = some s ↔ toBytes s = bs := by
  rw [toBytes_eq]
  unfold ofBytes? String.fromUTF8?
  constructor
  · intro h
    split at h
    · cases h
      rfl
    · cases h
  · rintro rfl
    exact dif_pos s.isValidUTF8

theorem toBytes_eq_flatMap (s : String) : toBytes s = s.toList.flatMap String.utf8EncodeChar := by
  rw [toBytes_eq, String.toUTF8, ← String.utf8Encode_toList, List.utf8Encode,
    List.toList_data_toByteArray]

theorem mem_utf8EncodeChar_iff {c d : Char} (hc : c.toNat < 0x80) :
    UInt8.ofNat c.toNat ∈ String.utf8EncodeChar d ↔ c = d := by
  have hval : d.val.toNat = d.toNat := rfl
  have hinj : c = d ↔ c.toNat = d.toNat := Char.toNat_inj.symm
  have hb (n : Nat) : UInt8.ofNat c.toNat = UInt8.ofNat n ↔ c.toNat = n % 256 := by
    rw [← UInt8.toNat_inj, UInt8.toNat_ofNat', UInt8.toNat_ofNat']
    omega
  unfold String.utf8EncodeChar
  simp only [hval]
  split
  · rw [List.mem_singleton, hb, hinj]
    omega
  split
  · simp only [List.mem_cons, List.not_mem_nil, or_false, hb, hinj]
    omega
  split
  · simp only [List.mem_cons, List.not_mem_nil, or_false, hb, hinj]
    omega
  · simp only [List.mem_cons, List.not_mem_nil, or_false, hb, hinj]
    omega

theorem mem_toBytes_iff {c : Char} {s : String} (hc : c.toNat < 0x80) :
    UInt8.ofNat c.toNat ∈ toBytes s ↔ c ∈ s.toList := by
  simp [toBytes_eq_flatMap, mem_utf8EncodeChar_iff hc]

end SlotBroker.Text
