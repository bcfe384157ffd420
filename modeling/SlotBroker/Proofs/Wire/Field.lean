import Mathlib.Algebra.Group.Nat.Defs
import Mathlib.Tactic.SplitIfs
import SlotBroker.Wire.Field

/-!
# Fields that were written

A number below `2 ^ 64` is read back from its groups of seven bits, whatever follows it
(`readVarint_writeVarint`): each byte read gives seven bits and leaves seven fewer to come, and the
tenth byte has the one bit left. So keys and counted bytes are read back, and so is a sequence of
fields whose values are numbers and bytes (`readFields_flatMap`).
-/

namespace SlotBroker.Wire

variable {n : Nat} {rest bs : List UInt8}

/-! ## Numbers -/

theorem toNat_byte (h : n < 256) : (UInt8.ofNat n).toNat = n := by
  rw [UInt8.toNat_ofNat']
  exact Nat.mod_eq_of_lt h

theorem writeVarint_ne_nil (n : Nat) : writeVarint n ≠ [] := by
  rw [writeVarint]
  split_ifs <;> simp

/-- With `left + 1` bytes to go there are `7 * left + 1` bits to come. -/
theorem readVarintIn_writeVarint (left : Nat) (h : n < 2 ^ (7 * left + 1)) :
    readVarintIn (left + 1) (writeVarint n ++ rest) = some (n, rest) := by
  induction left generalizing n with
  | zero =>
    have hn : n < 2 := h
    have hb : (UInt8.ofNat n).toNat = n := toNat_byte (by omega)
    rw [writeVarint, if_pos (by omega), List.singleton_append, readVarintIn, hb,
      if_pos (by omega), if_neg (by omega)]
  | succ left ih =>
    rw [writeVarint]
    split_ifs with hn
    · have hb : (UInt8.ofNat n).toNat = n := toNat_byte (by omega)
      rw [List.singleton_append, readVarintIn, hb, if_pos hn, if_neg (by omega)]
    · have hb : (UInt8.ofNat (n % 128 + 128)).toNat = n % 128 + 128 := toNat_byte (by omega)
      have hp : 2 ^ (7 * (left + 1) + 1) = 2 ^ (7 * left + 1) * 128 := by
        rw [show 7 * (left + 1) + 1 = 7 * left + 1 + 7 by omega, Nat.pow_add]
      have hd : n / 128 < 2 ^ (7 * left + 1) := Nat.div_lt_of_lt_mul (by omega)
      rw [List.cons_append, readVarintIn, hb, if_neg (by omega), ih hd]
      simp only [Option.some.injEq, Prod.mk.injEq, and_true]
      omega

theorem readVarint_writeVarint (h : n < UInt64.size) :
    readVarint (writeVarint n ++ rest) = some (n, rest) :=
  readVarintIn_writeVarint 9 h

/-! ## Keys and counted bytes -/

theorem code_lt (k : Kind) : k.code < 8 := by cases k <;> decide

theorem readKey_writeKey {number : Nat} (kind : Kind) (hpos : 0 < number)
    (hlt : number < 2 ^ 29) :
    readKey (writeKey number kind ++ rest) = some (number, kind, rest) := by
  have hc := code_lt kind
  have hs : UInt32.size = 2 ^ 32 := rfl
  have hkey : number * 8 + kind.code < UInt64.size := by
    have : UInt64.size = 2 ^ 64 := rfl
    omega
  have hnumber : (number * 8 + kind.code) / 8 = number := by omega
  have hkind : (number * 8 + kind.code) % 8 = kind.code := by omega
  rw [readKey, writeKey, readVarint_writeVarint hkey]
  simp only [Option.bind_eq_bind, Option.bind_some]
  rw [if_pos (by omega), hnumber, hkind, Kind.ofCode?_code, Option.bind_some]

theorem readBytes_writeBytes (h : bs.length < UInt64.size) :
    readBytes (writeBytes bs ++ rest) = some (bs, rest) := by
  rw [readBytes, writeBytes, List.append_assoc, readVarint_writeVarint h]
  simp [takeBytes]

/-! ## Fields -/

/-- The bytes of a field. Nobody writes values of fixed width, or groups. -/
def Field.bytes (f : Field) : List UInt8 :=
  match f.value with
  | .number n => writeKey f.number .number ++ writeVarint n.toNat
  | .bytes bs => writeKey f.number .bytes ++ writeBytes bs
  | _ => []

/-- A field as it is written: its number has its place in a key, and its value is a number, or
bytes that can be counted. -/
inductive Field.Plain : Field → Prop
  | number {k n} (hpos : 0 < k) (hlt : k < 2 ^ 29) : Plain ⟨k, .number n⟩
  | bytes {k bs} (hpos : 0 < k) (hlt : k < 2 ^ 29) (hb : bs.length < UInt64.size) :
    Plain ⟨k, .bytes bs⟩

variable {f : Field} {fs : List Field} {depth fuel : Nat}

theorem Field.Plain.bytes_ne_nil (h : f.Plain) : f.bytes ≠ [] := by
  cases h <;> simp [Field.bytes, writeKey, writeVarint_ne_nil]

theorem Field.Plain.read (h : f.Plain) (depth : Nat) (rest : List UInt8) : ∃ kind tail,
    readKey (f.bytes ++ rest) = some (f.number, kind, tail) ∧
      ∀ fuel, readValue (fuel + 1) depth f.number kind tail = some (f.value, rest) := by
  cases h with
  | @number k n hpos hlt =>
    refine ⟨.number, writeVarint n.toNat ++ rest, ?_, fun fuel => ?_⟩
    · rw [Field.bytes, List.append_assoc, readKey_writeKey _ hpos hlt]
    · rw [readValue, readVarint_writeVarint n.toNat_lt, Option.map_some, UInt64.ofNat_toNat]
  | @bytes k bs hpos hlt hb =>
    refine ⟨.bytes, writeBytes bs ++ rest, ?_, fun fuel => ?_⟩
    · rw [Field.bytes, List.append_assoc, readKey_writeKey _ hpos hlt]
    · rw [readValue, readBytes_writeBytes hb, Option.map_some]

theorem length_le_flatMap (h : ∀ f ∈ fs, f.Plain) :
    fs.length ≤ (fs.flatMap Field.bytes).length := by
  induction fs with
  | nil => exact Nat.le_refl 0
  | cons f fs ih =>
    rw [List.forall_mem_cons] at h
    have hf := List.length_pos_iff.2 h.1.bytes_ne_nil
    have hfs := ih h.2
    rw [List.flatMap_cons, List.length_append, List.length_cons]
    omega

theorem readFieldsIn_flatMap (h : ∀ f ∈ fs, f.Plain) (hn : fs.length ≤ fuel) :
    readFieldsIn fuel depth (fs.flatMap Field.bytes) = some fs := by
  induction fs generalizing fuel with
  | nil => rw [List.flatMap_nil, readFieldsIn]
  | cons f fs ih =>
    rw [List.forall_mem_cons] at h
    rw [List.length_cons] at hn
    obtain ⟨fuel, rfl⟩ : ∃ n, fuel = n + 1 := ⟨fuel - 1, by omega⟩
    obtain ⟨kind, tail, hkey, hvalue⟩ := h.1.read depth (fs.flatMap Field.bytes)
    have hne : f.bytes ++ fs.flatMap Field.bytes ≠ [] := by simp [h.1.bytes_ne_nil]
    rw [List.flatMap_cons, readFieldsIn, hkey]
    · simp only [hvalue, ih h.2 (by omega : fs.length ≤ fuel), Option.map_some]
    · exact hne

theorem readFields_flatMap (h : ∀ f ∈ fs, f.Plain) :
    readFields depth (fs.flatMap Field.bytes) = some fs :=
  readFieldsIn_flatMap h (length_le_flatMap h)

end SlotBroker.Wire
