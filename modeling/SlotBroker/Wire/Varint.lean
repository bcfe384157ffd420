/-!
# Numbers on the wire

A number is written in groups of seven bits, lowest first, and every byte but the last has its top
bit set. A number read back has at most ten bytes and stays below `2 ^ 64`; it need not be written
in as few bytes as possible.
-/

namespace SlotBroker.Wire

def writeVarint (n : Nat) : List UInt8 :=
  if n < 128 then [UInt8.ofNat n]
  else UInt8.ofNat (n % 128 + 128) :: writeVarint (n / 128)
termination_by n
decreasing_by omega

/-- Read a number of at most the given number of bytes. The tenth byte has one bit to give. -/
def readVarintIn : Nat → List UInt8 → Option (Nat × List UInt8)
  | 0, _ => none
  | _ + 1, [] => none
  | left + 1, b :: bs =>
    if b.toNat < 128 then if left = 0 ∧ 2 ≤ b.toNat then none else some (b.toNat, bs)
    else
      match readVarintIn left bs with
      | some (n, rest) => some (b.toNat - 128 + 128 * n, rest)
      | none => none

/-- The number at the front, and the bytes after it. -/
def readVarint (bs : List UInt8) : Option (Nat × List UInt8) := readVarintIn 10 bs

end SlotBroker.Wire
