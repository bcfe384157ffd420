/-!
# Texts as bytes

Bytes are read as UTF-8, strictly or with a replacement character for every stretch that is not
well formed. A stretch ends where no character can go on that way.
-/

namespace SlotBroker.Text

/-- The text that the bytes are, if they are UTF-8. -/
def ofBytes? (bs : List UInt8) : Option String := String.fromUTF8? ⟨bs.toArray⟩

def toBytes (s : String) : List UInt8 := s.toUTF8.toList

def replacement : Char := '\uFFFD'

def isTail (b : Nat) : Bool := 0x80 ≤ b && b ≤ 0xBF

/-- Which second byte may follow a first byte of a character of three or four bytes. -/
def secondFits (first second : Nat) : Bool :=
  if first == 0xE0 then 0xA0 ≤ second && second ≤ 0xBF
  else if first == 0xED then 0x80 ≤ second && second ≤ 0x9F
  else if first == 0xF0 then 0x90 ≤ second && second ≤ 0xBF
  else if first == 0xF4 then 0x80 ≤ second && second ≤ 0x8F
  else isTail second

/-- How many bytes the character that starts with this byte has; 0 if none does. -/
def widthOf (first : Nat) : Nat :=
  if first < 0x80 then 1
  else if 0xC2 ≤ first && first ≤ 0xDF then 2
  else if 0xE0 ≤ first && first ≤ 0xEF then 3
  else if 0xF0 ≤ first && first ≤ 0xF4 then 4
  else 0

/-- The character at the front, or a replacement, and how many bytes it takes after the first. -/
def decodeFront (first : Nat) (rest : List Nat) : Char × Nat :=
  match widthOf first, rest with
  | 1, _ => (Char.ofNat first, 0)
  | 2, b :: _ =>
    if isTail b then (Char.ofNat ((first - 0xC0) * 64 + (b - 0x80)), 1) else (replacement, 0)
  | 3, b :: rest =>
    if secondFits first b then
      match rest with
      | c :: _ =>
        if isTail c then
          (Char.ofNat ((first - 0xE0) * 4096 + (b - 0x80) * 64 + (c - 0x80)), 2)
        else (replacement, 1)
      | [] => (replacement, 1)
    else (replacement, 0)
  | 4, b :: rest =>
    if secondFits first b then
      match rest with
      | c :: rest =>
        if isTail c then
          match rest with
          | d :: _ =>
            if isTail d then
              (Char.ofNat ((first - 0xF0) * 262144 + (b - 0x80) * 4096 + (c - 0x80) * 64
                + (d - 0x80)), 3)
            else (replacement, 2)
          | [] => (replacement, 2)
        else (replacement, 1)
      | [] => (replacement, 1)
    else (replacement, 0)
  | _, _ => (replacement, 0)

/-- The characters of some bytes. The first number counts bytes that belong to the character before
them. -/
def decodeAll : Nat → List UInt8 → List Char
  | _, [] => []
  | skip + 1, _ :: bs => decodeAll skip bs
  | 0, b :: bs =>
    let r := decodeFront b.toNat ((bs.take 3).map UInt8.toNat)
    r.1 :: decodeAll r.2 bs

/-- The text of the bytes, with replacements. -/
def ofBytesLossy (bs : List UInt8) : String := String.ofList (decodeAll 0 bs)

end SlotBroker.Text
