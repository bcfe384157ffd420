import SlotBroker.Wire.Varint

/-!
# Fields on the wire

A message is a sequence of fields. A field is a key, which gives the number of the field and the
kind of its value, and the value. Values of all kinds can be told from what follows them, so a
reader can pass over fields that it does not know, groups of fields among them.
-/

namespace SlotBroker.Wire

/-- The value of a field. What is in a group or in a value of fixed width is of no use to anybody
here and is left out. -/
inductive Value
  | number (n : UInt64)
  | bytes (bs : List UInt8)
  | fixed64
  | fixed32
  | group
  deriving DecidableEq, Repr

structure Field where
  number : Nat
  value : Value
  deriving DecidableEq, Repr

/-- The kinds of values as they stand in keys. -/
inductive Kind
  | number
  | fixed64
  | bytes
  | groupStart
  | groupEnd
  | fixed32
  deriving DecidableEq, Repr

namespace Kind

def code : Kind → Nat
  | number => 0
  | fixed64 => 1
  | bytes => 2
  | groupStart => 3
  | groupEnd => 4
  | fixed32 => 5

def ofCode? : Nat → Option Kind
  | 0 => some number
  | 1 => some fixed64
  | 2 => some bytes
  | 3 => some groupStart
  | 4 => some groupEnd
  | 5 => some fixed32
  | _ => none

theorem ofCode?_code (k : Kind) : ofCode? k.code = some k := by cases k <;> rfl

end Kind

def writeKey (number : Nat) (kind : Kind) : List UInt8 := writeVarint (number * 8 + kind.code)

/-- The key at the front. It has 32 bits, and no field has the number zero. -/
def readKey (bs : List UInt8) : Option (Nat × Kind × List UInt8) := do
  let (key, rest) ← readVarint bs
  if key < UInt32.size ∧ 8 ≤ key then some (key / 8, ← Kind.ofCode? (key % 8), rest) else none

/-- Cut off a number of bytes, all of which must be there. -/
def takeBytes (n : Nat) (bs : List UInt8) : Option (List UInt8 × List UInt8) :=
  if n ≤ bs.length then some (bs.take n, bs.drop n) else none

/-- A count and that many bytes. -/
def writeBytes (bs : List UInt8) : List UInt8 := writeVarint bs.length ++ bs

def readBytes (bs : List UInt8) : Option (List UInt8 × List UInt8) := do
  let (n, rest) ← readVarint bs
  takeBytes n rest

mutual

/-- The value of the field with the given number. `depth` tells how many groups may be nested
here, and the first number bounds the steps. -/
def readValue : Nat → Nat → Nat → Kind → List UInt8 → Option (Value × List UInt8)
  | 0, _, _, _, _ => none
  | fuel + 1, depth, number, kind, bs =>
    match kind with
    | .number => (readVarint bs).map fun r => (.number (UInt64.ofNat r.1), r.2)
    | .bytes => (readBytes bs).map fun r => (.bytes r.1, r.2)
    | .fixed64 => (takeBytes 8 bs).map fun r => (.fixed64, r.2)
    | .fixed32 => (takeBytes 4 bs).map fun r => (.fixed32, r.2)
    | .groupEnd => none
    | .groupStart => (readGroup fuel depth number bs).map fun rest => (.group, rest)

/-- The fields of a group up to its end, which must bear the number of its start. -/
def readGroup : Nat → Nat → Nat → List UInt8 → Option (List UInt8)
  | 0, _, _, _ => none
  | fuel + 1, depth, number, bs =>
    match readKey bs with
    | none => none
    | some (inner, .groupEnd, rest) => if inner = number then some rest else none
    | some (inner, kind, rest) =>
      match depth with
      | 0 => none
      | depth + 1 =>
        match readValue fuel depth inner kind rest with
        | none => none
        | some (_, rest) => readGroup fuel (depth + 1) number rest

end

/-- The fields of a message. -/
def readFieldsIn : Nat → Nat → List UInt8 → Option (List Field)
  | _, _, [] => some []
  | 0, _, _ => none
  | fuel + 1, depth, bs =>
    match readKey bs with
    | none => none
    | some (number, kind, rest) =>
      match readValue (2 * rest.length + 2) depth number kind rest with
      | none => none
      | some (value, rest) => (readFieldsIn fuel depth rest).map (⟨number, value⟩ :: ·)

/-- All fields of a message in which groups may be nested that deeply. -/
def readFields (depth : Nat) (bs : List UInt8) : Option (List Field) :=
  readFieldsIn bs.length depth bs

end SlotBroker.Wire
