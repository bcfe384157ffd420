import SlotBroker.Text.Bytes
import SlotBroker.Wire.Field

/-!
# Messages on the wire

A schema says which fields a kind of message has. A message is written field by field in the order
of the schema, and what has its default value is left out. Reading starts with the defaults and
takes in field after field: a later number or text replaces an earlier one, the items of a repeated
field are added up, and the parts of a message inside a message are merged. A field whose number
the schema does not know is passed over.
-/

namespace SlotBroker.Wire

/-- One field of a message: how it is written, and how a value that was read is taken in. The
number given to `merge` tells how deeply messages and groups may be nested in the value. -/
structure FieldSchema (σ : Type) where
  number : Nat
  write : σ → List UInt8
  merge : Nat → Value → σ → Option σ

/-- The fields of a message, in the order in which they are written. -/
abbrev Schema (σ : Type) := List (FieldSchema σ)

namespace Schema

variable {σ : Type}

def encode (s : Schema σ) (m : σ) : List UInt8 := s.flatMap fun f => f.write m

/-- Take in one field. -/
def mergeField (s : Schema σ) (depth : Nat) (m : σ) (f : Field) : Option σ :=
  match s.find? fun g => g.number == f.number with
  | some g => g.merge depth f.value m
  | none => some m

/-- Take in the fields of a message, in which others may be nested that deeply. -/
def mergeBytes (s : Schema σ) (depth : Nat) (m : σ) (bs : List UInt8) : Option σ :=
  match depth with
  | 0 => none
  | depth + 1 =>
    match readFields depth bs with
    | none => none
    | some fs => fs.foldlM (s.mergeField depth) m

/-- How deeply messages and groups may be nested. -/
def depthLimit : Nat := 100

def decode [Inhabited σ] (s : Schema σ) (bs : List UInt8) : Option σ :=
  s.mergeBytes depthLimit default bs

end Schema

namespace FieldSchema

variable {σ : Type}

/-- A number of 64 bits. -/
def word (number : Nat) (get : σ → UInt64) (set : UInt64 → σ → σ) : FieldSchema σ where
  number := number
  write m :=
    if get m = 0 then [] else writeKey number .number ++ writeVarint (get m).toNat
  merge _ v m :=
    match v with
    | .number n => some (set n m)
    | _ => none

/-- A signed number of 64 bits. -/
def signed (number : Nat) (get : σ → Int64) (set : Int64 → σ → σ) : FieldSchema σ :=
  word number (fun m => (get m).toUInt64) fun n => set n.toInt64

/-- A number of an enumeration: 32 bits, written with the sign carried on to 64 bits. -/
def enumeration (number : Nat) (get : σ → Int32) (set : Int32 → σ → σ) : FieldSchema σ :=
  word number (fun m => (get m).toInt64.toUInt64) fun n => set n.toUInt32.toInt32

def text (number : Nat) (get : σ → String) (set : String → σ → σ) : FieldSchema σ where
  number := number
  write m :=
    if (get m).isEmpty then []
    else writeKey number .bytes ++ writeBytes (Text.toBytes (get m))
  merge _ v m :=
    match v with
    | .bytes bs => (Text.ofBytes? bs).map fun t => set t m
    | _ => none

/-- A message inside the message, which may be absent. -/
def message {τ : Type} [Inhabited τ] (number : Nat) (schema : Schema τ) (get : σ → Option τ)
    (set : τ → σ → σ) : FieldSchema σ where
  number := number
  write m :=
    match get m with
    | none => []
    | some t => writeKey number .bytes ++ writeBytes (schema.encode t)
  merge depth v m :=
    match v with
    | .bytes bs => (schema.mergeBytes depth ((get m).getD default) bs).map fun t => set t m
    | _ => none

/-- Any number of messages inside the message. -/
def messages {τ : Type} [Inhabited τ] (number : Nat) (schema : Schema τ) (get : σ → List τ)
    (set : List τ → σ → σ) : FieldSchema σ where
  number := number
  write m :=
    (get m).flatMap fun t => writeKey number .bytes ++ writeBytes (schema.encode t)
  merge depth v m :=
    match v with
    | .bytes bs =>
      (schema.mergeBytes depth default bs).map fun t => set (get m ++ [t]) m
    | _ => none

end FieldSchema

end SlotBroker.Wire
