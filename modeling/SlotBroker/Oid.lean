import SlotBroker.Text.Blank
import SlotBroker.Text.Numeral

/-!
# Session oids

An oid is a 64-bit number that names one session for the life of the broker. It is printed in
hexadecimal after `0x`, and read in hexadecimal after `0x` or `0X` and in decimal otherwise.
-/

namespace SlotBroker

/-- The handle of a session. -/
structure Oid where
  value : UInt64
  deriving DecidableEq, Hashable, Repr, Inhabited

/-- Why a text is no oid: the trimmed text and the fault in its number. -/
structure OidError where
  text : String
  fault : Text.NumeralError
  deriving DecidableEq, Repr

def OidError.message (e : OidError) : String := s!"invalid oid '{e.text}': {e.fault.message}"

namespace Oid

def render (o : Oid) : String := "0x" ++ Text.hex o.value.toNat

instance : ToString Oid := ⟨render⟩

instance : LT Oid := ⟨fun a b => a.value < b.value⟩

instance (a b : Oid) : Decidable (a < b) := inferInstanceAs (Decidable (a.value < b.value))

/-- The number that an oid text stands for. -/
def readNumber : List Char → Except Text.NumeralError Nat
  | '0' :: 'x' :: cs => Text.readNat 16 UInt64.size cs
  | '0' :: 'X' :: cs => Text.readNat 16 UInt64.size cs
  | cs => Text.readNat 10 UInt64.size cs

/-- Read an oid from trimmed text. -/
def parse (raw : String) : Except OidError Oid :=
  let cs := Text.trim raw.toList
  match readNumber cs with
  | .ok n => .ok ⟨UInt64.ofNat n⟩
  | .error fault => .error ⟨String.ofList cs, fault⟩

end Oid

end SlotBroker
