import SlotBroker.Assoc
import SlotBroker.Json.Value

/-!
# Looking into JSON

The members of a record by key. What is missing, or is of another kind than asked for, reads as
empty: nothing, zero, or no text at all.
-/

namespace SlotBroker.Json

def field (key : String) : Json → Json
  | record ms => (Assoc.get? key ms).getD null
  | _ => null

def items : Json → List Json
  | list vs => vs
  | _ => []

def members : Json → List (String × Json)
  | record ms => ms
  | _ => []

def toText : Json → String
  | text s => s
  | _ => ""

def toInt : Json → Int
  | int i => i
  | _ => 0

/-- The member is there, and is not null. -/
def has (key : String) (v : Json) : Bool :=
  match v.field key with
  | null => false
  | _ => true

def textAt? (key : String) (v : Json) : Option String :=
  match v.field key with
  | text s => some s
  | _ => none

def textAt (key : String) (v : Json) : String := (v.field key).toText

def intAt (key : String) (v : Json) : Int := (v.field key).toInt

def natAt (key : String) (v : Json) : Nat := (v.intAt key).toNat

def natAt? (key : String) (v : Json) : Option Nat :=
  match v.field key with
  | int i => some i.toNat
  | _ => none

def wordAt (key : String) (v : Json) : UInt64 := UInt64.ofNat (v.natAt key)

def boolAt? (key : String) (v : Json) : Option Bool :=
  match v.field key with
  | bool b => some b
  | _ => none

def listAt (key : String) (v : Json) : List Json := (v.field key).items

end SlotBroker.Json
