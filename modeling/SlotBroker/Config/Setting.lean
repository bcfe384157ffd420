import SlotBroker.Assoc
import SlotBroker.Text.Lowercase
import SlotBroker.Text.Quoted
import SlotBroker.Toml.Value

/-!
# Settings

Settings come in layers: the defaults, a file above them, and above it variables of the environment.
A setting is a value, a list, or a group of settings with keys, and it remembers the layer that it
comes from. Where two layers say something of one key, groups are merged and anything else is
replaced by the upper layer: `merge low high`.
-/

namespace SlotBroker

/-- Where a setting comes from: the defaults, the file, a variable with a name of its own, or a
variable that spells out the key that it sets. -/
inductive Layer
  | standard
  | file
  | alias
  | variables
  deriving DecidableEq, Repr, Inhabited

/-- A value of a setting. Numbers from the environment have no sign unless it is a minus. -/
inductive Scalar
  | bool (b : Bool)
  | signed (i : Int)
  | unsigned (n : Nat)
  | float (d : Decimal.Double)
  | text (s : String)
  | letter (c : Char)
  deriving Repr, Inhabited

inductive Setting
  | scalar (layer : Layer) (value : Scalar)
  | list (layer : Layer) (items : List Setting)
  | group (layer : Layer) (members : List (String × Setting))
  deriving Inhabited

namespace Scalar

/-- How a value is shown in a message. -/
def describe : Scalar → String
  | bool b => s!"bool {b}"
  | signed i => s!"signed int `{Text.signedDecimal i}`"
  | unsigned n => s!"unsigned int `{Text.decimal n}`"
  | float d => s!"float `{d.render}`"
  | text s => s!"string {Text.quoted s}"
  | letter c => s!"string {Text.quoted (String.singleton c)}"

end Scalar

namespace Setting

def layer : Setting → Layer
  | scalar l _ => l
  | list l _ => l
  | group l _ => l

/-- How a setting is shown in a message. -/
def describe : Setting → String
  | scalar _ v => v.describe
  | list _ _ => "sequence"
  | group _ _ => "map"

/-- A setting at the end of a path of keys, alone in its groups. -/
def nest (layer : Layer) (value : Setting) : List String → Setting
  | [] => value
  | k :: path => group layer [(k, nest layer value path)]

mutual

/-- What two layers say together. -/
def merge (low : Setting) : Setting → Setting
  | .group l high =>
    match low with
    | .group _ members => .group l (mergeMembers members high)
    | _ => .group l high
  | high => high

/-- The members of two groups together. -/
def mergeMembers (low : Assoc String Setting) : List (String × Setting) → Assoc String Setting
  | [] => low
  | (k, v) :: high =>
    let merged :=
      match Assoc.get? k low with
      | some w => merge w v
      | none => v
    mergeMembers (Assoc.put k merged low) high

end

/-- The setting at the end of a path of keys. -/
def at? : List String → Setting → Option Setting
  | [], s => some s
  | k :: path, .group _ members =>
    match Assoc.get? k members with
    | some s => at? path s
    | none => none
  | _ :: _, _ => none

/-- What layers say together, the lowest first. -/
def mergeAll (layers : List Setting) : Setting := layers.foldl merge (.group .file [])

/-- The key under which a date or a time is kept. -/
def momentKey : String := "$__toml_private_datetime"

mutual

/-- A setting of the file. -/
def ofToml : Toml.Value → Setting
  | .bool b => .scalar .file (.bool b)
  | .int i => .scalar .file (.signed i)
  | .float d => .scalar .file (.float d)
  | .text s => .scalar .file (.text s)
  | .moment => .group .file [(momentKey, .scalar .file (.text ""))]
  | .list vs => .list .file (listOfToml vs)
  | .table ms => .group .file (membersOfToml ms)

def listOfToml : List Toml.Value → List Setting
  | [] => []
  | v :: vs => ofToml v :: listOfToml vs

def membersOfToml : List (String × Toml.Value) → List (String × Setting)
  | [] => []
  | (k, v) :: ms => (k, ofToml v) :: membersOfToml ms

end

end Setting

end SlotBroker
