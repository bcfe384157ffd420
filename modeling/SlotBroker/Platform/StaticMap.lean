import SlotBroker.Error
import SlotBroker.Json.Reader
import SlotBroker.Text.Bytes

/-!
# The static platform

A fixed map from locations to backends, read from a JSON object. The locations come in the order of
the object's members, and each is read as a location, so two members may name the same one; a
look-up then finds the first.
-/

namespace SlotBroker

structure StaticMap where
  entries : List (Location × BackendName)
  deriving DecidableEq, Repr, Inhabited

/-- Why a text is no static map. -/
inductive StaticMapError
  | json (fault : Json.Fault)
  | notAnObject
  | location (error : LocationError)
  | backend (location : Location)
  deriving DecidableEq, Repr

namespace StaticMapError

def message : StaticMapError → String
  | json _ => "invalid JSON"
  | notAnObject => "expected a JSON object of location -> backend"
  | location e => e.message
  | backend l => s!"backend for location '{l}' must be a non-empty string"

end StaticMapError

namespace StaticMap

/-- The name in a member's value, if it is a text that is not blank. -/
def backendOf? : Json → Option BackendName
  | .text s =>
    let b := BackendName.ofText s
    if b.isEmpty then none else some b
  | _ => none

def ofMembers : List (String × Json) → Except StaticMapError (List (Location × BackendName))
  | [] => .ok []
  | (key, value) :: ms =>
    match Location.parse key with
    | .error e => .error (.location e)
    | .ok l =>
      match backendOf? value with
      | none => .error (.backend l)
      | some b =>
        match ofMembers ms with
        | .ok es => .ok ((l, b) :: es)
        | .error e => .error e

def parse (s : String) : Except StaticMapError StaticMap :=
  match Json.Reader.document Json.Reader.value s with
  | .error f => .error (.json f)
  | .ok (.record ms) => (ofMembers ms).map StaticMap.mk
  | .ok _ => .error .notAnObject

def locations (m : StaticMap) : List Location := m.entries.map Prod.fst

def find? (l : Location) (m : StaticMap) : Option BackendName :=
  (m.entries.find? fun e => e.1 == l).map Prod.snd

def resolve (l : Location) (m : StaticMap) : Except BrokerError BackendName :=
  match m.find? l with
  | some b => .ok b
  | none => .error (.unknownLocation l)

/-- What is found where the file of the map should be. -/
inductive File
  | missing
  | unreadable (reason : String)
  | content (bytes : List UInt8)

/-- Why the file of a map gives no map. -/
inductive FileError
  | unreadable (path reason : String)
  | malformed (path : String) (error : StaticMapError)

namespace FileError

def message : FileError → String
  | unreadable path reason => s!"failed to read {path}: {reason}"
  | malformed path e => s!"{path}: {e.message}"

def toBrokerError (e : FileError) : BrokerError := .config e.message

end FileError

/-- The map in a file. A missing file is an empty map. -/
def ofFile (path : String) : File → Except FileError StaticMap
  | .missing => .ok ⟨[]⟩
  | .unreadable reason => .error (.unreadable path reason)
  | .content bytes =>
    match Text.ofBytes? bytes with
    | none => .error (.unreadable path "stream did not contain valid UTF-8")
    | some s =>
      match parse s with
      | .ok m => .ok m
      | .error e => .error (.malformed path e)

end StaticMap

end SlotBroker
