import SlotBroker.Text.Blank

/-!
# Vendor backends

A backend is the vendor library that drives the modules of some slots. It is known by name, gives
out handles for the modules it has attached, and fails with an error of one of six kinds.
-/

namespace SlotBroker

/-- The name of a vendor library. -/
structure BackendName where
  text : String
  deriving DecidableEq, Hashable, Repr, Inhabited

namespace BackendName

/-- The name in a text: the text without the blanks around it. -/
def ofText (s : String) : BackendName := ⟨Text.trimmed s⟩

def isEmpty (b : BackendName) : Bool := b.text.isEmpty

instance : ToString BackendName := ⟨BackendName.text⟩

end BackendName

/-- What a backend calls a module that it has attached. -/
structure Handle where
  id : UInt64
  deriving DecidableEq, Hashable, Repr, Inhabited

/-- What a backend was doing when it failed. -/
inductive BackendErrorKind
  | load
  | attach
  | detach
  | invalidHandle
  | unsupported
  | unload
  deriving DecidableEq, Repr, Inhabited

namespace BackendErrorKind

def label : BackendErrorKind → String
  | load => "load"
  | attach => "attach"
  | detach => "detach"
  | invalidHandle => "invalid_handle"
  | unsupported => "unsupported"
  | unload => "unload"

def ofLabel? : String → Option BackendErrorKind
  | "load" => some load
  | "attach" => some attach
  | "detach" => some detach
  | "invalid_handle" => some invalidHandle
  | "unsupported" => some unsupported
  | "unload" => some unload
  | _ => none

end BackendErrorKind

/-- A failure of a backend, under the name the backend was asked for. -/
structure BackendError where
  backend : String
  kind : BackendErrorKind
  detail : String
  deriving DecidableEq, Repr, Inhabited

namespace BackendError

def message (e : BackendError) : String :=
  s!"Backend '{e.backend}' {e.kind.label} error: {e.detail}"

/-- No factory serves the name. -/
def unsupported (name : BackendName) : BackendError :=
  ⟨name.text, .unsupported, "no backend factory registered for this library"⟩

end BackendError

end SlotBroker
