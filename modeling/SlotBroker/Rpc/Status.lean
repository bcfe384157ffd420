import SlotBroker.Error
import SlotBroker.Text.Quoted

/-!
# Statuses

A call that fails ends with a status: one of seventeen codes, a message and, if the failure is one
of the broker's own, a tag with its kind. The tag tells a failure of the broker from a failure on
the way to it. It travels as a header, so not every text can be a tag, and a tag with characters
beyond ASCII arrives but cannot be read.
-/

namespace SlotBroker

inductive Code
  | ok
  | cancelled
  | unknown
  | invalidArgument
  | deadlineExceeded
  | notFound
  | alreadyExists
  | permissionDenied
  | resourceExhausted
  | failedPrecondition
  | aborted
  | outOfRange
  | unimplemented
  | internal
  | unavailable
  | dataLoss
  | unauthenticated
  deriving DecidableEq, Repr, Inhabited

namespace Code

def name : Code → String
  | ok => "Ok"
  | cancelled => "Cancelled"
  | unknown => "Unknown"
  | invalidArgument => "InvalidArgument"
  | deadlineExceeded => "DeadlineExceeded"
  | notFound => "NotFound"
  | alreadyExists => "AlreadyExists"
  | permissionDenied => "PermissionDenied"
  | resourceExhausted => "ResourceExhausted"
  | failedPrecondition => "FailedPrecondition"
  | aborted => "Aborted"
  | outOfRange => "OutOfRange"
  | unimplemented => "Unimplemented"
  | internal => "Internal"
  | unavailable => "Unavailable"
  | dataLoss => "DataLoss"
  | unauthenticated => "Unauthenticated"

/-- All codes in the order of their numbers. -/
def all : List Code :=
  [ok, cancelled, unknown, invalidArgument, deadlineExceeded, notFound, alreadyExists,
    permissionDenied, resourceExhausted, failedPrecondition, aborted, outOfRange, unimplemented,
    internal, unavailable, dataLoss, unauthenticated]

/-- The code with a number; any other number means that nothing is known. -/
def ofNumber (n : Int) : Code :=
  match n with
  | .ofNat k => all[k]?.getD unknown
  | .negSucc _ => unknown

end Code

structure Status where
  code : Code
  message : String
  tag : Option String
  deriving DecidableEq, Repr, Inhabited

namespace Status

/-- A status without a tag. -/
def plain (code : Code) (message : String) : Status := ⟨code, message, none⟩

/-- A character that can stand in a header. -/
def isHeaderChar (c : Char) : Bool := c = '\t' || (32 ≤ c.toNat && c.toNat ≠ 127)

/-- A text that can be a tag. -/
def isTag (s : String) : Bool := s.toList.all isHeaderChar

/-- The tag, if it can be read. -/
def readableTag (s : Status) : Option String :=
  s.tag.filter fun t => t.toList.all fun c => c.toNat < 127

/-- The code and the message of a status. -/
def render (s : Status) : String := s!"status: {s.code.name}, message: {Text.quoted s.message}"

end Status

namespace BackendErrorKind

def code : BackendErrorKind → Code
  | load => .unavailable
  | attach => .unavailable
  | detach => .unavailable
  | invalidHandle => .notFound
  | unsupported => .unimplemented
  | unload => .internal

end BackendErrorKind

namespace BrokerError

def code : BrokerError → Code
  | unknownLocation _ => .notFound
  | unknownOid _ => .notFound
  | invalidArgument _ => .invalidArgument
  | locationBusy _ _ => .failedPrecondition
  | config _ => .failedPrecondition
  | probe _ => .unavailable
  | shuttingDown => .unavailable
  | backend e => e.kind.code
  | io _ => .internal
  | shutdownFailed _ => .internal

/-- What a status says of a failure: its message, or the messages of all causes of a failed
shutdown. -/
def statusMessage : BrokerError → String
  | shutdownFailed causes => "Shutdown failed: " ++ "; ".intercalate (causes.map message)
  | e => e.message

/-- The status of a failure, tagged with its kind. -/
def toStatus (e : BrokerError) : Status := ⟨e.code, e.statusMessage, some e.kind⟩

end BrokerError

end SlotBroker
