import SlotBroker.Text.Numeral

/-!
# How a program ends

A program ends with a number and with what it printed on its two outputs. A program that fails tells
what failed and, below, what that was caused by.
-/

namespace SlotBroker

structure Finish where
  exit : Nat
  stdout : String
  stderr : String
  deriving DecidableEq, Repr, Inhabited

namespace Finish

/-- Everything went well. -/
def success (stdout : String) : Finish := ⟨0, stdout, ""⟩

/-- The same with something printed on the other output before. -/
def after (stderr : String) (f : Finish) : Finish := { f with stderr := stderr ++ f.stderr }

end Finish

/-- Why a program fails: a message, and its causes from the nearest on. -/
structure Failure where
  message : String
  causes : List String
  deriving DecidableEq, Repr, Inhabited

namespace Failure

def plain (message : String) : Failure := ⟨message, []⟩

/-- A cause with its lines set in, the first one after a heading. -/
def indent (heading margin cause : String) : String :=
  heading ++ ("\n" ++ margin).intercalate (cause.splitOn "\n")

/-- The causes, counted if there are more than one. -/
def causeLines : List String → List String
  | [] => []
  | [c] => [indent "    " "    " c]
  | cs => cs.zipIdx.map fun c => indent ("    " ++ Text.decimal c.2 ++ ": ") "       " c.1

def report (f : Failure) : String :=
  let causes := match f.causes with
    | [] => ""
    | cs => "\n\nCaused by:\n" ++ "\n".intercalate (causeLines cs)
  "Error: " ++ f.message ++ causes ++ "\n"

/-- The end of a program that fails at its work. -/
def finish (f : Failure) : Finish := ⟨1, "", f.report⟩

end Failure

end SlotBroker
