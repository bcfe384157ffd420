import SlotBroker.Assoc

/-!
# Environments

The variables that a program is started with.
-/

namespace SlotBroker

/-- Variables and their values. No variable occurs twice. -/
abbrev Environment := Assoc String String

namespace Environment

/-- The environment after the given settings, one after another. -/
def ofSettings (ps : List (String × String)) : Environment :=
  ps.foldl (fun e p => Assoc.put p.1 p.2 e) []

def get? (e : Environment) (name : String) : Option String := Assoc.get? name e

end Environment

end SlotBroker
