import SlotBroker.Client.Address
import SlotBroker.Net.Ip
import SlotBroker.Oid

/-!
# Command lines

What the program can be told: to be a broker, or to ask one for something. The faults that a command
line can have are told by what is wrong with it.
-/

namespace SlotBroker

/-- What a broker is asked for. -/
inductive Command
  | list
  | create (text : String)
  | remove (oid : Oid)
  | info (oid : Oid)
  | sessions
  | resetDiscovery
  | broker
  deriving DecidableEq, Repr

/-- What a broker is told on the command line. -/
structure DaemonOptions where
  /-- The file of the configuration. -/
  config : String
  port : Option UInt16
  bind : Option Net.Ip
  /-- The program of the probe. -/
  probe : Option String
  deriving DecidableEq

namespace DaemonOptions

/-- Where the configuration lies if nothing is said. -/
def standardConfig : String := "config/broker.toml"

def standard : DaemonOptions := ⟨standardConfig, none, none, none⟩

end DaemonOptions

inductive Invocation
  | daemon (o : DaemonOptions)
  /-- Ask the broker at an address, or at the one that the environment names. -/
  | client (c : Command) (address : Option Address)
  deriving DecidableEq

/-- Why a word is not the value that it should be. -/
inductive ValueFault
  | oid (e : OidError)
  | address (e : ClientError)
  | numeral (e : Text.NumeralError)
  | port (n : Int)
  | ip
  deriving DecidableEq, Repr

namespace ValueFault

def message : ValueFault → String
  | oid e => e.message
  | address e => e.message
  | numeral e => e.message
  | port n => s!"{Text.signedDecimal n} is not in 0..={Text.decimal (UInt16.size - 1)}"
  | ip => "invalid IP address syntax"

end ValueFault

/-- What is wrong with a command line. Parameters are told by the names they are shown under. -/
inductive UsageError
  | unknownCommand (word : String)
  | unexpected (word : String)
  | missingArguments (names : List String)
  | missingValue (name : String)
  | repeated (name : String)
  | surplusValue (value name : String)
  | badValue (value name : String) (fault : ValueFault)
  deriving DecidableEq, Repr

namespace UsageError

def message : UsageError → String
  | unknownCommand w => s!"unrecognized subcommand '{w}'"
  | unexpected w => s!"unexpected argument '{w}' found"
  | missingArguments names =>
    "the following required arguments were not provided:"
      ++ String.join (names.map fun n => "\n  " ++ n)
  | missingValue name => s!"a value is required for '{name}' but none was supplied"
  | repeated name => s!"the argument '{name}' cannot be used multiple times"
  | surplusValue value name =>
    s!"unexpected value '{value}' for '{name}' found; no more were expected"
  | badValue value name fault => s!"invalid value '{value}' for '{name}': {fault.message}"

end UsageError

end SlotBroker
