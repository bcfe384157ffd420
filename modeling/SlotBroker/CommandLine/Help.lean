import SlotBroker.Finish
import SlotBroker.CommandLine.Reading

/-!
# Help on the command line

What is shown when help is asked for, when a command is missing, and after a fault.
-/

namespace SlotBroker

def Verb.about : Verb → String
  | list => "Enumerate modules and their backends"
  | create => "Create a session for a location"
  | remove => "Remove a session"
  | info => "Show one session"
  | sessions => "Show all live sessions"
  | resetDiscovery => "Drop cached discovery results"
  | broker => "Show broker identity and health"

namespace Place

def about : Place → String
  | program => "Multiplexes transponder modules onto vendor backends"
  | daemon => "Start the broker daemon"
  | client => "Talk to a running daemon"
  | verb v => v.about
  | help _ => "Print this message or the help of the given subcommand(s)"

def programName : String := "module-broker"

/-- The words that lead to a place. -/
def path : Place → String
  | program => programName
  | daemon => programName ++ " daemon"
  | client => programName ++ " client"
  | verb v => programName ++ " client " ++ v.label
  | help p => p.path ++ " help"

/-- What may follow the path. -/
def usage (p : Place) : String :=
  "Usage: " ++ p.path ++
    match p with
    | program => " <COMMAND>"
    | client => " <COMMAND>"
    | daemon => " [OPTIONS]"
    | verb v => " [OPTIONS]" ++ String.join (v.operands.map fun q => " " ++ q.name)
    | help _ => " [COMMAND]..."

/-- The operands and what they mean. -/
def operandRows : Place → List (String × String)
  | verb v => v.operands.map fun q => (q.name, q.about)
  | help _ => [("[COMMAND]...", "Print help for the subcommand(s)")]
  | _ => []

/-- The options and what they mean. -/
def optionRows [Net.DomainNames] (p : Place) : List (String × String) :=
  let named := match p with
    | daemon => daemonForm.options.map fun o => ("    " ++ o.2.name, o.2.about)
    | verb v => v.form.options.map fun o => ("    " ++ o.2.name, o.2.about)
    | _ => []
  match p with
  | help _ => []
  | _ => named ++ [("-h, --help", "Print help")]

/-- A table with a heading, if it has any rows. -/
def table (heading : String) (rows : List (String × String)) : String :=
  let width := (rows.map fun r => r.1.length).foldl max 0
  let row (r : String × String) : String :=
    "  " ++ r.1 ++ String.ofList (List.replicate (width - r.1.length + 2) ' ') ++ r.2 ++ "\n"
  if rows.isEmpty then "" else "\n" ++ heading ++ ":\n" ++ String.join (rows.map row)

def helpPage [Net.DomainNames] (p : Place) : String :=
  p.about ++ "\n\n" ++ p.usage ++ "\n"
    ++ table "Commands" (p.children.map fun c => (c.1, c.2.about))
    ++ table "Arguments" p.operandRows ++ table "Options" p.optionRows

end Place

namespace Stop

/-- The end of a program whose command line is not carried out. Only help that was asked for is no
failure. -/
def finish [Net.DomainNames] : Stop → Finish
  | help p => .success p.helpPage
  | noCommand p => ⟨2, "", p.helpPage⟩
  | usage p e =>
    ⟨2, "", "error: " ++ e.message ++ "\n\n" ++ p.usage
      ++ "\n\nFor more information, try '--help'.\n"⟩

end Stop

end SlotBroker
