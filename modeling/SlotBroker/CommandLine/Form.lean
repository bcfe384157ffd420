import SlotBroker.CommandLine.Basic

/-!
# Forms

A form says which options and which operands a command takes. The words after a command are read
from the left. A value is put down only when the next option or operand begins or the words end, and
the first fault ends the reading; but a word that has no place at all is told before a fault in the
value that is still to be put down.

An option stands as `--name value` or `--name=value` and at most once. After two dashes by
themselves every word is an operand.
-/

namespace SlotBroker

/-- What a word of a command line looks like. -/
inductive WordShape
  | marker
  | long (name : String) (value : Option String)
  | short (letter : Char)
  | plain
  deriving DecidableEq, Repr

def WordShape.ofWord (w : String) : WordShape :=
  match w.toList with
  | ['-', '-'] => marker
  | '-' :: '-' :: cs =>
    let name := cs.takeWhile (· != '=')
    long (String.ofList name)
      (if cs.contains '=' then some (String.ofList (cs.drop (name.length + 1))) else none)
  | '-' :: c :: _ => short c
  | _ => plain

/-- Something that a command takes, and how it is put down among what was taken before. -/
structure Parameter (σ : Type) where
  name : String
  about : String
  take : String → σ → Except UsageError σ

/-- A parameter of which the values have to be read. -/
def Parameter.ofReader {σ α : Type} (name about : String) (read : String → Except ValueFault α)
    (set : α → σ → σ) : Parameter σ :=
  ⟨name, about, fun v s =>
    match read v with
    | .ok a => .ok (set a s)
    | .error fault => .error (.badValue v name fault)⟩

/-- What a command takes. The options are found by their long names. -/
structure Form (σ : Type) where
  options : List (String × Parameter σ)
  operands : List (Parameter σ)

/-- Why the words of a command are not read to their end. -/
inductive Halt
  | help
  | fault (e : UsageError)
  deriving DecidableEq, Repr

namespace Form

variable {σ : Type}

def helpName : String := "help"

/-- How far the words have been read. -/
structure Progress (σ : Type) where
  taken : σ
  /-- The names of the parameters that were taken. -/
  given : List String
  /-- The parameter that is to be put down next, and its value if that was there. -/
  pending : Option (Parameter σ × Option String)
  operands : List (Parameter σ)
  /-- Every further word is an operand. -/
  literal : Bool

namespace Progress

/-- Put down the parameter that waits for it. -/
def settle (p : Progress σ) : Except UsageError (Progress σ) :=
  match p.pending with
  | none => .ok p
  | some (q, none) => .error (.missingValue q.name)
  | some (q, some v) =>
    if p.given.contains q.name then .error (.repeated q.name)
    else
      match q.take v p.taken with
      | .error e => .error e
      | .ok s => .ok { p with taken := s, given := q.name :: p.given, pending := none }

/-- Put down what waits for it, and go on. -/
def settleThen (p : Progress σ) (next : Progress σ → Except UsageError (Progress σ)) :
    Except Halt (Progress σ) :=
  match p.settle with
  | .error e => .error (.fault e)
  | .ok p =>
    match next p with
    | .error e => .error (.fault e)
    | .ok p => .ok p

/-- Put down what waits for it, then show the help. -/
def settleForHelp (p : Progress σ) : Except Halt (Progress σ) :=
  match p.settle with
  | .error e => .error (.fault e)
  | .ok _ => .error .help

/-- A word that is an operand. -/
def operand (w : String) (p : Progress σ) : Except Halt (Progress σ) :=
  match p.operands with
  | [] => .error (.fault (.unexpected w))
  | q :: qs => p.settleThen fun p => .ok { p with pending := some (q, some w), operands := qs }

end Progress

/-- Read an option. A value in the same word is put down at once. -/
def readOption (f : Form σ) (name : String) (value : Option String) (p : Progress σ) :
    Except Halt (Progress σ) :=
  match f.options.find? fun o => o.1 == name with
  | none => .error (.fault (.unexpected ("--" ++ name)))
  | some (_, q) =>
    p.settleThen fun p =>
      let p := { p with pending := some (q, value) }
      if value.isSome then p.settle else .ok p

/-- Read one word. -/
def readWord (f : Form σ) (w : String) (p : Progress σ) : Except Halt (Progress σ) :=
  if p.literal then p.operand w
  else
    match WordShape.ofWord w with
    | .marker => .ok { p with literal := true }
    | .long name value =>
      if name = helpName then
        match value with
        | some v => .error (.fault (.surplusValue v ("--" ++ helpName)))
        | none => p.settleForHelp
      else f.readOption name value p
    | .short c =>
      if c = 'h' then p.settleForHelp
      else .error (.fault (.unexpected (String.ofList ['-', c])))
    | .plain =>
      match p.pending with
      | some (q, none) => .ok { p with pending := some (q, some w) }
      | _ => p.operand w

def readWords (f : Form σ) : List String → Progress σ → Except Halt (Progress σ)
  | [], p => .ok p
  | w :: ws, p =>
    match f.readWord w p with
    | .error h => .error h
    | .ok p => readWords f ws p

/-- Read all words after a command. No operand may be missing. -/
def read (f : Form σ) (start : σ) (ws : List String) : Except Halt σ :=
  match f.readWords ws ⟨start, [], none, f.operands, false⟩ with
  | .error h => .error h
  | .ok p =>
    match p.settle with
    | .error e => .error (.fault e)
    | .ok p =>
      if p.operands.isEmpty then .ok p.taken
      else .error (.fault (.missingArguments (p.operands.map Parameter.name)))

end Form

end SlotBroker
