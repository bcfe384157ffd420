import SlotBroker.Config.Setting
import SlotBroker.Environment
import SlotBroker.Text.Blank
import SlotBroker.Text.Escaped

/-!
# Settings in variables

A variable of the environment holds one value: a truth value, a number, a quoted text, a letter in
apostrophes, a list in brackets or a group in braces. A text that is none of these, or is not one
whole value, is meant literally. A variable sets a key if it is the variable of that key, or if its
name spells the key out after `MODULE_BROKER_`, with two underscores between the parts of the key.
-/

namespace SlotBroker.Setting

/-! ## Values -/

def isSeparator (c : Char) : Bool := c = ',' || c = '{' || c = '}' || c = '[' || c = ']'

def isAsciiBlank (c : Char) : Bool :=
  c = ' ' || c = '\t' || c = '\n' || c = '\r' || c = '\x0c'

def skipAsciiBlanks (cs : List Char) : List Char := cs.dropWhile isAsciiBlank

/-- A whole number of 64 bits. -/
def readWhole (cs : List Char) : Option Scalar :=
  match Text.readNat 10 UInt64.size cs with
  | .ok n => some (.unsigned n)
  | .error _ =>
    match cs with
    | '-' :: d :: ds =>
      match Text.readDigits 10 (Text.signedLimit + 1) 0 (d :: ds) with
      | .ok n => some (.signed (-n))
      | .error _ => none
    | _ => none

/-- A value without quotes: a number if it can be read as one. -/
def readPlain (cs : List Char) : Scalar :=
  let word := Text.trim cs
  match if word.contains '.' then Decimal.Double.parse? word else none with
  | some d => .float d
  | none => (readWhole word).getD (.text (String.ofList word))

def isKeyChar (c : Char) : Bool := c.isAlphanum || c = '_' || c = '-'

/-- A key of a group, quoted or not. -/
def readKey (cs : List Char) : Option (String × List Char) :=
  match cs with
  | '"' :: rest => (Text.readQuotedText rest).map fun p => (String.ofList p.1, p.2)
  | cs =>
    let name := cs.takeWhile isKeyChar
    if name.isEmpty then none else some (String.ofList name, cs.dropWhile isKeyChar)

/-- A value that is no list and no group. -/
def readScalar (cs : List Char) : Option (Scalar × List Char) :=
  match cs with
  | 't' :: 'r' :: 'u' :: 'e' :: rest => some (.bool true, rest)
  | 'f' :: 'a' :: 'l' :: 's' :: 'e' :: rest => some (.bool false, rest)
  | '"' :: rest => (Text.readQuotedText rest).map fun p => (.text (String.ofList p.1), p.2)
  | '\'' :: c :: '\'' :: rest => some (.letter c, rest)
  | '\'' :: _ => none
  | cs =>
    some (readPlain (cs.takeWhile fun c => !isSeparator c), cs.dropWhile fun c => !isSeparator c)

mutual

/-- A value with the blanks around it. The number bounds the steps. -/
def readValue (layer : Layer) : Nat → List Char → Option (Setting × List Char)
  | 0, _ => none
  | fuel + 1, cs =>
    let read : Option (Setting × List Char) :=
      match skipAsciiBlanks cs with
      | '[' :: rest => (readItems layer fuel rest).map fun p => (.list layer p.1, p.2)
      | '{' :: rest => (readMembers layer fuel [] rest).map fun p => (.group layer p.1, p.2)
      | cs => (readScalar cs).map fun p => (.scalar layer p.1, p.2)
    read.map fun p => (p.1, skipAsciiBlanks p.2)

/-- The items of a list up to its end. -/
def readItems (layer : Layer) : Nat → List Char → Option (List Setting × List Char)
  | 0, _ => none
  | fuel + 1, cs =>
    if cs.head? = some ']' then some ([], cs.drop 1)
    else
      match readValue layer fuel cs with
      | some (v, ',' :: rest) => (readItems layer fuel rest).map fun p => (v :: p.1, p.2)
      | some (v, ']' :: rest) => some ([v], rest)
      | _ => none

/-- The members of a group up to its end. The last of several with one key counts. -/
def readMembers (layer : Layer) :
    Nat → Assoc String Setting → List Char → Option (Assoc String Setting × List Char)
  | 0, _, _ => none
  | fuel + 1, members, cs =>
    if cs.head? = some '}' then some (members, cs.drop 1)
    else
      match readKey (skipAsciiBlanks cs) with
      | none => none
      | some (k, rest) =>
        match skipAsciiBlanks rest with
        | '=' :: rest =>
          match readValue layer fuel rest with
          | some (v, ',' :: rest) => readMembers layer fuel (Assoc.put k v members) rest
          | some (v, '}' :: rest) => some (Assoc.put k v members, rest)
          | _ => none
        | _ => none

end

/-- What the value of a variable means. -/
def ofVariable (layer : Layer) (s : String) : Setting :=
  match readValue layer (2 * s.length + 2) s.toList with
  | some (v, []) => v
  | _ => .scalar layer (.text s)

/-! ## Names -/

/-- What the names of variables that spell out a key start with. -/
def variablePrefix : String := "MODULE_BROKER_"

/-- Two underscores as one point, from left to right. -/
def pointed : List Char → List Char
  | '_' :: '_' :: cs => '.' :: pointed cs
  | c :: cs => c :: pointed cs
  | [] => []

/-- The key that a name spells out, if it does. No part of a key is empty. -/
def keyOfVariable? (name : String) : Option (List String) :=
  let lowered := (Text.lowerAscii (Text.trimmed name)).toList
  let start := (Text.lowerAscii variablePrefix).toList
  if start.isPrefixOf lowered then
    let parts := (pointed (lowered.drop start.length)).splitOn '.'
    if parts.any List.isEmpty then none else some (parts.map String.ofList)
  else none

/-- The variables with names of their own, and their keys. -/
def aliases : List (String × List String) :=
  [("TAI_MUX_EXEC_SCRIPT", ["platform", "probe_path"]),
    ("TAI_MUX_STATIC_CONFIG_FILE", ["platform", "static_config"]),
    ("TAI_MUX_PLATFORM_ADAPTER", ["platform", "adapter"])]

/-- The settings of all variables that name a key. -/
def ofEnvironment (layer : Layer) (key? : String → Option (List String)) (env : Environment) :
    Setting :=
  mergeAll (env.filterMap fun (name, value) =>
    (key? name).map (nest layer (ofVariable layer value)))

/-- The settings of the variable with a name of its own. -/
def ofAlias (name : String) (key : List String) (env : Environment) : Setting :=
  ofEnvironment .alias
    (fun n => if Text.lowerAscii (Text.trimmed n) = Text.lowerAscii name then some key else none)
    env

/-- The layers above the file, the lowest first. -/
def environmentLayers (env : Environment) : List Setting :=
  aliases.map (fun a => ofAlias a.1 a.2 env) ++ [ofEnvironment .variables keyOfVariable? env]

end SlotBroker.Setting
