import SlotBroker.Toml.Layout
import SlotBroker.Toml.Scalar

/-!
# TOML documents

A document is read line by line: a key with a value, the header of a table, or nothing but blanks
and a comment. Lists may go over several lines, tables in braces may not. A document with a fault
anywhere gives nothing at all.
-/

namespace SlotBroker.Toml

def skipBlanks (cs : List Char) : List Char := cs.dropWhile Text.isTabOrSpace

/-- What stands after a comment that has begun: the end of the line. -/
def skipComment (cs : List Char) : List Char := cs.dropWhile Text.isPlainChar

/-- The rest after the end of a line. -/
def afterLineEnd : List Char → Option (List Char)
  | [] => some []
  | '\n' :: cs => some cs
  | '\r' :: '\n' :: cs => some cs
  | _ => none

/-- The rest after what may follow a value or a header on its line. -/
def afterLine (cs : List Char) : Option (List Char) :=
  match skipBlanks cs with
  | '#' :: cs => afterLineEnd (skipComment cs)
  | cs => afterLineEnd cs

/-- Skip blanks, line ends and comments. Nothing is left of an input where this is impossible. -/
def skipLines : Bool → List Char → Option (List Char)
  | _, [] => some []
  | true, c :: cs =>
    if c = '\n' then skipLines false cs
    else if c = '\r' && cs.head? = some '\n' then skipLines false cs
    else if Text.isPlainChar c then skipLines true cs
    else some (c :: cs)
  | false, c :: cs =>
    if Text.isTabOrSpace c || c = '\n' then skipLines false cs
    else if c = '\r' then if cs.head? = some '\n' then skipLines false cs else none
    else if c = '#' then skipLines true cs
    else some (c :: cs)

/-! ## Keys -/

def isBareKeyChar (c : Char) : Bool := c.isAlphanum || c = '_' || c = '-'

/-- One part of a key. -/
def readKeyPart (cs : List Char) : Option (String × List Char) :=
  match cs with
  | '"' :: rest => (Text.readQuotedText rest).map fun p => (String.ofList p.1, p.2)
  | '\'' :: rest => (readLiteral rest).map fun p => (String.ofList p.1, p.2)
  | cs =>
    let name := cs.takeWhile isBareKeyChar
    if name.isEmpty then none else some (String.ofList name, cs.dropWhile isBareKeyChar)

/-- The parts of a key, of which there are fewer than the number says. -/
def readKeyParts : Nat → Reader (List String)
  | 0, _ => none
  | n + 1, cs => do
    let (k, rest) ← readKeyPart (skipBlanks cs)
    match skipBlanks rest with
    | '.' :: rest => (readKeyParts n rest).map fun p => (k :: p.1, p.2)
    | rest => some ([k], rest)

/-- The number of parts that a key must not reach, and of brackets that a value must not. -/
def depthLimit : Nat := 80

/-- The tables on the way to a key, and its last part. -/
def readKey : Reader (List String × String) := fun cs => do
  let (parts, rest) ← readKeyParts (depthLimit - 1) cs
  let key ← parts.getLast?
  some ((parts.dropLast, key), rest)

/-! ## Values -/

mutual

/-- A value with fewer than `depth` brackets around it. The first number bounds the steps. -/
def readValue : Nat → Nat → Reader Value
  | 0, _, _ => none
  | fuel + 1, depth, cs =>
    match cs with
    | '[' :: rest =>
      if depth ≤ 1 then none
      else (readItems fuel (depth - 1) rest).map fun p => (.list p.1, p.2)
    | '{' :: rest =>
      if depth ≤ 1 then none
      else
        match skipBlanks rest with
        | '}' :: rest => some (.table [], rest)
        | rest => (readMembers fuel (depth - 1) [] rest).map fun p => (.table (toMembers p.1), p.2)
    | cs => readScalar cs

/-- The items of a list up to its end. A comma may follow the last one. -/
def readItems : Nat → Nat → Reader (List Value)
  | 0, _, _ => none
  | fuel + 1, depth, cs => do
    let cs ← skipLines false cs
    if cs.head? = some ']' then some ([], cs.drop 1)
    else
      let (v, rest) ← readValue fuel depth cs
      let rest ← skipLines false rest
      match rest with
      | ',' :: rest => (readItems fuel depth rest).map fun p => (v :: p.1, p.2)
      | ']' :: rest => some ([v], rest)
      | _ => none

/-- The members of a table in braces up to its end. -/
def readMembers : Nat → Nat → Items → Reader Items
  | 0, _, _, _ => none
  | fuel + 1, depth, members, cs => do
    let ((path, key), rest) ← readKey cs
    let rest ← afterChar '=' rest
    let (v, rest) ← readValue fuel depth (skipBlanks rest)
    let members ← Items.set v key path members
    match skipBlanks rest with
    | ',' :: rest => readMembers fuel depth members rest
    | '}' :: rest => some (members, rest)
    | _ => none

end

/-! ## Lines -/

/-- A document as far as it has been read: its tables, and the path of the one that is open. -/
structure Draft where
  root : Items
  opened : List String

/-- A key with a value. -/
def readSetting (d : Draft) : Reader Draft := fun cs => do
  let ((path, key), rest) ← readKey cs
  let rest ← afterChar '=' rest
  let (v, rest) ← readValue (2 * cs.length + 2) depthLimit (skipBlanks rest)
  let root ← Items.change (Items.set v key path) d.opened d.root
  some ({ d with root := root }, rest)

/-- The header of a table, or of an element of a list of tables. -/
def readHeader (d : Draft) : Reader Draft
  | '[' :: '[' :: cs => do
    let ((path, key), rest) ← readKey cs
    let rest ← afterWord "]]" rest
    let root ← Items.change (Items.openElement key) path d.root
    some (⟨root, path ++ [key]⟩, rest)
  | '[' :: cs => do
    let ((path, key), rest) ← readKey cs
    let rest ← afterChar ']' rest
    let root ← Items.change (Items.openTable key) path d.root
    some (⟨root, path ++ [key]⟩, rest)
  | _ => none

/-- One line, or what stands in its place. -/
def readLine (d : Draft) (cs : List Char) : Option (Draft × List Char) :=
  match skipBlanks cs with
  | [] => some (d, [])
  | '\n' :: rest => some (d, rest)
  | '\r' :: rest => (afterLineEnd ('\r' :: rest)).map fun rest => (d, rest)
  | '#' :: rest => (afterLineEnd (skipComment rest)).map fun rest => (d, rest)
  | c :: rest => do
    let (d, rest) ← if c = '[' then readHeader d (c :: rest) else readSetting d (c :: rest)
    let rest ← afterLine rest
    some (d, rest)

/-- All lines. The number bounds the steps. -/
def readLines : Nat → Draft → List Char → Option Draft
  | _, d, [] => some d
  | 0, _, _ :: _ => none
  | fuel + 1, d, c :: cs =>
    match readLine d (c :: cs) with
    | none => none
    | some (d, rest) => readLines fuel d rest

/-- The text without a byte order mark in front. -/
def dropMark : List Char → List Char
  | '\uFEFF' :: cs => cs
  | cs => cs

/-- The members of a document. -/
def parse? (s : String) : Option (List (String × Value)) :=
  let cs := dropMark s.toList
  (readLines (cs.length + 1) ⟨[], []⟩ cs).map fun d => toMembers d.root

end SlotBroker.Toml
