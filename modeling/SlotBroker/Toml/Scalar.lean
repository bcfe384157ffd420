import SlotBroker.Text.Escaped
import SlotBroker.Toml.Value

/-!
# Single TOML values

Words, numbers, dates and texts. Each is read from the front of the input, and what follows it is
left to the reader of the line.
-/

namespace SlotBroker.Toml

/-- Takes a value from the front of the input. -/
abbrev Reader (α : Type) := List Char → Option (α × List Char)

/-- The rest after a word. -/
def afterWord (word : String) (cs : List Char) : Option (List Char) :=
  if word.toList.isPrefixOf cs then some (cs.drop word.length) else none

/-! ## Numbers -/

/-- Characters of a kind, each underscore among them followed by another one. -/
def moreDigits (isDigit : Char → Bool) : Reader (List Char)
  | [] => some ([], [])
  | [c] => if c = '_' then none else if isDigit c then some ([c], []) else some ([], [c])
  | c :: d :: cs =>
    if c = '_' then if isDigit d then moreDigits isDigit (d :: cs) else none
    else if isDigit c then (moreDigits isDigit (d :: cs)).map fun p => (c :: p.1, p.2)
    else some ([], c :: d :: cs)

/-- At least one digit of a kind, with underscores between the digits. -/
def readDigits (isDigit : Char → Bool) : Reader (List Char)
  | [] => none
  | c :: cs => if isDigit c then moreDigits isDigit (c :: cs) else none

/-- The digits of a whole number in decimal: no zero stands before another digit. -/
def readWhole : Reader (List Char)
  | '0' :: cs => some (['0'], cs)
  | cs => readDigits Char.isDigit cs

/-- The point and the digits after it, if there are any. -/
def readFraction : Reader (List Char)
  | '.' :: cs => (readDigits Char.isDigit cs).map fun p => ('.' :: p.1, p.2)
  | cs => some ([], cs)

/-- The exponent, if there is one. -/
def readExponent : Reader (List Char)
  | [] => some ([], [])
  | c :: cs =>
    if c = 'e' || c = 'E' then
      let s := match cs with
        | '+' :: rest => (['+'], rest)
        | '-' :: rest => (['-'], rest)
        | rest => ([], rest)
      (readDigits Char.isDigit s.2).map fun p => ('e' :: (s.1 ++ p.1), p.2)
    else some ([], c :: cs)

def valueOfDigits (base : Nat) (ds : List Char) : Nat :=
  ds.foldl (fun n c => n * base + (Text.digitOf base c).getD 0) 0

/-- A whole number of 64 bits. -/
def intOf? (i : Int) : Option Value :=
  let limit : Int := Text.signedLimit
  if -limit ≤ i ∧ i < limit then some (.int i) else none

/-- A number in decimal without its sign. Above all doubles there is no number. -/
def readDecimal (negative : Bool) : Reader Value := fun cs => do
  let (whole, rest) ← readWhole cs
  let (fraction, rest) ← readFraction rest
  let (exponent, rest) ← readExponent rest
  if fraction.isEmpty && exponent.isEmpty then
    let n : Int := valueOfDigits 10 whole
    let v ← intOf? (if negative then -n else n)
    some (v, rest)
  else
    let d ← Decimal.Double.parse? (whole ++ fraction ++ exponent)
    if d.magnitude = .infinite && !negative then none
    else some (.float { d with negative := negative }, rest)

/-- A number in another base. -/
def readInBase (base : Nat) : Reader Value := fun cs => do
  let (ds, rest) ← readDigits (fun c => (Text.digitOf base c).isSome) cs
  let v ← intOf? (valueOfDigits base ds)
  some (v, rest)

/-- A number after its sign. -/
def readUnsigned (negative : Bool) (cs : List Char) : Option (Value × List Char) :=
  match afterWord "inf" cs, afterWord "nan" cs with
  | some rest, _ => some (.float ⟨negative, .infinite⟩, rest)
  | none, some rest => some (.float ⟨negative, .undefined⟩, rest)
  | none, none => readDecimal negative cs

def readNumber : Reader Value
  | '+' :: cs => readUnsigned false cs
  | '-' :: cs => readUnsigned true cs
  | '0' :: 'x' :: cs => readInBase 16 cs
  | '0' :: 'o' :: cs => readInBase 8 cs
  | '0' :: 'b' :: cs => readInBase 2 cs
  | cs => readUnsigned false cs

/-! ## Dates and times -/

/-- A number of exactly that many digits within bounds. -/
def readField (width low high : Nat) : Reader Nat := fun cs =>
  let ds := cs.take width
  let n := valueOfDigits 10 ds
  if ds.length = width && ds.all Char.isDigit && low ≤ n && n ≤ high then some (n, cs.drop width)
  else none

/-- The rest after a certain character. -/
def afterChar (c : Char) : List Char → Option (List Char)
  | [] => none
  | d :: cs => if d = c then some cs else none

def daysIn (year month : Nat) : Nat :=
  if month = 2 then
    if year % 4 = 0 ∧ (year % 100 ≠ 0 ∨ year % 400 = 0) then 29 else 28
  else if month = 4 ∨ month = 6 ∨ month = 9 ∨ month = 11 then 30
  else 31

/-- The rest after a date. -/
def afterDate (cs : List Char) : Option (List Char) := do
  let (year, cs) ← readField 4 0 9999 cs
  let cs ← afterChar '-' cs
  let (month, cs) ← readField 2 1 12 cs
  let cs ← afterChar '-' cs
  let (_, cs) ← readField 2 1 (daysIn year month) cs
  some cs

/-- The rest after a time of day. The last second may be a leap second. -/
def afterTime (cs : List Char) : Option (List Char) := do
  let (_, cs) ← readField 2 0 23 cs
  let cs ← afterChar ':' cs
  let (_, cs) ← readField 2 0 59 cs
  let cs ← afterChar ':' cs
  let (_, cs) ← readField 2 0 60 cs
  match cs with
  | '.' :: d :: rest =>
    if d.isDigit then some (rest.dropWhile Char.isDigit) else some cs
  | _ => some cs

/-- The rest after the distance from universal time, if one is given. -/
def afterOffset (cs : List Char) : Option (List Char) :=
  match cs with
  | [] => some []
  | c :: rest =>
    if c = 'Z' || c = 'z' then some rest
    else if c = '+' || c = '-' then do
      let (_, cs) ← readField 2 0 23 rest
      let cs ← afterChar ':' cs
      let (_, cs) ← readField 2 0 59 cs
      some cs
    else some cs

/-- The rest after a date, a time or both, if there is one at the front. -/
def afterMoment (cs : List Char) : Option (List Char) :=
  match afterDate cs with
  | none => afterTime cs
  | some rest =>
    match rest with
    | [] => some []
    | c :: tail =>
      if c = 'T' || c = 't' || c = ' ' then
        match afterTime tail with
        | some cs => afterOffset cs
        | none => some rest
      else some rest

/-! ## Texts -/

/-- The text without the carriage returns that stand before line feeds. -/
def joinReturns : List Char → List Char
  | '\r' :: '\n' :: cs => '\n' :: joinReturns cs
  | c :: cs => c :: joinReturns cs
  | [] => []

/-- What stands before three quotes of a kind in a row, and what stands after them. Up to two more
quotes before them belong to the text. `escaped` tells that the next character follows a backslash,
which matters only between double quotes. -/
def splitAtThree (quote : Char) : Bool → List Char → Option (List Char × List Char)
  | _, [] => none
  | escaped, c :: cs =>
    if !escaped && c = quote && cs.take 2 = [quote, quote] then
      let after := cs.drop 2
      let extra := ((after.take 2).takeWhile (· == quote)).length
      some (after.take extra, after.drop extra)
    else
      let next := !escaped && c = '\\' && quote = '"'
      (splitAtThree quote next cs).map fun p => (c :: p.1, p.2)

/-- A line feed directly after the opening quotes does not count. -/
def dropFirstNewline : List Char → List Char
  | '\n' :: cs => cs
  | '\r' :: '\n' :: cs => cs
  | cs => cs

/-- What stands before the next apostrophe, and what stands after it. -/
def splitAtApostrophe : List Char → Option (List Char × List Char)
  | [] => none
  | c :: cs =>
    if c = '\'' then some ([], cs) else (splitAtApostrophe cs).map fun p => (c :: p.1, p.2)

/-- A text on one line, without escapes. -/
def readLiteral : Reader (List Char) := fun cs => do
  let (inside, rest) ← splitAtApostrophe cs
  if inside.all Text.isPlainChar then some (inside, rest) else none

def readLiteralLines : Reader (List Char) := fun cs => do
  let (inside, rest) ← splitAtThree '\'' false (dropFirstNewline cs)
  let text := joinReturns inside
  if text.all fun c => Text.isPlainChar c || c = '\n' then some (text, rest) else none

def readQuotedLines : Reader (List Char) := fun cs => do
  let (inside, rest) ← splitAtThree '"' false (dropFirstNewline cs)
  let text ← Text.unescapeLines (joinReturns inside)
  some (text, rest)

/-- A text in one of its four forms. -/
def readText : Reader String := fun cs =>
  let r := match cs with
    | '"' :: '"' :: '"' :: rest => readQuotedLines rest
    | '"' :: rest => Text.readQuotedText rest
    | '\'' :: '\'' :: '\'' :: rest => readLiteralLines rest
    | '\'' :: rest => readLiteral rest
    | _ => none
  r.map fun p => (String.ofList p.1, p.2)

/-- A value that is no list and no table. -/
def readScalar : Reader Value
  | [] => none
  | c :: cs =>
    if c = '"' || c = '\'' then (readText (c :: cs)).map fun p => (.text p.1, p.2)
    else if c = 't' then (afterWord "true" (c :: cs)).map fun rest => (.bool true, rest)
    else if c = 'f' then (afterWord "false" (c :: cs)).map fun rest => (.bool false, rest)
    else
      match afterMoment (c :: cs) with
      | some rest => some (.moment, rest)
      | none => readNumber (c :: cs)

end SlotBroker.Toml
