import SlotBroker.Assoc
import SlotBroker.Json.Value

/-!
# Reading JSON

JSON is read from left to right by what is wanted: a reader for a text, a number, a list or a
record takes its value from the front of the input, or stops at the first fault. There are three
faults: the input is no JSON (`syntaxFault`), it ends too early (`eof`), or it is JSON so far and of
the wrong shape (`data`).

What is wanted decides how far the input is looked at. A value of the wrong kind is a `data` fault
as soon as its first token is read, and a list or record in the wrong place is one at its opening
bracket. A record may also be given as the list of its members.
-/

namespace SlotBroker.Json

inductive Fault
  | syntaxFault
  | data
  | eof
  deriving DecidableEq, Repr

/-- Takes a value from the front of the input. -/
abbrev Reader (α : Type) := List Char → Except Fault (α × List Char)

namespace Reader

def isJsonBlank (c : Char) : Bool := c == ' ' || c == '\n' || c == '\t' || c == '\r'

def skipBlanks (cs : List Char) : List Char := cs.dropWhile isJsonBlank

/-! ## Words and texts -/

/-- The letters of a word that has begun. -/
def readWord : List Char → Reader Unit
  | [], cs => .ok ((), cs)
  | _ :: _, [] => .error .eof
  | w :: ws, c :: cs => if c = w then readWord ws cs else .error .syntaxFault

/-- Where the reading of a quoted text stands. -/
inductive TextState
  | plain
  | escape
  | hex (left value : Nat) (high : Option Nat)
  | wantEscape (high : Nat)
  | wantUnit (high : Nat)

/-- There are four more bytes for a unit written in hexadecimal. -/
def hasFourBytes (cs : List Char) : Bool :=
  4 ≤ (String.ofList (cs.take 4)).utf8ByteSize

def simpleEscape? : Char → Option Char
  | '"' => some '"'
  | '\\' => some '\\'
  | '/' => some '/'
  | 'b' => some '\x08'
  | 'f' => some '\x0c'
  | 'n' => some '\n'
  | 'r' => some '\r'
  | 't' => some '\t'
  | _ => none

/-- Put a character in front of what follows. -/
def prepend (c : Char) (r : Except Fault (List Char × List Char)) :
    Except Fault (List Char × List Char) :=
  match r with
  | .ok (t, rest) => .ok (c :: t, rest)
  | .error f => .error f

def isHighSurrogate (n : Nat) : Bool := 0xD800 ≤ n && n ≤ 0xDBFF

def isLowSurrogate (n : Nat) : Bool := 0xDC00 ≤ n && n ≤ 0xDFFF

/-- The rest of a quoted text up to its closing quote. -/
def readQuoted : TextState → List Char → Except Fault (List Char × List Char)
  | _, [] => .error .eof
  | .plain, c :: cs =>
    if c = '"' then .ok ([], cs)
    else if c = '\\' then readQuoted .escape cs
    else if c.toNat < 32 then .error .syntaxFault
    else prepend c (readQuoted .plain cs)
  | .escape, c :: cs =>
    match simpleEscape? c with
    | some d => prepend d (readQuoted .plain cs)
    | none =>
      if c = 'u' then
        if hasFourBytes cs then readQuoted (.hex 4 0 none) cs else .error .eof
      else .error .syntaxFault
  | .hex left value high, c :: cs =>
    match Text.digitOf 16 c with
    | none => .error .syntaxFault
    | some d =>
      let v := value * 16 + d
      if 2 ≤ left then readQuoted (.hex (left - 1) v high) cs
      else
        match high with
        | none =>
          if isLowSurrogate v then .error .syntaxFault
          else if isHighSurrogate v then readQuoted (.wantEscape v) cs
          else prepend (Char.ofNat v) (readQuoted .plain cs)
        | some h =>
          if isLowSurrogate v then
            prepend (Char.ofNat ((h - 0xD800) * 1024 + (v - 0xDC00) + 0x10000))
              (readQuoted .plain cs)
          else .error .syntaxFault
  | .wantEscape h, c :: cs =>
    if c = '\\' then readQuoted (.wantUnit h) cs else .error .syntaxFault
  | .wantUnit h, c :: cs =>
    if c = 'u' then
      if hasFourBytes cs then readQuoted (.hex 4 0 (some h)) cs else .error .eof
    else .error .syntaxFault

/-- Where the skipping of a quoted text stands. -/
inductive SkipState
  | plain
  | escape
  | hex (left : Nat)

/-- Skip the rest of a quoted text. Surrogates need not be paired here. -/
def skipQuoted : SkipState → Reader Unit
  | _, [] => .error .eof
  | .plain, c :: cs =>
    if c = '"' then .ok ((), cs)
    else if c = '\\' then skipQuoted .escape cs
    else if c.toNat < 32 then .error .syntaxFault
    else skipQuoted .plain cs
  | .escape, c :: cs =>
    if (simpleEscape? c).isSome then skipQuoted .plain cs
    else if c = 'u' then
      if hasFourBytes cs then skipQuoted (.hex 4) cs else .error .eof
    else .error .syntaxFault
  | .hex left, c :: cs =>
    if (Text.digitOf 16 c).isSome then
      if 2 ≤ left then skipQuoted (.hex (left - 1)) cs else skipQuoted .plain cs
    else .error .syntaxFault

/-! ## Numbers -/

def digitsValue (ds : List Char) : Nat := ds.foldl (fun n c => n * 10 + (c.toNat - '0'.toNat)) 0

/-- The digits in front, of which there must be one. -/
def readDigits (cs : List Char) : Except Fault (List Char × List Char) :=
  match cs.takeWhile Char.isDigit, cs.dropWhile Char.isDigit with
  | [], [] => .error .eof
  | [], _ => .error .syntaxFault
  | ds, rest => .ok (ds, rest)

/-- The digits before the point: no zero in front of another digit. -/
def readWhole (cs : List Char) : Except Fault (List Char × List Char) :=
  match readDigits cs with
  | .ok ('0' :: _ :: _, _) => .error .syntaxFault
  | r => r

/-- The fraction digits after a point, if there is a point. -/
def readFraction : List Char → Except Fault (Option (List Char) × List Char)
  | '.' :: cs =>
    match readDigits cs with
    | .ok (ds, rest) => .ok (some ds, rest)
    | .error f => .error f
  | cs => .ok (none, cs)

/-- The exponent, if there is one. -/
def readExponent : List Char → Except Fault (Option Int × List Char)
  | c :: cs =>
    if c = 'e' ∨ c = 'E' then
      match cs with
      | '-' :: cs => (readDigits cs).map fun r => (some (-(digitsValue r.1 : Int)), r.2)
      | '+' :: cs => (readDigits cs).map fun r => (some (digitsValue r.1 : Int), r.2)
      | cs => (readDigits cs).map fun r => (some (digitsValue r.1 : Int), r.2)
    else .ok (none, c :: cs)
  | [] => .ok (none, [])

/-- The leading digits that fit 64 bits, and how many are left over. -/
def significand : Nat → List Char → Nat × List Char
  | acc, [] => (acc, [])
  | acc, c :: cs =>
    let next := acc * 10 + (c.toNat - '0'.toNat)
    if next < UInt64.size then significand next cs else (acc, c :: cs)

/-- From here on a double is infinite. -/
def doubleLimit : Nat := Nat.pow 2 1024 - Nat.pow 2 970

/-- The number of these digits and exponent is too large for a double. -/
def isTooLarge (whole fraction : List Char) (exponent : Int) : Bool :=
  let w := significand 0 whole
  let f := significand w.1 fraction
  let e : Int := exponent + w.2.length - (fraction.length - f.2.length : Nat)
  f.1 != 0 && 0 ≤ e && (308 < e || doubleLimit ≤ f.1 * Nat.pow 10 e.toNat)

/-- A number: whole within 64 bits, or of some other kind. -/
inductive Number
  | nat (n : Nat)
  | negative (i : Int)
  | real (digits : List Char)
  deriving Repr

/-- A number without its sign. -/
def readNumber (positive : Bool) (cs : List Char) : Except Fault (Number × List Char) := do
  let (whole, r₁) ← readWhole cs
  let (fraction, r₂) ← readFraction r₁
  let (exponent, r₃) ← readExponent r₂
  let lexeme := (if positive then [] else ['-']) ++ cs.take (cs.length - r₃.length)
  if isTooLarge whole (fraction.getD []) (exponent.getD 0) then .error .syntaxFault
  else
    match fraction, exponent with
    | none, none =>
      let n := digitsValue whole
      if positive then .ok (if n < UInt64.size then .nat n else .real lexeme, r₃)
      else .ok (if 0 < n ∧ n ≤ Text.signedLimit then .negative (-n) else .real lexeme, r₃)
    | _, _ => .ok (.real lexeme, r₃)

/-- Skip a number without its sign. Its size does not matter, and an early end is no other fault
than any wrong character. -/
def skipNumber (cs : List Char) : Except Fault (Unit × List Char) :=
  let lexeme : Except Fault (List Char) := do
    let (_, r₁) ← readWhole cs
    let (_, r₂) ← readFraction r₁
    let (_, r₃) ← readExponent r₂
    .ok r₃
  match lexeme with
  | .ok rest => .ok ((), rest)
  | .error _ => .error .syntaxFault

/-! ## Values of any kind -/

/-- A value that is not of the kind wanted: its first token is read, and then it is a fault. -/
def unwanted {α : Type} (cs : List Char) : Except Fault α :=
  match cs with
  | [] => .error .eof
  | c :: rest =>
    let after {β : Type} (r : Except Fault β) : Except Fault α :=
      match r with
      | .ok _ => .error .data
      | .error f => .error f
    if c = 'n' then after (readWord "ull".toList rest)
    else if c = 't' then after (readWord "rue".toList rest)
    else if c = 'f' then after (readWord "alse".toList rest)
    else if c = '-' then after (readNumber false rest)
    else if c.isDigit then after (readNumber true cs)
    else if c = '"' then after (readQuoted .plain rest)
    else if c = '[' ∨ c = '{' then .error .data
    else .error .syntaxFault

/-- A colon between a key and its value. -/
def readColon (cs : List Char) : Except Fault (Unit × List Char) :=
  match skipBlanks cs with
  | ':' :: rest => .ok ((), rest)
  | [] => .error .eof
  | _ => .error .syntaxFault

/-- Is there another item in a list? `first` tells that none has been read yet. -/
def nextItem (first : Bool) (cs : List Char) : Except Fault (Bool × List Char) :=
  match skipBlanks cs with
  | [] => .error .eof
  | ']' :: rest => .ok (false, ']' :: rest)
  | c :: rest =>
    if first then .ok (true, c :: rest)
    else if c = ',' then
      match skipBlanks rest with
      | [] => .error .eof
      | ']' :: _ => .error .syntaxFault
      | rest => .ok (true, rest)
    else .error .syntaxFault

/-- Is there another key in a record? If so the input goes on after its opening quote. -/
def nextKey (first : Bool) (cs : List Char) : Except Fault (Bool × List Char) :=
  match skipBlanks cs with
  | [] => .error .eof
  | '}' :: rest => .ok (false, '}' :: rest)
  | c :: rest =>
    if first then
      if c = '"' then .ok (true, rest) else .error .syntaxFault
    else if c = ',' then
      match skipBlanks rest with
      | [] => .error .eof
      | '"' :: rest => .ok (true, rest)
      | _ => .error .syntaxFault
    else .error .syntaxFault

/-- The bracket that ends a list or a record. -/
def readClose (bracket : Char) (cs : List Char) : Except Fault (Unit × List Char) :=
  match skipBlanks cs with
  | [] => .error .eof
  | c :: rest => if c = bracket then .ok ((), rest) else .error .syntaxFault

mutual

/-- Skip a value, nested as deeply as it may be. The number bounds the steps. -/
def skipValue : Nat → Reader Unit
  | 0, _ => .error .syntaxFault
  | fuel + 1, cs =>
    match skipBlanks cs with
    | [] => .error .eof
    | c :: rest =>
      if c = 'n' then readWord "ull".toList rest
      else if c = 't' then readWord "rue".toList rest
      else if c = 'f' then readWord "alse".toList rest
      else if c = '-' then skipNumber rest
      else if c.isDigit then skipNumber (c :: rest)
      else if c = '"' then skipQuoted .plain rest
      else if c = '[' then skipItems fuel true rest
      else if c = '{' then skipMembers fuel true rest
      else .error .syntaxFault

def skipItems : Nat → Bool → Reader Unit
  | 0, _, _ => .error .syntaxFault
  | fuel + 1, first, cs =>
    match nextItem first cs with
    | .error f => .error f
    | .ok (false, rest) => readClose ']' rest
    | .ok (true, rest) =>
      match skipValue fuel rest with
      | .error f => .error f
      | .ok (_, rest) => skipItems fuel false rest

def skipMembers : Nat → Bool → Reader Unit
  | 0, _, _ => .error .syntaxFault
  | fuel + 1, first, cs =>
    match nextKey first cs with
    | .error f => .error f
    | .ok (false, rest) => readClose '}' rest
    | .ok (true, rest) =>
      match skipQuoted .plain rest with
      | .error f => .error f
      | .ok (_, rest) =>
        match readColon rest with
        | .error f => .error f
        | .ok (_, rest) =>
          match skipValue fuel rest with
          | .error f => .error f
          | .ok (_, rest) => skipMembers fuel false rest

end

/-- Skip a value of any kind. -/
def skip : Reader Unit := fun cs => skipValue (2 * cs.length + 2) cs

def ofNumber : Number → Json
  | .nat n => .int n
  | .negative i => .int i
  | .real ds => .real (String.ofList ds)

/-- How deeply lists and records may be nested in a value that is kept. -/
def depthLimit : Nat := 127

mutual

/-- Read a value of any kind, nested at most `depth` deep. The first number bounds the steps. -/
def readValue : Nat → Nat → Reader Json
  | 0, _, _ => .error .syntaxFault
  | fuel + 1, depth, cs =>
    match skipBlanks cs with
    | [] => .error .eof
    | c :: rest =>
      if c = 'n' then (readWord "ull".toList rest).map fun r => (.null, r.2)
      else if c = 't' then (readWord "rue".toList rest).map fun r => (.bool true, r.2)
      else if c = 'f' then (readWord "alse".toList rest).map fun r => (.bool false, r.2)
      else if c = '-' then (readNumber false rest).map fun r => (ofNumber r.1, r.2)
      else if c.isDigit then (readNumber true (c :: rest)).map fun r => (ofNumber r.1, r.2)
      else if c = '"' then
        (readQuoted .plain rest).map fun r => (.text (String.ofList r.1), r.2)
      else if c = '[' then
        if depth = 0 then .error .syntaxFault
        else (readItems fuel (depth - 1) true rest).map fun r => (.list r.1, r.2)
      else if c = '{' then
        if depth = 0 then .error .syntaxFault
        else (readMembers fuel (depth - 1) true [] rest).map fun r => (.record r.1, r.2)
      else .error .syntaxFault

def readItems : Nat → Nat → Bool → Reader (List Json)
  | 0, _, _, _ => .error .syntaxFault
  | fuel + 1, depth, first, cs =>
    match nextItem first cs with
    | .error f => .error f
    | .ok (false, rest) => (readClose ']' rest).map fun r => ([], r.2)
    | .ok (true, rest) =>
      match readValue fuel depth rest with
      | .error f => .error f
      | .ok (v, rest) => (readItems fuel depth false rest).map fun r => (v :: r.1, r.2)

/-- A key that occurs again keeps its place and takes the later value. -/
def readMembers : Nat → Nat → Bool → List (String × Json) → Reader (List (String × Json))
  | 0, _, _, _, _ => .error .syntaxFault
  | fuel + 1, depth, first, members, cs =>
    match nextKey first cs with
    | .error f => .error f
    | .ok (false, rest) => (readClose '}' rest).map fun r => (members, r.2)
    | .ok (true, rest) =>
      match readQuoted .plain rest with
      | .error f => .error f
      | .ok (k, rest) =>
        match readColon rest with
        | .error f => .error f
        | .ok (_, rest) =>
          match readValue fuel depth rest with
          | .error f => .error f
          | .ok (v, rest) =>
            readMembers fuel depth false (Assoc.put (String.ofList k) v members) rest

end

/-- A value of any kind. -/
def value : Reader Json := fun cs => readValue (2 * cs.length + 2) depthLimit cs

/-! ## Values of a wanted kind -/

def text : Reader String := fun cs =>
  match skipBlanks cs with
  | '"' :: rest => (readQuoted .plain rest).map fun r => (String.ofList r.1, r.2)
  | cs => unwanted cs

/-- A natural number below the bound. -/
def natBelow (bound : Nat) : Reader Nat := fun cs =>
  match skipBlanks cs with
  | c :: rest =>
    if c.isDigit then
      match readNumber true (c :: rest) with
      | .ok (.nat n, rest) => if n < bound then .ok (n, rest) else .error .data
      | .ok _ => .error .data
      | .error f => .error f
    else unwanted (c :: rest)
  | [] => .error .eof

def bool : Reader Bool := fun cs =>
  match skipBlanks cs with
  | 't' :: rest => (readWord "rue".toList rest).map fun r => (true, r.2)
  | 'f' :: rest => (readWord "alse".toList rest).map fun r => (false, r.2)
  | cs => unwanted cs

def null : Reader Unit := fun cs =>
  match skipBlanks cs with
  | 'n' :: rest => readWord "ull".toList rest
  | cs => unwanted cs

/-- Read on with what a reader gives, which may be refused. -/
def filterMap {α β : Type} (r : Reader α) (f : α → Option β) : Reader β := fun cs =>
  match r cs with
  | .ok (a, rest) =>
    match f a with
    | some b => .ok (b, rest)
    | none => .error .data
  | .error e => .error e

def map {α β : Type} (r : Reader α) (f : α → β) : Reader β := fun cs =>
  match r cs with
  | .ok (a, rest) => .ok (f a, rest)
  | .error e => .error e

/-- The items of a list up to its end. -/
def listItems {α : Type} (item : Reader α) : Nat → Bool → Reader (List α)
  | 0, _, _ => .error .syntaxFault
  | fuel + 1, first, cs =>
    match nextItem first cs with
    | .error f => .error f
    | .ok (false, rest) => (readClose ']' rest).map fun r => ([], r.2)
    | .ok (true, rest) =>
      match item rest with
      | .error f => .error f
      | .ok (a, rest) => (listItems item fuel false rest).map fun r => (a :: r.1, r.2)

def list {α : Type} (item : Reader α) : Reader (List α) := fun cs =>
  match skipBlanks cs with
  | '[' :: rest => listItems item (rest.length + 1) true rest
  | cs => unwanted cs

/-- One of some labels: as a text, or as the key of a record whose value is null. -/
def label {α : Type} (ofLabel : String → Option α) : Reader α := fun cs =>
  match skipBlanks cs with
  | '"' :: rest => filterMap text ofLabel ('"' :: rest)
  | '{' :: rest =>
    match filterMap text ofLabel rest with
    | .error f => .error f
    | .ok (a, rest) =>
      match readColon rest with
      | .error f => .error f
      | .ok (_, rest) =>
        match null rest with
        | .error f => .error f
        | .ok (_, rest) => (readClose '}' rest).map fun r => (a, r.2)
  | [] => .error .eof
  | _ => .error .syntaxFault

/-- A member of a record: its key, whether it has been read, and how to read it. -/
structure Member (σ : Type) where
  key : String
  isRead : σ → Bool
  read : σ → Reader σ

/-- The members of a record up to its end. A known key must not occur twice. -/
def recordMembers {σ : Type} (ms : List (Member σ)) : Nat → Bool → σ → Reader σ
  | 0, _, _, _ => .error .syntaxFault
  | fuel + 1, first, s, cs =>
    match nextKey first cs with
    | .error f => .error f
    | .ok (false, rest) => .ok (s, rest)
    | .ok (true, rest) =>
      match readQuoted .plain rest with
      | .error f => .error f
      | .ok (k, rest) =>
        match ms.find? fun m => m.key == String.ofList k with
        | some m =>
          if m.isRead s then .error .data
          else
            match readColon rest with
            | .error f => .error f
            | .ok (_, rest) =>
              match m.read s rest with
              | .error f => .error f
              | .ok (s, rest) => recordMembers ms fuel false s rest
        | none =>
          match readColon rest with
          | .error f => .error f
          | .ok (_, rest) =>
            match skip rest with
            | .error f => .error f
            | .ok (_, rest) => recordMembers ms fuel false s rest

/-- The members of a record in order, as a list that may stop early. -/
def listedMembers {σ : Type} : List (Member σ) → Bool → σ → Reader σ
  | [], _, s, cs => .ok (s, cs)
  | m :: ms, first, s, cs =>
    match nextItem first cs with
    | .error f => .error f
    | .ok (false, rest) => .ok (s, rest)
    | .ok (true, rest) =>
      match m.read s rest with
      | .error f => .error f
      | .ok (s, rest) => listedMembers ms false s rest

/-- A record with the given members: start without any, and see at the end what there is. -/
def record {σ α : Type} (ms : List (Member σ)) (start : σ) (finish : σ → Option α) : Reader α :=
  fun cs =>
    match skipBlanks cs with
    | '{' :: rest =>
      match recordMembers ms (rest.length + 1) true start rest with
      | .error f => .error f
      | .ok (s, rest) =>
        match finish s with
        | none => .error .data
        | some a => (readClose '}' rest).map fun r => (a, r.2)
    | '[' :: rest =>
      match listedMembers ms true start rest with
      | .error f => .error f
      | .ok (s, rest) =>
        match finish s with
        | none => .error .data
        | some a => (readClose ']' rest).map fun r => (a, r.2)
    | cs => unwanted cs

/-- A whole text that holds one value. -/
def document {α : Type} (r : Reader α) (s : String) : Except Fault α :=
  match r s.toList with
  | .error f => .error f
  | .ok (a, rest) => if (skipBlanks rest).isEmpty then .ok a else .error .syntaxFault

end SlotBroker.Json.Reader
