import SlotBroker.Text.Numeral

/-!
# Escaped texts

Between double quotes a backslash starts an escape: a letter for a common character, or the number
of any character in four or eight hexadecimal digits. In a text of several lines a backslash at the
end of a line joins the line to the next one, without the blanks in between. Control characters
other than the tab must be escaped.
-/

namespace SlotBroker.Text

/-- What an escape of one letter stands for. -/
def escapeLetter? : Char → Option Char
  | '"' => some '"'
  | '\\' => some '\\'
  | 'b' => some '\x08'
  | 'f' => some '\x0c'
  | 'n' => some '\n'
  | 'r' => some '\r'
  | 't' => some '\t'
  | _ => none

/-- A tab, or no control character. -/
def isPlainChar (c : Char) : Bool := c = '\t' || (0x20 ≤ c.toNat && c.toNat ≠ 0x7F)

def isTabOrSpace (c : Char) : Bool := c = ' ' || c = '\t'

/-- The character of a number. -/
def charOf? (n : Nat) : Option Char :=
  if n < 0xD800 ∨ (0xDFFF < n ∧ n < 0x110000) then some (Char.ofNat n) else none

/-- Where the reading of an escaped text stands: in a `gap` between a backslash and the end of its
line, or at a `join` of two lines. -/
inductive EscapeState
  | plain
  | escape
  | hex (left value : Nat)
  | gap
  | join
  deriving DecidableEq

/-- The text without its escapes. -/
def unescapeFrom (multiline : Bool) : EscapeState → List Char → Option (List Char)
  | .plain, [] => some []
  | .join, [] => some []
  | _, [] => none
  | .escape, c :: cs =>
    match escapeLetter? c with
    | some d => (unescapeFrom multiline .plain cs).map (d :: ·)
    | none =>
      if c = 'u' then unescapeFrom multiline (.hex 4 0) cs
      else if c = 'U' then unescapeFrom multiline (.hex 8 0) cs
      else if multiline && isTabOrSpace c then unescapeFrom multiline .gap cs
      else if multiline && c = '\n' then unescapeFrom multiline .join cs
      else none
  | .hex left value, c :: cs =>
    match digitOf 16 c with
    | none => none
    | some d =>
      if 2 ≤ left then unescapeFrom multiline (.hex (left - 1) (value * 16 + d)) cs
      else
        match charOf? (value * 16 + d) with
        | some e => (unescapeFrom multiline .plain cs).map (e :: ·)
        | none => none
  | .gap, c :: cs =>
    if isTabOrSpace c then unescapeFrom multiline .gap cs
    else if c = '\n' then unescapeFrom multiline .join cs
    else none
  | s, c :: cs =>
    if s = .join && (isTabOrSpace c || c = '\n') then unescapeFrom multiline .join cs
    else if c = '\\' then unescapeFrom multiline .escape cs
    else if isPlainChar c || (multiline && c = '\n') then
      (unescapeFrom multiline .plain cs).map (c :: ·)
    else none

/-- A text on one line without its escapes. -/
def unescape (cs : List Char) : Option (List Char) := unescapeFrom false .plain cs

/-- A text on several lines without its escapes. -/
def unescapeLines (cs : List Char) : Option (List Char) := unescapeFrom true .plain cs

/-- What stands before the first quote that is not escaped, and what stands after it. -/
def splitAtQuote : Bool → List Char → Option (List Char × List Char)
  | _, [] => none
  | true, c :: cs => (splitAtQuote false cs).map fun p => (c :: p.1, p.2)
  | false, c :: cs =>
    if c = '"' then some ([], cs)
    else (splitAtQuote (c = '\\') cs).map fun p => (c :: p.1, p.2)

/-- The text between the quote that has been read and the next one. -/
def readQuotedText (cs : List Char) : Option (List Char × List Char) := do
  let (inside, rest) ← splitAtQuote false cs
  let text ← unescape inside
  some (text, rest)

end SlotBroker.Text
