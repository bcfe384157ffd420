/-!
# Blank characters

The white space of Unicode, and the two things done with it: cutting it off the ends of a text and
asking whether a text holds any. A text is cut into lines at line feeds, and a carriage return
before a line feed belongs to the line's end.
-/

namespace SlotBroker.Text

/-- The characters with the Unicode property White_Space. -/
def isBlank (c : Char) : Bool :=
  let n := c.toNat
  (0x9 ≤ n && n ≤ 0xD) || n == 0x20 || n == 0x85 || n == 0xA0 || n == 0x1680
    || (0x2000 ≤ n && n ≤ 0x200A) || n == 0x2028 || n == 0x2029 || n == 0x202F || n == 0x205F
    || n == 0x3000

def trimStart (cs : List Char) : List Char := cs.dropWhile isBlank

def trimEnd (cs : List Char) : List Char := (cs.reverse.dropWhile isBlank).reverse

def trim (cs : List Char) : List Char := trimEnd (trimStart cs)

/-- The text without the blanks at its ends. -/
def trimmed (s : String) : String := String.ofList (trim s.toList)

/-- The text without the blanks at its end. -/
def trimmedEnd (s : String) : String := String.ofList (trimEnd s.toList)

def isAllBlank (cs : List Char) : Bool := cs.all isBlank

/-- The pieces between line feeds: one more than there are line feeds. -/
def splitLines : List Char → List (List Char)
  | [] => [[]]
  | '\n' :: cs => [] :: splitLines cs
  | c :: cs =>
    match splitLines cs with
    | [] => [[c]]
    | l :: ls => (c :: l) :: ls

/-- A line that was ended loses one carriage return at its end. -/
def dropReturn (l : List Char) : List Char :=
  if l.getLast? = some '\r' then l.dropLast else l

/-- The lines of a text. Nothing after the last line feed is no line. -/
def lines (cs : List Char) : List (List Char) :=
  let ls := splitLines cs
  let ended := ls.dropLast.map dropReturn
  match ls.getLast? with
  | none => ended
  | some [] => ended
  | some l => ended ++ [l]

end SlotBroker.Text
