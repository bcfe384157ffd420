import SlotBroker.Text.Numeral
import SlotBroker.Text.Printable

/-!
# Quoted texts

A text in quotes on one line, as it is shown in messages. A quote, a backslash and the common
control characters have short escapes; any other character that cannot be printed is shown by its
number.
-/

namespace SlotBroker.Text

def quoteChar (c : Char) : List Char :=
  if c = '"' then ['\\', '"']
  else if c = '\\' then ['\\', '\\']
  else if c = '\n' then ['\\', 'n']
  else if c = '\r' then ['\\', 'r']
  else if c = '\t' then ['\\', 't']
  else if c = '\x00' then ['\\', '0']
  else if isPrinted c then [c]
  else ['\\', 'u', '\x7b'] ++ digits 16 c.toNat ++ ['\x7d']

def quoted (s : String) : String := String.ofList ('"' :: (s.toList.flatMap quoteChar ++ ['"']))

end SlotBroker.Text
