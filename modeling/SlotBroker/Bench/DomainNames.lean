import SlotBroker.Bench.NameFolding
import SlotBroker.Bench.Punycode
import SlotBroker.Net.DomainName

/-!
# Domain names on the bench

The library leaves open how a domain name is written in ASCII (`Net.DomainNames`). This is the way
that the bench and the program have: a table of the foldings and compositions of the scripts of
Europe, and Punycode. It is a stand-in for the whole of the rules, with which it agrees on names in
ASCII and on common others; no theorem is about it.
-/

namespace SlotBroker.Bench

/-- A label that needs Punycode and can be written in it. -/
def isEncodable (label : List Char) : Bool :=
  !label.all Punycode.isAscii && foldName label = label && label.all isNameChar
    && !(label.head?.any isMark)

/-- A folded label in ASCII. -/
def labelToAscii (label : List Char) : Option (List Char) :=
  if Net.punycodeMark.isPrefixOf label then
    let written := label.drop Net.punycodeMark.length
    match Punycode.decode written with
    | some l => if isEncodable l && Punycode.encode l = written then some label else none
    | none => none
  else if label.all Punycode.isAscii then some label
  else
    let written := Punycode.encode label
    if isEncodable label && Punycode.decode written = some label then
      some (Net.punycodeMark ++ written)
    else none

instance : Net.DomainNames where
  toAscii name := do
    let labels ← ((foldName name).splitOn '.').mapM labelToAscii
    let ascii := ['.'].intercalate labels
    if ascii.any Net.isForbidden then none else some ascii

end SlotBroker.Bench
