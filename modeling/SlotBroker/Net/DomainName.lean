/-!
# Domain names

A domain name is labels with points between them, and it is looked up in ASCII. How a name in other
characters is written in ASCII, or in other spellings of the same characters, is a matter of large
tables that are no part of this library: whoever reads hosts brings them along (`DomainNames`). What
is relied on is said by `DomainNames.Lawful`. Whatever could end a name inside an address is not
allowed in it.
-/

namespace SlotBroker.Net

/-- What a label in Punycode starts with. -/
def punycodeMark : List Char := ['x', 'n', '-', '-']

/-- A character that must not stand in a name. -/
def isForbidden (c : Char) : Bool :=
  c.toNat ≤ 0x20 || c.toNat = 0x7F || "%#/:<>?@[\\]^|".toList.contains c

/-- How domain names are written in ASCII, and which cannot be. -/
class DomainNames where
  toAscii : List Char → Option (List Char)

namespace DomainNames

/-- A name is in ASCII, and none of its labels is in Punycode once its letters are small. -/
def Plain (name : List Char) : Prop :=
  (∀ c ∈ name, c.toNat < 0x80) ∧
    ∀ label ∈ (name.map Char.toLower).splitOn '.', ¬ punycodeMark <+: label

-- Which characters stand in a name is decided by going through it, not through all there are.
instance (name : List Char) : Decidable (Plain name) :=
  @instDecidableAnd _ _ (List.decidableBAll _ name) inferInstance

/-- What is known of how domain names are written in ASCII. -/
structure Lawful (names : DomainNames) : Prop where
  /-- What is written is in ASCII and has no character that must not stand in a name. -/
  written : ∀ {name ascii}, names.toAscii name = some ascii →
    ∀ c ∈ ascii, c.toNat < 0x80 ∧ isForbidden c = false
  /-- A name that has been written is written as it is. -/
  settled : ∀ {name ascii}, names.toAscii name = some ascii → names.toAscii ascii = some ascii
  /-- No table takes an opening bracket away. -/
  bracket : ∀ {name}, '[' ∈ name → names.toAscii name = none
  /-- Of a plain name only the capitals are rewritten. -/
  plain : ∀ {name}, Plain name →
    names.toAscii name = if name.any isForbidden then none else some (name.map Char.toLower)

end DomainNames

end SlotBroker.Net
