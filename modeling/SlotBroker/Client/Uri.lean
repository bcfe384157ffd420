import SlotBroker.Client.Address
import SlotBroker.Text.Bytes

/-!
# URIs

A connection is made to a URI. The authority of a URI is what stands before the first slash,
question mark or number sign; it must not be empty, and its brackets, colons and percent signs must
fit a host with a port. The path and the query after it allow more characters.
-/

namespace SlotBroker.Client

/-- The characters of an authority and of what ends it. -/
def isUriChar (c : Char) : Bool :=
  c.isAlphanum || "!#$&'()*+,-./:;=?@[]_~".toList.contains c

/-- What has been seen of an authority. -/
structure AuthorityScan where
  colons : Nat
  opened : Bool
  closed : Bool
  percent : Bool
  atLast : Bool

/-- The most colons that there may be without a bracket or an at sign after them. -/
def colonLimit : Nat := 8

/-- Go over an authority up to its end. Nothing is left of one that is malformed. -/
def scanAuthority : AuthorityScan → List Char → Option (AuthorityScan × List Char)
  | s, [] => some (s, [])
  | s, c :: cs =>
    let on := { s with atLast := false }
    if c = '/' ∨ c = '?' ∨ c = '#' then some (s, c :: cs)
    else if c = ':' then
      if colonLimit ≤ s.colons then none
      else scanAuthority { on with colons := s.colons + 1 } cs
    else if c = '[' then
      if s.percent || s.opened then none else scanAuthority { on with opened := true } cs
    else if c = ']' then
      if !s.opened || s.closed then none
      else scanAuthority { on with closed := true, colons := 0, percent := false } cs
    else if c = '@' then
      scanAuthority { s with colons := 0, percent := false, atLast := true } cs
    else if c = '%' then scanAuthority { on with percent := true } cs
    else if isUriChar c then scanAuthority on cs
    else none

def AuthorityScan.isSound (s : AuthorityScan) : Bool :=
  s.opened == s.closed && s.colons ≤ 1 && !s.atLast && !s.percent

def isPathChar (c : Char) : Bool :=
  let n := c.toNat
  n = 0x21 || (0x24 ≤ n && n ≤ 0x3B) || n = 0x3D || (0x40 ≤ n && n ≤ 0x5F)
    || (0x61 ≤ n && n ≤ 0x7A) || n = 0x7C || n ≥ 0x7E || c = '"' || c = '{' || c = '}'

def isQueryChar (c : Char) : Bool :=
  let n := c.toNat
  n = 0x21 || (0x24 ≤ n && n ≤ 0x3B) || n = 0x3D || 0x3F ≤ n

/-- A path with or without a query. What follows a number sign does not matter. -/
def isPathAndQuery (cs : List Char) : Bool :=
  let s := cs.takeWhile fun c => c ≠ '#'
  let path := s.takeWhile fun c => c ≠ '?'
  let query := (s.dropWhile fun c => c ≠ '?').drop 1
  path.all isPathChar && query.all isQueryChar

/-- The most bytes that a URI may have. -/
def uriLimit : Nat := 65534

/-- The text after `http://` makes a URI. -/
def isHttpTarget (cs : List Char) : Bool :=
  (Text.toBytes (String.ofList cs)).length + "http://".length ≤ uriLimit &&
    match scanAuthority ⟨0, false, false, false, false⟩ cs with
    | some (s, rest) => s.isSound && rest.length < cs.length && isPathAndQuery rest
    | none => false

/-- Whether a connection to an address can be tried. -/
def checkTarget (a : Address) : Except ClientError Unit :=
  if isHttpTarget a.render.toList then .ok () else .error (.invalidAddress "invalid URI")

end SlotBroker.Client
