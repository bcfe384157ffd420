import SlotBroker.Net.DomainName
import SlotBroker.Net.Ip
import SlotBroker.Text.Bytes

/-!
# Hosts

A host is a domain name or an IP address. A name that ends in a number is meant as an IPv4 address,
whose numbers may be decimal, octal or hexadecimal and of which the last one fills all bytes that
are left. An IPv6 address stands in brackets.
-/

namespace SlotBroker.Net

/-- Why a text is no URL. -/
inductive UrlFault
  | noScheme
  | emptyHost
  | domain
  | domainCharacter
  | ipv4
  | ipv6
  | port
  deriving DecidableEq, Repr

def UrlFault.message : UrlFault → String
  | noScheme => "relative URL without a base"
  | emptyHost => "empty host"
  | domain => "invalid international domain name"
  | domainCharacter => "invalid domain character"
  | ipv4 => "invalid IPv4 address"
  | ipv6 => "invalid IPv6 address"
  | port => "invalid port number"

inductive Host
  | name (text : String)
  | ip (address : Ip)
  deriving DecidableEq, Inhabited

namespace Host

def render : Host → String
  | name t => t
  | ip a => a.render

/-! ## IPv4 addresses -/

/-- The base and the digits of a part of an IPv4 address. -/
def baseOfPart : List Char → Nat × List Char
  | '0' :: 'x' :: ds => (16, ds)
  | '0' :: 'X' :: ds => (16, ds)
  | '0' :: d :: ds => (8, d :: ds)
  | ds => (10, ds)

/-- The number of a part. No digits after a mark of the base are zero. -/
def readPart (cs : List Char) : Option Nat :=
  if cs.isEmpty then none
  else
    let part := baseOfPart cs
    if part.2.all fun c => (Text.digitOf part.1 c).isSome then
      some (part.2.foldl (fun n c => n * part.1 + (Text.digitOf part.1 c).getD 0) 0)
    else none

/-- The last part of a name, a point at its end aside. -/
def lastPart (parts : List (List Char)) : List Char :=
  match parts.reverse with
  | [] :: p :: _ => p
  | p :: _ => p
  | [] => []

/-- The name is meant as an IPv4 address. -/
def endsInNumber (cs : List Char) : Bool :=
  let last := lastPart (cs.splitOn '.')
  (!last.isEmpty && last.all Char.isDigit) || (readPart last).isSome

/-- The address of up to four numbers, each below 256 except for the last one. -/
def ofNumbers (ns : List Nat) : Option Ipv4 :=
  match ns.getLast? with
  | none => none
  | some last =>
    let front := ns.dropLast
    if front.any (256 ≤ ·) || Nat.pow 256 (4 - front.length) ≤ last || 4 < ns.length then none
    else
      let n := front.foldl (fun n k => n * 256 + k) 0 * Nat.pow 256 (4 - front.length) + last
      some ⟨UInt8.ofNat (n / 256 / 256 / 256), UInt8.ofNat (n / 256 / 256), UInt8.ofNat (n / 256),
        UInt8.ofNat n⟩

def readIpv4 (cs : List Char) : Option Ipv4 :=
  let parts := cs.splitOn '.'
  let parts := if parts.getLast? = some [] then parts.dropLast else parts
  (parts.mapM readPart).bind ofNumbers

/-! ## Hosts of all kinds -/

/-- Bytes of which some are given by a percent sign and two hexadecimal digits. -/
def percentDecode : List UInt8 → List UInt8
  | b :: h :: l :: bs =>
    match b == 0x25, Text.digitOf 16 (Char.ofNat h.toNat), Text.digitOf 16 (Char.ofNat l.toNat) with
    | true, some x, some y => UInt8.ofNat (x * 16 + y) :: percentDecode bs
    | _, _, _ => b :: percentDecode (h :: l :: bs)
  | bs => bs

/-- An IPv6 address after an opening bracket. -/
def parseBracketed (cs : List Char) : Except UrlFault Host :=
  if cs.getLast? = some ']' then
    match Ipv6.read cs.dropLast with
    | some a => .ok (ip (.v6 a))
    | none => .error .ipv6
  else .error .ipv6

/-- The host of a URL of a scheme that is about hosts. -/
def parse [DomainNames] (cs : List Char) : Except UrlFault Host :=
  match cs with
  | '[' :: rest => parseBracketed rest
  | cs =>
    match Text.ofBytes? (percentDecode (Text.toBytes (String.ofList cs))) with
    | none => .error .domain
    | some text =>
      match DomainNames.toAscii text.toList with
      | none => .error .domain
      | some [] => .error .emptyHost
      | some ascii =>
        if endsInNumber ascii then
          match readIpv4 ascii with
          | some a => .ok (ip (.v4 a))
          | none => .error .ipv4
        else .ok (name (String.ofList ascii))

/-- A character that must not stand in a host of a scheme of any other kind. -/
def isForbiddenAnywhere (c : Char) : Bool := "\x00\t\n\r #/:<>?@[\\]^|".toList.contains c

/-- The host of a URL of any other scheme. -/
def parseOpaque (cs : List Char) : Except UrlFault Host :=
  match cs with
  | '[' :: rest => parseBracketed rest
  | cs =>
    if cs.any isForbiddenAnywhere then .error .domainCharacter
    else .ok (name (String.ofList cs))

end Host

end SlotBroker.Net
