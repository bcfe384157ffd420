import SlotBroker.Text.Numeral

/-!
# IP addresses

An IPv4 address is four numbers below 256, written in decimal with points between them and without
leading zeros. An IPv6 address is eight groups of 16 bits, written in hexadecimal with colons
between them; the longest run of two or more zero groups, of several the first, is written as two
colons. The last two groups may be read from an IPv4 address, and are written so in an address that
stands for an IPv4 address.
-/

namespace SlotBroker.Net

/-- Four bytes, first to last. -/
structure Ipv4 where
  a : UInt8
  b : UInt8
  c : UInt8
  d : UInt8
  deriving DecidableEq, Repr, Inhabited

/-- Eight groups of 16 bits. -/
structure Ipv6 where
  groups : List UInt16
  size_eq : groups.length = 8 := by rfl
  deriving DecidableEq

instance : Inhabited Ipv6 := ⟨⟨List.replicate 8 0, by simp⟩⟩

inductive Ip
  | v4 (ip : Ipv4)
  | v6 (ip : Ipv6)
  deriving DecidableEq, Inhabited

namespace Ipv4

def render (ip : Ipv4) : String :=
  ".".intercalate ([ip.a, ip.b, ip.c, ip.d].map fun n => Text.decimal n.toNat)

/-- A number below 256 without leading zeros. -/
def readByte (cs : List Char) : Option UInt8 :=
  if cs.all Char.isDigit && cs.length ≤ 3 && (cs.length = 1 || cs.head? ≠ some '0') then
    match Text.readNat 10 256 cs with
    | .ok n => some (UInt8.ofNat n)
    | .error _ => none
  else none

def read (cs : List Char) : Option Ipv4 :=
  match (cs.splitOn '.').mapM readByte with
  | some [a, b, c, d] => some ⟨a, b, c, d⟩
  | _ => none

end Ipv4

namespace Ipv6

def hex (g : UInt16) : List Char := Text.digits 16 g.toNat

/-- How many groups at the front are zero. -/
def zerosAt (gs : List UInt16) : Nat := (gs.takeWhile (· == 0)).length

/-- Where the longest run of zero groups starts and how long it is; of several the first. -/
def longestZeros : Nat → List UInt16 → Nat × Nat
  | k, [] => (k, 0)
  | k, g :: gs =>
    let here := zerosAt (g :: gs)
    let later := longestZeros (k + 1) gs
    if later.2 ≤ here then (k, here) else later

/-- Groups with colons between them. -/
def join (gs : List UInt16) : List Char := [':'].intercalate (gs.map hex)

/-- The IPv4 address that an address stands for. -/
def mapped? (ip : Ipv6) : Option Ipv4 :=
  match ip.groups with
  | [0, 0, 0, 0, 0, 0xFFFF, g, h] =>
    some ⟨(g >>> 8).toUInt8, g.toUInt8, (h >>> 8).toUInt8, h.toUInt8⟩
  | _ => none

def render (ip : Ipv6) : String :=
  match ip.mapped? with
  | some v4 => "::ffff:" ++ v4.render
  | none =>
    let z := longestZeros 0 ip.groups
    if 2 ≤ z.2 then
      String.ofList (join (ip.groups.take z.1) ++ [':', ':'] ++ join (ip.groups.drop (z.1 + z.2)))
    else String.ofList (join ip.groups)

/-- A group of one to four hexadecimal digits. -/
def readGroup (cs : List Char) : Option UInt16 :=
  if cs.length ≤ 4 && cs.head? ≠ some '+' then
    match Text.readNat 16 UInt16.size cs with
    | .ok n => some (UInt16.ofNat n)
    | .error _ => none
  else none

/-- The pieces between colons as groups. The last piece may be an IPv4 address, if `tail` says so.
-/
def readGroups (tail : Bool) : List (List Char) → Option (List UInt16)
  | [] => some []
  | [p] =>
    match readGroup p with
    | some g => some [g]
    | none =>
      if tail then
        (Ipv4.read p).map fun ip =>
          [ip.a.toUInt16 * 256 + ip.b.toUInt16, ip.c.toUInt16 * 256 + ip.d.toUInt16]
      else none
  | p :: ps => do some ((← readGroup p) :: (← readGroups tail ps))

/-- The text before two colons and the text after them, if there are any. -/
def splitGap : List Char → Option (List Char × List Char)
  | [] => none
  | ':' :: ':' :: cs => some ([], cs)
  | c :: cs => (splitGap cs).map fun p => (c :: p.1, p.2)

def pieces (cs : List Char) : List (List Char) := if cs.isEmpty then [] else cs.splitOn ':'

def ofGroups? (gs : List UInt16) : Option Ipv6 := if h : gs.length = 8 then some ⟨gs, h⟩ else none

def read (cs : List Char) : Option Ipv6 :=
  match splitGap cs with
  | none => (readGroups true (pieces cs)).bind ofGroups?
  | some (before, after) => do
    let front ← readGroups false (pieces before)
    let back ← readGroups true (pieces after)
    if front.length + back.length < 8 then
      ofGroups? (front ++ List.replicate (8 - front.length - back.length) 0 ++ back)
    else none

end Ipv6

namespace Ip

def render : Ip → String
  | v4 ip => ip.render
  | v6 ip => ip.render

/-- The address that a text is. -/
def parse? (s : String) : Option Ip :=
  match Ipv4.read s.toList with
  | some ip => some (v4 ip)
  | none => (Ipv6.read s.toList).map v6

/-- The address with a port. -/
def renderWithPort (ip : Ip) (port : UInt16) : String :=
  match ip with
  | v4 ip => s!"{ip.render}:{Text.decimal port.toNat}"
  | v6 ip => s!"[{ip.render}]:{Text.decimal port.toNat}"

end Ip

end SlotBroker.Net
