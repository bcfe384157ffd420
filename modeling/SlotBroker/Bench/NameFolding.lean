import SlotBroker.Bench.Composed
import SlotBroker.Text.Lowercase
import SlotBroker.Text.Printable

/-!
# Folded names

Many characters are other spellings of the same name: capitals, wide and raised forms, ligatures.
`foldName` writes a name in the one form that counts. Characters that only shape a text are dropped.
-/

namespace SlotBroker.Bench

open Text (CaseRange)

/-- Ranges of characters whose plain forms are at a constant distance. -/
def shiftedRanges : List CaseRange :=
  [⟨0x2074, 0x2079, 1, -8256⟩, ⟨0x2080, 0x2089, 1, -8272⟩, ⟨0x2096, 0x2099, 1, -8235⟩,
    ⟨0x2119, 0x211B, 1, -8361⟩, ⟨0x2135, 0x2138, 1, -7013⟩, ⟨0x2460, 0x2468, 1, -9263⟩,
    ⟨0x24B6, 0x24CF, 1, -9301⟩, ⟨0x24D0, 0x24E9, 1, -9327⟩, ⟨0xFF01, 0xFF20, 1, -65248⟩,
    ⟨0xFF21, 0xFF3A, 1, -65216⟩, ⟨0xFF3B, 0xFF5E, 1, -65248⟩]

/-- Characters and what they stand for. -/
def spelledPart1 : List (Nat × String) :=
  [(0xA0, " "), (0xA8, " \u0308"), (0xAA, "a"), (0xAF, " \u0304"), (0xB2, "2"), (0xB3, "3"),
    (0xB4, " \u0301"), (0xB5, "μ"), (0xB8, " \u0327"), (0xB9, "1"), (0xBA, "o"), (0xBC, "1⁄4"),
    (0xBD, "1⁄2"), (0xBE, "3⁄4"), (0x132, "ij"), (0x133, "ij"), (0x13F, "l·"), (0x140, "l·"),
    (0x149, "ʼn"), (0x17F, "s"), (0x1C4, "dž"), (0x1C5, "dž"), (0x1C6, "dž"), (0x1C7, "lj"),
    (0x1C8, "lj"), (0x1C9, "lj"), (0x1CA, "nj"), (0x1CB, "nj"), (0x1CC, "nj"), (0x1F1, "dz"),
    (0x1F2, "dz"), (0x1F3, "dz"), (0x2B0, "h"), (0x2B1, "ɦ"), (0x2B2, "j"), (0x2B3, "r"),
    (0x2B4, "ɹ"), (0x2B5, "ɻ"), (0x2B6, "ʁ"), (0x2B7, "w"), (0x2B8, "y"), (0x2D8, " \u0306"),
    (0x2D9, " \u0307"), (0x2DA, " \u030a"), (0x2DB, " \u0328"), (0x2DC, " \u0303"),
    (0x2DD, " \u030b"), (0x2E0, "ɣ"), (0x2E1, "l"), (0x2E2, "s"), (0x2E3, "x"), (0x2E4, "ʕ"),
    (0x374, "ʹ"), (0x37A, " ι"), (0x37E, ";"), (0x384, " \u0301"), (0x385, " \u0308\u0301"),
    (0x387, "·"), (0x3D0, "β"), (0x3D1, "θ"), (0x3D2, "υ"), (0x3D3, "ύ"), (0x3D4, "ϋ"),
    (0x3D5, "φ"), (0x3D6, "π"), (0x3F0, "κ"), (0x3F1, "ρ"), (0x3F2, "σ"), (0x3F5, "ε"),
    (0x3F9, "σ")]

def spelledPart2 : List (Nat × String) :=
  [(0x1E9E, "ß"), (0x2000, " "), (0x2001, " "), (0x2002, " "), (0x2003, " "), (0x2004, " "),
    (0x2005, " "), (0x2006, " "), (0x2007, " "), (0x2008, " "), (0x2009, " "), (0x200A, " "),
    (0x2011, "‐"), (0x2017, " \u0333"), (0x2024, "."), (0x2025, ".."), (0x2026, "..."),
    (0x202F, " "), (0x2033, "′′"), (0x2034, "′′′"), (0x2036, "‵‵"), (0x2037, "‵‵‵"),
    (0x203C, "!!"), (0x203E, " \u0305"), (0x2047, "??"), (0x2048, "?!"), (0x2049, "!?"),
    (0x2057, "′′′′"), (0x205F, " "), (0x2070, "0"), (0x2071, "i"), (0x207A, "+"),
    (0x207B, "−"), (0x207C, "="), (0x207D, "("), (0x207E, ")"), (0x207F, "n"), (0x208A, "+"),
    (0x208B, "−"), (0x208C, "="), (0x208D, "("), (0x208E, ")"), (0x2090, "a"), (0x2091, "e"),
    (0x2092, "o"), (0x2093, "x"), (0x2094, "ə"), (0x2095, "h"), (0x209A, "p"), (0x209B, "s"),
    (0x209C, "t"), (0x20A8, "rs"), (0x2100, "a/c"), (0x2101, "a/s"), (0x2102, "c"),
    (0x2103, "°c"), (0x2105, "c/o"), (0x2106, "c/u"), (0x2107, "ɛ"), (0x2109, "°f"),
    (0x210A, "g"), (0x210B, "h"), (0x210C, "h"), (0x210D, "h"), (0x210E, "h"), (0x210F, "ħ"),
    (0x2110, "i"), (0x2111, "i"), (0x2112, "l"), (0x2113, "l")]

def spelledPart3 : List (Nat × String) :=
  [(0x2115, "n"), (0x2116, "no"), (0x211C, "r"), (0x211D, "r"), (0x2120, "sm"),
    (0x2121, "tel"), (0x2122, "tm"), (0x2124, "z"), (0x2128, "z"), (0x212C, "b"),
    (0x212D, "c"), (0x212F, "e"), (0x2130, "e"), (0x2131, "f"), (0x2133, "m"), (0x2134, "o"),
    (0x2139, "i"), (0x213B, "fax"), (0x213C, "π"), (0x213D, "γ"), (0x213E, "γ"), (0x213F, "π"),
    (0x2140, "∑"), (0x2145, "d"), (0x2146, "d"), (0x2147, "e"), (0x2148, "i"), (0x2149, "j"),
    (0x2150, "1⁄7"), (0x2151, "1⁄9"), (0x2152, "1⁄10"), (0x2153, "1⁄3"), (0x2154, "2⁄3"),
    (0x2155, "1⁄5"), (0x2156, "2⁄5"), (0x2157, "3⁄5"), (0x2158, "4⁄5"), (0x2159, "1⁄6"),
    (0x215A, "5⁄6"), (0x215B, "1⁄8"), (0x215C, "3⁄8"), (0x215D, "5⁄8"), (0x215E, "7⁄8"),
    (0x215F, "1⁄"), (0x2160, "i"), (0x2161, "ii"), (0x2162, "iii"), (0x2163, "iv"),
    (0x2164, "v"), (0x2165, "vi"), (0x2166, "vii"), (0x2167, "viii"), (0x2168, "ix"),
    (0x2169, "x"), (0x216A, "xi"), (0x216B, "xii"), (0x216C, "l"), (0x216D, "c"),
    (0x216E, "d"), (0x216F, "m"), (0x2170, "i"), (0x2171, "ii"), (0x2172, "iii"),
    (0x2173, "iv"), (0x2174, "v"), (0x2175, "vi"), (0x2176, "vii"), (0x2177, "viii"),
    (0x2178, "ix"), (0x2179, "x")]

def spelledPart4 : List (Nat × String) :=
  [(0x217A, "xi"), (0x217B, "xii"), (0x217C, "l"), (0x217D, "c"), (0x217E, "d"),
    (0x217F, "m"), (0x2189, "0⁄3"), (0x222C, "∫∫"), (0x222D, "∫∫∫"), (0x222F, "∮∮"),
    (0x2230, "∮∮∮"), (0x2329, "〈"), (0x232A, "〉"), (0x2469, "10"), (0x246A, "11"),
    (0x246B, "12"), (0x246C, "13"), (0x246D, "14"), (0x246E, "15"), (0x246F, "16"),
    (0x2470, "17"), (0x2471, "18"), (0x2472, "19"), (0x2473, "20"), (0x2474, "(1)"),
    (0x2475, "(2)"), (0x2476, "(3)"), (0x2477, "(4)"), (0x2478, "(5)"), (0x2479, "(6)"),
    (0x247A, "(7)"), (0x247B, "(8)"), (0x247C, "(9)"), (0x247D, "(10)"), (0x247E, "(11)"),
    (0x247F, "(12)"), (0x2480, "(13)"), (0x2481, "(14)"), (0x2482, "(15)"), (0x2483, "(16)"),
    (0x2484, "(17)"), (0x2485, "(18)"), (0x2486, "(19)"), (0x2487, "(20)"), (0x2488, "1."),
    (0x2489, "2."), (0x248A, "3."), (0x248B, "4."), (0x248C, "5."), (0x248D, "6."),
    (0x248E, "7."), (0x248F, "8."), (0x2490, "9."), (0x2491, "10."), (0x2492, "11."),
    (0x2493, "12."), (0x2494, "13."), (0x2495, "14."), (0x2496, "15."), (0x2497, "16."),
    (0x2498, "17."), (0x2499, "18."), (0x249A, "19."), (0x249B, "20."), (0x249C, "(a)"),
    (0x249D, "(b)"), (0x249E, "(c)"), (0x249F, "(d)"), (0x24A0, "(e)"), (0x24A1, "(f)")]

def spelledPart5 : List (Nat × String) :=
  [(0x24A2, "(g)"), (0x24A3, "(h)"), (0x24A4, "(i)"), (0x24A5, "(j)"), (0x24A6, "(k)"),
    (0x24A7, "(l)"), (0x24A8, "(m)"), (0x24A9, "(n)"), (0x24AA, "(o)"), (0x24AB, "(p)"),
    (0x24AC, "(q)"), (0x24AD, "(r)"), (0x24AE, "(s)"), (0x24AF, "(t)"), (0x24B0, "(u)"),
    (0x24B1, "(v)"), (0x24B2, "(w)"), (0x24B3, "(x)"), (0x24B4, "(y)"), (0x24B5, "(z)"),
    (0x24EA, "0"), (0x2A0C, "∫∫∫∫"), (0x2A74, "::="), (0x2A75, "=="), (0x2A76, "==="),
    (0x2ADC, "⫝\u0338"), (0x3000, " "), (0x3002, "."), (0xFB00, "ff"), (0xFB01, "fi"),
    (0xFB02, "fl"), (0xFB03, "ffi"), (0xFB04, "ffl"), (0xFB05, "st"), (0xFB06, "st"),
    (0xFF5F, "⦅"), (0xFF60, "⦆"), (0xFF61, ".")]

def spelledOut : List (Nat × String) :=
  spelledPart1 ++ spelledPart2 ++ spelledPart3 ++ spelledPart4 ++ spelledPart5

/-- A character that only shapes the text around it. -/
def isShaping (c : Char) : Bool :=
  let n := c.toNat
  n = 0xAD || n = 0x34F || (0x180B ≤ n && n ≤ 0x180D) || n = 0x200B || n = 0x2060 || n = 0x2064
    || (0xFE00 ≤ n && n ≤ 0xFE0F) || n = 0xFEFF

def foldChar (c : Char) : List Char :=
  let n := c.toNat
  if n < 0x80 then [Text.lowerChar c]
  else if isShaping c then []
  else if c = 'İ' then ['i', '\u0307']
  else
    match spelledOut.find? fun p => p.1 = n with
    | some p => p.2.toList
    | none =>
      match shiftedRanges.findSome? (CaseRange.lower? n) with
      | some m => [Char.ofNat m]
      | none => [Text.lowerChar c]

def foldName (cs : List Char) : List Char := composed (cs.flatMap foldChar)

/-- A mark that belongs to the character before it. -/
def isMark (c : Char) : Bool :=
  let n := c.toNat
  !Text.isPrinted c &&
    ((0x300 ≤ n && n ≤ 0x36F) || (0x483 ≤ n && n ≤ 0x489) || (0x591 ≤ n && n ≤ 0x5C7)
      || (0x610 ≤ n && n ≤ 0x61A) || (0x64B ≤ n && n ≤ 0x670) || (0x6D6 ≤ n && n ≤ 0x6DC)
      || (0x6DF ≤ n && n ≤ 0x6ED) || (0x711 ≤ n && n ≤ 0x180A) || (0x180F ≤ n && n ≤ 0x1DFF)
      || (0x20D0 ≤ n && n ≤ 0x20F0) || (0x302A ≤ n && n ≤ 0x309A) || (0xA66F ≤ n && n ≤ 0xABED)
      || (0xFE20 ≤ n && n ≤ 0xFE2F))

/-- A character that may stand in a name. The replacement character stands for none. -/
def isNameChar (c : Char) : Bool := (Text.isPrinted c && c ≠ '\uFFFD') || isMark c

end SlotBroker.Bench
