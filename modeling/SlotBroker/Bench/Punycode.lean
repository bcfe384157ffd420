/-!
# Punycode

A text of any characters in letters, digits and hyphens: first its ASCII characters, then, in
ascending order, where each of the others goes. The places are numbers of base 36, whose digits come
lowest first; a digit below the threshold of its position ends a number. The thresholds follow the
size of the numbers that went before.
-/

namespace SlotBroker.Bench.Punycode

def digitChar (d : Nat) : Char := if d < 26 then Char.ofNat (97 + d) else Char.ofNat (22 + d)

def digitValue? (c : Char) : Option Nat :=
  if 'a' ≤ c ∧ c ≤ 'z' then some (c.toNat - 97)
  else if '0' ≤ c ∧ c ≤ '9' then some (c.toNat - 22)
  else none

/-- The least digit at a position that does not end the number. -/
def threshold (position bias : Nat) : Nat :=
  if position ≤ bias then 1 else if bias + 26 ≤ position then 26 else position - bias

theorem threshold_pos (k b : Nat) : 0 < threshold k b := by
  unfold threshold
  split
  · omega
  · split <;> omega

/-- How often a number has to be divided by 35 to be at most 455, and what is left of it. -/
def shrink (delta times : Nat) : Nat × Nat :=
  if 455 < delta then shrink (delta / 35) (times + 1) else (delta, times)
termination_by delta
decreasing_by exact Nat.div_lt_self (by omega) (by omega)

/-- The bias after a number, when so many characters have been placed. -/
def adapt (delta placed : Nat) (first : Bool) : Nat :=
  let d := if first then delta / 700 else delta / 2
  let s := shrink (d + d / placed) 0
  36 * s.2 + 36 * s.1 / (s.1 + 38)

/-! ## Writing -/

/-- A number from a position on. -/
def writeNumber (bias position n : Nat) : List Char :=
  let t := threshold position bias
  if n < t then [digitChar n]
  else
    digitChar (t + (n - t) % (36 - t)) :: writeNumber bias (position + 36) ((n - t) / (36 - t))
termination_by n
decreasing_by
  have := threshold_pos position bias
  have := Nat.div_le_self (n - threshold position bias) (36 - threshold position bias)
  omega

/-- A text in the making: what has been written, the places passed since, the bias, and how many
characters have been placed. -/
structure Writing where
  written : List Char
  passed : Nat
  bias : Nat
  placed : Nat

/-- Go past one character, or write its place if it is the one with the number `m`. `start` tells
how many characters were there at first. -/
def Writing.visit (start m : Nat) (w : Writing) (c : Char) : Writing :=
  if c.toNat < m then { w with passed := w.passed + 1 }
  else if c.toNat = m then
    { written := w.written ++ writeNumber w.bias 36 w.passed, passed := 0,
      bias := adapt w.passed (w.placed + 1) (w.placed = start), placed := w.placed + 1 }
  else w

/-- Write the places of the characters with each of the given numbers, `n` being the next number. -/
def writeAll (cs : List Char) (start : Nat) : List Nat → Nat → Writing → Writing
  | [], _, w => w
  | m :: ms, n, w =>
    let jumped := { w with passed := w.passed + (m - n) * (w.placed + 1) }
    let done := cs.foldl (Writing.visit start m) jumped
    writeAll cs start ms (m + 1) { done with passed := done.passed + 1 }

/-- Put a number among others in ascending order, once. -/
def insertNumber (n : Nat) : List Nat → List Nat
  | [] => [n]
  | m :: ms => if n < m then n :: m :: ms else if n = m then m :: ms else m :: insertNumber n ms

def isAscii (c : Char) : Bool := c.toNat < 0x80

def encode (cs : List Char) : List Char :=
  let basic := cs.filter isAscii
  let others := (cs.filter fun c => !isAscii c).foldr (fun c ns => insertNumber c.toNat ns) []
  let delimiter := if basic.isEmpty then [] else ['-']
  basic ++ delimiter
    ++ (writeAll cs basic.length others 0x80 ⟨[], 0, 72, basic.length⟩).written

/-! ## Reading -/

/-- A number from a position on, times a weight, added to what has been read. -/
def readNumber (bias : Nat) : Nat → Nat → Nat → List Char → Option (Nat × List Char)
  | _, _, _, [] => none
  | position, weight, n, c :: cs =>
    match digitValue? c with
    | none => none
    | some d =>
      let t := threshold position bias
      if d < t then some (n + d * weight, cs)
      else readNumber bias (position + 36) (weight * (36 - t)) (n + d * weight) cs

/-- Put characters into a text at the places that are read. The first number bounds the steps. -/
def readAll : Nat → Nat → Nat → Nat → List Char → List Char → Option (List Char)
  | _, _, _, _, text, [] => some text
  | 0, _, _, _, _, _ :: _ => none
  | fuel + 1, bias, number, place, text, c :: cs =>
    match readNumber bias 36 1 place (c :: cs) with
    | none => none
    | some (i, rest) =>
      let size := text.length + 1
      let m := number + i / size
      if m < 0xD800 ∨ (0xDFFF < m ∧ m < 0x110000) then
        readAll fuel (adapt (i - place) size (place = 0)) m (i % size + 1)
          (text.insertIdx (i % size) (Char.ofNat m)) rest
      else none

/-- What stands before the last hyphen, and what stands after it. -/
def splitAtHyphen (cs : List Char) : List Char × List Char :=
  if cs.contains '-' then
    let after := (cs.reverse.takeWhile (· != '-')).reverse
    (cs.take (cs.length - after.length - 1), after)
  else ([], cs)

def decode (cs : List Char) : Option (List Char) :=
  let parts := splitAtHyphen cs
  if parts.1.all isAscii then readAll parts.2.length 72 0x80 0 parts.1 parts.2 else none

end SlotBroker.Bench.Punycode
