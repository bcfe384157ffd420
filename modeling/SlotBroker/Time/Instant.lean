import SlotBroker.Text.Blank
import SlotBroker.Text.Numeral
import SlotBroker.Time.Calendar

/-!
# Instants

A point of time as seconds since the beginning of 1970 in UTC and nanoseconds within the second. The
years run from -262143 to 262142. A leap second is told as 59 seconds and a nanosecond count of
10⁹ or more.

An instant is written as date and time after RFC 3339 with as few groups of three fraction digits
as hold its value. Reading is more generous: blanks may stand before a number and before a
separator, the fraction may have any number of digits, and the offset may have any sign and lack its
colon.
-/

namespace SlotBroker.Time

/-- The day number of the first of January 1970. -/
def epochDay : Int := 719162

def minYear : Int := -262143

def maxYear : Int := 262142

def secondsPerDay : Int := 86400

def minSeconds : Int := (Date.yearStart minYear - epochDay) * secondsPerDay

def maxSeconds : Int := (Date.yearStart (maxYear + 1) - epochDay) * secondsPerDay - 1

def nanosPerSecond : Nat := 1000000000

structure Instant where
  seconds : Int
  nanos : Nat
  inRange : minSeconds ≤ seconds ∧ seconds ≤ maxSeconds
  nanos_lt : nanos < 2 * nanosPerSecond
  leap_only_at_59 : nanosPerSecond ≤ nanos → seconds % 60 = 59
  deriving DecidableEq

namespace Instant

/-- The instant with these seconds and nanoseconds, if there is one. -/
def ofParts? (seconds : Int) (nanos : Nat) : Option Instant :=
  if h₁ : minSeconds ≤ seconds ∧ seconds ≤ maxSeconds then
    if h₂ : nanos < 2 * nanosPerSecond then
      if h₃ : nanosPerSecond ≤ nanos → seconds % 60 = 59 then some ⟨seconds, nanos, h₁, h₂, h₃⟩
      else none
    else none
  else none

def epoch : Instant := ⟨0, 0, by decide, by decide, by decide⟩

instance : Inhabited Instant := ⟨epoch⟩

def isLeapSecond (t : Instant) : Bool := nanosPerSecond ≤ t.nanos

/-- Whole milliseconds since the beginning of 1970, rounded down. -/
def millis (t : Instant) : Int := t.seconds * 1000 + (t.nanos / 1000000 : Nat)

/-- The instant at a count of milliseconds since the beginning of 1970. -/
def ofMillis? (ms : Int) : Option Instant := ofParts? (ms / 1000) ((ms % 1000).toNat * 1000000)

/-! ## Writing -/

/-- A year outside 0 to 9999 has a sign. -/
def renderYear (y : Int) : String :=
  if 0 ≤ y ∧ y ≤ 9999 then Text.zeroPadded 4 y.natAbs
  else (if y < 0 then "-" else "+") ++ Text.zeroPadded 4 y.natAbs

/-- No digits, or as few groups of three as hold the value. -/
def renderFraction (nanos : Nat) : String :=
  if nanos = 0 then ""
  else if nanos % 1000000 = 0 then "." ++ Text.zeroPadded 3 (nanos / 1000000)
  else if nanos % 1000 = 0 then "." ++ Text.zeroPadded 6 (nanos / 1000)
  else "." ++ Text.zeroPadded 9 nanos

def date (t : Instant) : Date := Date.ofDayNumber (t.seconds / secondsPerDay + epochDay)

def secondOfDay (t : Instant) : Nat := (t.seconds % secondsPerDay).toNat

/-- Date and time in UTC, with the given text for the offset. -/
def renderWith (offset : String) (t : Instant) : String :=
  let d := t.date
  let s := t.secondOfDay
  let second := s % 60 + t.nanos / nanosPerSecond
  renderYear d.year ++ "-" ++ Text.zeroPadded 2 d.month ++ "-" ++ Text.zeroPadded 2 d.day ++ "T"
    ++ Text.zeroPadded 2 (s / 3600) ++ ":" ++ Text.zeroPadded 2 (s / 60 % 60) ++ ":"
    ++ Text.zeroPadded 2 second ++ renderFraction (t.nanos % nanosPerSecond) ++ offset

def rfc3339 (t : Instant) : String := t.renderWith "+00:00"

/-- The form used in JSON. -/
def render (t : Instant) : String := t.renderWith "Z"

/-! ## Reading -/

/-- At most `width` leading digits and what follows them. -/
def spanDigits : Nat → List Char → List Char × List Char
  | 0, cs => ([], cs)
  | _, [] => ([], [])
  | width + 1, c :: cs =>
    if c.isDigit then let r := spanDigits width cs; (c :: r.1, r.2) else ([], c :: cs)

def digitsValue (ds : List Char) : Nat := ds.foldl (fun n c => n * 10 + (c.toNat - '0'.toNat)) 0

/-- A number of at least one and at most `width` digits. -/
def readNumber (width : Nat) (cs : List Char) : Option (Nat × List Char) :=
  match spanDigits width cs with
  | ([], _) => none
  | (ds, rest) => some (digitsValue ds, rest)

/-- A number between blanks and a bound. -/
def readField (lo hi : Nat) (cs : List Char) : Option (Nat × List Char) := do
  let (n, rest) ← readNumber 2 (Text.trimStart cs)
  if lo ≤ n ∧ n ≤ hi then some (n, rest) else none

/-- The given character after blanks. -/
def readMark (mark : Char) (cs : List Char) : Option (List Char) :=
  match Text.trimStart cs with
  | c :: rest => if c = mark then some rest else none
  | [] => none

/-- A year of up to four digits, or of any number of digits after a sign. -/
def readYear (cs : List Char) : Option (Int × List Char) :=
  match Text.trimStart cs with
  | '-' :: rest => (readNumber rest.length rest).map fun (n, r) => (-(n : Int), r)
  | '+' :: rest => (readNumber rest.length rest).map fun (n, r) => ((n : Int), r)
  | rest => (readNumber 4 rest).map fun (n, r) => ((n : Int), r)

/-- Nanoseconds after a point; digits past the ninth are dropped. -/
def readFraction : List Char → Option (Nat × List Char)
  | '.' :: cs =>
    match spanDigits 9 cs with
    | ([], _) => none
    | (ds, rest) => some (digitsValue ds * Nat.pow 10 (9 - ds.length), rest.dropWhile Char.isDigit)
  | cs => some (0, cs)

/-- The seconds of an offset after its sign. -/
def readOffsetSize (cs : List Char) : Option (Nat × List Char) :=
  match cs with
  | h₁ :: h₂ :: rest =>
    if h₁.isDigit ∧ h₂.isDigit then
      match rest.dropWhile (fun c => c == ':' || Text.isBlank c) with
      | m₁ :: m₂ :: rest =>
        if m₁.isDigit ∧ m₂.isDigit ∧ m₁ ≤ '5' then
          some (digitsValue [h₁, h₂] * 3600 + digitsValue [m₁, m₂] * 60, rest)
        else none
      | _ => none
    else none
  | _ => none

/-- An offset in seconds: `Z`, `UTC`, or a sign with hours and minutes. -/
def readOffset (cs : List Char) : Option (Int × List Char) :=
  match cs with
  | 'Z' :: rest => some (0, rest)
  | 'z' :: rest => some (0, rest)
  | '+' :: rest => (readOffsetSize rest).map fun (n, r) => ((n : Int), r)
  | '-' :: rest => (readOffsetSize rest).map fun (n, r) => (-(n : Int), r)
  | '\u2212' :: rest => (readOffsetSize rest).map fun (n, r) => (-(n : Int), r)
  | a :: b :: c :: rest =>
    if [a.toLower, b.toLower, c.toLower] = ['u', 't', 'c'] then some (0, rest) else none
  | _ => none

/-- The letter or blank between date and time. -/
def readSeparator : List Char → Option (List Char)
  | 'T' :: rest => some rest
  | 't' :: rest => some rest
  | ' ' :: rest => some rest
  | _ => none

/-- Put a date, a time of day and an offset together. -/
def assemble (date : Date) (hour minute second nanos : Nat) (offset : Int) : Option Instant :=
  if date.Valid ∧ minYear ≤ date.year ∧ date.year ≤ maxYear ∧ offset.natAbs < 86400 then
    let ofDay : Int := hour * 3600 + minute * 60 + (if second = 60 then 59 else second)
    let seconds := (date.dayNumber - epochDay) * secondsPerDay + ofDay - offset
    ofParts? seconds (if second = 60 then nanos + nanosPerSecond else nanos)
  else none

/-- Read an instant. -/
def parse? (s : String) : Option Instant := do
  let (year, cs) ← readYear s.toList
  let cs ← readMark '-' cs
  let (month, cs) ← readField 1 12 cs
  let cs ← readMark '-' cs
  let (day, cs) ← readField 1 31 cs
  let cs ← readSeparator cs
  let (hour, cs) ← readField 0 23 cs
  let cs ← readMark ':' cs
  let (minute, cs) ← readField 0 59 cs
  let cs ← readMark ':' cs
  let (second, cs) ← readField 0 60 cs
  let (nanos, cs) ← readFraction cs
  let (offset, cs) ← readOffset (Text.trimStart cs)
  if Text.isAllBlank cs then assemble ⟨year, month, day⟩ hour minute second nanos offset else none

end Instant

end SlotBroker.Time
