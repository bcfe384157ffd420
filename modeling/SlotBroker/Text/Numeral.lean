/-!
# Numerals

Natural numbers written in a base, and read back with a bound. Reading goes digit by digit from the
left and stops at the first fault: a character that is no digit of the base, or a value past the
bound. Leading zeros are allowed, and so is one plus sign before the digits.
-/

namespace SlotBroker.Text

/-- Why a text is not a number within bounds. -/
inductive NumeralError
  | empty
  | invalidDigit
  | tooLarge
  | tooSmall
  deriving DecidableEq, Repr

namespace NumeralError

def message : NumeralError → String
  | empty => "cannot parse integer from empty string"
  | invalidDigit => "invalid digit found in string"
  | tooLarge => "number too large to fit in target type"
  | tooSmall => "number too small to fit in target type"

end NumeralError

/-- The value of a digit, letters of either case standing for ten and up. -/
def digitValue (c : Char) : Option Nat :=
  if '0' ≤ c ∧ c ≤ '9' then some (c.toNat - '0'.toNat)
  else if 'a' ≤ c ∧ c ≤ 'z' then some (c.toNat - 'a'.toNat + 10)
  else if 'A' ≤ c ∧ c ≤ 'Z' then some (c.toNat - 'A'.toNat + 10)
  else none

/-- The value of a digit of the given base. -/
def digitOf (base : Nat) (c : Char) : Option Nat :=
  match digitValue c with
  | some d => if d < base then some d else none
  | none => none

/-- Read the digits after a prefix worth `acc`, refusing values of `bound` and more. -/
def readDigits (base bound : Nat) : Nat → List Char → Except NumeralError Nat
  | acc, [] => .ok acc
  | acc, c :: cs =>
    match digitOf base c with
    | none => .error .invalidDigit
    | some d =>
      if acc * base + d < bound then readDigits base bound (acc * base + d) cs
      else .error .tooLarge

/-- Read a number below `bound`: an optional plus sign and at least one digit. -/
def readNat (base bound : Nat) : List Char → Except NumeralError Nat
  | [] => .error .empty
  | ['+'] => .error .invalidDigit
  | '+' :: cs => readDigits base bound 0 cs
  | cs => readDigits base bound 0 cs

/-- Read a number in decimal that may have a minus sign. It lies between the negative of `bound` and
`bound`, of which only the negative is allowed. -/
def readSigned (bound : Nat) : List Char → Except NumeralError Int
  | ['-'] => .error .invalidDigit
  | '-' :: cs =>
    match readDigits 10 (bound + 1) 0 cs with
    | .ok n => .ok (-(n : Int))
    | .error .tooLarge => .error .tooSmall
    | .error e => .error e
  | cs =>
    match readNat 10 bound cs with
    | .ok n => .ok n
    | .error e => .error e

/-- Two to the power of 63. -/
def signedLimit : Nat := 9223372036854775808

/-- Read a signed 64-bit number in decimal. -/
def readSigned64 (s : String) : Except NumeralError Int := readSigned signedLimit s.toList

/-- Read a 64-bit number in decimal. -/
def readDecimal (s : String) : Except NumeralError UInt64 :=
  (readNat 10 UInt64.size s.toList).map UInt64.ofNat

def digitChar (d : Nat) : Char :=
  if d < 10 then Char.ofNat ('0'.toNat + d) else Char.ofNat ('a'.toNat + (d - 10))

/-- The digits of `n` in a base of at least two, most significant first. -/
def digits (base : Nat) (n : Nat) : List Char :=
  if _h : 2 ≤ base ∧ base ≤ n then
    digits base (n / base) ++ [digitChar (n % base)]
  else [digitChar n]
termination_by n
decreasing_by exact Nat.div_lt_self (by omega) (by omega)

def decimal (n : Nat) : String := String.ofList (digits 10 n)

def hex (n : Nat) : String := String.ofList (digits 16 n)

/-- A signed number in decimal. -/
def signedDecimal (i : Int) : String :=
  if i < 0 then "-" ++ decimal i.natAbs else decimal i.natAbs

/-- The digits of `n` with zeros in front up to the given width. -/
def zeroPadded (width n : Nat) : String :=
  let ds := digits 10 n
  String.ofList (List.replicate (width - ds.length) '0' ++ ds)

end SlotBroker.Text
