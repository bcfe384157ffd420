import SlotBroker.Text.Numeral

/-!
# Shortest decimals

A double is a sign, a mantissa below `2 ^ 53` and a power of two. A decimal is read as the nearest
double, of two equally near ones the one with the even mantissa. A double is written with the fewest
digits that read back as it, of several the nearest to it, and always positionally.
-/

namespace SlotBroker.Decimal

/-- A double without its sign: the mantissa times two to the exponent, infinity, or no number. -/
inductive Magnitude
  | finite (mantissa : Nat) (exponent : Int)
  | infinite
  | undefined
  deriving DecidableEq, Repr, Inhabited

structure Double where
  negative : Bool
  magnitude : Magnitude
  deriving DecidableEq, Repr, Inhabited

/-- The least exponent of a double. -/
def leastExponent : Int := -1074

/-- Two to the power of 53: mantissas are below. -/
def mantissaLimit : Nat := 9007199254740992

/-- The quotient rounded to a whole number, a half going to the even neighbour. -/
def roundDiv (num den : Nat) : Nat :=
  let q := num / den
  let r := num % den
  if 2 * r < den then q
  else if den < 2 * r then q + 1
  else if q % 2 = 0 then q else q + 1

/-- A fraction times a power of a base, as a fraction. -/
def scale (base : Nat) (k : Int) (num den : Nat) : Nat × Nat :=
  if 0 ≤ k then (num * Nat.pow base k.toNat, den) else (num, den * Nat.pow base k.natAbs)

/-- The double nearest to a fraction. -/
def nearest (num den : Nat) : Magnitude :=
  if num = 0 then .finite 0 leastExponent
  else
    let size : Int := (Nat.log2 num : Int) - Nat.log2 den
    let start : Int := max leastExponent (size - 53)
    let fits (e : Int) : Bool :=
      let f := scale 2 (-e) num den
      f.1 < mantissaLimit * f.2
    let e := if fits start then start else if fits (start + 1) then start + 1 else start + 2
    let f := scale 2 (-e) num den
    let m := roundDiv f.1 f.2
    let r : Nat × Int := if m = mantissaLimit then (mantissaLimit / 2, e + 1) else (m, e)
    if 971 < r.2 then .infinite else .finite r.1 r.2

/-- The double nearest to digits times a power of ten. -/
def ofDecimal (digits : Nat) (exponent : Int) : Magnitude :=
  if digits = 0 then .finite 0 leastExponent
  else
    let length : Int := (Text.digits 10 digits).length
    if 400 < exponent + length then .infinite
    else if exponent + length < -400 then .finite 0 leastExponent
    else
      let f := scale 10 exponent digits 1
      nearest f.1 f.2

/-- A decimal: digits, and how many places they are shifted to the left. -/
structure Shifted where
  digits : Nat
  exponent : Int
  deriving DecidableEq, Repr

/-- The decimal is read as the double. -/
def readsBack (mantissa : Nat) (exponent : Int) (d : Shifted) : Bool :=
  let f := scale 10 d.exponent d.digits 1
  nearest f.1 f.2 == .finite mantissa exponent

/-- The power of ten of the leading digit of a fraction. -/
def leadingPower (num den : Nat) : Int :=
  let guess : Int :=
    ((Text.digits 10 num).length : Int) - ((Text.digits 10 den).length : Int)
  let f := scale 10 (-guess) num den
  if f.2 ≤ f.1 then guess else guess - 1

/-- The decimal with that many digits that is nearest to a fraction and reads back, if one does. -/
def withDigits (mantissa : Nat) (exponent : Int) (num den : Nat) (top : Int) (n : Nat) :
    Option Shifted :=
  let k := top - (n : Int) + 1
  let f := scale 10 (-k) num den
  let low := f.1 / f.2
  let r := f.1 % f.2
  let down : Shifted := ⟨low, k⟩
  let up : Shifted := ⟨low + 1, k⟩
  match readsBack mantissa exponent down, readsBack mantissa exponent up with
  | true, true => some (if 2 * r ≤ f.2 then down else up)
  | true, false => some down
  | false, true => some up
  | false, false => none

/-- The shortest decimal that reads back as the double. Seventeen digits always do. -/
def shortest (mantissa : Nat) (exponent : Int) : Shifted :=
  if mantissa = 0 then ⟨0, 0⟩
  else
    let f := scale 2 exponent mantissa 1
    let top := leadingPower f.1 f.2
    ((List.range 17).findSome? fun n => withDigits mantissa exponent f.1 f.2 top (n + 1)).getD
      ⟨0, 0⟩

/-- Digits without a power of ten: zeros after them, or a point among them. -/
def positional (d : Shifted) : String :=
  if 0 ≤ d.exponent then
    Text.decimal (d.digits * Nat.pow 10 d.exponent.toNat)
  else
    let places := d.exponent.natAbs
    let cs := (Text.zeroPadded (places + 1) d.digits).toList
    let whole := cs.take (cs.length - places)
    let part := (cs.drop (cs.length - places)).reverse.dropWhile (· == '0') |>.reverse
    if part.isEmpty then String.ofList whole else String.ofList (whole ++ '.' :: part)

namespace Double

/-- The text of a double. A whole number has no point. -/
def render (d : Double) : String :=
  let sign := if d.negative then "-" else ""
  match d.magnitude with
  | .undefined => "NaN"
  | .infinite => sign ++ "inf"
  | .finite m e => sign ++ positional (shortest m e)

/-- A sign in front, if there is one. -/
def splitSign : List Char → Bool × List Char
  | '-' :: cs => (true, cs)
  | '+' :: cs => (false, cs)
  | cs => (false, cs)

/-- The exponent after the digits: nothing, or an `e` and a number. -/
def readExponent : List Char → Option Int
  | [] => some 0
  | c :: cs =>
    let s := splitSign cs
    if (c = 'e' || c = 'E') && !s.2.isEmpty && s.2.all Char.isDigit then
      let n : Int := (s.2.foldl (fun n d => n * 10 + (d.toNat - '0'.toNat)) 0 : Nat)
      some (if s.1 then -n else n)
    else none

/-- The double that a decimal text means: digits with or without a point and an exponent. -/
def parse? (cs : List Char) : Option Double :=
  let s := splitSign cs
  let whole := s.2.takeWhile Char.isDigit
  let rest := s.2.dropWhile Char.isDigit
  let tail := if rest.head? = some '.' then rest.drop 1 else rest
  let fraction := if rest.head? = some '.' then tail.takeWhile Char.isDigit else []
  let rest := if rest.head? = some '.' then tail.dropWhile Char.isDigit else rest
  if whole.isEmpty && fraction.isEmpty then none
  else
    (readExponent rest).map fun e =>
      let digits := (whole ++ fraction).foldl (fun n d => n * 10 + (d.toNat - '0'.toNat)) 0
      ⟨s.1, ofDecimal digits (e - fraction.length)⟩

end Double

end SlotBroker.Decimal
