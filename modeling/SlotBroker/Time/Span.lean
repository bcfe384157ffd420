import SlotBroker.Text.Numeral

/-!
# Lengths of time

A length of time counts nanoseconds. It is written in the largest of the units s, ms, µs and ns of
which it holds at least one, with a decimal fraction that has no zeros at its end.
-/

namespace SlotBroker.Time

structure Span where
  nanos : Nat
  deriving DecidableEq, Repr, Inhabited

namespace Span

def ofMillis (ms : Nat) : Span := ⟨ms * 1000000⟩

/-- Whole milliseconds, rounded down. -/
def millis (s : Span) : Nat := s.nanos / 1000000

def dropZeros (ds : List Char) : List Char := (ds.reverse.dropWhile (· == '0')).reverse

/-- The fraction `part / 10 ^ places` after a point, or nothing for zero. -/
def renderPart (places part : Nat) : String :=
  match dropZeros (Text.zeroPadded places part).toList with
  | [] => ""
  | ds => "." ++ String.ofList ds

def render (s : Span) : String :=
  let n := s.nanos
  if 1000000000 ≤ n then Text.decimal (n / 1000000000) ++ renderPart 9 (n % 1000000000) ++ "s"
  else if 1000000 ≤ n then Text.decimal (n / 1000000) ++ renderPart 6 (n % 1000000) ++ "ms"
  else if 1000 ≤ n then Text.decimal (n / 1000) ++ renderPart 3 (n % 1000) ++ "µs"
  else Text.decimal n ++ "ns"

end Span

end SlotBroker.Time
