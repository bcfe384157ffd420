/-!
# The calendar

Days of the proleptic Gregorian calendar, numbered so that day 0 is the first of January of the
year 1. `Date.ofDayNumber` undoes `Date.dayNumber`.
-/

namespace SlotBroker.Time

def isLeapYear (y : Int) : Bool := (y % 4 == 0 && y % 100 != 0) || y % 400 == 0

def daysInMonth (y : Int) : Nat → Nat
  | 1 => 31
  | 2 => if isLeapYear y then 29 else 28
  | 3 => 31
  | 4 => 30
  | 5 => 31
  | 6 => 30
  | 7 => 31
  | 8 => 31
  | 9 => 30
  | 10 => 31
  | 11 => 30
  | 12 => 31
  | _ => 0

structure Date where
  year : Int
  month : Nat
  day : Nat
  deriving DecidableEq, Repr

namespace Date

def Valid (d : Date) : Prop :=
  1 ≤ d.month ∧ d.month ≤ 12 ∧ 1 ≤ d.day ∧ d.day ≤ daysInMonth d.year d.month

instance (d : Date) : Decidable d.Valid := by unfold Valid; infer_instance

/-- The number of the first day of a year. -/
def yearStart (y : Int) : Int := 365 * (y - 1) + (y - 1) / 4 - (y - 1) / 100 + (y - 1) / 400

/-- How many days of the year lie before the month. -/
def monthStart (y : Int) : Nat → Nat
  | 0 => 0
  | m + 1 => monthStart y m + daysInMonth y m

def dayNumber (d : Date) : Int := yearStart d.year + monthStart d.year d.month + (d.day - 1)

/-- The year of a day: 400 years have 146097 days, and that estimate is off by one at most. -/
def yearOf (n : Int) : Int :=
  let y := n * 400 / 146097 + 1
  if n < yearStart y then y - 1 else if yearStart (y + 1) ≤ n then y + 1 else y

/-- Month and day of the month for a day of the year, from the given month on. -/
def monthDay (y : Int) : Nat → Nat → Nat → Nat × Nat
  | 0, m, k => (m, k + 1)
  | fuel + 1, m, k =>
    if k < daysInMonth y m then (m, k + 1) else monthDay y fuel (m + 1) (k - daysInMonth y m)

def ofDayNumber (n : Int) : Date :=
  let y := yearOf n
  let md := monthDay y 11 1 (n - yearStart y).toNat
  ⟨y, md.1, md.2⟩

end Date

end SlotBroker.Time
