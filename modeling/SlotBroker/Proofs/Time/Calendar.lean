import SlotBroker.Time.Calendar

/-!
# Dates and day numbers

A year is as long as its twelve months, and begins where the year before ends. So every day lies in
just one year, which `yearOf` finds (`yearStart_yearOf_le`, `lt_yearStart_yearOf`), and at one
place in one month of it (`monthDay_spec`). The date of a day number is one of the calendar, and has
that number (`ofDayNumber_spec`).
-/

namespace SlotBroker.Time.Date

variable {y y' n : Int} {m k fuel : Nat}

/-! ## Years -/

theorem isLeapYear_iff : isLeapYear y = true ↔ y % 4 = 0 ∧ y % 100 ≠ 0 ∨ y % 400 = 0 := by
  simp [isLeapYear]

/-- The first day after a year, the months of which are those before the thirteenth. -/
theorem yearStart_add_one (y : Int) : yearStart (y + 1) = yearStart y + monthStart y 13 := by
  by_cases h : isLeapYear y = true
  · have hm : monthStart y 13 = 366 := by simp [monthStart, daysInMonth, h]
    rw [isLeapYear_iff] at h
    rw [hm, yearStart, yearStart]
    omega
  · have hm : monthStart y 13 = 365 := by simp [monthStart, daysInMonth, h]
    rw [isLeapYear_iff] at h
    rw [hm, yearStart, yearStart]
    omega

theorem yearStart_mono (h : y ≤ y') : yearStart y ≤ yearStart y' := by
  rw [yearStart, yearStart]
  omega

theorem yearStart_yearOf_le (n : Int) : yearStart (yearOf n) ≤ n := by
  simp only [yearOf]
  split
  · rw [yearStart] at *
    omega
  · split
    · assumption
    · omega

theorem lt_yearStart_yearOf (n : Int) : n < yearStart (yearOf n + 1) := by
  simp only [yearOf]
  split
  · simpa using ‹_›
  · split
    · rw [yearStart] at *
      omega
    · omega

/-- A day lies within years if its year does. -/
theorem yearOf_bounds (h : yearStart y ≤ n) (h' : n < yearStart (y' + 1)) :
    y ≤ yearOf n ∧ yearOf n ≤ y' := by
  have hle := yearStart_yearOf_le n
  have hlt := lt_yearStart_yearOf n
  refine ⟨Int.not_lt.1 fun hy => ?_, Int.not_lt.1 fun hy => ?_⟩
  · have := yearStart_mono (Int.add_one_le_iff.2 hy)
    omega
  · have := yearStart_mono (Int.add_one_le_iff.2 hy)
    omega

/-! ## Months -/

theorem daysInMonth_le (y : Int) (m : Nat) : daysInMonth y m ≤ 31 := by
  unfold daysInMonth
  split <;> (try split) <;> omega

/-- A day of the year, counted from the first of a month on, is a day of one of its months. -/
theorem monthDay_spec (hm : m + fuel = 12) (hm₁ : 1 ≤ m)
    (hk : monthStart y m + k < monthStart y 13) :
    let p := monthDay y fuel m k
    1 ≤ p.1 ∧ p.1 ≤ 12 ∧ 1 ≤ p.2 ∧ p.2 ≤ daysInMonth y p.1 ∧
      monthStart y p.1 + p.2 = monthStart y m + k + 1 := by
  induction fuel generalizing m k with
  | zero =>
    obtain rfl : m = 12 := hm
    have hlast : monthStart y 13 = monthStart y 12 + daysInMonth y 12 := rfl
    simp only [monthDay]
    omega
  | succ fuel ih =>
    simp only [monthDay]
    split
    · simp only
      omega
    · rename_i hd
      have hstart : monthStart y (m + 1) = monthStart y m + daysInMonth y m := rfl
      have hrest : monthStart y (m + 1) + (k - daysInMonth y m) < monthStart y 13 := by omega
      have hnext := ih (by omega) (by omega) hrest
      simp only at hnext
      omega

/-! ## Dates -/

theorem year_ofDayNumber (n : Int) : (ofDayNumber n).year = yearOf n := rfl

/-- A day number is that of its date. -/
theorem ofDayNumber_spec (n : Int) :
    (ofDayNumber n).Valid ∧ (ofDayNumber n).dayNumber = n := by
  have hle := yearStart_yearOf_le n
  have hlt := lt_yearStart_yearOf n
  rw [yearStart_add_one] at hlt
  have hfirst : monthStart (yearOf n) 1 = 0 := rfl
  have hday : monthStart (yearOf n) 1 + (n - yearStart (yearOf n)).toNat <
      monthStart (yearOf n) 13 := by omega
  have hspec := monthDay_spec (show 1 + 11 = 12 from rfl) (Nat.le_refl 1) hday
  simp only [ofDayNumber, Valid, dayNumber] at hspec ⊢
  omega

end SlotBroker.Time.Date
