import SlotBroker.Text.Numeral

/-!
# Numerals in decimal

A text of digits is read as its value, unless that is past the bound (`readDigits_eq`), and the
digits that a number is written with have it as their value (`decimalValue_digits`).
-/

namespace SlotBroker.Text

variable {c : Char} {cs : List Char} {n : Nat}

/-- The value of some digits that follow a prefix worth `acc`. -/
def decimalFrom (acc : Nat) (cs : List Char) : Nat :=
  cs.foldl (fun n c => n * 10 + (c.toNat - '0'.toNat)) acc

/-- The value of a text of digits. -/
def decimalValue (cs : List Char) : Nat := decimalFrom 0 cs

theorem isDigit_iff : c.isDigit = true ↔ 48 ≤ c.toNat ∧ c.toNat ≤ 57 := by
  simp only [Char.isDigit, Bool.and_eq_true, decide_eq_true_eq, ge_iff_le]
  rfl

theorem digitOf_isDigit (h : c.isDigit = true) : digitOf 10 c = some (c.toNat - '0'.toNat) := by
  have hd := isDigit_iff.1 h
  have hv : digitValue c = some (c.toNat - '0'.toNat) := if_pos hd
  have h0 : '0'.toNat = 48 := rfl
  unfold digitOf
  simp only [hv]
  rw [if_pos (by omega)]

theorem le_decimalFrom (acc : Nat) (cs : List Char) : acc ≤ decimalFrom acc cs := by
  induction cs generalizing acc with
  | nil => exact Nat.le_refl _
  | cons c cs ih =>
    have := ih (acc * 10 + (c.toNat - '0'.toNat))
    rw [decimalFrom, List.foldl_cons, ← decimalFrom]
    omega

theorem readDigits_eq {bound acc : Nat} (ha : acc < bound) (hd : ∀ c ∈ cs, c.isDigit = true) :
    readDigits 10 bound acc cs =
      if decimalFrom acc cs < bound then .ok (decimalFrom acc cs) else .error .tooLarge := by
  induction cs generalizing acc with
  | nil => exact (if_pos ha).symm
  | cons c cs ih =>
    rw [readDigits, digitOf_isDigit (hd c List.mem_cons_self), decimalFrom, List.foldl_cons,
      ← decimalFrom]
    simp only
    by_cases hb : acc * 10 + (c.toNat - '0'.toNat) < bound
    · rw [if_pos hb, ih hb fun c' h => hd c' (List.mem_cons_of_mem _ h)]
    · have := le_decimalFrom (acc * 10 + (c.toNat - '0'.toNat)) cs
      rw [if_neg hb, if_neg (by omega)]

theorem toNat_digitChar (h : n < 10) : (digitChar n).toNat = 48 + n := by
  have : ∀ n : Fin 10, (digitChar n).toNat = 48 + n := by decide
  exact this ⟨n, h⟩

theorem isDigit_digitChar (h : n < 10) : (digitChar n).isDigit = true := by
  rw [isDigit_iff, toNat_digitChar h]
  omega

theorem isAlphanum_digitChar (h : n < 36) : (digitChar n).isAlphanum = true := by
  have : ∀ n : Fin 36, (digitChar n).isAlphanum = true := by decide
  exact this ⟨n, h⟩

/-- A number is written with characters for numbers below the base. -/
theorem mem_digits {base : Nat} (hb : 2 ≤ base) (h : c ∈ digits base n) :
    ∃ d < base, c = digitChar d := by
  induction n using digits.induct base with
  | case1 n hn ih =>
    rw [digits, dif_pos hn, List.mem_append, List.mem_singleton] at h
    rcases h with h | rfl
    · exact ih h
    · exact ⟨n % base, Nat.mod_lt _ (by omega), rfl⟩
  | case2 n hn =>
    rw [digits, dif_neg hn, List.mem_singleton] at h
    exact ⟨n, by omega, h⟩

theorem isDigit_of_mem_digits (h : c ∈ digits 10 n) : c.isDigit = true := by
  obtain ⟨d, hd, rfl⟩ := mem_digits (by omega) h
  exact isDigit_digitChar hd

theorem isAlphanum_of_mem_digits {base : Nat} (hb : 2 ≤ base) (hb' : base ≤ 36)
    (h : c ∈ digits base n) : c.isAlphanum = true := by
  obtain ⟨d, hd, rfl⟩ := mem_digits hb h
  exact isAlphanum_digitChar (by omega)

theorem digits_ne_nil (base n : Nat) : digits base n ≠ [] := by
  rw [digits]
  split <;> simp

theorem decimalValue_concat (cs : List Char) (c : Char) :
    decimalValue (cs ++ [c]) = decimalValue cs * 10 + (c.toNat - '0'.toNat) := by
  simp only [decimalValue, decimalFrom, List.foldl_append, List.foldl_cons, List.foldl_nil]

theorem decimalValue_digitChar (h : n < 10) : (digitChar n).toNat - '0'.toNat = n := by
  have h0 : '0'.toNat = 48 := rfl
  rw [toNat_digitChar h, h0]
  omega

theorem decimalValue_digits (n : Nat) : decimalValue (digits 10 n) = n := by
  induction n using digits.induct 10 with
  | case1 n h ih =>
    rw [digits, dif_pos h, decimalValue_concat, ih, decimalValue_digitChar (by omega)]
    omega
  | case2 n h =>
    rw [digits, dif_neg h, ← List.nil_append [digitChar n], decimalValue_concat,
      decimalValue_digitChar (by omega)]
    exact Nat.zero_add n

end SlotBroker.Text
