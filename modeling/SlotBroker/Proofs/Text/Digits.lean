import Mathlib.Data.List.Forall2
import Mathlib.Data.Nat.Digits.Defs
import SlotBroker.Proofs.Text.Numeral

/-!
# Numerals in any base

A numeral is an optional plus sign and digits of a base, of which the letters may be capitals, and
it stands for the number with these digits. A text is read as a number exactly if it is a numeral of
that number and the number is below the bound (`readNat_eq_ok_iff`), and what `digits` writes is a
numeral of what was written (`numeral_digits`).
-/

namespace SlotBroker.Text

/-- A character is a digit of a base, worth so much. -/
inductive IsDigit (base : Nat) (c : Char) : Nat → Prop
  | figure {d} (hc : c.toNat = '0'.toNat + d) (hd : d < 10) (hb : d < base) : IsDigit base c d
  | small {d} (hc : c.toNat = 'a'.toNat + d) (hd : d < 26) (hb : d + 10 < base) :
      IsDigit base c (d + 10)
  | capital {d} (hc : c.toNat = 'A'.toNat + d) (hd : d < 26) (hb : d + 10 < base) :
      IsDigit base c (d + 10)

/-- Digits of a base, one or more, that are those of a number. -/
def Digits (base : Nat) (cs : List Char) (n : Nat) : Prop :=
  cs ≠ [] ∧ ∃ ds, List.Forall₂ (IsDigit base) cs ds ∧ Nat.ofDigits base ds.reverse = n

/-- Digits of a number, with a plus sign before them or not. -/
inductive Numeral (base : Nat) : List Char → Nat → Prop
  | plain {cs n} (h : Digits base cs n) : Numeral base cs n
  | signed {cs n} (h : Digits base cs n) : Numeral base ('+' :: cs) n

variable {base bound acc n m d : Nat} {c : Char} {cs : List Char} {ds : List Nat}

/-! ## One digit -/

theorem digitValue_eq_some_iff : digitValue c = some d ↔ IsDigit 36 c d := by
  have h0 : '0'.toNat = 48 := rfl
  have ha : 'a'.toNat = 97 := rfl
  have hA : 'A'.toNat = 65 := rfl
  have hle (a b : Char) : a ≤ b ↔ a.toNat ≤ b.toNat := Iff.rfl
  have h9 : '9'.toNat = 57 := rfl
  have hz : 'z'.toNat = 122 := rfl
  have hZ : 'Z'.toNat = 90 := rfl
  simp only [digitValue, hle, h0, ha, hA, h9, hz, hZ]
  constructor
  · intro h
    split at h
    · cases h
      exact .figure (by omega) (by omega) (by omega)
    split at h
    · cases h
      exact .small (by omega) (by omega) (by omega)
    split at h
    · cases h
      exact .capital (by omega) (by omega) (by omega)
    · cases h
  · rintro (⟨hc, hd, -⟩ | ⟨hc, hd, -⟩ | ⟨hc, hd, -⟩)
    · rw [if_pos (by omega), Option.some.injEq]
      omega
    · rw [if_neg (by omega), if_pos (by omega), Option.some.injEq]
      omega
    · rw [if_neg (by omega), if_neg (by omega), if_pos (by omega), Option.some.injEq]
      omega

theorem IsDigit.lt (h : IsDigit base c d) : d < base := by
  rcases h with ⟨-, -, h⟩ | ⟨-, -, h⟩ | ⟨-, -, h⟩ <;> exact h

/-- A digit is one of every base above its worth. -/
theorem IsDigit.within (h : IsDigit base c d) (hd : d < m) : IsDigit m c d := by
  rcases h with ⟨hc, h, -⟩ | ⟨hc, h, -⟩ | ⟨hc, h, -⟩
  · exact .figure hc h hd
  · exact .small hc h hd
  · exact .capital hc h hd

theorem digitOf_eq_some_iff (hb : base ≤ 36) : digitOf base c = some d ↔ IsDigit base c d := by
  unfold digitOf
  constructor
  · intro h
    split at h
    · rename_i e he
      split at h
      · cases h
        exact (digitValue_eq_some_iff.1 he).within ‹_›
      · cases h
    · cases h
  · intro h
    have hv := digitValue_eq_some_iff.2 (h.within (Nat.lt_of_lt_of_le h.lt hb))
    simp only [hv, if_pos h.lt]

theorem IsDigit.unique (hb : base ≤ 36) (h : IsDigit base c d) (h' : IsDigit base c m) : d = m := by
  have hd := (digitOf_eq_some_iff hb).2 h
  rw [(digitOf_eq_some_iff hb).2 h'] at hd
  exact (Option.some.inj hd).symm

theorem digit_digitChar (hb : base ≤ 36) (hd : d < base) : IsDigit base (digitChar d) d := by
  have hv : ∀ d : Fin 36, digitValue (digitChar d) = some d.val := by decide
  exact (digitValue_eq_some_iff.1 (hv ⟨d, by omega⟩)).within hd

theorem digit_zero (hb : 0 < base) : IsDigit base '0' 0 := .figure rfl (by omega) hb

/-! ## Digits as a number -/

/-- What digits after a prefix worth `acc` come to. -/
theorem foldl_eq (base acc : Nat) (ds : List Nat) : ds.foldl (fun n d => n * base + d) acc =
    acc * base ^ ds.length + Nat.ofDigits base ds.reverse := by
  induction ds generalizing acc with
  | nil => simp
  | cons d ds ih =>
    rw [List.foldl_cons, ih, List.reverse_cons, Nat.ofDigits_append, Nat.ofDigits_singleton,
      List.length_reverse, List.length_cons]
    ring

theorem foldl_zero (base : Nat) (ds : List Nat) :
    ds.foldl (fun n d => n * base + d) 0 = Nat.ofDigits base ds.reverse := by
  rw [foldl_eq, Nat.zero_mul, Nat.zero_add]

theorem le_foldl (hb : 0 < base) (acc : Nat) (ds : List Nat) :
    acc ≤ ds.foldl (fun n d => n * base + d) acc := by
  rw [foldl_eq]
  have := Nat.le_mul_of_pos_right acc (Nat.pow_pos (n := ds.length) hb)
  omega

theorem readDigits_forall₂ (hb : 0 < base) (hb' : base ≤ 36) (ha : acc < bound)
    (h : List.Forall₂ (IsDigit base) cs ds) : readDigits base bound acc cs =
      if ds.foldl (fun n d => n * base + d) acc < bound then
        .ok (ds.foldl (fun n d => n * base + d) acc)
      else .error .tooLarge := by
  induction h generalizing acc with
  | nil => exact (if_pos ha).symm
  | @cons c d cs ds hc _ ih =>
    rw [readDigits, (digitOf_eq_some_iff hb').2 hc, List.foldl_cons]
    simp only
    by_cases hlt : acc * base + d < bound
    · rw [if_pos hlt, ih hlt]
    · have := le_foldl hb (acc * base + d) ds
      rw [if_neg hlt, if_neg (by omega)]

theorem forall₂_of_readDigits (hb : base ≤ 36) (h : readDigits base bound acc cs = .ok n) :
    ∃ ds, List.Forall₂ (IsDigit base) cs ds := by
  induction cs generalizing acc with
  | nil => exact ⟨[], .nil⟩
  | cons c cs ih =>
    rw [readDigits] at h
    split at h
    · cases h
    · rename_i d hd
      split at h
      · obtain ⟨ds, hds⟩ := ih h
        exact ⟨d :: ds, .cons ((digitOf_eq_some_iff hb).1 hd) hds⟩
      · cases h

theorem Digits.read (hb : 0 < base) (hb' : base ≤ 36) (h0 : 0 < bound) (h : Digits base cs n) :
    readDigits base bound 0 cs = if n < bound then .ok n else .error .tooLarge := by
  obtain ⟨-, ds, hds, rfl⟩ := h
  rw [readDigits_forall₂ hb hb' h0 hds, foldl_zero]

/-- A zero before digits does not count. -/
theorem digits_zero_cons (hb : 0 < base) (hb' : base ≤ 36) (hn : cs ≠ []) :
    Digits base ('0' :: cs) n ↔ Digits base cs n := by
  have hz (ds : List Nat) :
      Nat.ofDigits base (0 :: ds).reverse = Nat.ofDigits base ds.reverse := by
    rw [List.reverse_cons, Nat.ofDigits_append, Nat.ofDigits_singleton, Nat.mul_zero, Nat.add_zero]
  constructor
  · rintro ⟨-, ds, hds, rfl⟩
    rcases hds with _ | ⟨hc, hds⟩
    obtain rfl := hc.unique hb' (digit_zero hb)
    exact ⟨hn, _, hds, (hz _).symm⟩
  · rintro ⟨-, ds, hds, rfl⟩
    exact ⟨List.cons_ne_nil _ _, 0 :: ds, .cons (digit_zero hb) hds, hz ds⟩

theorem digits_zeros_append (hb : 0 < base) (hb' : base ≤ 36) (k : Nat) (hn : cs ≠ []) :
    Digits base (List.replicate k '0' ++ cs) n ↔ Digits base cs n := by
  induction k with
  | zero => rfl
  | succ k ih =>
    rw [List.replicate_succ, List.cons_append, digits_zero_cons hb hb' (by simp [hn]), ih]

/-! ## Numerals -/

theorem plus_not_digit : ¬ IsDigit base '+' d := by
  have hp : '+'.toNat = 43 := rfl
  have h0 : '0'.toNat = 48 := rfl
  have ha : 'a'.toNat = 97 := rfl
  have hA : 'A'.toNat = 65 := rfl
  rintro (⟨hc, -, -⟩ | ⟨hc, -, -⟩ | ⟨hc, -, -⟩) <;> omega

theorem Digits.head_ne_plus (h : Digits base cs n) : cs.head? ≠ some '+' := by
  obtain ⟨-, ds, hds, -⟩ := h
  rcases hds with _ | ⟨hc, -⟩
  · simp
  · intro hp
    rw [List.head?_cons, Option.some.injEq] at hp
    exact plus_not_digit (hp ▸ hc)

theorem readNat_plain (hn : cs ≠ []) (hp : cs.head? ≠ some '+') :
    readNat base bound cs = readDigits base bound 0 cs := by
  unfold readNat
  split
  · exact absurd rfl hn
  · simp at hp
  · simp at hp
  · rfl

theorem readNat_signed (hn : cs ≠ []) :
    readNat base bound ('+' :: cs) = readDigits base bound 0 cs := by
  rcases cs with _ | ⟨c, cs⟩
  · exact absurd rfl hn
  · rfl

theorem Numeral.read (hb : 0 < base) (hb' : base ≤ 36) (h0 : 0 < bound) (h : Numeral base cs n) :
    readNat base bound cs = if n < bound then .ok n else .error .tooLarge := by
  rcases h with h | h
  · rw [readNat_plain h.1 h.head_ne_plus, h.read hb hb' h0]
  · rw [readNat_signed h.1, h.read hb hb' h0]

theorem numeral_of_read (hb : 0 < base) (hb' : base ≤ 36) (h0 : 0 < bound)
    (h : readNat base bound cs = .ok n) : Numeral base cs n := by
  have digits {cs : List Char} (hn : cs ≠ []) (h : readDigits base bound 0 cs = .ok n) :
      Digits base cs n := by
    obtain ⟨ds, hds⟩ := forall₂_of_readDigits hb' h
    have hd : Digits base cs (Nat.ofDigits base ds.reverse) := ⟨hn, ds, hds, rfl⟩
    rw [hd.read hb hb' h0] at h
    split at h
    · cases h
      exact hd
    · cases h
  unfold readNat at h
  split at h
  · cases h
  · cases h
  · rename_i hn
    exact .signed (digits (fun he => hn (he ▸ rfl)) h)
  · rename_i hn _ _
    exact .plain (digits hn h)

/-- A text is read as a number if it is a numeral of a number below the bound. -/
theorem readNat_eq_ok_iff (hb : 0 < base) (hb' : base ≤ 36) (h0 : 0 < bound) :
    readNat base bound cs = .ok n ↔ Numeral base cs n ∧ n < bound := by
  constructor
  · intro h
    have hn := numeral_of_read hb hb' h0 h
    refine ⟨hn, ?_⟩
    by_contra hlt
    rw [hn.read hb hb' h0, if_neg hlt] at h
    cases h
  · rintro ⟨hn, hlt⟩
    rw [hn.read hb hb' h0, if_pos hlt]

/-- A text is a numeral of one number only. -/
theorem Numeral.unique (hb : 0 < base) (hb' : base ≤ 36) (h : Numeral base cs n)
    (h' : Numeral base cs m) : n = m := by
  have hn : readNat base (n + m + 1) cs = .ok n :=
    (readNat_eq_ok_iff hb hb' (by omega)).2 ⟨h, by omega⟩
  have hm : readNat base (n + m + 1) cs = .ok m :=
    (readNat_eq_ok_iff hb hb' (by omega)).2 ⟨h', by omega⟩
  rw [hn] at hm
  cases hm
  rfl

/-! ## Writing digits -/

theorem digits_digits (hb : 2 ≤ base) (hb' : base ≤ 36) (n : Nat) :
    Digits base (digits base n) n := by
  refine ⟨digits_ne_nil base n, ?_⟩
  induction n using digits.induct base with
  | case1 n h ih =>
    obtain ⟨ds, hds, hn⟩ := ih
    have hlast : IsDigit base (digitChar (n % base)) (n % base) :=
      digit_digitChar hb' (Nat.mod_lt _ (by omega))
    rw [digits, dif_pos h]
    refine ⟨ds ++ [n % base], List.rel_append hds (.cons hlast .nil), ?_⟩
    rw [List.reverse_append, List.reverse_singleton, List.singleton_append, Nat.ofDigits_cons, hn]
    exact Nat.mod_add_div n base
  | case2 n h =>
    rw [digits, dif_neg h]
    exact ⟨[n], .cons (digit_digitChar hb' (by omega)) .nil, Nat.ofDigits_singleton⟩

theorem numeral_digits (hb : 2 ≤ base) (hb' : base ≤ 36) (n : Nat) :
    Numeral base (digits base n) n := .plain (digits_digits hb hb' n)

theorem length_digits_le {k : Nat} (hk : 0 < k) (h : n < base ^ k) :
    (digits base n).length ≤ k := by
  induction n using digits.induct base generalizing k with
  | case1 n hn ih =>
    rcases k with _ | _ | k
    · omega
    · rw [Nat.zero_add, Nat.pow_one] at h
      omega
    · rw [digits, dif_pos hn, List.length_append, List.length_singleton]
      have hdiv : n / base < base ^ (k + 1) := Nat.div_lt_of_lt_mul (by rwa [← Nat.pow_succ'])
      have := ih (Nat.succ_pos k) hdiv
      omega
  | case2 n hn =>
    rw [digits, dif_neg hn]
    exact hk

theorem digits_of_lt (h : n < base) : digits base n = [digitChar n] := by
  rw [digits, dif_neg (by omega)]

/-- Only zero is written with a zero in front. -/
theorem head_digits_ne (hb : 2 ≤ base) (hb' : base ≤ 36) (hn : n ≠ 0) :
    (digits base n).head? ≠ some '0' := by
  induction n using digits.induct base with
  | case1 n h ih =>
    have hdiv : n / base ≠ 0 := Nat.ne_of_gt (Nat.div_pos h.2 (by omega))
    obtain ⟨c, cs, hcs⟩ := List.exists_cons_of_ne_nil (digits_ne_nil base (n / base))
    have hc := ih hdiv
    rw [hcs] at hc
    rw [digits, dif_pos h, hcs]
    exact hc
  | case2 n h =>
    have hd : ∀ d : Fin 36, digitChar d = '0' → d = 0 := by decide
    rw [digits, dif_neg h, List.head?_cons, Ne, Option.some.injEq]
    intro h0
    exact hn (congrArg Fin.val (hd ⟨n, by omega⟩ h0))

/-- A number is written without a zero in front, unless that is all. -/
theorem no_leading_zero (hb : 2 ≤ base) (hb' : base ≤ 36) (n : Nat) :
    (digits base n).length = 1 ∨ (digits base n).head? ≠ some '0' := by
  by_cases hn : n = 0
  · exact .inl (by rw [hn, digits_of_lt (by omega), List.length_singleton])
  · exact .inr (head_digits_ne hb hb' hn)

theorem Digits.all_digitOf (hb : base ≤ 36) (h : Digits base cs n) :
    ∀ c ∈ cs, (digitOf base c).isSome = true := by
  obtain ⟨-, ds, hds, -⟩ := h
  induction hds with
  | nil => simp
  | cons hd _ ih =>
    rw [List.forall_mem_cons, (digitOf_eq_some_iff hb).2 hd]
    exact ⟨rfl, ih⟩

/-- The number of digits, taken one after another. -/
theorem Digits.foldl (hb : base ≤ 36) (h : Digits base cs n) :
    cs.foldl (fun n c => n * base + (digitOf base c).getD 0) 0 = n := by
  obtain ⟨-, ds, hds, rfl⟩ := h
  suffices hf : ∀ acc, cs.foldl (fun n c => n * base + (digitOf base c).getD 0) acc =
      ds.foldl (fun n d => n * base + d) acc by
    rw [hf, foldl_zero]
  induction hds with
  | nil => exact fun _ => rfl
  | cons hd _ ih =>
    intro acc
    rw [List.foldl_cons, List.foldl_cons, (digitOf_eq_some_iff hb).2 hd, Option.getD_some, ih]

/-! ## The end of a number -/

theorem takeWhile_of_head {p : Char → Bool} (h : ∀ c ∈ cs.head?, p c = false) :
    cs.takeWhile p = [] ∧ cs.dropWhile p = cs := by
  rcases cs with _ | ⟨c, cs⟩
  · exact ⟨rfl, rfl⟩
  · have hc := h c rfl
    simp [hc]

end SlotBroker.Text
