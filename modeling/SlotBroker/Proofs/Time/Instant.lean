import SlotBroker.Proofs.Message.Fidelity
import SlotBroker.Proofs.Text.Digits
import SlotBroker.Proofs.Time.Calendar
import SlotBroker.Time.Instant

/-!
# Instants that were written

An instant is read back from what is written of it (`Instant.parse?_render`), in every year that
there is. Each number is written with as many digits as it has a place for, or with a mark after
it, so it is read up to its end (`readNumber_zeroPadded`); the year has a sign where it has more
than four digits. The fraction loses no digit but zeros at its end.
-/

namespace SlotBroker

namespace Text

variable {w n k : Nat} {c : Char} {cs rest : List Char}

/-! ## Numbers with zeros in front -/

theorem toList_zeroPadded (w n : Nat) : (zeroPadded w n).toList =
    List.replicate (w - (digits 10 n).length) '0' ++ digits 10 n :=
  String.toList_ofList

theorem isDigit_of_mem_zeroPadded (h : c ∈ (zeroPadded w n).toList) : c.isDigit = true := by
  rw [toList_zeroPadded, List.mem_append] at h
  rcases h with h | h
  · rw [List.eq_of_mem_replicate h]
    rfl
  · exact isDigit_of_mem_digits h

theorem decimalValue_zeros (k : Nat) (cs : List Char) :
    decimalValue (List.replicate k '0' ++ cs) = decimalValue cs := by
  induction k with
  | zero => rfl
  | succ k ih => exact ih

theorem decimalValue_zeroPadded (w n : Nat) : decimalValue (zeroPadded w n).toList = n := by
  rw [toList_zeroPadded, decimalValue_zeros, decimalValue_digits]

theorem zeroPadded_ne_nil (w n : Nat) : (zeroPadded w n).toList ≠ [] := by
  rw [toList_zeroPadded]
  simp [digits_ne_nil]

theorem length_zeroPadded (hw : 0 < w) (h : n < 10 ^ w) : (zeroPadded w n).toList.length = w := by
  have := length_digits_le hw h
  rw [toList_zeroPadded, List.length_append, List.length_replicate]
  omega

theorem not_isBlank_of_isDigit (h : c.isDigit = true) : isBlank c = false := by
  rw [isDigit_iff] at h
  simp only [isBlank, Bool.or_eq_false_iff, Bool.and_eq_false_iff, decide_eq_false_iff_not,
    beq_eq_false_iff_ne, ne_eq]
  omega

theorem trimStart_cons (h : isBlank c = false) : trimStart (c :: cs) = c :: cs :=
  List.dropWhile_cons_of_neg (by simp [h])

/-- A written number begins with a digit. -/
theorem zeroPadded_append_ne_cons (hc : c.isDigit = false) :
    (zeroPadded w n).toList ++ rest ≠ c :: cs := by
  obtain ⟨d, ds, hds⟩ := List.exists_cons_of_ne_nil (zeroPadded_ne_nil w n)
  have hd : d.isDigit = true := isDigit_of_mem_zeroPadded (by rw [hds]; exact List.mem_cons_self)
  rw [hds, List.cons_append]
  intro h
  cases h
  rw [hc] at hd
  cases hd

theorem trimStart_zeroPadded (w n : Nat) (rest : List Char) :
    trimStart ((zeroPadded w n).toList ++ rest) = (zeroPadded w n).toList ++ rest := by
  obtain ⟨c, cs, hcs⟩ := List.exists_cons_of_ne_nil (zeroPadded_ne_nil w n)
  have hc : c.isDigit = true := isDigit_of_mem_zeroPadded (by rw [hcs]; exact List.mem_cons_self)
  rw [hcs]
  exact trimStart_cons (not_isBlank_of_isDigit hc)

end Text

namespace Time.Instant

open Option (bind_eq_some_iff)
open Text (zeroPadded)

variable {w n k width lo hi : Nat} {c : Char} {ds rest : List Char} {y : Int} {t : Instant}

/-! ## Reading numbers -/

/-- Digits are read up to a character that is none. -/
theorem spanDigits_append (hd : ∀ c ∈ ds, c.isDigit = true) (hw : ds.length ≤ width)
    (hr : ∀ c ∈ rest.head?, c.isDigit = false) : spanDigits width (ds ++ rest) = (ds, rest) := by
  induction ds generalizing width with
  | nil =>
    rcases width with _ | width
    · rfl
    · rcases rest with _ | ⟨c, rest⟩
      · rfl
      · have hc := hr c rfl
        simp [spanDigits, hc]
  | cons d ds ih =>
    obtain ⟨width, rfl⟩ : ∃ k, width = k + 1 := ⟨width - 1, by rw [List.length_cons] at hw; omega⟩
    rw [List.forall_mem_cons] at hd
    rw [List.cons_append, spanDigits, if_pos hd.1,
      ih hd.2 (Nat.le_of_succ_le_succ hw)]

theorem readNumber_zeroPadded (hw : (zeroPadded w n).toList.length ≤ width)
    (hr : ∀ c ∈ rest.head?, c.isDigit = false) :
    readNumber width ((zeroPadded w n).toList ++ rest) = some (n, rest) := by
  have hv : digitsValue (zeroPadded w n).toList = n := Text.decimalValue_zeroPadded w n
  rw [readNumber, spanDigits_append (fun _ => Text.isDigit_of_mem_zeroPadded) hw hr]
  split
  · exact absurd (Prod.ext_iff.1 ‹_›).1 (Text.zeroPadded_ne_nil w n)
  · rename_i h
    cases h
    rw [hv]

theorem readField_zeroPadded (hn : lo ≤ n ∧ n ≤ hi) (hh : hi < 100)
    (hr : ∀ c ∈ rest.head?, c.isDigit = false) :
    readField lo hi ((zeroPadded 2 n).toList ++ rest) = some (n, rest) := by
  have hl : (zeroPadded 2 n).toList.length = 2 :=
    Text.length_zeroPadded (by decide) (Nat.lt_of_le_of_lt hn.2 hh)
  rw [readField, Text.trimStart_zeroPadded, readNumber_zeroPadded (Nat.le_of_eq hl) hr]
  exact if_pos hn

theorem readMark_self (hc : Text.isBlank c = false) (rest : List Char) :
    readMark c (c :: rest) = some rest := by
  rw [readMark, Text.trimStart_cons hc]
  exact if_pos rfl

/-! ## The year and the fraction -/

theorem readYear_zeroPadded (hn : n < 10000) (hr : ∀ c ∈ rest.head?, c.isDigit = false) :
    readYear ((zeroPadded 4 n).toList ++ rest) = some ((n : Int), rest) := by
  have hl : (zeroPadded 4 n).toList.length = 4 := Text.length_zeroPadded (by decide) hn
  rw [readYear, Text.trimStart_zeroPadded]
  split
  · exact absurd ‹_› (Text.zeroPadded_append_ne_cons (by decide))
  · exact absurd ‹_› (Text.zeroPadded_append_ne_cons (by decide))
  · rw [readNumber_zeroPadded (Nat.le_of_eq hl) hr, Option.map_some]

theorem readYear_renderYear (y : Int) (hr : ∀ c ∈ rest.head?, c.isDigit = false) :
    readYear ((renderYear y).toList ++ rest) = some (y, rest) := by
  -- After a sign the number may have as many digits as there are.
  have signed : readNumber ((zeroPadded 4 y.natAbs).toList ++ rest).length
      ((zeroPadded 4 y.natAbs).toList ++ rest) = some (y.natAbs, rest) :=
    readNumber_zeroPadded (by rw [List.length_append]; omega) hr
  rw [renderYear]
  split
  · rw [readYear_zeroPadded (by omega) hr, Int.natAbs_of_nonneg (by omega)]
  · split
    · have hy : -(y.natAbs : Int) = y := by omega
      rw [String.toList_append, List.append_assoc]
      change readYear ('-' :: ((zeroPadded 4 y.natAbs).toList ++ rest)) = _
      rw [readYear, Text.trimStart_cons (by decide)]
      simp only [signed, Option.map_some, hy]
    · have hy : (y.natAbs : Int) = y := by omega
      rw [String.toList_append, List.append_assoc]
      change readYear ('+' :: ((zeroPadded 4 y.natAbs).toList ++ rest)) = _
      rw [readYear, Text.trimStart_cons (by decide)]
      simp only [signed, Option.map_some, hy]

/-- The fraction as so many digits after a point. -/
theorem readFraction_zeroPadded (hw : 0 < w) (hw' : w ≤ 9) (hn : n < 10 ^ w)
    (hr : ∀ c ∈ rest.head?, c.isDigit = false) :
    readFraction ('.' :: ((zeroPadded w n).toList ++ rest)) = some (n * 10 ^ (9 - w), rest) := by
  have hl : (zeroPadded w n).toList.length = w := Text.length_zeroPadded hw hn
  have hv : digitsValue (zeroPadded w n).toList = n := Text.decimalValue_zeroPadded w n
  have hd : rest.dropWhile Char.isDigit = rest := (Text.takeWhile_of_head hr).2
  rw [readFraction,
    spanDigits_append (fun _ => Text.isDigit_of_mem_zeroPadded) (by rw [hl]; exact hw') hr]
  split
  · exact absurd (Prod.ext_iff.1 ‹_›).1 (Text.zeroPadded_ne_nil w n)
  · rename_i h
    cases h
    rw [hv, hl, hd]
    rfl

theorem readFraction_of_head_ne (hr : rest.head? ≠ some '.') :
    readFraction rest = some (0, rest) := by
  unfold readFraction
  split
  · exact absurd rfl hr
  · rfl

theorem readFraction_renderFraction (hn : n < 1000000000) (hp : rest.head? ≠ some '.')
    (hr : ∀ c ∈ rest.head?, c.isDigit = false) :
    readFraction ((renderFraction n).toList ++ rest) = some (n, rest) := by
  have places {w k : Nat} (hw : 0 < w) (hw' : w ≤ 9) (hk : k < 10 ^ w) (hn : k * 10 ^ (9 - w) = n) :
      readFraction (("." ++ zeroPadded w k).toList ++ rest) = some (n, rest) := by
    rw [String.toList_append, List.append_assoc, ← hn]
    exact readFraction_zeroPadded hw hw' hk hr
  rw [renderFraction]
  split
  · subst n
    exact readFraction_of_head_ne hp
  · split
    · exact places (by decide) (by decide) (by omega) (by omega)
    · split
      · exact places (by decide) (by decide) (by omega) (by omega)
      · exact places (by decide) (by decide) hn (by omega)

/-! ## Instants -/

theorem date_bounds (t : Instant) : minYear ≤ t.date.year ∧ t.date.year ≤ maxYear := by
  have hr := t.inRange
  rw [minSeconds, maxSeconds, secondsPerDay] at hr
  rw [date, Date.year_ofDayNumber, secondsPerDay]
  exact Date.yearOf_bounds (by omega) (by omega)

/-- The parts that are written make up the instant again. The second after the 59th is the leap
second. -/
theorem assemble_parts (t : Instant) :
    assemble t.date (t.secondOfDay / 3600) (t.secondOfDay / 60 % 60)
      (t.secondOfDay % 60 + t.nanos / nanosPerSecond) (t.nanos % nanosPerSecond) 0 = some t := by
  obtain ⟨hvalid, hday⟩ := Date.ofDayNumber_spec (t.seconds / secondsPerDay + epochDay)
  have hlt := t.nanos_lt
  have hleap := t.leap_only_at_59
  have hsod : (t.secondOfDay : Int) = t.seconds % 86400 :=
    Int.toNat_of_nonneg (Int.emod_nonneg _ (by decide))
  have hsixty : t.secondOfDay % 60 + t.nanos / nanosPerSecond = 60 ↔ nanosPerSecond ≤ t.nanos := by
    rw [nanosPerSecond] at hlt hleap ⊢
    omega
  rw [assemble, if_pos ⟨hvalid, (date_bounds t).1, (date_bounds t).2, by decide⟩, date, hday]
  simp only [hsixty]
  refine Eq.trans ?_ (ofParts?_self t)
  rw [nanosPerSecond] at hlt hleap ⊢
  rw [secondsPerDay]
  congr 1
  · split <;> omega
  · split <;> omega

/-- What is written of an instant, mark after mark. -/
theorem toList_render (t : Instant) : t.render.toList =
    (renderYear t.date.year).toList ++ '-' :: ((zeroPadded 2 t.date.month).toList ++
      '-' :: ((zeroPadded 2 t.date.day).toList ++
      'T' :: ((zeroPadded 2 (t.secondOfDay / 3600)).toList ++
      ':' :: ((zeroPadded 2 (t.secondOfDay / 60 % 60)).toList ++
      ':' :: ((zeroPadded 2 (t.secondOfDay % 60 + t.nanos / nanosPerSecond)).toList ++
        ((renderFraction (t.nanos % nanosPerSecond)).toList ++ ['Z'])))))) := by
  have hdash : "-".toList = ['-'] := rfl
  have hcolon : ":".toList = [':'] := rfl
  have hT : "T".toList = ['T'] := rfl
  have hZ : "Z".toList = ['Z'] := rfl
  simp only [render, renderWith, String.toList_append, List.append_assoc, hdash, hcolon, hT, hZ,
    List.cons_append, List.nil_append]

theorem head_renderFraction (n : Nat) :
    ∀ c ∈ ((renderFraction n).toList ++ ['Z']).head?, c.isDigit = false := by
  have point (t : String) : ∀ c ∈ (("." ++ t).toList ++ ['Z']).head?, c.isDigit = false := by
    rw [String.toList_append, List.append_assoc]
    rintro c ⟨⟩
    rfl
  rw [renderFraction]
  split
  · rintro c ⟨⟩
    rfl
  · split
    · exact point _
    · split <;> exact point _

/-- Every instant is read back from what is written of it. -/
theorem parse?_render (t : Instant) : parse? t.render = some t := by
  have mark {c : Char} (h : c.isDigit = false) (cs : List Char) :
      ∀ d ∈ (c :: cs).head?, d.isDigit = false := by
    rintro d ⟨⟩
    exact h
  obtain ⟨hm, hm', hd, hd'⟩ : t.date.Valid := (Date.ofDayNumber_spec _).1
  have hday : t.date.day ≤ 31 := Nat.le_trans hd' (Date.daysInMonth_le _ _)
  have hlt := t.nanos_lt
  have hsod : t.secondOfDay < 86400 := by
    rw [secondOfDay, secondsPerDay]
    omega
  have hsecond : t.secondOfDay % 60 + t.nanos / nanosPerSecond ≤ 60 := by
    rw [nanosPerSecond] at hlt ⊢
    omega
  have hnanos : t.nanos % nanosPerSecond < 1000000000 := Nat.mod_lt _ (by decide)
  rw [parse?, toList_render]
  -- Step by step: what each leaves of the text is what the next one takes.
  refine bind_eq_some_iff.2 ⟨_, readYear_renderYear _ (mark rfl _), ?_⟩
  refine bind_eq_some_iff.2 ⟨_, readMark_self (by decide) _, ?_⟩
  refine bind_eq_some_iff.2 ⟨_, readField_zeroPadded ⟨hm, hm'⟩ (by decide) (mark rfl _), ?_⟩
  refine bind_eq_some_iff.2 ⟨_, readMark_self (by decide) _, ?_⟩
  refine bind_eq_some_iff.2 ⟨_, readField_zeroPadded ⟨hd, hday⟩ (by decide) (mark rfl _), ?_⟩
  refine bind_eq_some_iff.2 ⟨_, rfl, ?_⟩
  refine bind_eq_some_iff.2 ⟨_, readField_zeroPadded (by omega) (by decide) (mark rfl _), ?_⟩
  refine bind_eq_some_iff.2 ⟨_, readMark_self (by decide) _, ?_⟩
  refine bind_eq_some_iff.2 ⟨_, readField_zeroPadded (by omega) (by decide) (mark rfl _), ?_⟩
  refine bind_eq_some_iff.2 ⟨_, readMark_self (by decide) _, ?_⟩
  refine bind_eq_some_iff.2
    ⟨_, readField_zeroPadded ⟨Nat.zero_le _, hsecond⟩ (by decide) (head_renderFraction _), ?_⟩
  refine bind_eq_some_iff.2
    ⟨_, readFraction_renderFraction hnanos (by decide) (mark rfl _), ?_⟩
  exact assemble_parts t

end Time.Instant

end SlotBroker
