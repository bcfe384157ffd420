import SlotBroker.Oid
import SlotBroker.Proofs.Text.Blank
import SlotBroker.Proofs.Text.Digits

/-!
# What reads as an oid

An oid is written in decimal, or in hexadecimal after `0x` or `0X` (`OidText`). A text reads as an
oid exactly if what trimming leaves of it is so written and the number has 64 bits, and a greater
number is refused as such (`Oid.text_laws`). Of the two forms a text has at most one, since no digit
is an `x`.
-/

namespace SlotBroker

open Text (Digits Numeral IsDigit)

/-- A text is how an oid of a number may be written. -/
inductive OidText : List Char → Nat → Prop
  | decimal {cs n} (h : Numeral 10 cs n) : OidText cs n
  | hex {x cs n} (hx : x = 'x' ∨ x = 'X') (h : Numeral 16 cs n) : OidText ('0' :: x :: cs) n

/-- What stands before the digits of an oid, and their base. -/
inductive OidStart : List Char → Nat → Prop
  | decimal {sign} (hs : sign = [] ∨ sign = ['+']) : OidStart sign 10
  | hex {x sign} (hx : x = 'x' ∨ x = 'X') (hs : sign = [] ∨ sign = ['+']) :
      OidStart ('0' :: x :: sign) 16

variable {cs start ds : List Char} {n m base k : Nat} {s : String} {o : Oid}

theorem oidText_iff : OidText cs n ↔
    ∃ start base ds, OidStart start base ∧ Digits base ds n ∧ cs = start ++ ds := by
  constructor
  · rintro ((h | h) | ⟨hx, h | h⟩)
    · exact ⟨_, _, _, .decimal (.inl rfl), h, rfl⟩
    · exact ⟨_, _, _, .decimal (.inr rfl), h, rfl⟩
    · exact ⟨_, _, _, .hex hx (.inl rfl), h, rfl⟩
    · exact ⟨_, _, _, .hex hx (.inr rfl), h, rfl⟩
  · rintro ⟨_, _, ds, (rfl | rfl) | ⟨hx, rfl | rfl⟩, h, rfl⟩
    · exact .decimal (.plain h)
    · exact .decimal (.signed h)
    · exact .hex hx (.plain h)
    · exact .hex hx (.signed h)

namespace Oid

/-! ## Reading numbers -/

theorem x_not_decimal {x : Char} (hx : x = 'x' ∨ x = 'X') (d : Nat) : ¬ IsDigit 10 x d := by
  have h : Text.digitOf 10 x = some d ↔ IsDigit 10 x d := Text.digitOf_eq_some_iff (by omega)
  intro hd
  rw [← h] at hd
  rcases hx with rfl | rfl <;> cases hd

/-- No numeral in decimal begins as an oid in hexadecimal. -/
theorem not_decimal {x : Char} (hx : x = 'x' ∨ x = 'X') : ¬ Numeral 10 ('0' :: x :: cs) n := by
  intro h
  rcases h with ⟨-, ds, hds, -⟩
  rcases hds with _ | ⟨-, _ | ⟨hd, -⟩⟩
  exact x_not_decimal hx _ hd

theorem readNumber_hex {x : Char} (hx : x = 'x' ∨ x = 'X') (cs : List Char) :
    readNumber ('0' :: x :: cs) = Text.readNat 16 UInt64.size cs := by
  rcases hx with rfl | rfl <;> rfl

theorem readNumber_decimal (h : ∀ x rest, x = 'x' ∨ x = 'X' → cs ≠ '0' :: x :: rest) :
    readNumber cs = Text.readNat 10 UInt64.size cs := by
  unfold readNumber
  split
  · exact absurd rfl (h 'x' _ (.inl rfl))
  · exact absurd rfl (h 'X' _ (.inr rfl))
  · rfl

theorem read_of_text (h : OidText cs n) :
    readNumber cs = if n < UInt64.size then .ok n else .error .tooLarge := by
  rcases h with h | ⟨hx, h⟩
  · rw [readNumber_decimal, h.read (by omega) (by omega) (by decide)]
    rintro x rest hx rfl
    exact not_decimal hx h
  · rw [readNumber_hex hx, h.read (by omega) (by omega) (by decide)]

theorem text_of_read (h : readNumber cs = .ok n) : OidText cs n := by
  unfold readNumber at h
  split at h
  · exact .hex (.inl rfl) (Text.numeral_of_read (by omega) (by omega) (by decide) h)
  · exact .hex (.inr rfl) (Text.numeral_of_read (by omega) (by omega) (by decide) h)
  · exact .decimal (Text.numeral_of_read (by omega) (by omega) (by decide) h)

theorem text_unique (h : OidText cs n) (h' : OidText cs m) : n = m := by
  rcases h with h | ⟨hx, h⟩ <;> rcases h' with h' | ⟨hx', h'⟩
  · exact h.unique (by omega) (by omega) h'
  · exact absurd h (not_decimal hx')
  · exact absurd h' (not_decimal hx)
  · exact h.unique (by omega) (by omega) h'

/-! ## Reading oids -/

theorem parse_of_text (h : OidText (Text.trim s.toList) n) : parse s =
    if n < UInt64.size then .ok ⟨UInt64.ofNat n⟩ else .error ⟨Text.trimmed s, .tooLarge⟩ := by
  unfold parse
  simp only [read_of_text h]
  by_cases hn : n < UInt64.size
  · simp only [if_pos hn]
  · simp only [if_neg hn]
    rfl

theorem parse_eq_ok_iff : parse s = .ok o ↔
    ∃ n, OidText (Text.trim s.toList) n ∧ n < UInt64.size ∧ o = ⟨UInt64.ofNat n⟩ := by
  constructor
  · intro h
    unfold parse at h
    simp only at h
    split at h
    · rename_i n hn
      cases h
      have ht := text_of_read hn
      refine ⟨n, ht, ?_, rfl⟩
      by_contra hlt
      rw [read_of_text ht, if_neg hlt] at hn
      cases hn
    · cases h
  · rintro ⟨n, ht, hlt, rfl⟩
    rw [parse_of_text ht, if_pos hlt]

theorem parse_toNat (n : UInt64) (h : OidText (Text.trim s.toList) n.toNat) :
    parse s = .ok ⟨n⟩ :=
  parse_eq_ok_iff.2 ⟨_, h, n.toNat_lt, by rw [UInt64.ofNat_toNat]⟩

/-! ## Printing -/

theorem digits_not_blank {c : Char} (hb : 2 ≤ base) (hb' : base ≤ 36)
    (h : c ∈ Text.digits base n) : Text.isBlank c = false := by
  have hd : ∀ d : Fin 36, Text.isBlank (Text.digitChar d) = false := by decide
  obtain ⟨d, hlt, rfl⟩ := Text.mem_digits hb h
  exact hd ⟨d, by omega⟩

theorem parse_render (o : Oid) : parse o.render = .ok o := by
  have hl : o.render.toList = '0' :: 'x' :: Text.digits 16 o.value.toNat := by
    simp [render, Text.hex]
  refine parse_toNat o.value ?_
  rw [hl, Text.trim_of_not_blank]
  · exact .hex (.inl rfl) (Text.numeral_digits (by omega) (by omega) _)
  · simp only [List.forall_mem_cons]
    exact ⟨by decide, by decide, fun c => digits_not_blank (by omega) (by omega)⟩

theorem parse_decimal (n : UInt64) : parse (Text.decimal n.toNat) = .ok ⟨n⟩ := by
  refine parse_toNat n ?_
  rw [Text.decimal, String.toList_ofList, Text.trim_of_not_blank]
  · exact .decimal (Text.numeral_digits (by omega) (by omega) _)
  · exact fun c => digits_not_blank (by omega) (by omega)

/-- What is known of the texts of oids. -/
structure TextLaws : Prop where
  printed : ∀ o : Oid, parse o.render = .ok o
  decimal : ∀ n : UInt64, parse (Text.decimal n.toNat) = .ok ⟨n⟩
  accepted : ∀ {s o}, parse s = .ok o ↔
    ∃ n, OidText (Text.trim s.toList) n ∧ n < 2 ^ 64 ∧ o = ⟨UInt64.ofNat n⟩
  tooLarge : ∀ {s n}, OidText (Text.trim s.toList) n → 2 ^ 64 ≤ n →
    parse s = .error ⟨Text.trimmed s, .tooLarge⟩
  unique : ∀ {cs n m}, OidText cs n → OidText cs m → n = m
  zeros : ∀ {s s' start base ds n}, OidStart start base → Digits base ds n →
    Text.trim s.toList = start ++ ds →
    ∀ k, Text.trim s'.toList = start ++ (List.replicate k '0' ++ ds) →
      ∀ o, parse s' = .ok o ↔ parse s = .ok o

theorem text_laws : TextLaws where
  printed := parse_render
  decimal := parse_decimal
  accepted := parse_eq_ok_iff
  tooLarge {s n} h hn := by
    have hlt : ¬ n < UInt64.size := Nat.not_lt.2 hn
    rw [parse_of_text h, if_neg hlt]
  unique := text_unique
  zeros {s s' start base ds n} hs hd ht k ht' o := by
    have hb : 0 < base ∧ base ≤ 36 := by
      rcases hs with - | - <;> omega
    have hz : Digits base (List.replicate k '0' ++ ds) n :=
      (Text.digits_zeros_append hb.1 hb.2 k hd.1).2 hd
    have h : OidText (Text.trim s.toList) n := oidText_iff.2 ⟨start, base, ds, hs, hd, ht⟩
    have h' : OidText (Text.trim s'.toList) n := oidText_iff.2 ⟨start, base, _, hs, hz, ht'⟩
    rw [parse_of_text h, parse_of_text h']
    by_cases hn : n < UInt64.size
    · rw [if_pos hn, if_pos hn]
    · rw [if_neg hn, if_neg hn]
      simp

example : parse "0xFf" = .ok ⟨255⟩ ∧ parse " +007 " = .ok ⟨7⟩ := by decide

end Oid

end SlotBroker
