import SlotBroker.Proofs.Net.Host
import SlotBroker.Proofs.Net.Ip

/-!
# Written hosts

A host that was read is written in a form that is read as the host again, if the rule by which names
are written in ASCII is lawful: a name in ASCII as itself (`Host.parse_name_render`), the four
numbers of an IPv4 address, however they were given, in decimal (`Host.parse_ipv4_render`), and an
IPv6 address between brackets (`Host.parse_ipv6_render`).
-/

namespace SlotBroker.Net

open Text (digits digitOf)

/-! ## IPv4 addresses as names -/

namespace Host

variable {n : Nat} {cs ascii : List Char}

theorem baseOfPart_decimal (h : cs.length = 1 ∨ cs.head? ≠ some '0') :
    baseOfPart cs = (10, cs) := by
  unfold baseOfPart
  split
  · simp at h
  · simp at h
  · simp at h
  · rfl

theorem readPart_digits (n : Nat) : readPart (digits 10 n) = some n := by
  have hd : Text.Digits 10 (digits 10 n) n := Text.digits_digits (by omega) (by omega) n
  have hb : baseOfPart (digits 10 n) = (10, digits 10 n) :=
    baseOfPart_decimal (Text.no_leading_zero (by omega) (by omega) n)
  have hall : ((digits 10 n).all fun c => (digitOf 10 c).isSome) = true :=
    List.all_eq_true.2 (hd.all_digitOf (by omega))
  unfold readPart
  rw [if_neg (by simpa using hd.1)]
  simp only [hb, hall, if_true, hd.foldl (by omega)]

theorem ofNat_of_mod {n : Nat} {m : UInt8} (h : n % 256 = m.toNat) : UInt8.ofNat n = m := by
  rw [← UInt8.toNat_inj, UInt8.toNat_ofNat']
  exact h

theorem ofNumbers_numbers (a : Ipv4) : ofNumbers (a.numbers.map UInt8.toNat) = some a := by
  have ha : a.a.toNat < 256 := a.a.toNat_lt
  have hb : a.b.toNat < 256 := a.b.toNat_lt
  have hc : a.c.toNat < 256 := a.c.toNat_lt
  have hd : a.d.toNat < 256 := a.d.toNat_lt
  have hw : Nat.pow 256 (4 - 3) = 256 := rfl
  simp only [ofNumbers, Ipv4.numbers, List.map_cons, List.map_nil, List.getLast?_cons_cons,
    List.getLast?_singleton, List.dropLast_cons_cons, List.dropLast_singleton, List.foldl_cons,
    List.foldl_nil, List.length_cons, List.length_nil, Nat.zero_add, hw]
  rw [if_neg (by simp; omega)]
  rw [ofNat_of_mod (m := a.a) (by omega), ofNat_of_mod (m := a.b) (by omega),
    ofNat_of_mod (m := a.c) (by omega), ofNat_of_mod (m := a.d) (by omega)]

theorem readIpv4_render (a : Ipv4) : readIpv4 a.render.toList = some a := by
  have hl : (a.numbers.map fun n => digits 10 n.toNat).getLast? ≠ some [] := by
    simp [Ipv4.numbers, Text.digits_ne_nil]
  have hm : (a.numbers.map fun n => digits 10 n.toNat).mapM readPart =
      some (a.numbers.map UInt8.toNat) := by
    simp [Ipv4.numbers, readPart_digits]
  unfold readIpv4
  simp only [Ipv4.splitOn_render, if_neg hl, hm, Option.bind_some, ofNumbers_numbers]

theorem lastPart_digits (a : Ipv4) :
    lastPart (a.numbers.map fun n => digits 10 n.toNat) = digits 10 a.d.toNat := by
  obtain ⟨c, cs, hc⟩ := List.exists_cons_of_ne_nil (Text.digits_ne_nil 10 a.d.toNat)
  simp [lastPart, Ipv4.numbers, hc]

theorem endsInNumber_render (a : Ipv4) : endsInNumber a.render.toList = true := by
  have hn : (digits 10 a.d.toNat).isEmpty = false := by
    simpa using Text.digits_ne_nil 10 a.d.toNat
  have hd : (digits 10 a.d.toNat).all Char.isDigit = true :=
    List.all_eq_true.2 fun c hc => Text.isDigit_of_mem_digits hc
  unfold endsInNumber
  simp only [Ipv4.splitOn_render, lastPart_digits, hn, hd, Bool.not_false, Bool.and_self,
    Bool.true_or]

theorem toLower_of_isDigit {c : Char} (h : c.isDigit = true) : c.toLower = c := by
  have hd := Text.isDigit_iff.1 h
  refine dif_neg ?_
  rintro ⟨ha, -⟩
  have ha : 65 ≤ c.toNat := ha
  omega

/-! ## Reading a name in ASCII -/

/-- The host that a name in ASCII is. -/
def ofAscii (ascii : List Char) : Except UrlFault Host :=
  if endsInNumber ascii then
    match readIpv4 ascii with
    | some a => .ok (ip (.v4 a))
    | none => .error .ipv4
  else .ok (name (String.ofList ascii))

theorem percentDecode_self {bs : List UInt8} (h : 0x25 ∉ bs) : percentDecode bs = bs := by
  fun_induction percentDecode bs with
  | case1 b _ _ bs _ _ _ _ hb ih =>
    -- A percent sign would begin the three bytes.
    rw [beq_iff_eq] at hb
    exact absurd (hb ▸ List.mem_cons_self) h
  | case2 b h' l bs _ ih => rw [ih fun hm => h (List.mem_cons_of_mem _ hm)]
  | case3 bs _ => rfl

variable [names : DomainNames] (hl : names.Lawful) {host : Host}

include hl

/-- A name in ASCII is not decoded, and so it is read as what it is. -/
theorem parse_ascii (h : names.toAscii ascii = some ascii) (hn : ascii ≠ []) :
    parse ascii = ofAscii ascii := by
  have hf := hl.written h
  have hp : (0x25 : UInt8) ∉ Text.toBytes (String.ofList ascii) := by
    intro hm
    have hm := (Text.mem_toBytes_iff (c := '%') (by decide)).1 hm
    rw [String.toList_ofList] at hm
    exact absurd (hf _ hm).2 (by decide)
  have hb : ascii.head? ≠ some '[' := fun hh =>
    absurd (hf _ (List.mem_of_mem_head? hh)).2 (by decide)
  have ht : Text.ofBytes? (percentDecode (Text.toBytes (String.ofList ascii))) =
      some (String.ofList ascii) := by
    rw [percentDecode_self hp, Text.ofBytes?_eq_some_iff]
  unfold parse
  split
  · simp at hb
  · simp only [ht, String.toList_ofList, h]
    rfl

/-- A host without a bracket before it is that of a name in ASCII. -/
theorem parse_eq_ofAscii (h : parse cs = .ok host) (hb : cs.head? ≠ some '[') :
    ∃ ascii, names.toAscii ascii = some ascii ∧ ascii ≠ [] ∧ ofAscii ascii = .ok host := by
  unfold parse at h
  split at h
  · simp at hb
  · split at h
    · cases h
    · split at h
      · cases h
      · cases h
      · rename_i ascii hn ha
        exact ⟨ascii, hl.settled ha, hn, h⟩

/-! ## Writing and reading -/

theorem toAscii_ipv4 (a : Ipv4) : names.toAscii a.render.toList = some a.render.toList := by
  have hchars : ∀ c ∈ a.render.toList, c = '.' ∨ c.isDigit = true := fun c => Ipv4.mem_render
  have hascii : ∀ c ∈ a.render.toList, c.toNat < 0x80 := by
    intro c hc
    rcases hchars c hc with rfl | hd
    · decide
    · have := Text.isDigit_iff.1 hd
      omega
  have hlower : a.render.toList.map Char.toLower = a.render.toList := by
    refine (List.map_congr_left fun c hc => ?_).trans (List.map_id _)
    rcases hchars c hc with rfl | hd
    · rfl
    · exact toLower_of_isDigit hd
  have hplain : DomainNames.Plain a.render.toList := by
    refine ⟨hascii, ?_⟩
    rw [hlower, Ipv4.splitOn_render]
    rintro l hm hp
    obtain ⟨n, -, rfl⟩ := List.mem_map.1 hm
    exact absurd (Text.isDigit_of_mem_digits (hp.subset (by decide : 'x' ∈ punycodeMark)))
      (by decide)
  have hany : a.render.toList.any isForbidden = false := by
    rw [List.any_eq_false]
    intro c hc
    rcases hchars c hc with rfl | hd
    · decide
    · simp [not_forbidden_of_alphanum (c := c) (by simp [Char.isAlphanum, hd])]
  rw [hl.plain hplain, hany, hlower]
  rfl

theorem parse_ipv4_render (a : Ipv4) : parse a.render.toList = .ok (ip (.v4 a)) := by
  have hn : a.render.toList ≠ [] := by
    intro hn
    have := a.length_render
    rw [hn] at this
    exact absurd this (by decide)
  rw [parse_ascii hl (toAscii_ipv4 hl a) hn]
  unfold ofAscii
  rw [if_pos (endsInNumber_render a), readIpv4_render]

/-- The name that was read is written as it was. -/
theorem parse_name_render {text : String} (h : parse cs = .ok (name text))
    (hb : cs.head? ≠ some '[') : parse text.toList = .ok (name text) := by
  obtain ⟨ascii, ha, hn, ho⟩ := parse_eq_ofAscii hl h hb
  have ht : text = String.ofList ascii := by
    unfold ofAscii at ho
    split at ho
    · split at ho
      · cases ho
      · cases ho
    · cases ho
      rfl
  rw [ht, String.toList_ofList, parse_ascii hl ha hn, ho, ht]

omit hl

theorem parse_ipv6_render (a : Ipv6) :
    parse ('[' :: (a.render.toList ++ [']'])) = .ok (ip (.v6 a)) := by
  rw [parse, parseBracketed, if_pos (List.getLast?_concat ..), List.dropLast_concat,
    Ipv6.read_render]

end Host

end SlotBroker.Net
