import Mathlib.Data.List.TakeWhile
import SlotBroker.Net.Ip
import SlotBroker.Proofs.Net.DomainName
import SlotBroker.Proofs.Text.Digits

/-!
# Written IP addresses

What an address is written as is read as the address (`Ipv4.read_render`, `Ipv6.read_render`). The
numbers of an IPv4 address have no leading zeros, so they are read in decimal. Of an IPv6 address
the groups before and after two colons are told by their colons, and the zero groups that were left
out are as many as are missing.
-/

namespace SlotBroker.Net

open Text (digits)

/-! ## IPv4 -/

namespace Ipv4

variable {n : Nat}

theorem point_not_mem_digits : '.' ∉ digits 10 n := fun h =>
  absurd (Text.isDigit_of_mem_digits h) (by decide)

/-- The numbers of an address. -/
def numbers (ip : Ipv4) : List UInt8 := [ip.a, ip.b, ip.c, ip.d]

theorem toList_render (ip : Ipv4) :
    ip.render.toList = ['.'].intercalate (ip.numbers.map fun n => digits 10 n.toNat) := by
  simp [render, numbers, Text.decimal]

theorem splitOn_render (ip : Ipv4) :
    ip.render.toList.splitOn '.' = ip.numbers.map fun n => digits 10 n.toNat := by
  rw [toList_render]
  refine List.splitOn_intercalate '.' (fun l hl => ?_) (by simp [numbers])
  obtain ⟨n, -, rfl⟩ := List.mem_map.1 hl
  exact point_not_mem_digits

theorem readByte_digits (n : UInt8) : readByte (digits 10 n.toNat) = some n := by
  have hlt : n.toNat < 256 := n.toNat_lt
  have hd : (digits 10 n.toNat).all Char.isDigit = true :=
    List.all_eq_true.2 fun c hc => Text.isDigit_of_mem_digits hc
  have hl : (digits 10 n.toNat).length ≤ 3 :=
    Text.length_digits_le (by omega) (by omega)
  have hh : (digits 10 n.toNat).length = 1 ∨ (digits 10 n.toNat).head? ≠ some '0' :=
    Text.no_leading_zero (by omega) (by omega) n.toNat
  have hn : Text.readNat 10 256 (digits 10 n.toNat) = .ok n.toNat :=
    (Text.readNat_eq_ok_iff (by omega) (by omega) (by omega)).2
      ⟨Text.numeral_digits (by omega) (by omega) _, hlt⟩
  unfold readByte
  rw [if_pos (by simpa [hd, hl] using hh), hn]
  simp

theorem read_render (ip : Ipv4) : read ip.render.toList = some ip := by
  unfold read
  rw [splitOn_render]
  simp [numbers, readByte_digits]

theorem mem_render {ip : Ipv4} {c : Char} (h : c ∈ ip.render.toList) :
    c = '.' ∨ c.isDigit = true := by
  rw [toList_render] at h
  rcases of_mem_intercalate h with h | ⟨l, hl, hc⟩
  · exact .inl (List.mem_singleton.1 h)
  · obtain ⟨n, -, rfl⟩ := List.mem_map.1 hl
    exact .inr (Text.isDigit_of_mem_digits hc)

theorem colon_not_mem_render (ip : Ipv4) : ':' ∉ ip.render.toList := by
  intro h
  rcases mem_render h with h | h <;> cases h

theorem length_render (ip : Ipv4) : 4 < ip.render.toList.length := by
  have hpos (n : UInt8) : 0 < (digits 10 n.toNat).length :=
    List.length_pos_of_ne_nil (Text.digits_ne_nil 10 _)
  have ha := hpos ip.a
  have hb := hpos ip.b
  have hc := hpos ip.c
  have hd := hpos ip.d
  rw [toList_render]
  simp only [numbers, List.map_cons, List.map_nil, List.intercalate_cons_cons,
    List.intercalate_singleton, List.length_append, List.length_cons, List.length_nil]
  omega

end Ipv4

/-! ## IPv6 -/

namespace Ipv6

variable {g : UInt16} {gs xs : List UInt16} {cs tail : List Char}

theorem colon_not_mem_hex : ':' ∉ hex g := fun h =>
  absurd (Text.isAlphanum_of_mem_digits (by omega) (by omega) h) (by decide)

theorem hex_ne_nil : hex g ≠ [] := Text.digits_ne_nil 16 g.toNat

theorem readGroup_hex (g : UInt16) : readGroup (hex g) = some g := by
  have hlt : g.toNat < UInt16.size := g.toNat_lt
  have hl : (hex g).length ≤ 4 := Text.length_digits_le (by omega) hlt
  have hp : (hex g).head? ≠ some '+' := (Text.digits_digits (by omega) (by omega) _).head_ne_plus
  have hn : Text.readNat 16 UInt16.size (hex g) = .ok g.toNat :=
    (Text.readNat_eq_ok_iff (by omega) (by omega) (by decide)).2
      ⟨Text.numeral_digits (by omega) (by omega) _, hlt⟩
  unfold readGroup
  rw [if_pos (by simp [hl, hp]), hn]
  simp

theorem join_cons (g : UInt16) (hn : gs ≠ []) : join (g :: gs) = hex g ++ ':' :: join gs := by
  obtain ⟨g', gs, rfl⟩ := List.exists_cons_of_ne_nil hn
  simp [join, List.intercalate_cons_cons]

theorem join_singleton (g : UInt16) : join [g] = hex g := by
  simp [join]

theorem join_head (hn : gs ≠ []) : ∃ c cs, join gs = c :: cs ∧ c ≠ ':' := by
  obtain ⟨g, gs, rfl⟩ := List.exists_cons_of_ne_nil hn
  obtain ⟨c, cs, hc⟩ := List.exists_cons_of_ne_nil (hex_ne_nil (g := g))
  have hne : c ≠ ':' := by
    rintro rfl
    exact colon_not_mem_hex (g := g) (hc ▸ List.mem_cons_self)
  rcases gs with _ | ⟨g', gs⟩
  · exact ⟨c, cs, by rw [join_singleton, hc], hne⟩
  · refine ⟨c, cs ++ ':' :: join (g' :: gs), ?_, hne⟩
    rw [join_cons g (by simp), hc, List.cons_append]

theorem pieces_join (gs : List UInt16) : pieces (join gs) = gs.map hex := by
  unfold pieces
  split
  · rename_i h
    by_contra hn
    have hgs : gs ≠ [] := by
      rintro rfl
      exact hn rfl
    obtain ⟨c, cs, hc, -⟩ := join_head hgs
    simp [hc] at h
  · rename_i h
    refine List.splitOn_intercalate ':' (fun l hl => ?_) ?_
    · obtain ⟨g, -, rfl⟩ := List.mem_map.1 hl
      exact colon_not_mem_hex
    · intro hn
      obtain rfl := List.map_eq_nil_iff.1 hn
      simp [join] at h

theorem readGroups_hex (tail : Bool) (gs : List UInt16) :
    readGroups tail (gs.map hex) = some gs := by
  induction gs with
  | nil => rfl
  | cons g gs ih =>
    rcases gs with _ | ⟨g', gs⟩
    · simp [readGroups, readGroup_hex]
    · rw [List.map_cons, List.map_cons] at *
      simp [readGroups, readGroup_hex, ih]

/-! ### The gap -/

theorem splitGap_cons {c : Char} (h : c ≠ ':' ∨ cs.head? ≠ some ':') :
    splitGap (c :: cs) = (splitGap cs).map fun p => (c :: p.1, p.2) := by
  conv_lhs => unfold splitGap
  split
  · rename_i hc
    cases hc
  · rename_i hc
    cases hc
    simp at h
  · rename_i hc
    cases hc
    rfl

theorem splitGap_append (h : ':' ∉ cs) (tail : List Char) :
    splitGap (cs ++ tail) = (splitGap tail).map fun p => (cs ++ p.1, p.2) := by
  induction cs with
  | nil => simp
  | cons c cs ih =>
    rw [List.mem_cons, not_or] at h
    rw [List.cons_append, splitGap_cons (.inl (Ne.symm h.1)), ih h.2, Option.map_map]
    rfl

/-- There is no gap between groups. -/
theorem splitGap_join (gs : List UInt16) (tail : List Char) :
    splitGap (join gs ++ tail) = (splitGap tail).map fun p => (join gs ++ p.1, p.2) := by
  induction gs with
  | nil => simp [join]
  | cons g gs ih =>
    by_cases hn : gs = []
    · rw [hn, join_singleton, splitGap_append colon_not_mem_hex]
    · obtain ⟨c, cs, hc, hne⟩ := join_head hn
      have hh : (join gs ++ tail).head? ≠ some ':' := by simpa [hc] using hne
      rw [join_cons g hn, List.append_assoc, splitGap_append colon_not_mem_hex, List.cons_append,
        splitGap_cons (.inr hh), ih]
      simp [Function.comp_def]

theorem splitGap_gap (gs : List UInt16) (tail : List Char) :
    splitGap (join gs ++ ':' :: ':' :: tail) = some (join gs, tail) := by
  rw [splitGap_join]
  simp [splitGap]

theorem splitGap_whole (gs : List UInt16) : splitGap (join gs) = none := by
  rw [← List.append_nil (join gs), splitGap_join]
  rfl

/-! ### The longest run of zeros -/

theorem take_zerosAt (gs : List UInt16) :
    gs.take (zerosAt gs) = List.replicate (zerosAt gs) 0 := by
  have hz : gs.take (zerosAt gs) = gs.takeWhile (· == 0) :=
    (List.prefix_iff_eq_take.1 (List.takeWhile_prefix _)).symm
  rw [hz, List.eq_replicate_iff]
  exact ⟨rfl, fun g hg => by simpa using List.mem_takeWhile_imp hg⟩

theorem longestZeros_spec (k : Nat) (gs : List UInt16) : ∃ i, (longestZeros k gs).1 = k + i ∧
    i + (longestZeros k gs).2 ≤ gs.length ∧
    (gs.drop i).take (longestZeros k gs).2 = List.replicate (longestZeros k gs).2 0 := by
  induction gs generalizing k with
  | nil => exact ⟨0, rfl, Nat.le_refl 0, rfl⟩
  | cons g gs ih =>
    rw [longestZeros]
    split
    · refine ⟨0, rfl, ?_, ?_⟩
      · rw [Nat.zero_add]
        exact (List.takeWhile_prefix _).length_le
      · exact take_zerosAt (g :: gs)
    · obtain ⟨i, hi, hle, ht⟩ := ih (k + 1)
      refine ⟨i + 1, by omega, ?_, ?_⟩
      · rw [List.length_cons]
        omega
      · exact ht

/-- The groups before the longest run of zeros, the run, and the groups after it. -/
theorem groups_eq (gs : List UInt16) : gs = gs.take (longestZeros 0 gs).1 ++
    List.replicate (longestZeros 0 gs).2 0 ++
    gs.drop ((longestZeros 0 gs).1 + (longestZeros 0 gs).2) := by
  obtain ⟨i, hi, -, ht⟩ := longestZeros_spec 0 gs
  rw [Nat.zero_add] at hi
  rw [hi, ← ht, List.append_assoc, ← List.drop_drop, List.take_append_drop, List.take_append_drop]

/-! ### Reading -/

theorem ofGroups?_groups (ip : Ipv6) : ofGroups? ip.groups = some ip := dif_pos ip.size_eq

theorem read_join (ip : Ipv6) : read (join ip.groups) = some ip := by
  unfold read
  rw [splitGap_whole]
  simp [pieces_join, readGroups_hex, ofGroups?_groups]

/-- Groups with a gap in the place of zeros, of which there is at least one. -/
theorem read_gap {front back : List UInt16} {n : Nat} (hn : 0 < n) {ip : Ipv6}
    (h : ip.groups = front ++ List.replicate n 0 ++ back) :
    read (join front ++ ':' :: ':' :: join back) = some ip := by
  have hl : front.length + n + back.length = 8 := by
    rw [← ip.size_eq, h]
    simp [Nat.add_assoc]
  have hm : 8 - front.length - back.length = n := by omega
  unfold read
  rw [splitGap_gap]
  simp only [pieces_join, readGroups_hex, Option.bind_eq_bind, Option.bind_some]
  rw [if_pos (by omega), hm, ← h, ofGroups?_groups]

/-- A group is its two bytes. -/
theorem halves (g : UInt16) : (g >>> 8).toUInt8.toUInt16 * 256 + g.toUInt8.toUInt16 = g := by
  have hlt := g.toNat_lt
  rw [← UInt16.toNat_inj]
  simp [Nat.shiftRight_eq_div_pow]
  omega

theorem readGroup_ipv4 (v4 : Ipv4) : readGroup v4.render.toList = none := by
  have hl := v4.length_render
  unfold readGroup
  rw [if_neg]
  simp only [Bool.and_eq_true, decide_eq_true_eq, not_and]
  omega

theorem mapped?_eq_some {ip : Ipv6} {v4 : Ipv4} (h : ip.mapped? = some v4) :
    ∃ g h, ip.groups = [0, 0, 0, 0, 0, 0xFFFF, g, h] ∧
      v4 = ⟨(g >>> 8).toUInt8, g.toUInt8, (h >>> 8).toUInt8, h.toUInt8⟩ := by
  unfold mapped? at h
  split at h
  · rename_i g h' hg
    cases h
    exact ⟨g, h', hg, rfl⟩
  · cases h

/-- The last two groups, and the one before them, of an address that stands for an IPv4 address. -/
theorem readGroups_mapped (v4 : Ipv4) :
    readGroups true (pieces ("ffff".toList ++ ':' :: v4.render.toList)) =
      some [0xFFFF, v4.a.toUInt16 * 256 + v4.b.toUInt16, v4.c.toUInt16 * 256 + v4.d.toUInt16] := by
  have hp : pieces ("ffff".toList ++ ':' :: v4.render.toList) =
      ["ffff".toList, v4.render.toList] := by
    unfold pieces
    rw [if_neg (by simp), List.splitOn_append_cons_self_of_not_mem (by decide),
      List.splitOn_eq_singleton v4.colon_not_mem_render]
  have hf : readGroup "ffff".toList = some 0xFFFF := by decide
  have hv : readGroups true [v4.render.toList] =
      some [v4.a.toUInt16 * 256 + v4.b.toUInt16, v4.c.toUInt16 * 256 + v4.d.toUInt16] := by
    rw [readGroups, readGroup_ipv4, Ipv4.read_render]
    rfl
  rw [hp, readGroups, hf, hv]
  · rfl
  · simp

theorem read_mapped {ip : Ipv6} {v4 : Ipv4} (h : ip.mapped? = some v4) :
    read ("::ffff:".toList ++ v4.render.toList) = some ip := by
  obtain ⟨g, g', hg, hv⟩ := mapped?_eq_some h
  have hgap : splitGap ("::ffff:".toList ++ v4.render.toList) =
      some ([], "ffff".toList ++ ':' :: v4.render.toList) := rfl
  have hfront : readGroups false (pieces []) = some [] := rfl
  have hbytes : v4.a.toUInt16 * 256 + v4.b.toUInt16 = g ∧
      v4.c.toUInt16 * 256 + v4.d.toUInt16 = g' := by
    rw [hv]
    exact ⟨halves g, halves g'⟩
  unfold read
  rw [hgap]
  simp only [hfront, readGroups_mapped, hbytes, Option.bind_eq_bind, Option.bind_some]
  rw [← ofGroups?_groups ip, hg]
  rfl

theorem read_render (ip : Ipv6) : read ip.render.toList = some ip := by
  unfold render
  split
  · rename_i v4 hv
    rw [String.toList_append, read_mapped hv]
  · simp only
    split
    · rename_i hz
      rw [String.toList_ofList, List.append_assoc]
      exact read_gap (by omega) (groups_eq ip.groups)
    · rw [String.toList_ofList, read_join]

end Ipv6

end SlotBroker.Net
