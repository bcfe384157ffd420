import Mathlib.Tactic.ByContra
import SlotBroker.Net.Host
import SlotBroker.Proofs.Net.DomainName
import SlotBroker.Proofs.Text.Bytes
import SlotBroker.Proofs.Text.Numeral

/-!
# Characters of hosts

An opening bracket in the text of a name makes it no host (`Host.bracket_not_mem_of_parse`), so a
bracket stands in a host only where it begins an IPv6 address. What a host is written as has no
forbidden character but the colons of such an address (`Host.forbidden_of_render`), and is in ASCII.
How names are written in ASCII is given, and lawful.
-/

namespace SlotBroker.Net

open Text (digitOf)

variable {c : Char} {cs : List Char}

/-! ## Forbidden characters -/

theorem isForbidden_iff : isForbidden c = true ↔
    (c.toNat ≤ 0x20 ∨ c.toNat = 0x7F) ∨ c ∈ "%#/:<>?@[\\]^|".toList := by
  simp [isForbidden]

theorem not_forbidden_of_alphanum (h : c.isAlphanum = true) : isForbidden c = false := by
  by_contra hf
  rw [Bool.not_eq_false, isForbidden_iff] at hf
  rcases hf with hf | hf
  · rw [isAlphanum_iff] at h
    omega
  · have hsigns : ∀ c ∈ "%#/:<>?@[\\]^|".toList, c.isAlphanum = false :=
      forall_mem_of_all (by decide)
    rw [hsigns c hf] at h
    cases h

/-! ## Reading -/

/-- A bracket is no part of a byte in hexadecimal. -/
theorem bracket_mem_percentDecode {bs : List UInt8} (h : UInt8.ofNat '['.toNat ∈ bs) :
    UInt8.ofNat '['.toNat ∈ Host.percentDecode bs := by
  have hx : digitOf 16 (Char.ofNat (UInt8.ofNat '['.toNat).toNat) = none := by decide
  fun_induction Host.percentDecode bs with
  | case1 b h' l bs x y hl hh hb ih =>
    -- None of the three bytes is the bracket's.
    simp only [List.mem_cons] at h
    rcases h with h | h | h | h
    · rw [← h] at hb
      exact absurd hb (by decide)
    · rw [← h, hx] at hh
      cases hh
    · rw [← h, hx] at hl
      cases hl
    · exact List.mem_cons_of_mem _ (ih h)
  | case2 b h' l bs _ ih =>
    rcases List.mem_cons.1 h with h | h
    · exact h ▸ List.mem_cons_self
    · exact List.mem_cons_of_mem _ (ih h)
  | case3 bs _ => exact h

namespace Host

variable [names : DomainNames] {host : Host}

/-- A host without a bracket before it is a name that was read, or an IPv4 address. -/
theorem parse_name (h : parse cs = .ok host) (hb : cs.head? ≠ some '[') :
    ∃ text ascii, Text.ofBytes? (percentDecode (Text.toBytes (String.ofList cs))) = some text ∧
      names.toAscii text.toList = some ascii ∧ ascii ≠ [] ∧
      (host = .name (String.ofList ascii) ∨ ∃ a, host = .ip (.v4 a)) := by
  unfold parse at h
  split at h
  · simp at hb
  · split at h
    · cases h
    · rename_i text ht
      split at h
      · cases h
      · cases h
      · rename_i ascii hn ha
        refine ⟨text, ascii, ht, ha, hn, ?_⟩
        split at h
        · split at h
          · cases h
            exact .inr ⟨_, rfl⟩
          · cases h
        · cases h
          exact .inl rfl

theorem bracket_not_mem_of_parse (hl : names.Lawful) (h : parse cs = .ok host)
    (hb : cs.head? ≠ some '[') : '[' ∉ cs := by
  intro hm
  obtain ⟨text, ascii, ht, ha, -⟩ := parse_name h hb
  have hbytes : UInt8.ofNat '['.toNat ∈ Text.toBytes text := by
    rw [Text.ofBytes?_eq_some_iff.1 ht]
    refine bracket_mem_percentDecode ((Text.mem_toBytes_iff (by decide)).2 ?_)
    rwa [String.toList_ofList]
  have hnone := hl.bracket ((Text.mem_toBytes_iff (by decide)).1 hbytes)
  rw [hnone] at ha
  cases ha

theorem parse_bracketed (h : parse cs = .ok host) (hb : cs.head? = some '[') :
    cs.getLast? = some ']' ∧ ∃ a, host = .ip (.v6 a) := by
  rcases cs with _ | ⟨d, rest⟩
  · cases hb
  cases hb
  rw [parse, parseBracketed] at h
  split at h
  · rename_i hl
    split at h
    · cases h
      rw [List.getLast?_cons, hl]
      exact ⟨rfl, _, rfl⟩
    · cases h
  · cases h

end Host

/-! ## Writing -/

theorem ipv4_render {a : Ipv4} (h : c ∈ a.render.toList) : c = '.' ∨ c.isAlphanum = true := by
  rw [Ipv4.render, String.toList_intercalate] at h
  rcases of_mem_intercalate h with h | ⟨l, hl, hc⟩
  · exact .inl (by simpa using h)
  · simp only [List.map_map, List.mem_map, Function.comp_apply, Text.decimal,
      String.toList_ofList] at hl
    obtain ⟨n, -, rfl⟩ := hl
    exact .inr (Text.isAlphanum_of_mem_digits (by omega) (by omega) hc)

theorem ipv6_join {gs : List UInt16} (h : c ∈ Ipv6.join gs) : c = ':' ∨ c.isAlphanum = true := by
  rcases of_mem_intercalate h with h | ⟨l, hl, hc⟩
  · exact .inl (by simpa using h)
  · obtain ⟨g, -, rfl⟩ := List.mem_map.1 hl
    exact .inr (Text.isAlphanum_of_mem_digits (by omega) (by omega) hc)

theorem ipv6_render {a : Ipv6} (h : c ∈ a.render.toList) :
    c = ':' ∨ c = '.' ∨ c.isAlphanum = true := by
  unfold Ipv6.render at h
  split at h
  · rw [String.toList_append, List.mem_append] at h
    rcases h with h | h
    · have hl : ∀ c ∈ "::ffff:".toList, c = ':' ∨ c = '.' ∨ c.isAlphanum = true :=
        forall_mem_of_all (by decide)
      exact hl c h
    · exact .inr (ipv4_render h)
  · simp only at h
    split at h
    · simp only [String.toList_ofList, List.mem_append, List.mem_cons, List.not_mem_nil,
        or_false, or_self] at h
      rcases h with (h | h) | h
      · exact (ipv6_join h).imp_right .inr
      · exact .inl h
      · exact (ipv6_join h).imp_right .inr
    · rw [String.toList_ofList] at h
      exact (ipv6_join h).imp_right .inr

theorem not_forbidden_point : isForbidden '.' = false := by decide

theorem ascii_of_alphanum (h : c.isAlphanum = true) : c.toNat < 0x80 := by
  rw [isAlphanum_iff] at h
  omega

namespace Host

variable [names : DomainNames] {host : Host}

/-- No forbidden character is written, but for the colons of an address that stands in brackets. -/
theorem forbidden_of_render (hl : names.Lawful) (h : parse cs = .ok host)
    (hc : c ∈ host.render.toList) : isForbidden c = false ∨ c = ':' ∧ cs.head? = some '[' := by
  by_cases hb : cs.head? = some '['
  · obtain ⟨-, a, rfl⟩ := parse_bracketed h hb
    rcases ipv6_render hc with rfl | rfl | ha
    · exact .inr ⟨rfl, hb⟩
    · exact .inl not_forbidden_point
    · exact .inl (not_forbidden_of_alphanum ha)
  · obtain ⟨text, ascii, -, ha, -, rfl | ⟨a, rfl⟩⟩ := parse_name h hb
    · rw [render, String.toList_ofList] at hc
      exact .inl (hl.written ha c hc).2
    · rcases ipv4_render hc with rfl | ha
      · exact .inl not_forbidden_point
      · exact .inl (not_forbidden_of_alphanum ha)

theorem ascii_of_render (hl : names.Lawful) (h : parse cs = .ok host)
    (hc : c ∈ host.render.toList) : c.toNat < 0x80 := by
  by_cases hb : cs.head? = some '['
  · obtain ⟨-, a, rfl⟩ := parse_bracketed h hb
    rcases ipv6_render hc with rfl | rfl | ha
    · decide
    · decide
    · exact ascii_of_alphanum ha
  · obtain ⟨text, ascii, -, ha, -, rfl | ⟨a, rfl⟩⟩ := parse_name h hb
    · rw [render, String.toList_ofList] at hc
      exact (hl.written ha c hc).1
    · rcases ipv4_render hc with rfl | ha
      · decide
      · exact ascii_of_alphanum ha

end Host

end SlotBroker.Net
