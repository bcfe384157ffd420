import SlotBroker.Client.Address
import SlotBroker.Proofs.Net.Url
import SlotBroker.Proofs.Text.Blank

/-!
# The port of an address

An address is read as a URL, and a URL that tells the usual port of its scheme is the same as one
that tells none. So of all ports that can be written only 80 is not kept: the standard port comes in
its place (`Address.ports`). Every other port is kept, whatever the host, and an address that is
written by `render` and read again is the same. This holds for every lawful rule by which domain
names are written in ASCII.
-/

namespace SlotBroker.Address

/-- The text of an address as a URL. -/
def asUrl (s : String) : List Char :=
  let cs := Text.trim s.toList
  if hasScheme cs then cs else "http://".toList ++ cs

/-- The part of an address with the host and the port. -/
def authority (s : String) : List Char := Net.Url.authority (asUrl s)

/-- A host as it stands in an address. -/
def bracketed (h : String) : List Char :=
  if h.toList.contains ':' then '[' :: (h.toList ++ [']']) else h.toList

section

variable [Net.DomainNames]

/-- A host in the form in which reading gives it. -/
def Canonical (h : String) : Prop :=
  ∃ host, Net.Host.parse (bracketed h) = .ok host ∧ host.render = h

/-- A port as it is read: 80 counts as not given. -/
def keptPort (p : Nat) : UInt16 := if p = 80 then defaultPort else UInt16.ofNat p

/-- Which port is read from a text, and from what a host is written as with a port. -/
structure Ports (s h : String) : Prop where
  written : ∀ {a p}, parse s = .ok a → Net.Url.WritesPort (authority s) p →
    p < UInt16.size ∧ a.port = keptPort p
  unwritten : ∀ {a}, parse s = .ok a → (∀ p, ¬ Net.Url.WritesPort (authority s) p) →
    a.port = defaultPort
  rendered : ∀ p : UInt16, Canonical h → parse (render ⟨h, p⟩) = .ok ⟨h, keptPort p.toNat⟩

end

variable {s h : String} {a : Address} {p : UInt16} {cs : List Char} {c : Char}

/-! ## Reading -/

theorem parse_eq [Net.DomainNames] (s : String) : parse s =
    if (Text.trim s.toList).isEmpty then .error (.invalidAddress "address cannot be empty")
    else
      match Net.Url.parse (asUrl s) with
      | .error f => .error (.invalidAddress f.message)
      | .ok u => ofUrl u := by
  cases he : (Text.trim s.toList).isEmpty with
  | true => simp only [parse, he, if_true]
  | false =>
    cases hu : Net.Url.parse (asUrl s) <;> rw [asUrl] at hu <;>
      simp only [parse, he, hu, Bool.false_eq_true, if_false]

theorem parse_eq_ok [Net.DomainNames] (h : parse s = .ok a) : ∃ u, Net.Url.parse (asUrl s) = .ok u ∧
    u.scheme = "http" ∧ a.port = u.port.getD defaultPort := by
  rw [parse_eq] at h
  split at h
  · cases h
  split at h
  · cases h
  rename_i u hu
  unfold ofUrl at h
  split at h
  · cases h
  rename_i hs
  split at h
  · cases h
    exact ⟨u, hu, Classical.not_not.1 hs, rfl⟩
  · cases h

theorem getD_portOf (p : Nat) : (Net.Url.portOf p).getD defaultPort = keptPort p := by
  unfold Net.Url.portOf keptPort
  split <;> rfl

/-! ## Writing and reading -/

theorem toList_render (h : String) (p : UInt16) :
    (render ⟨h, p⟩).toList = bracketed h ++ ':' :: Text.digits 10 p.toNat := by
  unfold render bracketed
  simp only [toString, Text.decimal]
  split <;> simp

theorem hasScheme_of_not_mem (h : '/' ∉ cs) : hasScheme cs = false := by
  fun_induction hasScheme cs with
  | case1 => rfl
  | case2 => simp at h
  | case3 c cs _ ih => exact ih fun hm => h (List.mem_cons_of_mem _ hm)

theorem bracketed_of_mem (h : ':' ∈ s.toList) : bracketed s = '[' :: (s.toList ++ [']']) :=
  if_pos (List.contains_iff_mem.2 h)

theorem bracketed_of_not_mem (h : ':' ∉ s.toList) : bracketed s = s.toList :=
  if_neg fun hm => h (List.contains_iff_mem.1 hm)

theorem not_blank (ha : c.toNat < 0x80) (hf : Net.isForbidden c = false) :
    Text.isBlank c = false := by
  by_contra hb
  have hn : ¬ c.toNat ≤ 0x20 := by
    intro hn
    rw [Net.isForbidden_iff.2 (.inl (.inl hn))] at hf
    cases hf
  simp only [Text.isBlank, Bool.not_eq_false, Bool.or_eq_true, Bool.and_eq_true,
    decide_eq_true_eq, beq_iff_eq] at hb
  omega

section

variable [names : Net.DomainNames] (hl : names.Lawful)

include hl

theorem parse_nil : Net.Host.parse [] = .error .emptyHost := by
  have hplain : Net.DomainNames.Plain [] := by decide
  have ht : Text.ofBytes? (Net.Host.percentDecode (Text.toBytes (String.ofList []))) = some "" := by
    decide +kernel
  have ha : names.toAscii "".toList = some [] := hl.plain hplain
  simp only [Net.Host.parse, ht, ha]

/-- The characters of a host are harmless, but for the colons of an address in brackets. -/
theorem Canonical.not_forbidden (hc : Canonical h) (hm : c ∈ h.toList) :
    Net.isForbidden c = false ∨ c = ':' := by
  obtain ⟨host, hp, rfl⟩ := hc
  exact (Net.Host.forbidden_of_render hl hp hm).imp_right And.left

theorem Canonical.ascii (hc : Canonical h) (hm : c ∈ h.toList) : c.toNat < 0x80 := by
  obtain ⟨host, hp, rfl⟩ := hc
  exact Net.Host.ascii_of_render hl hp hm

theorem Canonical.bare (hc : Canonical h) (hm : c ∈ bracketed h) : Net.Url.Bare c := by
  have hh : ∀ c ∈ h.toList, Net.Url.Bare c := by
    intro c hm
    rcases hc.not_forbidden hl hm with hf | rfl
    · exact Net.Url.bare_of_not_forbidden hf
    · decide
  by_cases hcolon : ':' ∈ h.toList
  · rw [bracketed_of_mem hcolon] at hm
    simp only [List.mem_cons, List.mem_append, List.not_mem_nil, or_false] at hm
    rcases hm with rfl | hm | rfl
    · decide
    · exact hh c hm
    · decide
  · rw [bracketed_of_not_mem hcolon] at hm
    exact hh c hm

theorem Canonical.splitHost (hc : Canonical h) (ds : List Char) :
    Net.Url.splitHost false (bracketed h ++ ':' :: ds) = (bracketed h, ':' :: ds) := by
  by_cases hcolon : ':' ∈ h.toList
  · have hclose : ']' ∉ h.toList := by
      intro hm
      rcases hc.not_forbidden hl hm with hf | hf
      · exact absurd hf (by decide)
      · exact absurd hf (by decide)
    rw [bracketed_of_mem hcolon]
    have hs := Net.Url.splitHost_closed hclose ds
    simp [Net.Url.splitHost, hs]
  · rw [bracketed_of_not_mem hcolon]
    refine Net.Url.splitHost_name (fun c hm => ?_) ds
    rcases hc.not_forbidden hl hm with hf | rfl
    · exact ⟨Net.Url.ne_of_not_forbidden hf (by decide), Net.Url.ne_of_not_forbidden hf (by decide)⟩
    · exact absurd hm hcolon

theorem Canonical.ne_nil (hc : Canonical h) : bracketed h ≠ [] := by
  obtain ⟨host, hp, -⟩ := hc
  intro hn
  rw [hn, parse_nil hl] at hp
  cases hp

theorem Canonical.head_not_blank (hc : Canonical h) (hh : (bracketed h).head? = some c) :
    Text.isBlank c = false := by
  by_cases hcolon : ':' ∈ h.toList
  · rw [bracketed_of_mem hcolon] at hh
    cases hh
    decide
  · rw [bracketed_of_not_mem hcolon] at hh
    have hm := List.mem_of_mem_head? hh
    rcases hc.not_forbidden hl hm with hf | rfl
    · exact not_blank (hc.ascii hl hm) hf
    · decide

theorem Canonical.trim (hc : Canonical h) (p : UInt16) :
    Text.trim (render ⟨h, p⟩).toList = bracketed h ++ ':' :: Text.digits 10 p.toNat := by
  rw [toList_render]
  refine Text.trim_eq_self (fun c hh => ?_) fun c hl => ?_
  · obtain ⟨d, ds, hd⟩ := List.exists_cons_of_ne_nil (hc.ne_nil hl)
    rw [hd] at hh
    cases hh
    exact hc.head_not_blank hl (by rw [hd]; rfl)
  · have hn := Text.digits_ne_nil 10 p.toNat
    rw [List.getLast?_append, List.getLast?_cons, List.getLast?_eq_some_getLast hn,
      Option.getD_some, Option.some_or, Option.mem_some] at hl
    have hd := Text.isDigit_of_mem_digits (hl ▸ List.getLast_mem hn)
    have := Text.isDigit_iff.1 hd
    exact not_blank (by omega) (Net.Url.not_forbidden_of_isDigit hd)

theorem Canonical.bare_render (hc : Canonical h) {p : UInt16}
    (hm : c ∈ bracketed h ++ ':' :: Text.digits 10 p.toNat) : Net.Url.Bare c := by
  simp only [List.mem_append, List.mem_cons] at hm
  rcases hm with hm | rfl | hm
  · exact hc.bare hl hm
  · decide
  · have hd := Text.isDigit_of_mem_digits hm
    exact Net.Url.bare_of_not_forbidden (Net.Url.not_forbidden_of_isDigit hd)

theorem Canonical.slash_not_mem (hc : Canonical h) (p : UInt16) :
    '/' ∉ bracketed h ++ ':' :: Text.digits 10 p.toNat := fun hm =>
  absurd (hc.bare_render hl hm) (by decide)

theorem Canonical.parse_render (hc : Canonical h) (p : UInt16) :
    parse (render ⟨h, p⟩) = .ok ⟨h, keptPort p.toNat⟩ := by
  have hd : ∀ c ∈ Text.digits 10 p.toNat, c.isDigit = true := fun c => Text.isDigit_of_mem_digits
  have hbare : ∀ c ∈ bracketed h ++ ':' :: Text.digits 10 p.toNat, Net.Url.Bare c :=
    fun c => hc.bare_render hl
  have hasUrl : asUrl (render ⟨h, p⟩) =
      "http://".toList ++ (bracketed h ++ ':' :: Text.digits 10 p.toNat) := by
    simp [asUrl, hc.trim hl, hasScheme_of_not_mem (hc.slash_not_mem hl p)]
  obtain ⟨host, hp, hr⟩ := id hc
  have hport := Net.Url.parseWithHost_port hp (hc.ne_nil hl) (hc.splitHost hl _) hbare
    (Text.digits_ne_nil 10 p.toNat) hd (by rw [Text.decimalValue_digits]; exact p.toNat_lt)
  rw [parse_eq, hc.trim hl, if_neg (by simp), hasUrl, Net.Url.parse_http hbare, hport,
    Text.decimalValue_digits]
  simp [ofUrl, scheme, hr, getD_portOf]

/-- Every port that is written is kept, but for 80. -/
theorem ports (s h : String) : Ports s h where
  written {a p} ha hw := by
    obtain ⟨u, hu, hs, hp⟩ := parse_eq_ok ha
    obtain ⟨hlt, hport⟩ := (Net.Url.port_of_parse hl hu hs).1 p hw
    exact ⟨hlt, by rw [hp, hport, getD_portOf]⟩
  unwritten {a} ha hw := by
    obtain ⟨u, hu, hs, hp⟩ := parse_eq_ok ha
    rw [hp, (Net.Url.port_of_parse hl hu hs).2 hw]
    rfl
  rendered p hc := hc.parse_render hl p

end

/-! ## Names that need no table -/

section

attribute [local instance] Net.DomainNames.plainOnly

open Net.DomainNames (plainOnly lawful_plainOnly)

theorem canonical_ipv6 : Canonical "::1" :=
  ⟨.ip (.v6 ⟨[0, 0, 0, 0, 0, 0, 0, 1], rfl⟩), by decide +kernel, by decide +kernel⟩

theorem parse_named :
    parse "http://me@Broker.local:09000/x" = .ok ⟨"broker.local", 9000⟩ := by decide +kernel

theorem writes_named : Net.Url.WritesPort (authority "http://me@Broker.local:09000/x") 9000 :=
  ⟨"me@Broker.local".toList, "09000".toList, by decide +kernel, by decide,
    Net.forall_mem_of_all (by decide), by decide⟩

/-- A port with a zero before it, after a user and a name, and one after an address in brackets. -/
theorem ports_ipv6 : plainOnly.Lawful ∧
    (parse "http://me@Broker.local:09000/x" = .ok ⟨"broker.local", 9000⟩ ∧
      Net.Url.WritesPort (authority "http://me@Broker.local:09000/x") 9000 ∧
      9000 < UInt16.size ∧ (9000 : UInt16) = keptPort 9000) ∧
    Canonical "::1" ∧ parse (render ⟨"::1", 9000⟩) = .ok ⟨"::1", 9000⟩ := by
  have hw := (ports lawful_plainOnly "http://me@Broker.local:09000/x" "::1").written parse_named
    writes_named
  have hp := (ports lawful_plainOnly (render ⟨"::1", 9000⟩) "::1").rendered 9000 canonical_ipv6
  rw [show keptPort (9000 : UInt16).toNat = 9000 by decide] at hp
  exact ⟨lawful_plainOnly, ⟨parse_named, writes_named, hw⟩, canonical_ipv6, hp⟩

theorem canonical_ipv4 : Canonical "127.0.0.1" :=
  ⟨.ip (.v4 ⟨127, 0, 0, 1⟩), by decide +kernel, by decide +kernel⟩

theorem render_port_80 : render ⟨"127.0.0.1", 80⟩ = "127.0.0.1:80" := by decide +kernel

theorem authority_port_80 : authority "127.0.0.1:80" = "127.0.0.1".toList ++ ':' :: ['8', '0'] := by
  decide +kernel

theorem port_80_not_kept : plainOnly.Lawful ∧
    parse "127.0.0.1:80" = .ok ⟨"127.0.0.1", defaultPort⟩ ∧
    Net.Url.WritesPort (authority "127.0.0.1:80") 80 ∧ defaultPort ≠ 80 ∧
    Canonical "127.0.0.1" ∧ render ⟨"127.0.0.1", 80⟩ = "127.0.0.1:80" := by
  have hp := canonical_ipv4.parse_render lawful_plainOnly 80
  rw [render_port_80] at hp
  have hw : Net.Url.WritesPort (authority "127.0.0.1:80") 80 :=
    ⟨_, _, authority_port_80, by decide, Net.forall_mem_of_all (by decide), by decide⟩
  exact ⟨lawful_plainOnly, hp, hw, by decide, canonical_ipv4, render_port_80⟩

end

end SlotBroker.Address
