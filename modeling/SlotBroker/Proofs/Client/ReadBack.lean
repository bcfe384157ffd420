import SlotBroker.Proofs.Client.Port
import SlotBroker.Proofs.Net.WrittenHost

/-!
# Written addresses

An address that was read is written in a form that is read as the same address (`reads_back`),
whatever lawful rule there is by which domain names are written in ASCII. Its host is a fixed point
of reading, whatever stood in its place: only the host of an IPv6 address has a colon in it, and so
it alone is put into brackets. Its port is never 80, which would be lost. A text without a scheme is
read as what follows the scheme of the web, whether it becomes an address or not.
-/

namespace SlotBroker

open Text (digits)

namespace Net

variable {cs : List Char} {host : Host}

theorem Ipv6.colon_mem_render (a : Ipv6) : ':' ∈ a.render.toList := by
  unfold render
  split
  · rw [String.toList_append]
    exact List.mem_append_left _ (by decide)
  · simp only
    split
    · simp
    · rcases a with ⟨gs, hs⟩
      obtain ⟨g, gs, rfl⟩ := List.exists_cons_of_length_eq_add_one hs
      have hn : gs ≠ [] := by
        rintro rfl
        cases hs
      rw [String.toList_ofList, join_cons g hn]
      simp

/-- A host that does not stand in brackets has no colon in it. -/
theorem Host.colon_not_mem_render [names : DomainNames] (hl : names.Lawful)
    (h : parse cs = .ok host) (hb : cs.head? ≠ some '[') :
    ':' ∉ host.render.toList := by
  intro hm
  rcases forbidden_of_render hl h hm with hf | ⟨-, hb'⟩
  · cases hf
  · exact hb hb'

end Net

namespace Address

variable {s : String} {a : Address} {cs : List Char} {host : Net.Host}

/-- What is to be said of a text that may be an address. -/
structure ReadsBack [Net.DomainNames] (t : String) : Prop where
  display : ∀ {a}, parse t = .ok a → parse a.render = .ok a
  uri : ∀ {a}, parse t = .ok a → parse a.uri = .ok a
  scheme : Text.trim t.toList = t.toList → t ≠ "" → ¬ "://".toList <:+: t.toList →
    parse ("http://" ++ t) = parse t

/-! ## The host -/

section

variable [names : Net.DomainNames] (hl : names.Lawful)

include hl

/-- Every host that is read is in the form in which it is read again. -/
theorem canonical_of_parse (h : Net.Host.parse cs = .ok host) : Canonical host.render := by
  refine ⟨host, ?_, rfl⟩
  by_cases hb : cs.head? = some '['
  · obtain ⟨-, a, rfl⟩ := Net.Host.parse_bracketed h hb
    have hr : (Net.Host.ip (.v6 a)).render = a.render := rfl
    rw [hr, bracketed_of_mem a.colon_mem_render]
    exact Net.Host.parse_ipv6_render a
  · rw [bracketed_of_not_mem (Net.Host.colon_not_mem_render hl h hb)]
    obtain ⟨_, ascii, -, -, -, rfl | ⟨a, rfl⟩⟩ := Net.Host.parse_name h hb
    · exact Net.Host.parse_name_render hl h hb
    · exact Net.Host.parse_ipv4_render hl a

theorem canonical_host (h : parse s = .ok a) : Canonical a.host := by
  rw [parse_eq] at h
  split at h
  · cases h
  split at h
  · cases h
  rename_i u hu
  unfold ofUrl at h
  split at h
  · cases h
  rename_i hs
  obtain ⟨host, port, hh, -, rfl⟩ := Net.Url.authority_of_parse hu (Classical.not_not.1 hs)
  cases h
  exact canonical_of_parse hl hh

/-! ## The port -/

omit [Net.DomainNames] hl in
theorem keptPort_keptPort {p : Nat} (hp : p < UInt16.size) :
    keptPort (keptPort p).toNat = keptPort p := by
  by_cases h80 : p = 80
  · rw [h80]
    rfl
  · have hk : (keptPort p).toNat = p := by
      rw [keptPort, if_neg h80, UInt16.toNat_ofNat_of_lt' hp]
    rw [hk]

/-- The port of an address that was read is kept. -/
theorem keptPort_port (h : parse s = .ok a) : keptPort a.port.toNat = a.port := by
  obtain ⟨u, hu, hs, hport⟩ := parse_eq_ok h
  obtain ⟨hwritten, hnone⟩ := Net.Url.port_of_parse hl hu hs
  by_cases hw : ∃ p, Net.Url.WritesPort (Net.Url.authority (asUrl s)) p
  · obtain ⟨p, hp⟩ := hw
    obtain ⟨hlt, hu⟩ := hwritten p hp
    rw [hport, hu, getD_portOf, keptPort_keptPort hlt]
  · rw [hport, hnone (not_exists.1 hw)]
    rfl

theorem parse_render_of_parse (h : parse s = .ok a) : parse a.render = .ok a := by
  have hr := (canonical_host hl h).parse_render hl a.port
  rwa [keptPort_port hl h] at hr

end

/-! ## The scheme -/

theorem hasScheme_iff : hasScheme cs = true ↔ "://".toList <:+: cs := by
  fun_induction hasScheme cs with
  | case1 => simp
  | case2 cs =>
    have hp : "://".toList <+: ':' :: '/' :: '/' :: cs := ⟨cs, rfl⟩
    simpa using hp.isInfix
  | case3 c cs hne ih =>
    rw [List.infix_cons_iff, ih]
    constructor
    · exact .inr
    · rintro (⟨rest, hr⟩ | hi)
      · obtain ⟨rfl, rfl⟩ := List.cons.inj hr
        exact absurd rfl (hne _ rfl)
      · exact hi

theorem trim_http (ht : Text.trim cs = cs) (hn : cs ≠ []) :
    Text.trim ("http://".toList ++ cs) = "http://".toList ++ cs := by
  refine Text.trim_eq_self (fun c hc => ?_) fun c hc => ?_
  · cases hc
    decide
  · rw [List.getLast?_append_of_ne_nil _ hn, ← ht] at hc
    exact Text.not_blank_of_getLast? hc

/-- A text without a scheme is read as if it had the one of the web. -/
theorem parse_http_append [Net.DomainNames] (ht : Text.trim s.toList = s.toList) (hn : s ≠ "")
    (hs : ¬ "://".toList <:+: s.toList) : parse ("http://" ++ s) = parse s := by
  have hne : s.toList ≠ [] := by simpa using hn
  have hhttp : Text.trim ("http://" ++ s).toList = "http://".toList ++ s.toList := by
    rw [String.toList_append, trim_http ht hne]
  have hscheme : hasScheme ("http://".toList ++ s.toList) = true :=
    hasScheme_iff.2 ⟨"http".toList, s.toList, rfl⟩
  have hself : asUrl s = "http://".toList ++ s.toList := by
    simp [asUrl, ht, Bool.not_eq_true _ ▸ mt hasScheme_iff.1 hs]
  have hwith : asUrl ("http://" ++ s) = "http://".toList ++ s.toList := by
    simp only [asUrl, hhttp, hscheme, if_true]
  rw [parse_eq, parse_eq, hself, hwith, hhttp, ht]
  simp [hne]

section

variable [names : Net.DomainNames] (hl : names.Lawful)

include hl

theorem Canonical.parse_uri {h : String} (hc : Canonical h) (p : UInt16) :
    parse (uri ⟨h, p⟩) = parse (render ⟨h, p⟩) := by
  have htrim : Text.trim (render ⟨h, p⟩).toList = (render ⟨h, p⟩).toList := by
    rw [hc.trim hl, toList_render]
  refine parse_http_append htrim ?_ fun hi => ?_
  · intro hn
    have ht := toList_render h p
    simp [hn] at ht
  · have hm : '/' ∈ (render ⟨h, p⟩).toList := hi.subset (by decide)
    rw [toList_render] at hm
    exact hc.slash_not_mem hl p hm

/-- An address that is written and read again is the same, and the scheme of the web may be left
out. -/
theorem reads_back (t : String) : ReadsBack t where
  display {a} h := parse_render_of_parse hl h
  uri {a} h := by
    rw [(canonical_host hl h).parse_uri hl a.port]
    exact parse_render_of_parse hl h
  scheme ht hn hs := parse_http_append ht hn hs

end

/-! ## Names that need no table -/

section

attribute [local instance] Net.DomainNames.plainOnly

open Net.DomainNames (plainOnly lawful_plainOnly)

theorem parse_shorthand : parse "http://0x7F.1:080" = .ok ⟨"127.0.0.1", defaultPort⟩ := by
  decide +kernel

theorem parse_compressed : parse " [0:0:0::FFFF:8.8.8.8]:9000" = .ok ⟨"::ffff:8.8.8.8", 9000⟩ := by
  decide +kernel

theorem parse_capitals : parse "Br%6Fker.Local:9000" = .ok ⟨"broker.local", 9000⟩ := by
  decide +kernel

/-- Two addresses and a name, none of them given as it is written, are read back. -/
theorem shorthand_reads_back : plainOnly.Lawful ∧
    parse (uri ⟨"127.0.0.1", defaultPort⟩) = .ok ⟨"127.0.0.1", defaultPort⟩ ∧
      parse (render ⟨"::ffff:8.8.8.8", 9000⟩) = .ok ⟨"::ffff:8.8.8.8", 9000⟩ ∧
      parse (render ⟨"broker.local", 9000⟩) = .ok ⟨"broker.local", 9000⟩ ∧
      parse ("http://" ++ "Broker.local") = parse "Broker.local" :=
  ⟨lawful_plainOnly, (reads_back lawful_plainOnly _).uri parse_shorthand,
    (reads_back lawful_plainOnly _).display parse_compressed,
    (reads_back lawful_plainOnly _).display parse_capitals,
    (reads_back lawful_plainOnly "Broker.local").scheme (by decide +kernel) (by decide)
      (by decide +kernel)⟩

end

end Address

end SlotBroker
