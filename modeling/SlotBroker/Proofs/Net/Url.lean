import Mathlib.Data.List.DropRight
import SlotBroker.Net.Url
import SlotBroker.Proofs.Net.Host

/-!
# The port of a URL

The part of a URL that names the host may end in a colon and digits, and they are its port if what
stands before them is a host: a colon within an address in brackets is followed by the closing one.
So the port that is read from a URL is the one that is written in it, but for the usual one of its
scheme, which counts as not given (`port_of_parse`).
-/

namespace SlotBroker.Net.Url

/-- The part of a URL that names the host, with a user before it and a port after it. -/
def authority (cs : List Char) : List Char :=
  match splitScheme (cleaned cs) with
  | some (_, rest) => (rest.dropWhile isSlash).takeWhile fun c => !endsAuthority true c
  | none => []

/-- The text ends in a colon and the digits of a number. -/
def WritesPort (cs : List Char) (p : Nat) : Prop :=
  ∃ pre digits, cs = pre ++ ':' :: digits ∧ digits ≠ [] ∧ (∀ c ∈ digits, c.isDigit = true) ∧
    Text.decimalValue digits = p

variable {cs ds host : List Char} {c : Char} {p : Nat} {u : Url}

/-! ## Parts of the authority -/

theorem splitUser_append {t : List Char} (h : '@' ∉ t) (s : List Char) :
    (splitUser (s ++ t)).2 = (splitUser s).2 ++ t := by
  have ht : ∀ c ∈ t.reverse, (c != '@') = true := by
    intro c hc
    rw [List.mem_reverse] at hc
    simp only [bne_iff_ne]
    rintro rfl
    exact h hc
  unfold splitUser
  by_cases hs : '@' ∈ s
  · simp [hs, List.takeWhile_append_of_pos ht]
  · simp [hs, h]

theorem splitUser_suffix (cs : List Char) : ∃ user, cs = user ++ (splitUser cs).2 := by
  unfold splitUser
  split
  · refine ⟨(cs.reverse.dropWhile (· != '@')).reverse, ?_⟩
    rw [← List.reverse_append, List.takeWhile_append_dropWhile, List.reverse_reverse]
  · exact ⟨[], rfl⟩

theorem splitHost_append (inside : Bool) (cs : List Char) :
    (splitHost inside cs).1 ++ (splitHost inside cs).2 = cs := by
  induction cs generalizing inside with
  | nil => rfl
  | cons c cs ih =>
    rw [splitHost]
    split
    · rfl
    · exact congrArg (c :: ·) (ih _)

theorem splitHost_snd (inside : Bool) (cs : List Char) :
    (splitHost inside cs).2 = [] ∨ ∃ ds, (splitHost inside cs).2 = ':' :: ds := by
  induction cs generalizing inside with
  | nil => exact .inl rfl
  | cons c cs ih =>
    rw [splitHost]
    split
    · rename_i h
      simp only [Bool.and_eq_true, decide_eq_true_eq] at h
      exact .inr ⟨cs, by rw [h.1]⟩
    · exact ih _

theorem splitHost_outside (hc : c ≠ ':') (hb : c ≠ '[') (cs : List Char) :
    splitHost false (c :: cs) = (c :: (splitHost false cs).1, (splitHost false cs).2) := by
  simp [splitHost, hc, hb]

theorem splitHost_inside (hb : c ≠ ']') (cs : List Char) :
    splitHost true (c :: cs) = (c :: (splitHost true cs).1, (splitHost true cs).2) := by
  simp [splitHost, hb]

/-- A colon in a host is within brackets. -/
theorem colon_not_mem_splitHost (h : '[' ∉ (splitHost false cs).1) :
    ':' ∉ (splitHost false cs).1 := by
  induction cs with
  | nil => simp [splitHost]
  | cons c cs ih =>
    by_cases hc : c = ':'
    · simp [splitHost, hc]
    by_cases hb : c = '['
    · simp [splitHost, hb] at h
    rw [splitHost_outside hc hb, List.mem_cons, not_or] at h ⊢
    exact ⟨Ne.symm hc, ih h.2⟩

theorem splitHost_name (h : ∀ c ∈ host, c ≠ ':' ∧ c ≠ '[') (ds : List Char) :
    splitHost false (host ++ ':' :: ds) = (host, ':' :: ds) := by
  induction host with
  | nil => rfl
  | cons c host ih =>
    obtain ⟨hc, hb⟩ := h c List.mem_cons_self
    rw [List.cons_append, splitHost_outside hc hb, ih fun c' h' => h c' (List.mem_cons_of_mem _ h')]

theorem splitHost_closed (h : ']' ∉ host) (ds : List Char) :
    splitHost true (host ++ ']' :: ':' :: ds) = (host ++ [']'], ':' :: ds) := by
  induction host with
  | nil => rfl
  | cons c host ih =>
    rw [List.mem_cons, not_or] at h
    rw [List.cons_append, splitHost_inside (Ne.symm h.1), ih h.2, List.cons_append]

/-! ## Ports -/

theorem readPort_digits (hn : ds ≠ []) (hd : ∀ c ∈ ds, c.isDigit = true) :
    readPort ds = if Text.decimalValue ds < UInt16.size
      then .ok (some (UInt16.ofNat (Text.decimalValue ds))) else .error .port := by
  have he : ds.isEmpty = false := by simpa using hn
  have ha : ds.all Char.isDigit = true := List.all_eq_true.2 hd
  unfold readPort
  rw [he, ha, Text.readDigits_eq (by decide) hd, ← Text.decimalValue]
  by_cases hb : Text.decimalValue ds < UInt16.size <;> simp [hb]

theorem readPort_eq_ok {port : Option UInt16} (h : readPort ds = .ok port) :
    ds = [] ∧ port = none ∨ ds ≠ [] ∧ ∀ c ∈ ds, c.isDigit = true := by
  unfold readPort at h
  split at h
  · rename_i he
    cases h
    exact .inl ⟨List.isEmpty_iff.1 he, rfl⟩
  · rename_i he
    split at h
    · rename_i ha
      exact .inr ⟨by simpa using he, List.all_eq_true.1 ha⟩
    · cases h

/-- What an authority says: a host and the port after it, if there is one. -/
theorem parseWithHost_eq_ok [DomainNames] {scheme : String} {usual : UInt16}
    (h : parseWithHost scheme usual cs = .ok u) : ∃ h p,
      Host.parse (splitHost false (splitUser (cs.takeWhile fun c => !endsAuthority true c)).2).1
        = .ok h ∧
      portAfter (some usual)
        (splitHost false (splitUser (cs.takeWhile fun c => !endsAuthority true c)).2).2 = .ok p ∧
      u = ⟨scheme, some h, p⟩ := by
  unfold parseWithHost at h
  simp only at h
  split at h
  · cases h
  split at h
  · cases h
  split at h
  · cases h
  cases h
  exact ⟨_, _, ‹_›, ‹_›, rfl⟩

theorem scheme_parseOther {scheme : String} (h : parseOther scheme cs = .ok u) :
    u.scheme = scheme := by
  unfold parseOther at h
  simp only at h
  split at h
  · cases h
  split at h
  · split at h <;> cases h
    rfl
  split at h
  · cases h
  split at h <;> cases h
  rfl

theorem scheme_parseFile [DomainNames] {scheme : String} (h : parseFile scheme cs = .ok u) :
    u.scheme = scheme := by
  unfold parseFile at h
  split at h
  · simp only at h
    split at h
    · cases h
      rfl
    · rcases hp : Host.parse _ with f | host <;> rw [hp] at h <;> cases h
      rfl
  · cases h
    rfl

theorem ofScheme_http {scheme : List Char} (h : String.ofList scheme = "http") :
    SchemeKind.ofScheme scheme = .hosts 80 := by
  unfold SchemeKind.ofScheme
  rw [h]
  rfl

/-- What the authority of a URL says whose scheme is the one of the web. -/
theorem authority_of_parse [DomainNames] (h : parse cs = .ok u) (hs : u.scheme = "http") : ∃ h p,
    Host.parse (splitHost false (splitUser (authority cs)).2).1 = .ok h ∧
      portAfter (some 80) (splitHost false (splitUser (authority cs)).2).2 = .ok p ∧
      u = ⟨"http", some h, p⟩ := by
  unfold parse at h
  unfold authority
  split at h
  · cases h
  · rename_i scheme rest hsplit
    simp only [hsplit]
    by_cases hn : String.ofList scheme = "http"
    · rw [hn, ofScheme_http hn] at h
      exact parseWithHost_eq_ok h
    · exfalso
      apply hn
      rw [← hs]
      split at h
      · obtain ⟨_, _, -, -, rfl⟩ := parseWithHost_eq_ok h
        rfl
      · exact (scheme_parseFile h).symm
      · split at h
        · exact (scheme_parseOther h).symm
        · cases h
          rfl

/-- The port of a URL, if 80 counts as not given. -/
def portOf (p : Nat) : Option UInt16 := if p = 80 then none else some (UInt16.ofNat p)

theorem portAfter_colon (hs : '\\' ∉ ds) : portAfter (some 80) (':' :: ds) =
    (readPort ds).map fun p => if p = some 80 then none else p := by
  have ht : ds.takeWhile (· != '\\') = ds := by
    rw [List.takeWhile_eq_self_iff]
    intro c hc
    simp only [bne_iff_ne]
    rintro rfl
    exact hs hc
  rw [portAfter, ht]
  rcases readPort ds <;> rfl

theorem not_mem_of_isDigit (hd : ∀ c ∈ ds, c.isDigit = true) (hc : c.isDigit = false) :
    c ∉ ds := by
  intro hm
  rw [hd c hm] at hc
  cases hc

theorem portAfter_digits (hn : ds ≠ []) (hd : ∀ c ∈ ds, c.isDigit = true) :
    portAfter (some 80) (':' :: ds) = if Text.decimalValue ds < UInt16.size
      then .ok (portOf (Text.decimalValue ds)) else .error .port := by
  rw [portAfter_colon (not_mem_of_isDigit hd (by decide)), readPort_digits hn hd]
  by_cases hb : Text.decimalValue ds < UInt16.size
  · have heq : UInt16.ofNat (Text.decimalValue ds) = 80 ↔ Text.decimalValue ds = 80 := by
      have h80 : (80 : UInt16).toNat = 80 := rfl
      rw [← UInt16.toNat_inj, UInt16.toNat_ofNat_of_lt' hb, h80]
    simp [hb, portOf, heq, Except.map]
  · simp [hb, Except.map]

/-- The last colons of two equal texts are the same. -/
theorem eq_of_last_colon {front pre ds' : List Char} (h : front ++ ':' :: ds' = pre ++ ':' :: ds)
    (hc' : ':' ∉ ds') (hc : ':' ∉ ds) : ds' = ds := by
  rcases List.append_eq_append_iff.1 h with ⟨a, -, ha⟩ | ⟨a, -, ha⟩
  · rcases a with _ | ⟨c, a⟩
    · exact (List.cons.inj ha).2
    · obtain ⟨-, rfl⟩ := List.cons.inj ha
      simp at hc'
  · rcases a with _ | ⟨c, a⟩
    · exact (List.cons.inj ha).2.symm
    · obtain ⟨-, rfl⟩ := List.cons.inj ha
      simp at hc

/-- A colon and digits at the end of what was read as a host and a port are the port. -/
theorem splitHost_port [names : DomainNames] (hl : names.Lawful) {h : Host}
    {port : Option UInt16} {pre : List Char}
    (hh : Host.parse (splitHost false (pre ++ ':' :: ds)).1 = .ok h)
    (hp : portAfter (some 80) (splitHost false (pre ++ ':' :: ds)).2 = .ok port)
    (hs : '\\' ∉ (splitHost false (pre ++ ':' :: ds)).2) (hn : ds ≠ [])
    (hd : ∀ c ∈ ds, c.isDigit = true) : (splitHost false (pre ++ ':' :: ds)).2 = ':' :: ds := by
  have happ := splitHost_append false (pre ++ ':' :: ds)
  rcases splitHost_snd false (pre ++ ':' :: ds) with hback | ⟨ds', hback⟩
  · exfalso
    rw [hback, List.append_nil] at happ
    by_cases hb : (splitHost false (pre ++ ':' :: ds)).1.head? = some '['
    · -- The closing bracket would be a digit.
      obtain ⟨hlast, -⟩ := Host.parse_bracketed hh hb
      rw [happ, List.getLast?_append, List.getLast?_cons, List.getLast?_eq_some_getLast hn,
        Option.getD_some, Option.some_or, Option.some.injEq] at hlast
      exact not_mem_of_isDigit hd (by decide) (hlast ▸ List.getLast_mem hn)
    · have hbr := Host.bracket_not_mem_of_parse hl hh hb
      refine colon_not_mem_splitHost hbr ?_
      rw [happ]
      simp
  · rw [hback] at happ hp hs ⊢
    rw [portAfter_colon fun hm => hs (List.mem_cons_of_mem _ hm)] at hp
    have hc' : ':' ∉ ds' := by
      rcases hr : readPort ds' with f | port'
      · rw [hr] at hp
        cases hp
      · rcases readPort_eq_ok hr with ⟨rfl, -⟩ | ⟨-, hd'⟩
        · simp
        · exact not_mem_of_isDigit hd' (by decide)
    rw [eq_of_last_colon happ hc' (not_mem_of_isDigit hd (by decide))]

theorem not_mem_authority (cs : List Char) (hc : endsAuthority true c = true) :
    c ∉ authority cs := by
  unfold authority
  split
  · intro hm
    have := List.mem_takeWhile_imp hm
    simp [hc] at this
  · simp

/-- The port that is read is the one that is written, but for the usual one. -/
theorem port_of_parse [names : DomainNames] (hl : names.Lawful) (h : parse cs = .ok u)
    (hs : u.scheme = "http") :
    (∀ p, WritesPort (authority cs) p → p < UInt16.size ∧ u.port = portOf p) ∧
      ((∀ p, ¬ WritesPort (authority cs) p) → u.port = none) := by
  obtain ⟨host, port, hh, hp, rfl⟩ := authority_of_parse h hs
  obtain ⟨user, huser⟩ := splitUser_suffix (authority cs)
  have happ := splitHost_append false (splitUser (authority cs)).2
  have hb : '\\' ∉ (splitHost false (splitUser (authority cs)).2).2 := by
    intro hm
    apply not_mem_authority cs (c := '\\') (by decide)
    rw [huser, ← happ]
    exact List.mem_append_right _ (List.mem_append_right _ hm)
  constructor
  · rintro p ⟨pre, ds, ha, hn, hd, rfl⟩
    have hat : '@' ∉ ':' :: ds := by
      rw [List.mem_cons, not_or]
      exact ⟨by decide, not_mem_of_isDigit hd (by decide)⟩
    rw [ha, splitUser_append hat] at hh hp hb
    rw [splitHost_port hl hh hp hb hn hd, portAfter_digits hn hd] at hp
    split at hp
    · rename_i hlt
      cases hp
      exact ⟨hlt, rfl⟩
    · cases hp
  · intro hno
    rcases splitHost_snd false (splitUser (authority cs)).2 with hback | ⟨ds, hback⟩
    · rw [hback] at hp
      cases hp
      rfl
    · rw [hback] at happ hp hb
      rw [portAfter_colon fun hm => hb (List.mem_cons_of_mem _ hm)] at hp
      rcases hr : readPort ds with f | port'
      · rw [hr] at hp
        cases hp
      · rcases readPort_eq_ok hr with ⟨rfl, rfl⟩ | ⟨hn, hd⟩
        · rw [hr] at hp
          cases hp
          rfl
        · rw [← happ, ← List.append_assoc] at huser
          exact absurd ⟨_, ds, huser, hn, hd, rfl⟩ (hno (Text.decimalValue ds))

/-! ## A written URL -/

theorem dropWhile_eq_self {p : Char → Bool} (h : ∀ c ∈ cs, p c = false) : cs.dropWhile p = cs := by
  rw [List.dropWhile_eq_self_iff]
  intro hl
  simp [h _ (List.getElem_mem hl)]

theorem cleaned_eq_self (h : ∀ c ∈ cs, isControlOrSpace c = false) : cleaned cs = cs := by
  unfold cleaned
  simp only
  rw [dropWhile_eq_self h, dropWhile_eq_self fun c hc => h c (List.mem_reverse.1 hc),
    List.reverse_reverse, List.filter_eq_self]
  intro c hc
  have hcs := h c hc
  by_contra hn
  simp only [Bool.not_eq_true, Bool.not_eq_false', Bool.or_eq_true, decide_eq_true_eq] at hn
  rcases hn with (rfl | rfl) | rfl <;> exact absurd hcs (by decide)

/-- A character that is neither cut off nor ends an authority, nor a user in it. -/
def Bare (c : Char) : Prop :=
  isControlOrSpace c = false ∧ endsAuthority true c = false ∧ c ≠ '@'

instance : Decidable (Bare c) := inferInstanceAs (Decidable (_ ∧ _ ∧ _))

theorem ne_of_not_forbidden {d : Char} (hc : isForbidden c = false) (hd : isForbidden d = true) :
    c ≠ d := by
  rintro rfl
  rw [hc] at hd
  cases hd

theorem bare_of_not_forbidden (h : isForbidden c = false) : Bare c := by
  refine ⟨?_, ?_, ne_of_not_forbidden h (by decide)⟩
  · by_contra hs
    rw [Bool.not_eq_false, isControlOrSpace, decide_eq_true_eq] at hs
    rw [isForbidden_iff.2 (.inl (.inl hs))] at h
    cases h
  · simp only [endsAuthority, Bool.or_eq_false_iff, Bool.true_and, decide_eq_false_iff_not]
    refine ⟨⟨⟨?_, ?_⟩, ?_⟩, ?_⟩ <;> exact ne_of_not_forbidden h (by decide)

theorem not_forbidden_of_isDigit (h : c.isDigit = true) : isForbidden c = false :=
  not_forbidden_of_alphanum (by simp [Char.isAlphanum, h])

/-- What stands after the slashes of a URL is read as it is, if it is nothing but an authority. -/
theorem parse_http [DomainNames] (h : ∀ c ∈ cs, Bare c) :
    parse ("http://".toList ++ cs) = parseWithHost "http" 80 cs := by
  have hclean : cleaned ("http://".toList ++ cs) = "http://".toList ++ cs := by
    refine cleaned_eq_self fun c hc => ?_
    rcases List.mem_append.1 hc with hc | hc
    · have hl : ∀ c ∈ "http://".toList, isControlOrSpace c = false :=
        forall_mem_of_all (by decide)
      exact hl c hc
    · exact (h c hc).1
  have hslash : cs.dropWhile isSlash = cs := by
    refine dropWhile_eq_self fun c hc => ?_
    have he := (h c hc).2.1
    simp only [endsAuthority, Bool.or_eq_false_iff, Bool.true_and] at he
    simp [isSlash, he]
  unfold parse
  rw [hclean]
  change parseWithHost "http" 80 (cs.dropWhile isSlash) = _
  rw [hslash]

theorem parseWithHost_port [DomainNames] {h : Host} (hh : Host.parse host = .ok h) (hne : host ≠ [])
    (hs : splitHost false (host ++ ':' :: ds) = (host, ':' :: ds))
    (ha : ∀ c ∈ host ++ ':' :: ds, Bare c) (hn : ds ≠ []) (hd : ∀ c ∈ ds, c.isDigit = true)
    (hlt : Text.decimalValue ds < UInt16.size) :
    parseWithHost "http" 80 (host ++ ':' :: ds) =
      .ok ⟨"http", some h, portOf (Text.decimalValue ds)⟩ := by
  have htake : (host ++ ':' :: ds).takeWhile (fun c => !endsAuthority true c)
      = host ++ ':' :: ds := by
    rw [List.takeWhile_eq_self_iff]
    exact fun c hc => by simp [(ha c hc).2.1]
  have huser : splitUser (host ++ ':' :: ds) = (none, host ++ ':' :: ds) := by
    have hat : '@' ∉ host ++ ':' :: ds := fun hm => (ha _ hm).2.2 rfl
    unfold splitUser
    rw [if_neg (by simpa using hat)]
  unfold parseWithHost
  simp only [htake, huser, hs, hh, portAfter_digits hn hd, if_pos hlt]
  simp [hne]

end SlotBroker.Net.Url
