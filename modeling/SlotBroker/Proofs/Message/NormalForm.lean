import Mathlib.Data.List.Forall2
import SlotBroker.Proofs.Message.Fidelity

/-!
# Which messages are accepted

A message is accepted if all its parts are: each location has a character that is no blank and no
blank inside, each time is a millisecond that an instant can have, a session is there where one is
needed, and the number of an adapter is one of two. What is accepted is kept but for the blanks
around texts, so a message has a normal form (`Normalizes`): the value that was read is written as
the normal form, and the normal form reads as that value again. This is shown for each kind of part
first. A list normalizes as its elements do (`Normalizes.list`), and a record field by field.
-/

namespace SlotBroker

/-- A text that names a location once it is trimmed. -/
def Location.Readable (text : String) : Prop := WellFormed ⟨Text.trimmed text⟩

theorem Location.ofMessage_eq_ok_iff {text : String} {l : Location} :
    ofMessage text = .ok l ↔ l.text = Text.trimmed text ∧ Readable text := by
  have hp : ofMessage text = .ok l ↔ parse text = .ok l := by
    unfold ofMessage
    cases parse text <;> simp
  rw [hp, parse_eq_ok_iff]
  refine and_congr_right fun ht => ?_
  rw [Readable, ← ht]

namespace Time.Instant

/-- The first millisecond that an instant can have, counted from the beginning of 1970. -/
def firstMillis : Int := minSeconds * 1000

/-- The last such millisecond. -/
def lastMillis : Int := maxSeconds * 1000 + 999

variable {ms : Int64} {t : Instant}

theorem ofMillis?_exists_iff {ms : Int} :
    (∃ t, ofMillis? ms = some t) ↔ firstMillis ≤ ms ∧ ms ≤ lastMillis := by
  rw [firstMillis, lastMillis]
  constructor
  · rintro ⟨t, h⟩
    have hs := (ofMillis?_eq_some_iff.1 h).1
    have hr := t.inRange
    omega
  · rintro ⟨hf, hl⟩
    have hn : (ms % 1000).toNat * 1000000 < nanosPerSecond := by
      rw [nanosPerSecond]
      omega
    refine ⟨⟨ms / 1000, (ms % 1000).toNat * 1000000, by omega, by omega, by omega⟩, ?_⟩
    exact ofMillis?_eq_some_iff.2 ⟨rfl, rfl⟩

theorem millis_of_ofMillis? {ms : Int} (h : ofMillis? ms = some t) : t.millis = ms := by
  obtain ⟨hs, hn⟩ := ofMillis?_eq_some_iff.1 h
  rw [millis, hs, hn]
  omega

/-- Between the first and the last millisecond there is no gap. -/
theorem exists_millis_iff {ms : Int} :
    (∃ t : Instant, t.isLeapSecond = false ∧ t.millis = ms) ↔
      firstMillis ≤ ms ∧ ms ≤ lastMillis := by
  constructor
  · rintro ⟨t, hl, rfl⟩
    have hr := t.inRange
    have hn := nanos_lt_of_not_leap hl
    rw [firstMillis, lastMillis, millis]
    omega
  · intro h
    obtain ⟨t, ht⟩ := ofMillis?_exists_iff.2 h
    have hn := (ofMillis?_eq_some_iff.1 ht).2
    refine ⟨t, ?_, millis_of_ofMillis? ht⟩
    rw [isLeapSecond, decide_eq_false_iff_not, nanosPerSecond, hn]
    omega

theorem ofMessage_eq_ok_iff : ofMessage ms = .ok t ↔ ofMillis? ms.toInt = some t := by
  rw [ofMessage]
  cases ofMillis? ms.toInt <;> simp

end Time.Instant

theorem Adapter.ofNumber_eq_ok_iff {n : Int32} {a : Adapter} :
    ofNumber n = .ok a ↔ a.number = n := by
  constructor
  · intro h
    unfold ofNumber at h
    split at h
    · rename_i hn
      cases h
      exact hn.symm
    · split at h
      · rename_i hn
        cases h
        exact hn.symm
      · split at h <;> cases h
  · rintro rfl
    exact ofNumber_number a

namespace Message

/-- Reading succeeds for the acceptable messages alone, what was read is written as the message's
normal form, and the normal form reads as the same. -/
structure Normalizes {μ δ : Type} (toDomain : μ → Except MessageError δ) (ofDomain : δ → μ)
    (Acceptable : μ → Prop) (normal : μ → μ) : Prop where
  accepts : ∀ m, (∃ a, toDomain m = .ok a) ↔ Acceptable m
  written : ∀ m a, toDomain m = .ok a → ofDomain a = normal m
  again : ∀ m a, toDomain m = .ok a → toDomain (normal m) = .ok a

/-! ## Parts -/

theorem normalizes_location :
    Normalizes Location.ofMessage Location.text Location.Readable Text.trimmed where
  accepts text := by
    constructor
    · rintro ⟨l, h⟩
      exact (Location.ofMessage_eq_ok_iff.1 h).2
    · exact fun h => ⟨⟨Text.trimmed text⟩, Location.ofMessage_eq_ok_iff.2 ⟨rfl, h⟩⟩
  written _ _ h := (Location.ofMessage_eq_ok_iff.1 h).1
  again text _ h := by
    rw [Location.ofMessage, Location.parse_trimmed, ← Location.ofMessage, h]

theorem normalizes_instant :
    Normalizes Time.Instant.ofMessage (fun t => Int64.ofInt t.millis)
      (fun ms => Time.Instant.firstMillis ≤ ms.toInt ∧ ms.toInt ≤ Time.Instant.lastMillis)
      id where
  accepts ms := by simp only [Time.Instant.ofMessage_eq_ok_iff, Time.Instant.ofMillis?_exists_iff]
  written ms t h := by
    rw [Time.Instant.millis_of_ofMillis? (Time.Instant.ofMessage_eq_ok_iff.1 h)]
    exact Int64.ofInt_toInt ms
  again _ _ h := h

theorem normalizes_adapter :
    Normalizes Adapter.ofNumber Adapter.number (fun n => n = 1 ∨ n = 2) id where
  accepts n := by
    simp only [Adapter.ofNumber_eq_ok_iff]
    constructor
    · rintro ⟨_ | _, rfl⟩
      · exact .inl rfl
      · exact .inr rfl
    · rintro (rfl | rfl)
      · exact ⟨.exec, rfl⟩
      · exact ⟨.static, rfl⟩
  written _ _ := Adapter.ofNumber_eq_ok_iff.1
  again _ _ h := h

/-! ## Lists -/

theorem mapM_eq_ok_iff {μ δ ε : Type} {f : μ → Except ε δ} {ms : List μ} {as : List δ} :
    ms.mapM f = .ok as ↔ List.Forall₂ (fun m a => f m = .ok a) ms as := by
  induction ms generalizing as with
  | nil =>
    rw [List.mapM_nil, List.forall₂_nil_left_iff]
    exact ⟨fun h => (Except.ok.inj h).symm, fun h => h ▸ rfl⟩
  | cons m ms ih =>
    rw [List.mapM_cons, List.forall₂_cons_left_iff]
    rcases hm : f m with e | a
    · simp [bind, Except.bind]
    · rcases hms : ms.mapM f with e | as'
      · simp [bind, Except.bind, ← ih, hms]
      · simp [bind, Except.bind, pure, Except.pure, ← ih, hms, eq_comm]

theorem Normalizes.list {μ δ : Type} {toDomain : μ → Except MessageError δ} {ofDomain : δ → μ}
    {Acceptable : μ → Prop} {normal : μ → μ} (h : Normalizes toDomain ofDomain Acceptable normal) :
    Normalizes (List.mapM toDomain) (List.map ofDomain) (fun ms => ∀ m ∈ ms, Acceptable m)
      (List.map normal) where
  accepts ms := by
    simp only [mapM_eq_ok_iff, ← h.accepts]
    induction ms with
    | nil => simp
    | cons m ms ih =>
      simp only [List.forall₂_cons_left_iff, List.forall_mem_cons, ← ih]
      constructor
      · rintro ⟨_, a, as, ha, has, rfl⟩
        exact ⟨⟨a, ha⟩, as, has⟩
      · rintro ⟨⟨a, ha⟩, as, has⟩
        exact ⟨_, a, as, ha, has, rfl⟩
  written ms as hs := by
    rw [← List.forall₂_eq_eq_eq, List.forall₂_map_left_iff, List.forall₂_map_right_iff]
    exact ((mapM_eq_ok_iff.1 hs).imp fun m a => h.written m a).flip
  again ms as hs := by
    rw [mapM_eq_ok_iff, List.forall₂_map_left_iff]
    exact (mapM_eq_ok_iff.1 hs).imp fun m a => h.again m a

/-! ## Records -/

namespace Descriptor

variable {m : Descriptor} {d : SlotBroker.Descriptor}

theorem toDomain_eq_ok_iff :
    m.toDomain = .ok d ↔
      Location.ofMessage m.location = .ok d.location ∧ d.backend = .ofText m.backend := by
  obtain ⟨l, b⟩ := d
  unfold toDomain
  rcases Location.ofMessage m.location with e | l'
  · simp [bind, Except.bind]
  · simp [bind, Except.bind, eq_comm]

def Acceptable (m : Descriptor) : Prop := Location.Readable m.location

def normal (m : Descriptor) : Descriptor := ⟨Text.trimmed m.location, Text.trimmed m.backend⟩

theorem normalizes : Normalizes toDomain ofDomain Acceptable normal where
  accepts m := by
    rw [Acceptable, ← normalizes_location.accepts]
    constructor
    · rintro ⟨d, h⟩
      exact ⟨d.location, (toDomain_eq_ok_iff.1 h).1⟩
    · rintro ⟨l, h⟩
      exact ⟨⟨l, .ofText m.backend⟩, toDomain_eq_ok_iff.2 ⟨h, rfl⟩⟩
  written m d h := by
    obtain ⟨hl, hb⟩ := toDomain_eq_ok_iff.1 h
    rw [ofDomain, normalizes_location.written _ _ hl, hb]
    rfl
  again m d h := by
    obtain ⟨hl, hb⟩ := toDomain_eq_ok_iff.1 h
    refine toDomain_eq_ok_iff.2 ⟨normalizes_location.again _ _ hl, ?_⟩
    rw [hb, normal, BackendName.ofText_trimmed]

end Descriptor

namespace Listing

variable {m : Listing} {l : SlotBroker.Listing}

theorem toDomain_eq_ok_iff :
    m.toDomain = .ok l ↔ m.modules.mapM Descriptor.toDomain = .ok l.entries := by
  obtain ⟨ds⟩ := l
  unfold toDomain
  rcases m.modules.mapM Descriptor.toDomain with e | ds'
  · simp [bind, Except.bind]
  · simp [bind, Except.bind]

def Acceptable (m : Listing) : Prop := ∀ d ∈ m.modules, d.Acceptable

def normal (m : Listing) : Listing := ⟨m.modules.map Descriptor.normal⟩

theorem normalizes : Normalizes toDomain ofDomain Acceptable normal where
  accepts m := by
    rw [Acceptable, ← Descriptor.normalizes.list.accepts]
    constructor
    · rintro ⟨l, h⟩
      exact ⟨l.entries, toDomain_eq_ok_iff.1 h⟩
    · rintro ⟨ds, h⟩
      exact ⟨⟨ds⟩, toDomain_eq_ok_iff.2 h⟩
  written m l h := by
    rw [ofDomain, Descriptor.normalizes.list.written _ _ (toDomain_eq_ok_iff.1 h), normal]
  again m l h :=
    toDomain_eq_ok_iff.2 (Descriptor.normalizes.list.again _ _ (toDomain_eq_ok_iff.1 h))

end Listing

namespace Session

variable {m : Session} {s : SlotBroker.Session}

theorem toDomain_eq_ok_iff :
    m.toDomain = .ok s ↔
      Location.ofMessage m.location = .ok s.location ∧
        Time.Instant.ofMessage m.createdAtMs = .ok s.createdAt ∧
          s.oid = ⟨m.oid⟩ ∧ s.backend = .ofText m.backend ∧ s.handle = ⟨m.handle⟩ := by
  obtain ⟨o, l, b, h, t⟩ := s
  unfold toDomain
  rcases Location.ofMessage m.location with e | l'
  · simp [bind, Except.bind]
  · rcases Time.Instant.ofMessage m.createdAtMs with e | t'
    · simp [bind, Except.bind]
    · simp [bind, Except.bind, eq_comm]
      tauto

structure Acceptable (m : Session) : Prop where
  location : Location.Readable m.location
  createdAtMs : Time.Instant.firstMillis ≤ m.createdAtMs.toInt ∧
    m.createdAtMs.toInt ≤ Time.Instant.lastMillis

def normal (m : Session) : Session :=
  { m with location := Text.trimmed m.location, backend := Text.trimmed m.backend }

theorem normalizes : Normalizes toDomain ofDomain Acceptable normal where
  accepts m := by
    constructor
    · rintro ⟨s, h⟩
      obtain ⟨hl, ht, -⟩ := toDomain_eq_ok_iff.1 h
      exact ⟨(normalizes_location.accepts _).1 ⟨_, hl⟩, (normalizes_instant.accepts _).1 ⟨_, ht⟩⟩
    · rintro ⟨hl, ht⟩
      obtain ⟨l, hl⟩ := (normalizes_location.accepts _).2 hl
      obtain ⟨t, ht⟩ := (normalizes_instant.accepts _).2 ht
      exact ⟨⟨⟨m.oid⟩, l, .ofText m.backend, ⟨m.handle⟩, t⟩,
        toDomain_eq_ok_iff.2 ⟨hl, ht, rfl, rfl, rfl⟩⟩
  written m s h := by
    obtain ⟨hl, ht, ho, hb, hh⟩ := toDomain_eq_ok_iff.1 h
    rw [ofDomain, normalizes_location.written _ _ hl, normalizes_instant.written _ _ ht, ho, hb, hh]
    rfl
  again m s h := by
    obtain ⟨hl, ht, ho, hb, hh⟩ := toDomain_eq_ok_iff.1 h
    refine toDomain_eq_ok_iff.2 ⟨normalizes_location.again _ _ hl, ht, ho, ?_, hh⟩
    rw [hb, normal, BackendName.ofText_trimmed]

/-- A session that has to be there. -/
theorem normalizes_required :
    Normalizes toDomain? (fun s => some (ofDomain s)) (fun o => ∃ m, o = some m ∧ m.Acceptable)
      (Option.map normal) where
  accepts o := by
    rcases o with _ | m
    · simp [toDomain?]
    · simpa [toDomain?] using normalizes.accepts m
  written o s h := by
    rcases o with _ | m
    · cases h
    · rw [normalizes.written m s h, Option.map_some]
  again o s h := by
    rcases o with _ | m
    · cases h
    · exact normalizes.again m s h

end Session

namespace ModuleInfo

variable {m : ModuleInfo} {i : SlotBroker.ModuleInfo}

theorem toDomain_eq_ok_iff :
    m.toDomain = .ok i ↔
      Session.toDomain? m.session = .ok i.session ∧ Adapter.ofNumber m.adapter = .ok i.adapter := by
  obtain ⟨s, a⟩ := i
  unfold toDomain
  rcases Session.toDomain? m.session with e | s'
  · simp [bind, Except.bind]
  · rcases Adapter.ofNumber m.adapter with e | a'
    · simp [bind, Except.bind]
    · simp [bind, Except.bind]

structure Acceptable (m : ModuleInfo) : Prop where
  session : ∃ s, m.session = some s ∧ s.Acceptable
  adapter : m.adapter = 1 ∨ m.adapter = 2

def normal (m : ModuleInfo) : ModuleInfo := { m with session := m.session.map Session.normal }

theorem normalizes : Normalizes toDomain ofDomain Acceptable normal where
  accepts m := by
    constructor
    · rintro ⟨i, h⟩
      obtain ⟨hs, ha⟩ := toDomain_eq_ok_iff.1 h
      exact ⟨(Session.normalizes_required.accepts _).1 ⟨_, hs⟩,
        (normalizes_adapter.accepts _).1 ⟨_, ha⟩⟩
    · rintro ⟨hs, ha⟩
      obtain ⟨s, hs⟩ := (Session.normalizes_required.accepts _).2 hs
      obtain ⟨a, ha⟩ := (normalizes_adapter.accepts _).2 ha
      exact ⟨⟨s, a⟩, toDomain_eq_ok_iff.2 ⟨hs, ha⟩⟩
  written m i h := by
    obtain ⟨hs, ha⟩ := toDomain_eq_ok_iff.1 h
    rw [ofDomain, Session.normalizes_required.written _ _ hs, normalizes_adapter.written _ _ ha]
    rfl
  again m i h := by
    obtain ⟨hs, ha⟩ := toDomain_eq_ok_iff.1 h
    exact toDomain_eq_ok_iff.2 ⟨Session.normalizes_required.again _ _ hs, ha⟩

end ModuleInfo

/-- Every kind of message that is read has a normal form. -/
structure Normalized : Prop where
  descriptor : Normalizes Descriptor.toDomain Descriptor.ofDomain Descriptor.Acceptable
    Descriptor.normal
  listing : Normalizes Listing.toDomain Listing.ofDomain Listing.Acceptable Listing.normal
  session : Normalizes Session.toDomain Session.ofDomain Session.Acceptable Session.normal
  requiredSession : Normalizes Session.toDomain? (fun s => some (Session.ofDomain s))
    (fun o => ∃ m, o = some m ∧ m.Acceptable) (Option.map Session.normal)
  moduleInfo : Normalizes ModuleInfo.toDomain ModuleInfo.ofDomain ModuleInfo.Acceptable
    ModuleInfo.normal
  /-- The acceptable times are the milliseconds of instants. -/
  millis : ∀ ms : Int, (∃ t : Time.Instant, t.isLeapSecond = false ∧ t.millis = ms) ↔
    Time.Instant.firstMillis ≤ ms ∧ ms ≤ Time.Instant.lastMillis

theorem all_normalized : Normalized where
  descriptor := Descriptor.normalizes
  listing := Listing.normalizes
  session := Session.normalizes
  requiredSession := Session.normalizes_required
  moduleInfo := ModuleInfo.normalizes
  millis _ := Time.Instant.exists_millis_iff

end Message

end SlotBroker
