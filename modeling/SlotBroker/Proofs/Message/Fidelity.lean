import SlotBroker.Message.Domain
import SlotBroker.Proofs.Location

/-!
# What a message keeps

Modules and sessions become messages and are read back with a check. What was read from a text is
written as a text that reads as the same, since trimming what is trimmed changes nothing
(`Location.Parsed.parse_text`, `BackendName.Given.ofText_text`). An instant that is no leap second
comes back as the whole millisecond at or before it (`ofMessage_millis`), also before 1970, where
its count of nanoseconds is rounded down and not towards zero (`eq_wholeMillis_iff`). So a
descriptor comes back as it was, and a session with its time in whole milliseconds
(`Session.toDomain_ofDomain`).
-/

namespace SlotBroker

/-! ## Texts -/

namespace BackendName

/-- The backend names that reading gives. -/
def Given (b : BackendName) : Prop := ∃ raw, b = ofText raw

theorem ofText_trimmed (raw : String) : ofText (Text.trimmed raw) = ofText raw := by
  simp only [ofText, Text.trimmed, String.toList_ofList, Text.trim_trim]

theorem Given.ofText_text {b : BackendName} (h : b.Given) : ofText b.text = b := by
  obtain ⟨raw, rfl⟩ := h
  exact ofText_trimmed raw

end BackendName

/-! ## Instants -/

namespace Time.Instant

/-- The whole millisecond at or before an instant. -/
def wholeMillis (t : Instant) : Instant where
  seconds := t.seconds
  nanos := t.nanos / 1000000 * 1000000
  inRange := t.inRange
  nanos_lt := Nat.lt_of_le_of_lt (Nat.div_mul_le_self _ _) t.nanos_lt
  leap_only_at_59 h := t.leap_only_at_59 (Nat.le_trans h (Nat.div_mul_le_self _ _))

variable {t : Instant}

theorem nanos_lt_of_not_leap (h : t.isLeapSecond = false) : t.nanos < 1000000000 := by
  have hl : ¬ nanosPerSecond ≤ t.nanos := by simpa [isLeapSecond] using h
  rw [nanosPerSecond] at hl
  omega

theorem ofParts?_self (t : Instant) : ofParts? t.seconds t.nanos = some t := by
  rw [ofParts?, dif_pos t.inRange, dif_pos t.nanos_lt, dif_pos t.leap_only_at_59]

theorem ofMillis?_eq_some_iff {ms : Int} :
    ofMillis? ms = some t ↔ t.seconds = ms / 1000 ∧ t.nanos = (ms % 1000).toNat * 1000000 := by
  constructor
  · intro h
    rw [ofMillis?, ofParts?] at h
    split at h
    · split at h
      · split at h
        · cases h
          exact ⟨rfl, rfl⟩
        · cases h
      · cases h
    · cases h
  · rintro ⟨hs, hn⟩
    rw [ofMillis?, ← hs, ← hn, ofParts?_self]

theorem ofMillis?_millis (h : t.isLeapSecond = false) :
    ofMillis? t.millis = some t.wholeMillis := by
  have hn := nanos_lt_of_not_leap h
  rw [ofMillis?_eq_some_iff, millis, wholeMillis]
  constructor <;> simp only <;> omega

theorem minSeconds_eq : minSeconds = -8334601228800 := by decide

theorem maxSeconds_eq : maxSeconds = 8210266876799 := by decide

theorem toInt_millis (t : Instant) : (Int64.ofInt t.millis).toInt = t.millis := by
  have hr := t.inRange
  have hn := t.nanos_lt
  rw [minSeconds_eq, maxSeconds_eq] at hr
  rw [nanosPerSecond] at hn
  refine Int64.toInt_ofInt_of_le ?_ ?_ <;> rw [millis] <;> omega

theorem ofMessage_millis (h : t.isLeapSecond = false) :
    ofMessage (Int64.ofInt t.millis) = .ok t.wholeMillis := by
  rw [ofMessage, toInt_millis, ofMillis?_millis h]

/-- Nanoseconds since the beginning of 1970. -/
def elapsed (t : Instant) : Int := t.seconds * 1000000000 + t.nanos

theorem ext_of_parts {t u : Instant} (hs : t.seconds = u.seconds) (hn : t.nanos = u.nanos) :
    t = u := by
  cases t
  cases u
  simp_all

theorem eq_of_elapsed {t u : Instant} (ht : t.isLeapSecond = false) (hu : u.isLeapSecond = false)
    (h : t.elapsed = u.elapsed) : t = u := by
  have htn := nanos_lt_of_not_leap ht
  have hun := nanos_lt_of_not_leap hu
  rw [elapsed, elapsed] at h
  exact ext_of_parts (by omega) (by omega)

theorem isLeapSecond_wholeMillis (h : t.isLeapSecond = false) :
    t.wholeMillis.isLeapSecond = false := by
  have hn : t.wholeMillis.nanos < nanosPerSecond :=
    Nat.lt_of_le_of_lt (Nat.div_mul_le_self _ _) (nanos_lt_of_not_leap h)
  simpa [isLeapSecond] using hn

theorem elapsed_wholeMillis (t : Instant) :
    t.wholeMillis.elapsed = t.elapsed / 1000000 * 1000000 := by
  simp only [elapsed, wholeMillis]
  omega

theorem eq_wholeMillis_iff {u : Instant} (h : t.isLeapSecond = false) :
    u = t.wholeMillis ↔
      u.isLeapSecond = false ∧ u.elapsed = t.elapsed / 1000000 * 1000000 := by
  constructor
  · rintro rfl
    exact ⟨isLeapSecond_wholeMillis h, elapsed_wholeMillis t⟩
  · rintro ⟨hu, he⟩
    exact eq_of_elapsed hu (isLeapSecond_wholeMillis h) (he.trans (elapsed_wholeMillis t).symm)

end Time.Instant

/-! ## Modules and sessions -/

namespace Descriptor

/-- A descriptor whose location and backend were read from texts. -/
structure Sound (d : Descriptor) : Prop where
  location : d.location.Parsed
  backend : d.backend.Given

end Descriptor

namespace Session

/-- A session whose location and backend were read from texts, and which was not created in a leap
second. -/
structure Sound (s : Session) : Prop where
  location : s.location.Parsed
  backend : s.backend.Given
  createdAt : s.createdAt.isLeapSecond = false

/-- A session as it is told in whole milliseconds. -/
def wholeMillis (s : Session) : Session := { s with createdAt := s.createdAt.wholeMillis }

end Session

def ModuleInfo.wholeMillis (i : ModuleInfo) : ModuleInfo :=
  { i with session := i.session.wholeMillis }

theorem Location.Parsed.ofMessage_text {l : Location} (h : l.Parsed) :
    ofMessage l.text = .ok l := by
  rw [ofMessage, h.parse_text]

theorem Adapter.ofNumber_number (a : Adapter) : ofNumber a.number = .ok a := by
  cases a <;> rfl

namespace Message

theorem mapM_map {α β : Type} {read : β → Except MessageError α} {write : α → β}
    {kept : α → α} : ∀ {xs : List α}, (∀ x ∈ xs, read (write x) = .ok (kept x)) →
      (xs.map write).mapM read = .ok (xs.map kept)
  | [], _ => rfl
  | x :: xs, h => by
    have hx := h x List.mem_cons_self
    have hxs := mapM_map fun y hy => h y (List.mem_cons_of_mem x hy)
    rw [List.map_cons, List.mapM_cons, hx]
    simp only [hxs, Except.bind, bind]
    rfl

namespace Descriptor

theorem toDomain_ofDomain {d : SlotBroker.Descriptor} (h : d.Sound) :
    toDomain (ofDomain d) = .ok d := by
  unfold toDomain ofDomain
  rw [h.location.ofMessage_text, h.backend.ofText_text]
  rfl

end Descriptor

namespace Listing

theorem toDomain_ofDomain {m : SlotBroker.Listing} (h : ∀ d ∈ m.entries, d.Sound) :
    toDomain (ofDomain m) = .ok m := by
  have hm : (m.entries.map Descriptor.ofDomain).mapM Descriptor.toDomain = .ok (m.entries.map id) :=
    mapM_map fun d hd => Descriptor.toDomain_ofDomain (h d hd)
  rw [toDomain, ofDomain, hm, List.map_id]
  rfl

end Listing

namespace Session

theorem toDomain_ofDomain {s : SlotBroker.Session} (h : s.Sound) :
    toDomain (ofDomain s) = .ok s.wholeMillis := by
  unfold toDomain ofDomain
  rw [h.location.ofMessage_text, h.backend.ofText_text, Time.Instant.ofMessage_millis h.createdAt]
  rfl

end Session

theorem ModuleInfo.toDomain_ofDomain {i : SlotBroker.ModuleInfo} (h : i.session.Sound) :
    ModuleInfo.toDomain (.ofDomain i) = .ok i.wholeMillis := by
  simp only [toDomain, ofDomain, Session.toDomain?, Session.toDomain_ofDomain h,
    Adapter.ofNumber_number]
  rfl

theorem SessionList.toDomain_ofDomain {ss : List SlotBroker.Session} (h : ∀ s ∈ ss, s.Sound) :
    SessionList.toDomain (.ofDomain ss) = .ok (ss.map SlotBroker.Session.wholeMillis) :=
  mapM_map fun s hs => Session.toDomain_ofDomain (h s hs)

/-- What comes back of modules and sessions that were sent: everything, but times are cut off to
whole milliseconds. -/
structure Survival : Prop where
  descriptor : ∀ d : SlotBroker.Descriptor, d.Sound →
    Descriptor.toDomain (.ofDomain d) = .ok d
  listing : ∀ m : SlotBroker.Listing, (∀ d ∈ m.entries, d.Sound) →
    Listing.toDomain (.ofDomain m) = .ok m
  session : ∀ s : SlotBroker.Session, s.Sound →
    Session.toDomain (.ofDomain s) = .ok { s with createdAt := s.createdAt.wholeMillis }
  moduleInfo : ∀ i : SlotBroker.ModuleInfo, i.session.Sound →
    ModuleInfo.toDomain (.ofDomain i) =
      .ok { i with session := { i.session with createdAt := i.session.createdAt.wholeMillis } }
  /-- Whole milliseconds are rounded down. -/
  wholeMillis : ∀ t u : Time.Instant, t.isLeapSecond = false →
    (u = t.wholeMillis ↔
      u.isLeapSecond = false ∧ u.elapsed = t.elapsed / 1000000 * 1000000)

theorem survival : Survival where
  descriptor _ := Descriptor.toDomain_ofDomain
  listing _ := Listing.toDomain_ofDomain
  session _ := Session.toDomain_ofDomain
  moduleInfo _ := ModuleInfo.toDomain_ofDomain
  wholeMillis _ _ := Time.Instant.eq_wholeMillis_iff

/-- A module in a slot, with blanks around what it was read from. -/
def trayModule : SlotBroker.Descriptor where
  location := ⟨"tray\u00e9"⟩
  backend := .ofText " pci "

/-- A session with it that began a nanosecond before 1970, with the greatest oid there is. -/
def traySession : SlotBroker.Session where
  oid := ⟨18446744073709551615⟩
  location := trayModule.location
  backend := trayModule.backend
  handle := ⟨0⟩
  createdAt := ⟨-1, 999999999, by decide, by decide, by decide⟩

/-- A module listed twice comes back twice, and a nanosecond before 1970 comes back as a millisecond
before it. -/
theorem survival_before_1970 :
    (trayModule.Sound ∧ traySession.Sound) ∧
      Descriptor.toDomain (.ofDomain trayModule) = .ok trayModule ∧
      Listing.toDomain (.ofDomain ⟨[trayModule, trayModule]⟩) = .ok ⟨[trayModule, trayModule]⟩ ∧
      Session.toDomain (.ofDomain traySession) =
        .ok { traySession with createdAt := ⟨-1, 999000000, by decide, by decide, by decide⟩ } ∧
      ModuleInfo.toDomain (.ofDomain ⟨traySession, .exec⟩) =
        .ok ⟨{ traySession with
          createdAt := ⟨-1, 999000000, by decide, by decide, by decide⟩ }, .exec⟩ ∧
      traySession.createdAt.wholeMillis.elapsed =
        traySession.createdAt.elapsed / 1000000 * 1000000 := by
  have hmodule : trayModule.Sound := ⟨⟨" tray\u00e9\t", by decide⟩, ⟨" pci ", rfl⟩⟩
  have hsession : traySession.Sound := ⟨hmodule.location, hmodule.backend, by decide⟩
  refine ⟨⟨hmodule, hsession⟩, survival.descriptor _ hmodule, survival.listing _ ?_,
    survival.session _ hsession, survival.moduleInfo ⟨traySession, .exec⟩ hsession, ?_⟩
  · simpa using hmodule
  · exact ((survival.wholeMillis _ _ hsession.createdAt).1 rfl).2

end Message

end SlotBroker
