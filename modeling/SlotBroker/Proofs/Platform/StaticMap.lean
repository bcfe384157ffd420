import SlotBroker.Platform.StaticMap
import SlotBroker.Proofs.Json.Members
import SlotBroker.Proofs.Location
import SlotBroker.Proofs.Registry.Discovery

/-!
# What a static map says

The members of the object that a static map is read from have distinct keys, but a key is trimmed
before it names a location, so two members may name the same one. A look-up then finds the first of
them. The map says what its object says exactly if no two keys are equal once they are trimmed
(`StaticMap.Reads.faithful_iff`).

A registry on such a platform repeats the map: a listing has the locations of the map, and each with
the backend that a look-up finds (`StaticMap.lists_the_map`).
-/

namespace SlotBroker.StaticMap

/-- A map says what an object says: its locations are apart and stand in the order of the object's
members, and each has the backend of its member. -/
structure Faithful (ms : List (String × Json)) (m : StaticMap) : Prop where
  nodup : m.locations.Nodup
  locations : ms.map (fun p => Location.parse p.1) = m.locations.map .ok
  backend : ∀ p ∈ ms, ∃ l raw, Location.parse p.1 = .ok l ∧ p.2 = .text raw ∧
    m.resolve l = .ok (.ofText raw)

/-- What a map that was read says of the members of its object. -/
structure Reads (ms : List (String × Json)) (m : StaticMap) : Prop where
  keys : (Assoc.keys ms).Nodup
  locations : ms.map (fun p => Location.parse p.1) = m.locations.map .ok
  texts : ∀ p ∈ ms, ∃ raw, p.2 = .text raw ∧ (BackendName.ofText raw).isEmpty = false
  resolve_first : ∀ l k raw,
    ms.find? (fun p => Location.parse p.1 = .ok l) = some (k, .text raw) →
      m.resolve l = .ok (.ofText raw)
  resolve_unknown : ∀ l, l ∉ m.locations → m.resolve l = .error (.unknownLocation l)
  faithful_iff : m.Faithful ms ↔ (ms.map fun p => Text.trimmed p.1).Nodup

variable {ms : List (String × Json)} {es : List (Location × BackendName)} {m : StaticMap}
  {s : String} {l : Location} {b : BackendName}

/-! ## Members and entries -/

/-- A member of an object is read as an entry of a map. -/
def Member (p : String × Json) (e : Location × BackendName) : Prop :=
  Location.parse p.1 = .ok e.1 ∧
    ∃ raw, p.2 = .text raw ∧ e.2 = .ofText raw ∧ (BackendName.ofText raw).isEmpty = false

theorem text_of_backendOf? {v : Json} (h : backendOf? v = some b) :
    ∃ raw, v = .text raw ∧ b = .ofText raw ∧ (BackendName.ofText raw).isEmpty = false := by
  unfold backendOf? at h
  split at h
  · rename_i raw
    simp only at h
    split at h
    · cases h
    · rename_i hb
      exact ⟨raw, rfl, (Option.some.inj h).symm, Bool.eq_false_iff.2 hb⟩
  · cases h

theorem members_of_ofMembers (h : ofMembers ms = .ok es) : List.Forall₂ Member ms es := by
  induction ms generalizing es with
  | nil =>
    cases h
    exact .nil
  | cons p ms ih =>
    unfold ofMembers at h
    split at h
    · cases h
    rename_i hl
    split at h
    · cases h
    rename_i hb
    split at h
    · rename_i hr
      cases h
      exact .cons ⟨hl, text_of_backendOf? hb⟩ (ih hr)
    · cases h

theorem locations_of_members (h : List.Forall₂ Member ms es) :
    ms.map (fun p => Location.parse p.1) = es.map fun e => .ok e.1 := by
  induction h with
  | nil => rfl
  | cons hp _ ih => rw [List.map_cons, List.map_cons, ih, hp.1]

theorem keys_of_members (h : List.Forall₂ Member ms es) :
    ms.map (fun p => Text.trimmed p.1) = es.map fun e => e.1.text := by
  induction h with
  | nil => rfl
  | cons hp _ ih =>
    rw [List.map_cons, List.map_cons, ih, (Location.parse_eq_ok_iff.1 hp.1).1]

theorem exists_member (h : List.Forall₂ Member ms es) {p : String × Json} (hp : p ∈ ms) :
    ∃ e ∈ es, Member p e := by
  induction h with
  | nil => cases hp
  | cons hq _ ih =>
    rcases List.mem_cons.1 hp with rfl | hp
    · exact ⟨_, List.mem_cons_self, hq⟩
    · obtain ⟨e, he, hm⟩ := ih hp
      exact ⟨e, List.mem_cons_of_mem _ he, hm⟩

/-! ## Look-ups -/

theorem find?_eq (l : Location) (m : StaticMap) : m.find? l = Assoc.get? l m.entries := by
  unfold find?
  induction m.entries with
  | nil => rfl
  | cons e es ih =>
    by_cases h : e.1 = l
    · simp [Assoc.get?, h]
    · simpa [Assoc.get?, h] using ih

theorem resolve_eq_ok_iff : m.resolve l = .ok b ↔ m.find? l = some b := by
  unfold resolve
  rcases m.find? l with _ | b' <;> simp

/-- The entry of a location is the one that its first member was read as. -/
theorem get?_of_members (h : List.Forall₂ Member ms es) {k raw : String}
    (hf : ms.find? (fun p => Location.parse p.1 = .ok l) = some (k, .text raw)) :
    Assoc.get? l es = some (.ofText raw) := by
  induction h with
  | nil => cases hf
  | @cons p e _ _ hp _ ih =>
    obtain ⟨hl, raw', ht, hb, -⟩ := hp
    by_cases he : e.1 = l
    · rw [List.find?_cons_of_pos (by simp [hl, he])] at hf
      cases hf
      cases ht
      simp [Assoc.get?, he, hb]
    · rw [List.find?_cons_of_neg (by simp [hl, he])] at hf
      simpa [Assoc.get?, he] using ih hf

theorem nodup_of_members (h : List.Forall₂ Member ms m.entries) :
    m.locations.Nodup ↔ (ms.map fun p => Text.trimmed p.1).Nodup := by
  have ht : ms.map (fun p => Text.trimmed p.1) = m.locations.map Location.text := by
    rw [keys_of_members h, locations, List.map_map]
    rfl
  rw [ht, List.nodup_map_iff]
  rintro ⟨a⟩ ⟨b⟩ rfl
  rfl

theorem faithful_of_members (h : List.Forall₂ Member ms m.entries) (hn : m.locations.Nodup) :
    m.Faithful ms where
  nodup := hn
  locations := by
    rw [locations_of_members h, locations, List.map_map]
    rfl
  backend p hp := by
    obtain ⟨e, he, hl, raw, ht, hb, -⟩ := exists_member h hp
    refine ⟨e.1, raw, hl, ht, resolve_eq_ok_iff.2 ?_⟩
    rw [find?_eq, Assoc.get?_eq_some_iff hn, ← hb]
    exact he

theorem reads_of_parse (h : parse s = .ok m) :
    ∃ ms, Json.Reader.document Json.Reader.value s = .ok (.record ms) ∧ m.Reads ms := by
  unfold parse at h
  split at h
  · cases h
  · rename_i ms hd
    obtain ⟨es, ho, rfl⟩ := Json.Reader.map_eq_ok_iff.1 h
    have hm := members_of_ofMembers ho
    refine ⟨ms, hd, Json.Reader.nodup_of_document hd, ?_, ?_, ?_, ?_, ?_⟩
    · rw [locations_of_members hm, locations, List.map_map]
      rfl
    · intro p hp
      obtain ⟨e, -, -, raw, ht, -, hb⟩ := exists_member hm hp
      exact ⟨raw, ht, hb⟩
    · intro l k raw hf
      rw [resolve_eq_ok_iff, find?_eq]
      exact get?_of_members hm hf
    · intro l hl
      rw [resolve, find?_eq, Assoc.get?_eq_none hl]
    · rw [← nodup_of_members (m := ⟨es⟩) hm]
      exact ⟨Faithful.nodup, faithful_of_members (m := ⟨es⟩) hm⟩
  · cases h

/-! ## Listings -/

/-- What an event tells of the platform is what the map says. -/
def Answers (m : StaticMap) (r : Registry) : Event → Prop
  | .enumerated _ (.ok ls) => ls = m.locations
  | .resolved t (.ok b) => ∀ p ∈ r.part? (r.asker t), m.resolve p.1 = .ok b
  | _ => True

instance decidableAnswers (m : StaticMap) (r : Registry) : ∀ e, Decidable (m.Answers r e)
  | .enumerated _ (.ok ls) => inferInstanceAs (Decidable (ls = m.locations))
  | .resolved t (.ok b) =>
    have (p : Location × Part) : Decidable (m.resolve p.1 = .ok b) :=
      decidable_of_iff _ resolve_eq_ok_iff.symm
    inferInstanceAs (Decidable (∀ p ∈ r.part? (r.asker t), m.resolve p.1 = .ok b))
  | .enumerated _ (.error _) | .resolved _ (.error _) | .start _ | .resume _ | .loaded _ _
  | .attached _ _ _ | .detached _ _ | .unloaded _ _ | .drop _ _ | .reset => isTrue trivial

variable {adapter : Adapter} {policy : Policy} {order : CallId → Arrangement Location}
  {t : BackendTable} {evs : List Event} {n : Nat}
  {i : CallId} {listing : Listing}

open Registry

theorem keys_of_listing (ha : Throughout m.Answers (.new adapter policy order t) evs)
    (hr : HappensAt (Returns i (.listed (.ok listing))) (.new adapter policy order t) evs n) :
    listing.keys = m.locations := by
  have ho := orderly_new adapter policy order t
  obtain ⟨e, he, hx⟩ := hr
  obtain ⟨k, -, e', he', rfl, -⟩ :=
    (hx.notes (ho.moment evs n)).2.enumerated (stage?_new adapter policy order t) he
  exact ha k _ he'

theorem backend_of_listing (ha : Throughout m.Answers (.new adapter policy order t) evs)
    (hr : HappensAt (Returns i (.listed (.ok listing))) (.new adapter policy order t) evs n)
    {d : Descriptor} (hd : d ∈ listing.entries) : m.resolve d.location = .ok d.backend := by
  obtain ⟨k, hk⟩ := List.mem_iff_getElem?.1 hd
  obtain ⟨e, he, hx⟩ := hr
  have hl : Learns ⟨i, k⟩ d.location d.backend _ e := (step_segment _ e).lists_learned hx hk
  obtain ⟨t', n', -, ⟨e', he', ⟨c, hq⟩, u, rfl, hu⟩, -⟩ :=
    hl.answered (orderly_new adapter policy order t) (placed_new adapter policy order t)
      (stage?_new adapter policy order t) (fun _ => rfl) he
  exact ha n' _ he' _ (hu ▸ hq)

/-- A map that was read from a text says what its object says, and a registry whose platform it is
says the same. -/
structure ReadFrom (s : String) (m : StaticMap) : Prop where
  reads : ∃ ms, Json.Reader.document Json.Reader.value s = .ok (.record ms) ∧ m.Reads ms
  lists : ∀ {adapter policy order t evs n i listing},
    Throughout m.Answers (.new adapter policy order t) evs →
    HappensAt (Returns i (.listed (.ok listing))) (.new adapter policy order t) evs n →
      listing.keys = m.locations ∧ ∀ d ∈ listing.entries, m.resolve d.location = .ok d.backend

theorem read_from_text (h : parse s = .ok m) : m.ReadFrom s where
  reads := reads_of_parse h
  lists ha hr := ⟨keys_of_listing ha hr, fun _ hd => backend_of_listing ha hr hd⟩

/-- An object with two members that name one location. -/
def twiceNamed : String := "\x7b\"1\":\"a\",\" 1\":\"b\"\x7d"

theorem document_twiceNamed : Json.Reader.document Json.Reader.value twiceNamed =
    .ok (.record [("1", .text "a"), (" 1", .text "b")]) := by decide +kernel

theorem parse_twiceNamed : parse twiceNamed = .ok ⟨[(⟨"1"⟩, ⟨"a"⟩), (⟨"1"⟩, ⟨"b"⟩)]⟩ := by
  rw [parse, document_twiceNamed]
  rfl

/-- A list is answered with the map. -/
def listedTwice : List Event :=
  [.start .list, .enumerated 0 (.ok [⟨"1"⟩, ⟨"1"⟩]), .resume ⟨0, 0⟩, .resume ⟨0, 1⟩,
    .resume ⟨0, 0⟩, .resolved ⟨0, 0⟩ (.ok ⟨"a"⟩), .resume ⟨0, 1⟩]

theorem read_from_twiceNamed :
    parse twiceNamed = .ok ⟨[(⟨"1"⟩, ⟨"a"⟩), (⟨"1"⟩, ⟨"b"⟩)]⟩ ∧
      ReadFrom twiceNamed ⟨[(⟨"1"⟩, ⟨"a"⟩), (⟨"1"⟩, ⟨"b"⟩)]⟩ ∧
      Throughout (Answers ⟨[(⟨"1"⟩, ⟨"a"⟩), (⟨"1"⟩, ⟨"b"⟩)]⟩)
        (.unused .asPut .static .strict [] none) listedTwice ∧
      HappensAt (Returns 0 (.listed (.ok ⟨[⟨⟨"1"⟩, ⟨"a"⟩⟩, ⟨⟨"1"⟩, ⟨"a"⟩⟩]⟩)))
        (.unused .asPut .static .strict [] none) listedTwice 6 :=
  ⟨parse_twiceNamed, read_from_text parse_twiceNamed, by decide, _, rfl, .head _⟩

/-- The location stands twice in the map, and a look-up never finds the second backend. -/
theorem not_faithful_twiceNamed :
    parse twiceNamed = .ok ⟨[(⟨"1"⟩, ⟨"a"⟩), (⟨"1"⟩, ⟨"b"⟩)]⟩ ∧
      Json.Reader.document Json.Reader.value twiceNamed =
        .ok (.record [("1", .text "a"), (" 1", .text "b")]) ∧
      ¬ Faithful [("1", .text "a"), (" 1", .text "b")] ⟨[(⟨"1"⟩, ⟨"a"⟩), (⟨"1"⟩, ⟨"b"⟩)]⟩ :=
  ⟨parse_twiceNamed, document_twiceNamed, fun h => absurd h.nodup (by decide)⟩

end SlotBroker.StaticMap
