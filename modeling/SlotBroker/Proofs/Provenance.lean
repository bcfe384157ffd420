import SlotBroker.Json.Access
import SlotBroker.Proofs.Json.Session
import SlotBroker.Proofs.Message.NormalForm
import SlotBroker.Proofs.Platform.Probe
import SlotBroker.Proofs.Platform.StaticMap

/-!
# Where keys come from

A key is read from a text that a caller wrote, from a message, from a static map or from what a
probe printed, and it is valid each time (`Location.Valid`), since each of these trims the text and
looks at what is left. JSON is the one source that does not: a key is what the text spells,
character by character, and so it is valid if and only if a valid key was written there
(`AsWritten`).
-/

namespace SlotBroker

open Json.Reader (document value Agrees Spelled spelled_of_document)

/-- A key that is not empty, has no white space, and reads as itself. -/
structure Location.Valid (l : Location) : Prop where
  wellFormed : l.WellFormed
  parse_text : parse l.text = .ok l

theorem Location.valid_iff {l : Location} : l.Valid ↔ l.WellFormed :=
  ⟨Valid.wellFormed, fun h => ⟨h, h.parse_text⟩⟩

theorem Location.valid_of_parse {raw : String} {l : Location} (h : parse raw = .ok l) : l.Valid :=
  valid_iff.2 (parse_eq_ok_iff.1 h).2

theorem Location.valid_of_ofMessage {text : String} {l : Location} (h : ofMessage text = .ok l) :
    l.Valid := by
  obtain ⟨ht, hr⟩ := ofMessage_eq_ok_iff.1 h
  rw [valid_iff, WellFormed, ht]
  exact hr

/-! ## Messages, maps and probes -/

namespace Message

theorem Descriptor.valid_of_toDomain {m : Descriptor} {d : SlotBroker.Descriptor}
    (h : m.toDomain = .ok d) : d.location.Valid :=
  Location.valid_of_ofMessage (toDomain_eq_ok_iff.1 h).1

theorem Listing.valid_of_toDomain {m : Listing} {l : SlotBroker.Listing}
    (h : m.toDomain = .ok l) : ∀ d ∈ l.entries, d.location.Valid := by
  have hread := (mapM_eq_ok_iff.1 (toDomain_eq_ok_iff.1 h)).flip
  have hvalid := hread.imp fun _ _ hd => And.intro (Descriptor.valid_of_toDomain hd) hd
  exact ((List.forall₂_and_left _ _).1 hvalid).1

theorem Session.valid_of_toDomain {m : Session} {s : SlotBroker.Session}
    (h : m.toDomain = .ok s) : s.location.Valid :=
  Location.valid_of_ofMessage (toDomain_eq_ok_iff.1 h).1

theorem Session.valid_of_toDomain? {o : Option Session} {s : SlotBroker.Session}
    (h : toDomain? o = .ok s) : s.location.Valid := by
  rcases o with _ | m
  · cases h
  · exact valid_of_toDomain h

end Message

theorem StaticMap.valid_of_parse {s : String} {m : StaticMap} (h : parse s = .ok m) :
    ∀ l ∈ m.locations, l.Valid := by
  unfold parse at h
  split at h
  · cases h
  · rename_i ms _
    obtain ⟨es, hes, rfl⟩ := Json.Reader.map_eq_ok_iff.1 h
    intro l hl
    have hm : Except.ok l ∈ ms.map fun p => Location.parse p.1 := by
      rw [locations_of_members (members_of_ofMembers hes)]
      simpa [locations] using hl
    obtain ⟨p, -, hp⟩ := List.mem_map.1 hm
    exact Location.valid_of_parse hp
  · cases h

/-! ## JSON -/

/-- The keys in what a reader gives for a text are what the text spells at their places, so they are
valid if valid keys were written there. -/
structure AsWritten {α : Type} (s : String) (r : Json.Reader α) (keys : α → List Location)
    (written : Json → List Json) : Prop where
  spelled : ∀ a, document r s = .ok a → ∃ j, Spelled s j
  texts : ∀ a j, document r s = .ok a → Spelled s j → written j = (keys a).map Location.toJson
  valid_iff : ∀ a j, document r s = .ok a → Spelled s j →
    ((∀ l ∈ keys a, l.Valid) ↔ ∀ t, .text t ∈ written j → Location.parse t = .ok ⟨t⟩)

theorem AsWritten.of_agrees {α : Type} {s : String} {r : Json.Reader α} {keys : α → List Location}
    {written : Json → List Json}
    (h : Agrees r fun j a => written j = (keys a).map Location.toJson) :
    AsWritten s r keys written where
  spelled _ ha := (h.spelled ha).imp fun _ hj => hj.1
  texts _ _ := h.of_spelled
  valid_iff a j ha hj := by
    have hw := h.of_spelled ha hj
    rw [hw]
    constructor
    · intro hv t ht
      obtain ⟨l, hl, hlt⟩ := List.mem_map.1 ht
      cases hlt
      exact (hv l hl).parse_text
    · intro ht l hl
      exact Location.valid_of_parse (ht l.text (List.mem_map_of_mem hl))

theorem filterMap_places {js : List Json} {ds : List Descriptor}
    (h : List.Forall₂ (fun j d => j.place? "location" 0 = some d.location.toJson) js ds) :
    js.filterMap (·.place? "location" 0) = ds.map fun d => d.location.toJson := by
  induction h with
  | nil => rfl
  | cons hd _ ih => rw [List.filterMap_cons_some hd, ih, List.map_cons]

/-- What is known of the keys that are read from a text, or that come with a message or from a
probe. -/
structure KeySources (s : String) : Prop where
  text : ∀ l, Location.parse s = .ok l → l.Valid
  descriptor : ∀ m d, Message.Descriptor.toDomain m = .ok d → d.location.Valid
  listing : ∀ m l, Message.Listing.toDomain m = .ok l → ∀ d ∈ l.entries, d.location.Valid
  session : ∀ m i, Message.Session.toDomain m = .ok i → i.location.Valid
  requiredSession : ∀ o i, Message.Session.toDomain? o = .ok i → i.location.Valid
  moduleInfo : ∀ m i, Message.ModuleInfo.toDomain m = .ok i → i.session.location.Valid
  staticMap : ∀ m, StaticMap.parse s = .ok m → ∀ l ∈ m.locations, l.Valid
  probe : ∀ (p : Probe) e ls, p.locations e = .ok ls → ∀ l ∈ ls, l.Valid
  /-- A text spells one value at most, and it spells what can be read from it whatever is wanted. -/
  oneValue : ∀ j j', Spelled s j → Spelled s j' → j = j'
  readSpelled : ∀ j, document value s = .ok j → Spelled s j
  locationJson : AsWritten s Location.reader (fun l => [l]) fun j => [j]
  descriptorJson : AsWritten s Descriptor.reader (fun d => [d.location]) fun j =>
    (j.place? "location" 0).toList
  sessionJson : AsWritten s Session.reader (fun i => [i.location]) fun j =>
    (j.place? "location" 1).toList
  moduleInfoJson : AsWritten s ModuleInfo.reader (fun i => [i.session.location]) fun j =>
    ((j.place? "session" 0).bind (·.place? "location" 1)).toList
  listingJson : AsWritten s Listing.reader Listing.keys fun j =>
    ((j.place? "entries" 0).elim [] Json.items).filterMap (·.place? "location" 0)
  /-- Any text at all is a key in JSON. -/
  anyJson : document Location.reader (Json.text s).render = .ok ⟨s⟩

theorem key_sources (s : String) : KeySources s where
  text _ := Location.valid_of_parse
  descriptor _ _ := Message.Descriptor.valid_of_toDomain
  listing _ _ := Message.Listing.valid_of_toDomain
  session _ _ := Message.Session.valid_of_toDomain
  requiredSession _ _ := Message.Session.valid_of_toDomain?
  moduleInfo _ _ h :=
    Message.Session.valid_of_toDomain? (Message.ModuleInfo.toDomain_eq_ok_iff.1 h).1
  staticMap _ := StaticMap.valid_of_parse
  probe _ _ _ h l hl := Location.valid_iff.2 (Probe.wellFormed_of_locations h l hl)
  oneValue _ _ := Spelled.unique
  readSpelled _ := spelled_of_document
  locationJson := .of_agrees (Location.agrees_reader.imp fun _ _ h => congrArg List.singleton h)
  descriptorJson := .of_agrees (Descriptor.agrees_reader.imp fun _ _ h => congrArg Option.toList h)
  sessionJson := .of_agrees (Session.agrees_reader.imp fun _ _ h => congrArg Option.toList h)
  moduleInfoJson := by
    refine .of_agrees (ModuleInfo.agrees_reader.imp ?_)
    rintro j i ⟨v, hv, hl⟩
    rw [hv, Option.bind_some, hl]
    rfl
  listingJson := by
    refine .of_agrees (Listing.agrees_reader.imp ?_)
    rintro j l ⟨js, hv, hjs⟩
    rw [hv, Option.elim_some, Json.items, filterMap_places hjs, Listing.keys, List.map_map]
    rfl
  anyJson := Location.document_toJson ⟨s⟩

/-- A key with a blank inside, taken from JSON. -/
theorem blank_key_in_json :
    document Location.reader "\"slot 3\"" = .ok ⟨"slot 3"⟩ ∧ ¬ (⟨"slot 3"⟩ : Location).Valid ∧
      ¬ ∀ s l, document Location.reader s = .ok l → l.Valid := by
  have hd : document Location.reader "\"slot 3\"" = .ok ⟨"slot 3"⟩ :=
    Location.document_toJson ⟨"slot 3"⟩
  have hv : ¬ (⟨"slot 3"⟩ : Location).Valid := fun h => absurd h.wellFormed (by decide)
  exact ⟨hd, hv, fun h => hv (h _ _ hd)⟩

end SlotBroker
