import SlotBroker.Proofs.Json.Writing
import SlotBroker.Proofs.Time.Instant

/-!
# Modules and sessions there and back

The JSON form of every value is read back as that value: texts with any characters, numbers of 64
bits, instants of any year, and what is made up of these. Each reader restores what is written of
its values, and a record is filled by its members in the order in which they are written.
-/

namespace SlotBroker

open Json.Reader (Restores Fills document restores_text restores_natBelow restores_label
  restores_list opens_record)

theorem Location.restores (l : Location) : Restores reader l.toJson l :=
  (restores_text l.text).map Location.mk

theorem BackendName.restores (b : BackendName) : Restores reader b.toJson b :=
  (restores_text b.text).map BackendName.mk

theorem restores_word64 (n : UInt64) : Restores word64Reader (.nat n.toNat) n := by
  have h := (restores_natBelow n.toNat_lt (Nat.le_refl UInt64.size)).map UInt64.ofNat
  rwa [UInt64.ofNat_toNat] at h

theorem Oid.restores (o : Oid) : Restores reader o.toJson o := (restores_word64 o.value).map Oid.mk

theorem Handle.restores (h : Handle) : Restores reader h.toJson h :=
  Fills.restores (.cons rfl rfl ((restores_word64 h.id).map some) .nil) rfl

theorem Adapter.restores (a : Adapter) : Restores reader a.toJson a :=
  restores_label (by cases a <;> rfl)

theorem Time.Instant.restores (t : Instant) : Restores reader t.toJson t :=
  (restores_text t.render).filterMap (parse?_render t)

theorem Descriptor.restores (d : Descriptor) : Restores reader d.toJson d :=
  Fills.restores (.cons rfl rfl (d.location.restores.map _)
    (.cons rfl rfl (d.backend.restores.map _) .nil)) rfl

theorem Session.restores (s : Session) : Restores reader s.toJson s :=
  Fills.restores (.cons rfl rfl (s.oid.restores.map _)
    (.cons rfl rfl (s.location.restores.map _)
    (.cons rfl rfl (s.backend.restores.map _)
    (.cons rfl rfl (s.handle.restores.map _)
    (.cons rfl rfl (s.createdAt.restores.map _) .nil))))) rfl

theorem ModuleInfo.restores (i : ModuleInfo) : Restores reader i.toJson i :=
  Fills.restores (.cons rfl rfl (i.session.restores.map _)
    (.cons rfl rfl (i.adapter.restores.map _) .nil)) rfl

theorem Listing.restores (m : Listing) : Restores reader m.toJson m := by
  have hitems : List.Forall₂ (Restores Descriptor.reader) (m.entries.map Descriptor.toJson)
      m.entries :=
    List.forall₂_map_left_iff.2 (List.forall₂_same.2 fun d _ => d.restores)
  have hopens : ∀ j ∈ m.entries.map Descriptor.toJson, Json.Reader.Opens j := by
    intro j hj
    obtain ⟨d, -, rfl⟩ := List.mem_map.1 hj
    exact opens_record _
  exact Fills.restores (.cons rfl rfl ((restores_list hitems hopens).map some) .nil) rfl

/-- Every value is read back from its JSON form. -/
theorem json_restores :
    (∀ l : Location, document Location.reader l.toJson.render = .ok l) ∧
      (∀ b : BackendName, document BackendName.reader b.toJson.render = .ok b) ∧
      (∀ o : Oid, document Oid.reader o.toJson.render = .ok o) ∧
      (∀ h : Handle, document Handle.reader h.toJson.render = .ok h) ∧
      (∀ a : Adapter, document Adapter.reader a.toJson.render = .ok a) ∧
      (∀ t : Time.Instant, document Time.Instant.reader t.toJson.render = .ok t) ∧
      (∀ d : Descriptor, document Descriptor.reader d.toJson.render = .ok d) ∧
      (∀ s : Session, document Session.reader s.toJson.render = .ok s) ∧
      (∀ i : ModuleInfo, document ModuleInfo.reader i.toJson.render = .ok i) ∧
      ∀ m : Listing, document Listing.reader m.toJson.render = .ok m :=
  ⟨fun l => l.restores.document, fun b => b.restores.document, fun o => o.restores.document,
    fun h => h.restores.document, fun a => a.restores.document, fun t => t.restores.document,
    fun d => d.restores.document, fun s => s.restores.document, fun i => i.restores.document,
    fun m => m.restores.document⟩

end SlotBroker
