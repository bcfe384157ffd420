import SlotBroker.Proofs.Assoc
import SlotBroker.Proofs.Registry.Unloading

/-!
# The backends of the table

The index of a cache has a cell for a key at most once, and no two keys have the same (`Filed`).
So the backends in the present cells of the table are those that it has for some name, each of them
once (`mem_tabled`, `nodup_tabled`).
-/

namespace SlotBroker

namespace OnceMap

variable {κ ω α : Type} [DecidableEq κ] {m : OnceMap κ ω α} {k : κ} {c : Nat} {a : α}

/-- Every key occurs once in the index, and no other key has its cell. -/
structure Filed (m : OnceMap κ ω α) : Prop extends Apart m where
  keys : (Assoc.keys m.index).Nodup

theorem filed_empty : Filed (empty : OnceMap κ ω α) where
  toApart := apart_empty
  keys := List.nodup_nil

theorem Filed.clear : Filed m.clear where
  toApart := Apart.clear
  keys := List.nodup_nil

theorem Filed.modifyCell {f : Once ω α → Once ω α} (h : Filed m) : Filed (m.modifyCell c f) where
  toApart := h.toApart.modifyCell
  keys := h.keys

theorem Filed.join {w : ω} (h : Filed m) (k : κ) : Filed (m.join w k).1 where
  toApart := h.toApart.join k
  keys := by
    unfold OnceMap.join
    split
    · exact h.keys
    · exact Assoc.nodup_put h.keys

theorem Filed.mem_index (h : Filed m) : (k, c) ∈ m.index ↔ m.cellOf? k = some c :=
  (Assoc.get?_eq_some_iff h.keys).symm

theorem Filed.nodup_cells (h : Filed m) : (m.index.map Prod.snd).Nodup := by
  have hk : m.index.Nodup := List.Nodup.of_map Prod.fst h.keys
  refine (List.nodup_map_iff_inj_on hk).2 ?_
  rintro ⟨k, c⟩ hp ⟨k', c'⟩ hp' rfl
  rw [h.inj (h.mem_index.1 hp) (h.mem_index.1 hp')]

theorem Filed.mem_computed (h : Filed m) : k ∈ m.computed ↔ (m.get? k).isSome := by
  simp only [computed, List.mem_map, List.mem_filter]
  constructor
  · rintro ⟨⟨k, c⟩, ⟨hp, hv⟩, rfl⟩
    rwa [get?, h.mem_index.1 hp]
  · intro hs
    obtain ⟨a, ha⟩ := Option.isSome_iff_exists.1 hs
    obtain ⟨c, hc, hv⟩ := Option.bind_eq_some_iff.1 ha
    exact ⟨(k, c), ⟨h.mem_index.2 hc, by simp [hv]⟩, rfl⟩

end OnceMap

namespace Registry

/-- The backends in the present cells of the table, in the order in which cells are taken out. -/
def tabled (r : Registry) : List InstanceId := r.held r.backends.takeAll.2

variable {r r' : Registry} {e : Event} {fx : List Effect} {b : InstanceId}

theorem Filed.segment (h : r.backends.loads.Filed) (ho : Orderly r) (hg : Segment r e r' fx) :
    r'.backends.loads.Filed := by
  cases hg.serves ho with
  | other ht =>
    cases ht with
    | same ht => exact ht ▸ h
    | joins _ _ ht => exact ht ▸ h.join _
    | leaves _ _ _ ht => exact ht ▸ h.modifyCell
    | takes _ ht => exact ht ▸ OnceMap.Filed.clear
  | starts | fetched => exact h
  | loaded => exact h.modifyCell

theorem mem_tabled (h : r.backends.loads.Filed) :
    b ∈ r.tabled ↔ ∃ name, r.backends.loads.get? name = some b := by
  simp only [tabled, held, List.mem_filterMap, BackendTable.mem_takeAll, List.mem_map]
  constructor
  · rintro ⟨_, ⟨⟨name, c⟩, hp, rfl⟩, hv⟩
    exact ⟨name, by rw [OnceMap.get?, h.mem_index.1 hp, Option.bind_some, hv]⟩
  · rintro ⟨name, hn⟩
    obtain ⟨c, hc, hv⟩ := Option.bind_eq_some_iff.1 hn
    exact ⟨c, ⟨(name, c), h.mem_index.2 hc, rfl⟩, hv⟩

theorem nodup_tabled (h : r.backends.loads.Filed) (hl : Loads r) : r.tabled.Nodup :=
  (r.backends.takeAll_perm.nodup_iff.2 h.nodup_cells).filterMap
    fun _ _ _ hb hb' => hl.distinct hb hb'

theorem mem_loadedBackends (h : r.backends.loads.Filed) {name : BackendName} :
    name ∈ r.loadedBackends ↔ (r.backends.loads.get? name).isSome := by
  rw [loadedBackends, BackendTable.loadedNames, List.mem_mergeSort, h.mem_computed]

end Registry

end SlotBroker
