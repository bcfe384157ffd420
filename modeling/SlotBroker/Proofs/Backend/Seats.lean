import SlotBroker.Proofs.Backend.Moves
import SlotBroker.Proofs.Queues
import SlotBroker.Proofs.Registry.Tabled

/-!
# The calls at the cells of a table

A call that needs a backend asks for it at one cell. It stands in the line of the cell until the
cell has its value, a line is in the order in which its calls were made, and a call that loads is
the head of its line (`Queued`). As long as a cell is in the index of the table it is there under
the name that its calls ask for (`Seated`).
-/

namespace SlotBroker.TableRun

/-- The calls at the cells stand in their lines. -/
structure Queued (r : TableRun) : Prop where
  fresh : ∀ {id s}, r.stage? id = some s → id < r.nextCall
  placed : ∀ {id name c}, r.SeatedAt id name c → c < r.table.loads.cells.length
  stands : ∀ {id name c}, r.SeatedAt id name c → r.table.loads.valueAt? c = none →
    id ∈ r.table.loads.lineAt c
  seated : ∀ {id c}, id ∈ r.table.loads.lineAt c → ∃ name, r.SeatedAt id name c
  sorted : ∀ c, (r.table.loads.lineAt c).Pairwise (· < ·)
  served : ∀ {c b}, r.table.loads.valueAt? c = some b → r.table.loads.lineAt c = []
  loading : ∀ {id name c}, r.stage? id = some (.loading name c) →
    r.table.loads.turn id c = .compute

/-- The calls stand in their lines, and the index has their cells under the names they ask for. -/
structure Seated (r : TableRun) : Prop extends Queued r where
  filed : r.table.loads.Filed
  named : ∀ {id name name' c}, r.SeatedAt id name c → r.table.loads.cellOf? name' = some c →
    name' = name

variable {r r' : TableRun} {e : TableEvent} {fx : List TableEffect} {id i : CallId}
  {name name' : BackendName} {c cell : Nat} {s : TableStage}

theorem SeatedAt.of_stage (hs : r.stage? id = some s) (ht : s.seat? = some (name, c)) :
    r.SeatedAt id name c := ⟨s, hs, ht⟩

/-- A call asks at one cell. -/
theorem SeatedAt.unique (h : r.SeatedAt id name c) (h' : r.SeatedAt id name' cell) :
    name = name' ∧ c = cell := by
  obtain ⟨s, hs, ht⟩ := h
  obtain ⟨s', hs', ht'⟩ := h'
  rw [hs] at hs'
  cases hs'
  rw [ht] at ht'
  cases ht'
  exact ⟨rfl, rfl⟩

/-! ## Changes that leave the cells -/

theorem Queued.congr (h : Queued r) (hc : r'.table.loads.cells = r.table.loads.cells)
    (hf : ∀ {i s}, r'.stage? i = some s → i < r'.nextCall)
    (hs : ∀ {i name c}, r'.SeatedAt i name c ↔ r.SeatedAt i name c)
    (hl : ∀ {i name c}, r'.stage? i = some (.loading name c) →
      r.table.loads.turn i c = .compute) : Queued r' := by
  have hv (c : Nat) : r'.table.loads.valueAt? c = r.table.loads.valueAt? c := by
    simp only [OnceMap.valueAt?, hc]
  have hline (c : Nat) : r'.table.loads.lineAt c = r.table.loads.lineAt c := by
    simp only [OnceMap.lineAt, hc]
  refine ⟨hf, fun hi => ?_, fun hi hn => ?_, fun hi => ?_, fun c => ?_, fun hi => ?_, fun hi => ?_⟩
  · rw [hc]
    exact h.placed (hs.1 hi)
  · rw [hv] at hn
    rw [hline]
    exact h.stands (hs.1 hi) hn
  · rw [hline] at hi
    obtain ⟨name, hi⟩ := h.seated hi
    exact ⟨name, hs.2 hi⟩
  · rw [hline]
    exact h.sorted c
  · rw [hv] at hi
    rw [hline]
    exact h.served hi
  · simp only [OnceMap.turn, hc]
    exact hl hi

/-- A call that asks at no cell is put somewhere else, or ends. -/
theorem seatedAt_congr (hi : ∀ {name c}, ¬ r.SeatedAt id name c)
    (hi' : ∀ {name c}, ¬ r'.SeatedAt id name c) (hs : ∀ j, j ≠ id → r'.stage? j = r.stage? j) :
    r'.SeatedAt i name c ↔ r.SeatedAt i name c := by
  by_cases hid : i = id
  · subst hid
    exact ⟨fun h => absurd h hi', fun h => absurd h hi⟩
  · simp only [SeatedAt, hs i hid]

theorem Unloads.table {errors : List BackendError} {cells : List Nat}
    (h : Unloads r id errors cells r' fx) : r'.table = r.table ∧ r'.nextCall = r.nextCall := by
  cases h <;> exact ⟨rfl, rfl⟩

theorem Unloads.stage? {errors : List BackendError} {cells : List Nat}
    (h : Unloads r id errors cells r' fx) (hi : i ≠ id) : r'.stage? i = r.stage? i := by
  cases h <;> simp [Ne.symm hi]

/-- A call that unloads asks at no cell. -/
theorem Unloads.seat? {errors : List BackendError} {cells : List Nat}
    (h : Unloads r id errors cells r' fx) (hs : r'.stage? id = some s) : s.seat? = none := by
  cases h with
  | next => 
    simp at hs
    exact hs ▸ rfl
  | ends => simp at hs

theorem Unloads.seatedAt {errors : List BackendError} {cells : List Nat} {r₀ : TableRun}
    (hu : Unloads r id errors cells r' fx) (hs : ∀ j, r.stage? j = r₀.stage? j)
    (hi : ∀ {s}, r₀.stage? id = some s → s.seat? = none) :
    r'.SeatedAt i name c ↔ r₀.SeatedAt i name c := by
  refine seatedAt_congr ?_ ?_ fun j (hj : j ≠ id) => by rw [hu.stage? hj, hs]
  · rintro name c ⟨s, hs, ht⟩
    rw [hi hs] at ht
    cases ht
  · rintro name c ⟨s, hs, ht⟩
    rw [hu.seat? hs] at ht
    cases ht

theorem Queued.unloads {errors : List BackendError} {cells : List Nat} {r₀ : TableRun}
    (h : Queued r₀) (hu : Unloads r id errors cells r' fx)
    (hc : r.table.loads.cells = r₀.table.loads.cells) (hs : ∀ j, r.stage? j = r₀.stage? j)
    (hn : r₀.nextCall ≤ r.nextCall) (hid : id < r.nextCall)
    (hi : ∀ {s}, r₀.stage? id = some s → s.seat? = none) : Queued r' := by
  obtain ⟨ht, hn'⟩ := hu.table
  refine h.congr (by rw [ht, hc]) (fun {j s} hj => ?_) (hu.seatedAt hs hi) fun {j name c} hj => ?_
  · rw [hn']
    by_cases hji : j = id
    · exact hji ▸ hid
    · rw [hu.stage? hji, hs] at hj
      exact Nat.lt_of_lt_of_le (h.fresh hj) hn
  · by_cases hji : j = id
    · cases hu.seat? (hji ▸ hj)
    · rw [hu.stage? hji, hs] at hj
      exact h.loading hj

/-! ## A call comes -/

theorem Queued.not_made (h : Queued r) : r.stage? r.nextCall = none := by
  cases hs : r.stage? r.nextCall with
  | none => rfl
  | some s => exact absurd (h.fresh hs) (Nat.lt_irrefl _)

theorem seatedAt_asked (r : TableRun) : (r.asked name).SeatedAt i name' c ↔
    r.nextCall = i ∧ name' = name ∧ c = (r.table.join r.nextCall name).2 ∨
      r.nextCall ≠ i ∧ r.SeatedAt i name' c := by
  unfold SeatedAt
  rw [stage?_asked]
  by_cases hi : r.nextCall = i
  · simp only [hi, if_true, Option.some.injEq, exists_eq_left', TableStage.seat?, Prod.mk.injEq,
      true_and, ne_eq, not_true_eq_false, false_and, or_false]
    exact ⟨fun h => ⟨h.1.symm, h.2.symm⟩, fun h => ⟨h.1.symm, h.2.symm⟩⟩
  · simp [hi]

theorem SeatedAt.lt (h : r.SeatedAt id name c) (hq : Queued r) : id < r.nextCall := by
  obtain ⟨s, hs, -⟩ := h
  exact hq.fresh hs

theorem Queued.asked (h : Queued r) (ha : r.table.loads.Apart) (name : BackendName) :
    Queued (r.asked name) := by
  have hv (c : Nat) : (r.asked name).table.loads.valueAt? c = r.table.loads.valueAt? c :=
    OnceMap.valueAt?_join name
  have hline (c : Nat) : (r.asked name).table.loads.lineAt c =
      if (r.table.join r.nextCall name).2 = c ∧ r.table.loads.valueAt? c = none
        then r.table.loads.lineAt c ++ [r.nextCall] else r.table.loads.lineAt c :=
    OnceMap.lineAt_join ha name
  have hold {i c} (hi : i ∈ r.table.loads.lineAt c) : i < r.nextCall := by
    obtain ⟨name, hs⟩ := h.seated hi
    exact hs.lt h
  refine ⟨fun hi => ?_, fun hi => ?_, fun hi hn => ?_, fun hi => ?_, fun c => ?_, fun hi => ?_,
    fun hi => ?_⟩
  · rw [stage?_asked] at hi
    split at hi
    · exact Nat.lt_succ_of_le (Nat.le_of_eq (Eq.symm ‹_›))
    · exact Nat.lt_succ_of_lt (h.fresh hi)
  · rcases (seatedAt_asked r).1 hi with ⟨-, -, rfl⟩ | ⟨-, hi⟩
    · refine (ha.join name).lt (k := name) ?_
      rw [OnceMap.cellOf?_join, if_pos rfl]
      rfl
    · exact Nat.lt_of_lt_of_le (h.placed hi) (OnceMap.length_le_join name)
  · rw [hv] at hn
    rw [hline]
    rcases (seatedAt_asked r).1 hi with ⟨rfl, rfl, rfl⟩ | ⟨-, hi⟩
    · rw [if_pos ⟨rfl, hn⟩]
      simp
    · have hm := h.stands hi hn
      split
      · exact List.mem_append_left _ hm
      · exact hm
  · rw [hline] at hi
    split at hi
    · rename_i hc
      rcases List.mem_append.1 hi with hi | hi
      · obtain ⟨name', hs⟩ := h.seated hi
        exact ⟨name', (seatedAt_asked r).2 (.inr ⟨Nat.ne_of_gt (hold hi), hs⟩)⟩
      · rw [List.mem_singleton] at hi
        exact ⟨name, (seatedAt_asked r).2 (.inl ⟨hi.symm, rfl, hc.1.symm⟩)⟩
    · obtain ⟨name', hs⟩ := h.seated hi
      exact ⟨name', (seatedAt_asked r).2 (.inr ⟨Nat.ne_of_gt (hold hi), hs⟩)⟩
  · rw [hline]
    split
    · refine List.pairwise_append.2 ⟨h.sorted c, List.pairwise_singleton _ _, fun i hi j hj => ?_⟩
      rw [List.mem_singleton] at hj
      exact hj ▸ hold hi
    · exact h.sorted c
  · rw [hv] at hi
    rw [hline, if_neg fun hc => by simp [hi] at hc]
    exact h.served hi
  · rw [stage?_asked] at hi
    split at hi
    · cases hi
    · exact OnceMap.compute_join name (h.loading hi)

theorem Seated.asked (h : Seated r) (name : BackendName) : Seated (r.asked name) where
  toQueued := h.toQueued.asked h.filed.toApart name
  filed := h.filed.join name
  named {i n name' c} hi hk := by
    have hk : (r.table.loads.join r.nextCall name).1.cellOf? name' = some c := hk
    rcases (seatedAt_asked r).1 hi with ⟨-, rfl, rfl⟩ | ⟨-, hi⟩
    · refine (h.filed.toApart.join n).inj hk ?_
      rw [OnceMap.cellOf?_join, if_pos rfl]
      rfl
    · rw [OnceMap.cellOf?_join] at hk
      split at hk
      · rename_i hn
        rw [Option.some.injEq] at hk
        cases hc : r.table.loads.cellOf? name with
        | some c' =>
          rw [(OnceMap.join_of_some hc).1] at hk
          exact h.named hi (hn ▸ hk ▸ hc)
        | none =>
          -- The cell is new, and no call is there yet.
          rw [(OnceMap.join_of_none hc).1] at hk
          exact absurd (h.placed hi) (by omega)
      · exact h.named hi hk

/-! ## A call ends -/

theorem seatedAt_of_ended (hs : ∀ j, r'.stage? j = if id = j then none else r.stage? j) :
    r'.SeatedAt i name c ↔ id ≠ i ∧ r.SeatedAt i name c := by
  unfold SeatedAt
  rw [hs]
  by_cases hi : id = i <;> simp [hi]

/-- The call that ends leaves its line, and nothing changes at the other cells. -/
theorem Queued.ended (h : Queued r) (hs : r.SeatedAt id name cell)
    (ht : ∀ j, r'.stage? j = if id = j then none else r.stage? j) (hn : r'.nextCall = r.nextCall)
    (hlen : r'.table.loads.cells.length = r.table.loads.cells.length)
    (hc : ∀ c, cell ≠ c → r'.table.loads.valueAt? c = r.table.loads.valueAt? c ∧
      r'.table.loads.lineAt c = r.table.loads.lineAt c)
    (hsub : (r'.table.loads.lineAt cell).Sublist (r.table.loads.lineAt cell))
    (hid : id ∉ r'.table.loads.lineAt cell)
    (hstays : r'.table.loads.valueAt? cell = none → r.table.loads.valueAt? cell = none ∧
      ∀ i ∈ r.table.loads.lineAt cell, id ≠ i → i ∈ r'.table.loads.lineAt cell)
    (hserved : ∀ b, r'.table.loads.valueAt? cell = some b → r'.table.loads.lineAt cell = [])
    (hl : ∀ {i name c}, id ≠ i → r.stage? i = some (.loading name c) →
      r'.table.loads.turn i c = .compute) : Queued r' := by
  have hseat {i name c} : r'.SeatedAt i name c ↔ id ≠ i ∧ r.SeatedAt i name c :=
    seatedAt_of_ended ht
  have hbefore {i s} (hi : r'.stage? i = some s) : id ≠ i ∧ r.stage? i = some s := by
    rw [ht] at hi
    split at hi
    · cases hi
    · exact ⟨‹_›, hi⟩
  refine ⟨fun hi => ?_, fun hi => ?_, fun {i name' c} hi hv => ?_, fun {i c} hi => ?_, fun c => ?_,
    fun {c b} hv => ?_, fun hi => ?_⟩
  · rw [hn]
    exact h.fresh (hbefore hi).2
  · rw [hlen]
    exact h.placed (hseat.1 hi).2
  · obtain ⟨hne, hi⟩ := hseat.1 hi
    by_cases hcell : cell = c
    · subst hcell
      obtain ⟨hv, hmem⟩ := hstays hv
      exact hmem i (h.stands hi hv) hne
    · rw [(hc c hcell).1] at hv
      rw [(hc c hcell).2]
      exact h.stands hi hv
  · by_cases hcell : cell = c
    · subst hcell
      obtain ⟨name', hi'⟩ := h.seated (hsub.subset hi)
      exact ⟨name', hseat.2 ⟨fun hne => hid (hne ▸ hi), hi'⟩⟩
    · rw [(hc c hcell).2] at hi
      obtain ⟨name', hi⟩ := h.seated hi
      exact ⟨name', hseat.2 ⟨fun hne => hcell (hs.unique (hne ▸ hi)).2, hi⟩⟩
  · by_cases hcell : cell = c
    · exact hcell ▸ (h.sorted cell).sublist hsub
    · rw [(hc c hcell).2]
      exact h.sorted c
  · by_cases hcell : cell = c
    · subst hcell
      exact hserved b hv
    · rw [(hc c hcell).1] at hv
      rw [(hc c hcell).2]
      exact h.served hv
  · obtain ⟨hne, hi⟩ := hbefore hi
    exact hl hne hi

theorem Queued.left (h : Queued r) (hs : r.SeatedAt id name cell) : Queued (r.left id cell) := by
  have hv (c : Nat) : (r.left id cell).table.loads.valueAt? c = r.table.loads.valueAt? c :=
    OnceMap.valueAt?_leave
  have hline (c : Nat) : (r.left id cell).table.loads.lineAt c =
      if cell = c then (r.table.loads.lineAt c).erase id else r.table.loads.lineAt c :=
    OnceMap.lineAt_leave
  have hnodup : (r.table.loads.lineAt cell).Nodup := (h.sorted cell).imp Nat.ne_of_lt
  refine h.ended hs (fun j => stage?_left id j cell) rfl OnceMap.length_modifyCell
    (fun c hc => ⟨hv c, by rw [hline, if_neg hc]⟩) ?_ ?_
    (fun hn => ⟨hv cell ▸ hn, fun i hi hne => ?_⟩) (fun b hb => ?_)
    fun hne hi => OnceMap.compute_leave (Ne.symm hne) (h.loading hi)
  · rw [hline, if_pos rfl]
    exact List.erase_sublist
  · rw [hline, if_pos rfl]
    exact hnodup.not_mem_erase
  · rw [hline, if_pos rfl]
    exact (List.mem_erase_of_ne (Ne.symm hne)).2 hi
  · rw [hline, if_pos rfl, h.served (hv cell ▸ hb)]
    rfl

theorem Queued.reads {b : InstanceId} (h : Queued r) (hs : r.SeatedAt id name cell)
    (hv : r.table.loads.valueAt? cell = some b) : Queued (r.endCall id) := by
  have hnobody : r.table.loads.lineAt cell = [] := h.served hv
  refine h.ended hs (fun j => stage?_endCall id j r) rfl rfl (fun _ _ => ⟨rfl, rfl⟩)
    (List.Sublist.refl _) ?_ (fun hn => ⟨hn, fun i hi _ => hi⟩) (fun b hb => h.served hb)
    fun _ hi => h.loading hi
  simp only [endCall_frame, hnobody, List.not_mem_nil, not_false_eq_true]

theorem Queued.filled (h : Queued r) (hs : r.stage? id = some (.loading name cell)) :
    Queued (r.filled id cell) := by
  have hcompute := h.loading hs
  have hv (c : Nat) : (r.filled id cell).table.loads.valueAt? c =
      if cell = c then some r.table.loadCount else r.table.loads.valueAt? c :=
    OnceMap.valueAt?_fill hcompute
  have hline (c : Nat) : (r.filled id cell).table.loads.lineAt c =
      if cell = c then [] else r.table.loads.lineAt c :=
    OnceMap.lineAt_fill
  have hnobody : (r.filled id cell).table.loads.lineAt cell = [] := by rw [hline, if_pos rfl]
  refine h.ended (.of_stage hs rfl) (fun j => stage?_filled id j cell) rfl
    OnceMap.length_modifyCell (fun c hc => ⟨by rw [hv, if_neg hc], by rw [hline, if_neg hc]⟩) ?_ ?_
    (fun hn => ?_) (fun _ _ => hnobody) fun {i name c} hne hi => ?_
  · rw [hnobody]
    exact List.nil_sublist _
  · rw [hnobody]
    exact List.not_mem_nil
  · rw [hv, if_pos rfl] at hn
    cases hn
  · refine OnceMap.compute_fill ?_ (h.loading hi)
    -- Another load at this cell would be the same one.
    rintro rfl
    exact hne (OnceMap.compute_unique hcompute (h.loading hi))

theorem seatedAt_begins (hs : r.stage? id = some (.waiting name cell)) :
    (r.setStage id (.loading name cell)).SeatedAt i name' c ↔ r.SeatedAt i name' c := by
  unfold SeatedAt
  rw [stage?_setStage]
  split
  · rename_i hid
    subst hid
    simp [hs, TableStage.seat?]
  · rfl

theorem Queued.begins (h : Queued r) (hs : r.stage? id = some (.waiting name cell))
    (ht : r.table.loads.turn id cell = .compute) : Queued (r.setStage id (.loading name cell)) := by
  refine h.congr rfl (fun {i s} hi => ?_) (seatedAt_begins hs) fun {i name' c} hi => ?_
  · rw [stage?_setStage] at hi
    split at hi
    · rename_i hid
      exact hid ▸ h.fresh hs
    · exact h.fresh hi
  · rw [stage?_setStage] at hi
    split at hi
    · rename_i hid
      cases hi
      exact hid ▸ ht
    · exact h.loading hi

/-! ## Every step -/

/-- The index stays what it was, and no call has come to a cell. -/
theorem Seated.of_queued (h : Seated r) (hq : Queued r')
    (hi : r'.table.loads.index = r.table.loads.index)
    (hc : r'.table.loads.cells.length = r.table.loads.cells.length)
    (hs : ∀ {i name c}, r'.SeatedAt i name c → r.SeatedAt i name c) : Seated r' := by
  have hcell (k : BackendName) : r'.table.loads.cellOf? k = r.table.loads.cellOf? k := by
    simp only [OnceMap.cellOf?, hi]
  refine ⟨hq, ⟨⟨fun hk => ?_, fun hk hk' => ?_⟩, ?_⟩, fun hseat hk => ?_⟩
  · rw [hcell] at hk
    rw [hc]
    exact h.filed.lt hk
  · rw [hcell] at hk hk'
    exact h.filed.inj hk hk'
  · rw [hi]
    exact h.filed.keys
  · rw [hcell] at hk
    exact h.named (hs hseat) hk

theorem Seated.unloads {errors : List BackendError} {cells : List Nat} (h : Seated r)
    (hs : r.stage? id = some s) (ht : s.seat? = none)
    (hu : Unloads r id errors cells r' fx) : Seated r' := by
  have hseat {s'} (hi : r.stage? id = some s') : s'.seat? = none := by
    rw [hs] at hi
    cases hi
    exact ht
  have hq : Queued r' :=
    h.toQueued.unloads hu rfl (fun _ => rfl) (Nat.le_refl _) (h.fresh hs) hseat
  exact h.of_queued hq (by rw [hu.table.1]) (by rw [hu.table.1]) fun hi =>
    (hu.seatedAt (fun _ => rfl) hseat).1 hi

theorem Seated.takes (h : Seated r)
    (hu : Unloads { r with nextCall := r.nextCall + 1, table := r.table.takeAll.1 } r.nextCall []
      r.table.takeAll.2 r' fx) : Seated r' := by
  have hseat {s} (hi : r.stage? r.nextCall = some s) : s.seat? = none := by
    rw [h.not_made] at hi
    cases hi
  have hq : Queued r' :=
    h.toQueued.unloads hu rfl (fun _ => rfl) (Nat.le_succ _) (Nat.lt_succ_self _) hseat
  have ht : r'.table.loads = r.table.loads.clear := by
    rw [hu.table.1]
    rfl
  refine ⟨hq, ht ▸ OnceMap.Filed.clear, fun _ hk => ?_⟩
  rw [ht] at hk
  cases hk

/-- A call at a cell ends. -/
theorem Seated.ended (h : Seated r) (hq : Queued r')
    (ht : ∀ j, r'.stage? j = if id = j then none else r.stage? j)
    (hi : r'.table.loads.index = r.table.loads.index)
    (hc : r'.table.loads.cells.length = r.table.loads.cells.length) : Seated r' :=
  h.of_queued hq hi hc fun hseat => ((seatedAt_of_ended ht).1 hseat).2

theorem Seated.left (h : Seated r) (hs : r.SeatedAt id name cell) : Seated (r.left id cell) :=
  h.ended (h.toQueued.left hs) (fun j => stage?_left id j cell) rfl OnceMap.length_modifyCell

theorem Seated.move (h : Seated r) (hm : Move r e r' fx) : Seated r' := by
  cases hm with
  | idle => exact h
  | registers =>
    exact h.of_queued (h.toQueued.congr rfl h.fresh Iff.rfl h.loading) rfl rfl fun hi => hi
  | asks => exact h.asked _
  | takes hu => exact h.takes hu
  | reads hs hv =>
    exact h.ended (h.toQueued.reads (.of_stage hs rfl) hv) (fun j => stage?_endCall _ j r) rfl rfl
  | begins hs ht =>
    exact h.of_queued (h.toQueued.begins hs ht) rfl rfl fun hi => (seatedAt_begins hs).1 hi
  | unserved hs => exact h.left (.of_stage hs rfl)
  | fills hs =>
    exact h.ended (h.toQueued.filled hs) (fun j => stage?_filled _ j _) rfl
      OnceMap.length_modifyCell
  | fails hs => exact h.left (.of_stage hs rfl)
  | leaves hs ht => exact h.left (.of_stage hs ht)
  | unloaded hs hu => exact h.unloads hs rfl hu
  | unloadFailed hs hu => exact h.unloads hs rfl hu
  | givesUp hs =>
    -- The call ends as if it had no cells left.
    exact h.unloads hs rfl (@Unloads.ends r _ [] [] rfl)

theorem stage?_new (t : BackendTable) (id : CallId) : (new t).stage? id = none := rfl

theorem lineAt_new (order : Arrangement Nat) (fallback : Option FactoryId) (c : Nat) :
    (new (BackendTable.empty order fallback)).table.loads.lineAt c = [] := rfl

theorem seated_new (order : Arrangement Nat) (fallback : Option FactoryId) :
    Seated (new (BackendTable.empty order fallback)) where
  fresh hs := by simp [stage?_new] at hs
  placed := by
    rintro id name c ⟨s, hs, -⟩
    simp [stage?_new] at hs
  stands := by
    rintro id name c ⟨s, hs, -⟩
    simp [stage?_new] at hs
  seated hi := by simp [lineAt_new] at hi
  sorted c := by simp [lineAt_new]
  served _ := lineAt_new order fallback _
  loading hs := by simp [stage?_new] at hs
  filed := OnceMap.filed_empty
  named := by
    rintro id name name' c ⟨s, hs, -⟩
    simp [stage?_new] at hs

theorem Seated.moment (h : Seated r) (es : List TableEvent) (n : Nat) : Seated (r.moment es n) :=
  moment_induction h Seated.move es n

end SlotBroker.TableRun
