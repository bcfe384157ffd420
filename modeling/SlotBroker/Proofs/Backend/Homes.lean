import SlotBroker.Proofs.Backend.Traffic

/-!
# The backends in the cells

A cell gets a backend when a load at it succeeds, and only then (`valueAt?_move`); it keeps the
backend for good. Until the table gives its cells away a name keeps its cell (`cellOf?_move`), and
a call that was made since they were last given away is at the present cell of its name
(`home_move`).
-/

namespace SlotBroker.TableRun

/-- A load in flight for a name succeeds, and its call gets the backend. -/
def Succeeds (r : TableRun) (es : List TableEvent) (name : BackendName) (b : InstanceId) (n : Nat) :
    Prop :=
  ∃ id m, InFlight r es id name m n ∧ es[n]? = some (.loaded id (.ok ())) ∧
    HappensAt (Gets id (.ok b)) r es n

variable {r r' : TableRun} {es : List TableEvent} {e : TableEvent} {fx : List TableEffect}
  {id i : CallId} {name name' : BackendName} {c n : Nat} {b : InstanceId}
  {order : Arrangement Nat} {fallback : Option FactoryId}

/-- The load for a name succeeds at a cell. -/
def Fills (name : BackendName) (c : Nat) (b : InstanceId) (r : TableRun) (e : TableEvent) : Prop :=
  ∃ id, e = .loaded id (.ok ()) ∧ r.stage? id = some (.loading name c) ∧ r.table.loadCount = b

/-- A call is at the present cell of its name. -/
def AtHome (id : CallId) (r : TableRun) : Prop :=
  ∀ name c, r.SeatedAt id name c → r.table.loads.cellOf? name = some c

/-! ## Loads that succeed -/

theorem step_loaded (hs : r.stage? id = some (.loading name c)) :
    r.step (.loaded id (.ok ())) = (r.filled id c, [.got id (.ok r.table.loadCount)]) := by
  rw [stage?] at hs
  simp only [step, hs]
  rfl

theorem succeeds_iff : Succeeds (unused order fallback) es name b n ↔
    ∃ c, HappensAt (Fills name c b) (unused order fallback) es n := by
  constructor
  · rintro ⟨id, m, hfly, he, hg⟩
    obtain ⟨c, hc⟩ := inFlight_iff.1 ⟨m, hfly⟩
    have hg := hg.of_event he
    rw [Gets, step_loaded hc, List.mem_singleton] at hg
    cases hg
    exact ⟨c, _, he, id, rfl, hc, rfl⟩
  · rintro ⟨c, _, he, id, rfl, hc, hb⟩
    obtain ⟨m, hfly⟩ := inFlight_iff.2 ⟨c, hc⟩
    refine ⟨id, m, hfly, he, _, he, ?_⟩
    rw [Gets, step_loaded hc, hb, List.mem_singleton]

/-! ## The cell of a name -/

theorem Unloads.loads {errors : List BackendError} {cells : List Nat}
    (h : Unloads r id errors cells r' fx) : r'.table.loads = r.table.loads := by
  rw [h.table.1]

theorem cellOf?_move (hm : Move r e r' fx) (he : e ≠ .start .unloadAll)
    (h : r.table.loads.cellOf? name = some c) : r'.table.loads.cellOf? name = some c := by
  cases hm with
  | @asks name' =>
    have hj : (r.asked name').table.loads.cellOf? name =
        if name' = name then some (r.table.join r.nextCall name').2
        else r.table.loads.cellOf? name := OnceMap.cellOf?_join name' name
    rw [hj]
    split
    · rename_i hn
      subst hn
      exact congrArg some (OnceMap.join_of_some h).1
    · exact h
  | takes => exact absurd rfl he
  | unloaded _ hu | unloadFailed _ hu => rwa [hu.loads]
  | _ => exact h

/-- A name has the cell that it had, or a new one. -/
theorem cellOf?_before (hm : Move r e r' fx) (h : r'.table.loads.cellOf? name = some c) :
    r.table.loads.cellOf? name = some c ∨ c = r.table.loads.cells.length := by
  cases hm with
  | @asks name' =>
    have hj : (r.asked name').table.loads.cellOf? name =
        if name' = name then some (r.table.join r.nextCall name').2
        else r.table.loads.cellOf? name := OnceMap.cellOf?_join name' name
    rw [hj] at h
    split at h
    · rename_i hn
      subst hn
      cases h
      cases hk : r.table.loads.cellOf? name' with
      | some c' => exact .inl (congrArg some (OnceMap.join_of_some hk).1.symm)
      | none => exact .inr (OnceMap.join_of_none hk).1
    · exact .inl h
  | takes hu =>
    rw [hu.loads] at h
    cases h
  | unloaded _ hu | unloadFailed _ hu =>
    rw [hu.loads] at h
    exact .inl h
  | _ => exact .inl h

/-! ## The backend in a cell -/

theorem valueAt?_lt {m : OnceMap BackendName CallId InstanceId} (h : m.valueAt? c = some b) :
    c < m.cells.length := by
  by_contra hn
  rw [OnceMap.valueAt?, List.getElem?_eq_none (Nat.le_of_not_lt hn)] at h
  cases h

theorem Seated.valueAt?_move (h : Seated r) (hm : Move r e r' fx) :
    r'.table.loads.valueAt? c = some b ↔
      r.table.loads.valueAt? c = some b ∨ ∃ name, Fills name c b r e := by
  have hsame (hv : r'.table.loads.valueAt? c = r.table.loads.valueAt? c)
      (hf : ∀ name, ¬ Fills name c b r e) : r'.table.loads.valueAt? c = some b ↔
        r.table.loads.valueAt? c = some b ∨ ∃ name, Fills name c b r e := by
    simp [hv, hf]
  cases hm with
  | @fills id name cell hs =>
    have hv : (r.filled id cell).table.loads.valueAt? c =
        if cell = c then some r.table.loadCount else r.table.loads.valueAt? c :=
      OnceMap.valueAt?_fill (h.loading hs)
    rw [hv]
    split
    · rename_i hc
      subst hc
      have hnone := OnceMap.valueAt?_of_compute (h.loading hs)
      constructor
      · intro hb
        cases hb
        exact .inr ⟨name, id, rfl, hs, rfl⟩
      · rintro (hb | ⟨_, _, -, -, rfl⟩)
        · rw [hnone] at hb
          cases hb
        · rfl
    · rename_i hc
      refine ⟨.inl, ?_⟩
      rintro (hb | ⟨name', id', he, hs', -⟩)
      · exact hb
      · cases he
        rw [hs] at hs'
        cases hs'
        exact absurd rfl hc
  | idle hi =>
    refine hsame rfl ?_
    rintro name ⟨id, rfl, hs, -⟩
    exact hi name c hs
  | asks => exact hsame (OnceMap.valueAt?_join _) (by simp [Fills])
  | takes hu =>
    refine hsame ?_ (by simp [Fills])
    rw [hu.loads]
    rfl
  | unserved | fails | leaves => exact hsame OnceMap.valueAt?_leave (by simp [Fills])
  | unloaded _ hu | unloadFailed _ hu => exact hsame (by rw [hu.loads]) (by simp [Fills])
  | _ => exact hsame rfl (by simp [Fills])

/-! ## Calls at home -/

theorem Seated.home_move (h : Seated r) (hm : Move r e r' fx) (he : e ≠ .start .unloadAll)
    (hh : AtHome id r) : AtHome id r' := by
  intro name c hc
  cases h.traffic hm with
  | @comes n hn hr hfx =>
    subst hn hr
    rcases (seatedAt_asked r).1 hc with ⟨-, rfl, rfl⟩ | ⟨-, hc⟩
    · have hj := OnceMap.cellOf?_join (w := r.nextCall) (m := r.table.loads) name name
      rwa [if_pos rfl] at hj
    · exact cellOf?_move hm he (hh name c hc)
  | stays _ hs => exact cellOf?_move hm he (hh name c ((hs id name c).1 hc))
  | goes _ hs => exact cellOf?_move hm he (hh name c ((hs id name c).1 hc).2)

/-- The backend of a name is the one whose load has succeeded for it. -/
theorem Seated.get?_move (h : Seated r) (h' : Seated r') (hm : Move r e r' fx)
    (he : e ≠ .start .unloadAll) (hh : ∀ id, AtHome id r) :
    r'.table.loads.get? name = some b ↔
      r.table.loads.get? name = some b ∨ ∃ c, Fills name c b r e := by
  have hval {c b} : r'.table.loads.valueAt? c = some b ↔ _ := h.valueAt?_move hm
  constructor
  · intro hg
    obtain ⟨c, hc, hv⟩ := Option.bind_eq_some_iff.1 hg
    rcases hval.1 hv with hv | ⟨name', id, hl, hs, hb⟩
    · rcases cellOf?_before hm hc with hc | rfl
      · exact .inl (Option.bind_eq_some_iff.2 ⟨c, hc, hv⟩)
      · exact absurd (valueAt?_lt hv) (Nat.lt_irrefl _)
    · -- The cell is that of the name whose load has succeeded.
      have hcell := cellOf?_move hm he (hh id name' c (.of_stage hs rfl))
      obtain rfl := h'.filed.inj hc hcell
      exact .inr ⟨c, id, hl, hs, hb⟩
  · rintro (hg | ⟨c, id, hl, hs, hb⟩)
    · obtain ⟨c, hc, hv⟩ := Option.bind_eq_some_iff.1 hg
      exact Option.bind_eq_some_iff.2 ⟨c, cellOf?_move hm he hc, hval.2 (.inl hv)⟩
    · have hcell := cellOf?_move hm he (hh id name c (.of_stage hs rfl))
      exact Option.bind_eq_some_iff.2 ⟨c, hcell, hval.2 (.inr ⟨name, id, hl, hs, hb⟩)⟩

theorem mem_loadedNames (h : Seated r) :
    name ∈ r.table.loadedNames ↔ (r.table.loads.get? name).isSome := by
  rw [BackendTable.loadedNames, List.mem_mergeSort, h.filed.mem_computed]

end SlotBroker.TableRun
