import SlotBroker.Proofs.Backend.Accounted

/-!
# No backend is forgotten

Every backend that was loaded is in the table, was told to unload, or is due to be told so by a call
in progress, and for a name one at most is neither (`well_kept`). That is so unless its load was
late: the table had given away all its cells since the call was made, and the call that unloads
those had gone past the cell before the load succeeded. And a backend that is due stays loaded
beside the next one of its name, one that fails to unload leaves the table all the same
(`escapes`).
-/

namespace SlotBroker.TableRun

/-- A call in progress is still to come to a backend and to tell it to unload. -/
def IsDue (b : InstanceId) (r : TableRun) : Prop := ∃ id, b ∈ r.due id

variable (r : TableRun) (es : List TableEvent)

/-- A backend has been told to unload. -/
def Stopped (b : InstanceId) (n : Nat) : Prop := ∃ k, k < n ∧ HappensAt (Stops b) r es k

/-- The table has a backend under a name, or it has been told to unload, or is due to be. -/
def Accounted (name : BackendName) (b : InstanceId) (n : Nat) : Prop :=
  (r.moment es n).table.loads.get? name = some b ∨ Stopped r es b n ∨ IsDue b (r.moment es n)

/-- Between the making of a call and the success of its load all cells were given away. -/
def Overtaken (m : Nat) : Prop :=
  ∃ id name k l, HappensAt (Asks id name) r es k ∧ k < l ∧ l < m ∧
    es[l]? = some (.start .unloadAll) ∧ es[m]? = some (.loaded id (.ok ()))

/-- A load has succeeded after the call that unloads had gone past its cell. -/
def Late (b : InstanceId) (m : Nat) : Prop :=
  Overtaken r es m ∧ ¬ IsDue b (r.moment es (m + 1))

/-- What is to be said of the backends loaded in a run of a table of which nothing has been asked
before. -/
structure WellKept (order : Arrangement Nat) (fallback : Option FactoryId) (es : List TableEvent) :
    Prop where
  accounted : ∀ {name b m n}, Succeeds (unused order fallback) es name b m →
    ¬ Late (unused order fallback) es b m → m < n → Accounted (unused order fallback) es name b n
  single : ∀ {name b b' m m' n}, Succeeds (unused order fallback) es name b m →
    Succeeds (unused order fallback) es name b' m' → ¬ Late (unused order fallback) es b m →
    ¬ Late (unused order fallback) es b' m' → m < n → m' < n →
    ¬ Stopped (unused order fallback) es b n → ¬ Stopped (unused order fallback) es b' n →
    ¬ IsDue b ((unused order fallback).moment es n) →
    ¬ IsDue b' ((unused order fallback).moment es n) → b = b' ∧ m = m'
  /-- A backend that is due is told to unload at the answer of the one before it. -/
  proceeds : ∀ {id b bs n} (x), ((unused order fallback).moment es n).due id = b :: bs →
    (((unused order fallback).moment es n).step (.unloaded id x)).2 = [.unload id b] ∧
      (((unused order fallback).moment es n).step (.unloaded id x)).1.due id = bs
  at_rest : ∀ {name n}, (∀ id, ((unused order fallback).moment es n).stage? id = none) →
    (name ∈ ((unused order fallback).moment es n).table.loadedNames ↔
      ∃ m b, m < n ∧ Succeeds (unused order fallback) es name b m ∧
        ¬ Late (unused order fallback) es b m ∧ ¬ Stopped (unused order fallback) es b n)

variable {r r' : TableRun} {es : List TableEvent} {e : TableEvent} {fx : List TableEffect}
  {id i : CallId} {name name' : BackendName} {c c' k m n : Nat} {b b' : InstanceId}
  {cells : List Nat} {errors : List BackendError} {order : Arrangement Nat}
  {fallback : Option FactoryId}

/-! ## From one moment to a later one -/

/-- What every segment keeps, in the states of a run of an unused table. -/
theorem moment_mono {Q : TableRun → Prop}
    (hQ : ∀ {r e r' fx}, Seated r → Q r → Move r e r' fx → Q r')
    (h : Q ((unused order fallback).moment es m)) (hle : m ≤ n) :
    Q ((unused order fallback).moment es n) :=
  moment_keeps hle h fun k e _ _ _ hk => hQ (seated_moment order fallback es k) hk (step_move _ e)

theorem valueAt?_mono (h : ((unused order fallback).moment es m).table.loads.valueAt? c = some b)
    (hle : m ≤ n) : ((unused order fallback).moment es n).table.loads.valueAt? c = some b :=
  moment_mono (Q := fun r => r.table.loads.valueAt? c = some b)
    (fun hq hv hm => (hq.valueAt?_move hm).2 (.inl hv)) h hle

theorem taken_mono (h : Taken c ((unused order fallback).moment es m)) (hle : m ≤ n) :
    Taken c ((unused order fallback).moment es n) :=
  moment_mono (Q := Taken c) (fun _ ht hm => ht.move hm) h hle

/-- A cell stays under the name that it has, or has had. -/
theorem named_mono (hc : c < ((unused order fallback).moment es m).table.loads.cells.length)
    (hn : ∀ k, ((unused order fallback).moment es m).table.loads.cellOf? k = some c → k = name)
    (hle : m ≤ n) :
    ∀ k, ((unused order fallback).moment es n).table.loads.cellOf? k = some c → k = name := by
  refine (moment_mono (Q := fun r => c < r.table.loads.cells.length ∧
    ∀ k, r.table.loads.cellOf? k = some c → k = name) (fun _ h hm => ⟨?_, fun k hk => ?_⟩)
    ⟨hc, hn⟩ hle).2
  · exact Nat.lt_of_lt_of_le h.1 hm.length_cells
  · rcases cellOf?_before hm hk with hk | rfl
    · exact h.2 k hk
    · exact absurd h.1 (Nat.lt_irrefl _)

theorem withdrawn_moment (order : Arrangement Nat) (fallback : Option FactoryId)
    (es : List TableEvent) (n : Nat) :
    Withdrawn ((unused order fallback).moment es n) := by
  refine moment_mono (m := 0) (Q := Withdrawn) (fun hq hw hm => hw.move hq hm) ?_ (Nat.zero_le n)
  intro id b cells errors c hs
  simp [stage?_unused] at hs

/-- The cell of a call is the one where it was. -/
theorem seatedAt_before (hle : m ≤ n) (hid : id < ((unused order fallback).moment es m).nextCall)
    (h : ((unused order fallback).moment es n).SeatedAt id name c) :
    ((unused order fallback).moment es m).SeatedAt id name c := by
  induction hle with
  | refl => exact h
  | @step n hle ih =>
    refine ih ?_
    rcases moment_move (unused order fallback) es n with ⟨e, -, hm⟩ | ⟨-, hm⟩
    · cases (seated_moment order fallback es n).traffic hm with
      | comes _ hr =>
        rw [hr] at h
        rcases (seatedAt_asked _).1 h with ⟨hnew, -⟩ | ⟨-, h⟩
        · have hlt := Nat.lt_of_lt_of_le hid (nextCall_le (unused order fallback) es hle)
          exact absurd hnew (Nat.ne_of_gt hlt)
        · exact h
      | stays _ hs => exact (hs id name c).1 h
      | goes _ hs => exact ((hs id name c).1 h).2
    · exact hm ▸ h

/-- A load is followed by loads of other backends. -/
theorem succeeds_unique (h : Succeeds (unused order fallback) es name b m)
    (h' : Succeeds (unused order fallback) es name' b n) : m = n := by
  have hlt {m n name name' c c'} (hf : HappensAt (Fills name c b) (unused order fallback) es m)
      (hf' : HappensAt (Fills name' c' b) (unused order fallback) es n) : ¬ m < n := by
    intro hlt
    obtain ⟨e, he, hf⟩ := hf
    obtain ⟨_, -, _, -, -, hcount⟩ := hf'
    have hm := move_at (unused order fallback) he
    have hle : b < ((unused order fallback).moment es n).table.loadCount :=
      moment_mono (Q := fun r => b < r.table.loadCount)
        (fun _ hb hm => Nat.lt_of_lt_of_le hb hm.loadCount.1) (hm.loadCount.2 _ _ b hf) hlt
    rw [hcount] at hle
    exact Nat.lt_irrefl _ hle
  obtain ⟨c, hf⟩ := succeeds_iff.1 h
  obtain ⟨c', hf'⟩ := succeeds_iff.1 h'
  exact Nat.le_antisymm (Nat.le_of_not_lt (hlt hf' hf)) (Nat.le_of_not_lt (hlt hf hf'))

/-! ## Loads in time -/

theorem home_since (hk : HappensAt (Asks id name) (unused order fallback) es k) (hlt : k < n)
    (hes : ∀ l, k < l → l < n → es[l]? ≠ some (.start .unloadAll)) :
    AtHome id ((unused order fallback).moment es n) := by
  induction hlt with
  | refl =>
    obtain ⟨e, he, rfl, hid⟩ := hk
    have hm := move_at (unused order fallback) he
    -- Before it is made a call is at no cell.
    refine (seated_moment order fallback es k).home_move hm (by simp) fun name c hs => ?_
    exact absurd hid (Nat.ne_of_gt (hs.lt (seated_moment order fallback es k).toQueued))
  | @step n hkn ih =>
    have hh := ih fun l hl hln => hes l hl (Nat.lt_succ_of_lt hln)
    rcases moment_move (unused order fallback) es n with ⟨e, he, hm⟩ | ⟨-, hm⟩
    · refine (seated_moment order fallback es n).home_move hm ?_ hh
      rintro rfl
      exact hes n hkn (Nat.lt_succ_self n) he
    · exact hm ▸ hh

theorem mem_due {r : TableRun} (h : b ∈ r.due id) : ∃ b' cells errors c,
    r.stage? id = some (.unloading b' cells errors) ∧ c ∈ cells ∧
      r.table.loads.valueAt? c = some b := by
  unfold due at h
  split at h
  · rename_i b' cells errors hs
    obtain ⟨c, hc, hv⟩ := List.mem_filterMap.1 h
    exact ⟨b', cells, errors, c, hs, hc, hv⟩
  · cases h

theorem isDue_of_mem {r : TableRun} {cells : List Nat} {errors : List BackendError}
    (hs : r.stage? id = some (.unloading b' cells errors)) (hc : c ∈ cells)
    (hv : r.table.loads.valueAt? c = some b) : IsDue b r := by
  refine ⟨id, ?_⟩
  rw [due, hs]
  exact List.mem_filterMap.2 ⟨c, hc, hv⟩

/-- A load that was not late has filled a cell that is tracked. -/
theorem tracked_of_fills (h : HappensAt (Fills name c b) (unused order fallback) es m)
    (hl : ¬ Late (unused order fallback) es b m) :
    ((unused order fallback).moment es (m + 1)).table.loads.valueAt? c = some b ∧
      Tracked c ((unused order fallback).moment es (m + 1)) := by
  obtain ⟨e, he, id, rfl, hs, hb⟩ := h
  have hq := seated_moment order fallback es m
  have hm := move_at (unused order fallback) he
  have hv : ((unused order fallback).moment es (m + 1)).table.loads.valueAt? c = some b :=
    (hq.valueAt?_move hm).2 (.inr ⟨name, id, rfl, hs, hb⟩)
  refine ⟨hv, ?_⟩
  by_cases ho : Overtaken (unused order fallback) es m
  · have hdue : IsDue b ((unused order fallback).moment es (m + 1)) :=
      Classical.not_not.1 fun hn => hl ⟨ho, hn⟩
    obtain ⟨i, hi⟩ := hdue
    obtain ⟨b', cells, errors, c', hs', hc', hv'⟩ := mem_due hi
    obtain rfl := (numbered_moment order fallback es (m + 1)).distinct hv hv'
    exact .inr ⟨i, b', cells, errors, hs', hc'⟩
  · obtain ⟨k, hp⟩ := pending_iff.2 ⟨c, .of_stage hs rfl⟩
    have hhome : AtHome id ((unused order fallback).moment es m) :=
      home_since hp.first hp.before fun l hkl hlm hl =>
        ho ⟨id, name, k, l, hp.first, hkl, hlm, hl, he⟩
    exact .inl ⟨name, cellOf?_move hm (by simp) (hhome name c (.of_stage hs rfl))⟩

section Undeserted

variable (hd : ∀ n, ¬ HappensAt Deserts (unused order fallback) es n)
include hd

theorem tracked_or_stopped
    (hv : ((unused order fallback).moment es m).table.loads.valueAt? c = some b)
    (ht : Tracked c ((unused order fallback).moment es m)) (hle : m ≤ n) :
    Tracked c ((unused order fallback).moment es n) ∨ Stopped (unused order fallback) es b n := by
  induction hle with
  | refl => exact .inl ht
  | @step n hle ih =>
    rcases ih with ht | ⟨k, hk, hs⟩
    · rcases hn : es[n]? with _ | e
      · rw [moment_end _ hn]
        exact .inl ht
      · have hm := move_at (unused order fallback) hn
        have hq := seated_moment order fallback es n
        rcases ht.move hq hm (fun h => hd n ⟨e, hn, h⟩) (valueAt?_mono hv hle) with ht | hb
        · exact .inl ht
        · exact .inr ⟨n, Nat.lt_succ_self n, e, hn, hb⟩
    · exact .inr ⟨k, Nat.lt_succ_of_lt hk, hs⟩

theorem accounted_of_succeeds (h : Succeeds (unused order fallback) es name b m)
    (hl : ¬ Late (unused order fallback) es b m) (hlt : m < n) :
    Accounted (unused order fallback) es name b n := by
  obtain ⟨c, hf⟩ := succeeds_iff.1 h
  obtain ⟨hv, ht⟩ := tracked_of_fills hf hl
  rcases tracked_or_stopped hd hv ht hlt with ht | hs
  · have hvn := valueAt?_mono hv hlt
    rcases ht with ⟨k, hk⟩ | ⟨i, b', cells, errors, hs, hc⟩
    · obtain ⟨e, he, id, rfl, hs, -⟩ := hf
      have hq := seated_moment order fallback es m
      have hseat := SeatedAt.of_stage hs rfl
      obtain rfl := named_mono (hq.placed hseat) (fun k => hq.named hseat) (Nat.le_of_lt hlt) k hk
      exact .inl (Option.bind_eq_some_iff.2 ⟨c, hk, hvn⟩)
    · exact .inr (.inr (isDue_of_mem hs hc hvn))
  · exact .inr (.inl hs)

end Undeserted

theorem unloaded_unloads (hs : r.stage? id = some (.unloading b cells errors))
    (x : Except BackendError Unit) : ∃ errors',
      Unloads r id errors' cells (r.step (.unloaded id x)).1 (r.step (.unloaded id x)).2 := by
  rw [stage?] at hs
  simp only [step, hs]
  cases x with
  | ok => exact ⟨_, unloadNext_unloads _ _ _ _⟩
  | error => exact ⟨_, unloadNext_unloads _ _ _ _⟩

theorem Unloads.due {bs : List InstanceId} (hu : Unloads r id errors cells r' fx)
    (h : (cells.filterMap fun c => r.table.loads.valueAt? c) = b :: bs) :
    fx = [.unload id b] ∧ r'.due id = bs := by
  cases hu with
  | @next b₀ rest hn =>
    rw [BackendTable.filterMap_of_nextLoaded hn] at h
    obtain ⟨rfl, rfl⟩ := List.cons.inj h
    have hs : (r.setStage id (.unloading b₀ rest errors)).stage? id =
        some (.unloading b₀ rest errors) := by simp
    rw [TableRun.due, hs]
    exact ⟨rfl, rfl⟩
  | ends hn =>
    rw [BackendTable.filterMap_of_nextLoaded_none hn] at h
    cases h

/-- The next backend that is due is told to unload, and the others stay due. -/
theorem due_proceeds {bs : List InstanceId} (x : Except BackendError Unit)
    (h : r.due id = b :: bs) : (r.step (.unloaded id x)).2 = [.unload id b] ∧
      (r.step (.unloaded id x)).1.due id = bs := by
  unfold due at h
  split at h
  · rename_i b' cells errors hs
    obtain ⟨errors', hu⟩ := unloaded_unloads hs x
    exact hu.due h
  · cases h

/-! ## Backends in the table -/

/-- What is in a cell was loaded there. -/
theorem fills_of_valueAt?
    (h : ((unused order fallback).moment es n).table.loads.valueAt? c = some b) :
    ∃ m, m < n ∧ ∃ name, HappensAt (Fills name c b) (unused order fallback) es m := by
  rw [← spans_iff (P := fun r e => ∃ name, Fills name c b r e) (Q := fun _ _ => False)
    (S := fun r => r.table.loads.valueAt? c = some b) (by rintro ⟨⟩) (fun n e he => ?_) n] at h
  · obtain ⟨m, hlt, ⟨e, he, name, hf⟩, -⟩ := h
    exact ⟨m, hlt, name, e, he, hf⟩
  · simpa [or_comm] using (seated_moment order fallback es n).valueAt?_move (move_at _ he)

theorem Move.no_cells (hm : Move r (.start .unloadAll) r' fx) (name : BackendName) :
    r'.table.loads.cellOf? name ≠ some c := by
  intro hc
  cases hm with
  | takes hu =>
    rw [hu.loads] at hc
    cases hc
  | idle hi => exact hi

/-- The cell of a load that was overtaken was given away. -/
theorem taken_of_overtaken (h : HappensAt (Fills name c b) (unused order fallback) es m)
    (ho : Overtaken (unused order fallback) es m) :
    Taken c ((unused order fallback).moment es m) := by
  obtain ⟨e, he, id, rfl, hs, -⟩ := h
  obtain ⟨id', name', k, l, ⟨_, hk, rfl, hid⟩, hkl, hlm, hl, he'⟩ := ho
  rw [he] at he'
  cases he'
  have hseat := SeatedAt.of_stage hs rfl
  have hq := seated_moment order fallback es l
  have hmade : id < ((unused order fallback).moment es l).nextCall := by
    rw [← hid]
    exact nextCall_lt hkl hk
  have hm := move_at (unused order fallback) hl
  have hplaced := hq.placed (seatedAt_before (Nat.le_of_lt hlm) hmade hseat)
  exact taken_mono ⟨Nat.lt_of_lt_of_le hplaced hm.length_cells, hm.no_cells⟩ hlm

/-- The cell of a backend that was told to unload was given away. -/
theorem taken_of_stopped (h : ((unused order fallback).moment es n).table.loads.valueAt? c = some b)
    (hs : Stopped (unused order fallback) es b n) :
    Taken c ((unused order fallback).moment es n) := by
  obtain ⟨k, hk, e, he, id, hb⟩ := hs
  obtain ⟨c', hv, ht⟩ :=
    (withdrawn_moment order fallback es k).stops (seated_moment order fallback es k) (move_at _ he)
      hb
  have hv' := valueAt?_mono hv (Nat.le_of_lt hk)
  obtain rfl := (numbered_moment order fallback es n).distinct h hv'
  exact taken_mono ht hk

/-- A backend that the table has was loaded for its name in time and not told to unload. -/
theorem succeeds_of_get?
    (h : ((unused order fallback).moment es n).table.loads.get? name = some b) :
    ∃ m, m < n ∧ Succeeds (unused order fallback) es name b m ∧
      ¬ Late (unused order fallback) es b m ∧ ¬ Stopped (unused order fallback) es b n := by
  obtain ⟨c, hc, hv⟩ := Option.bind_eq_some_iff.1 h
  obtain ⟨m, hlt, name', hf⟩ := fills_of_valueAt? hv
  have hin : ¬ Taken c ((unused order fallback).moment es n) := fun ht => ht.2 name hc
  have hname : name = name' := by
    obtain ⟨e, -, id, -, hs, -⟩ := id hf
    have hq := seated_moment order fallback es m
    have hseat := SeatedAt.of_stage hs rfl
    exact named_mono (hq.placed hseat) (fun k => hq.named hseat) (Nat.le_of_lt hlt) name hc
  refine ⟨m, hlt, hname ▸ succeeds_iff.2 ⟨c, hf⟩, fun hl => ?_, fun hs => ?_⟩
  · exact hin (taken_mono (taken_of_overtaken hf hl.1) (Nat.le_of_lt hlt))
  · exact hin (taken_of_stopped hv hs)

/-- As long as no call that unloads is given up, no backend is forgotten that was loaded in time. -/
theorem well_kept (order : Arrangement Nat) (fallback : Option FactoryId) (es : List TableEvent)
    (hd : ∀ n, ¬ HappensAt Deserts (unused order fallback) es n) : WellKept order fallback es where
  accounted h hl hlt := accounted_of_succeeds hd h hl hlt
  single {name b b' m m' n} h h' hl hl' hlt hlt' hs hs' hdue hdue' := by
    have hget : ((unused order fallback).moment es n).table.loads.get? name = some b :=
      ((accounted_of_succeeds hd h hl hlt).resolve_right fun hn => hn.elim hs hdue)
    have hget' : ((unused order fallback).moment es n).table.loads.get? name = some b' :=
      ((accounted_of_succeeds hd h' hl' hlt').resolve_right fun hn => hn.elim hs' hdue')
    rw [hget] at hget'
    cases hget'
    exact ⟨rfl, succeeds_unique h h'⟩
  proceeds x h := due_proceeds x h
  at_rest {name n} hrest := by
    rw [mem_loadedNames (seated_moment order fallback es n), Option.isSome_iff_exists]
    constructor
    · rintro ⟨b, hb⟩
      obtain ⟨m, hlt, hs, hl, hn⟩ := succeeds_of_get? hb
      exact ⟨m, b, hlt, hs, hl, hn⟩
    · rintro ⟨m, b, hlt, hs, hl, hn⟩
      refine ⟨b, (accounted_of_succeeds hd hs hl hlt).resolve_right ?_⟩
      rintro (hstop | ⟨id, hdue⟩)
      · exact hn hstop
      · obtain ⟨_, _, _, _, hstage, -⟩ := mem_due hdue
        rw [hrest id] at hstage
        cases hstage

/-! ## Backends that escape -/

theorem stopped_iff {r : TableRun} :
    Stopped r es b n ↔ ∃ id, .unload id b ∈ (r.run (es.take n)).2 := by
  simp only [mem_run_iff, Stopped, HappensAt, Stops]
  constructor
  · rintro ⟨k, hk, e, he, id, hb⟩
    exact ⟨id, k, hk, e, he, hb⟩
  · rintro ⟨id, k, hk, e, he, hb⟩
    exact ⟨k, hk, e, he, id, hb⟩

/-- A backend was told to unload, and has. -/
def Unloaded (r : TableRun) (es : List TableEvent) (b : InstanceId) (n : Nat) : Prop :=
  ∃ k, k < n ∧ HappensAt (fun r e => ∃ id cells errors, e = .unloaded id (.ok ()) ∧
    r.stage? id = some (.unloading b cells errors)) r es k

/-- All backends are unloaded while one is loading. -/
def lateLoad : List TableEvent :=
  [.start (.get ⟨"a"⟩), .resume 0, .start .unloadAll, .loaded 0 (.ok ())]

/-- While the first of two backends unloads the second is loaded again. -/
def besideDue : List TableEvent :=
  [.start (.get ⟨"a"⟩), .resume 0, .loaded 0 (.ok ()), .start (.get ⟨"b"⟩), .resume 1,
    .loaded 1 (.ok ()), .start .unloadAll, .start (.get ⟨"b"⟩), .resume 3, .loaded 3 (.ok ()),
    .unloaded 2 (.ok ()), .unloaded 2 (.ok ())]

/-- A backend fails to unload. -/
def stuckUnload : List TableEvent :=
  [.start (.get ⟨"a"⟩), .resume 0, .loaded 0 (.ok ()), .start .unloadAll,
    .unloaded 1 (.error default)]

theorem lateLoad_escapes :
    ¬ ∀ name b m n, Succeeds (unused .asPut (some 0)) lateLoad name b m → m < n →
      Accounted (unused .asPut (some 0)) lateLoad name b n := by
  intro h
  have hs : Succeeds (unused .asPut (some 0)) lateLoad ⟨"a"⟩ 0 3 :=
    succeeds_iff.2 ⟨0, _, rfl, 0, rfl, rfl, rfl⟩
  have hfx : ((unused .asPut (some 0)).run (lateLoad.take 4)).2 =
      [.load 0 ⟨"a"⟩ 0, .unloadedAll 1 (.ok ()), .got 0 (.ok 0)] := rfl
  rcases h _ _ _ 4 hs (by decide) with hget | hstop | ⟨id, hdue⟩
  · cases hget
  · rw [stopped_iff, hfx] at hstop
    simp at hstop
  · cases hdue

theorem besideDue_two :
    ¬ ∀ name b b' m m' n, Succeeds (unused .asPut (some 0)) besideDue name b m →
      Succeeds (unused .asPut (some 0)) besideDue name b' m' → m < n → m' < n →
      ¬ Stopped (unused .asPut (some 0)) besideDue b n →
      ¬ Stopped (unused .asPut (some 0)) besideDue b' n → b = b' := by
  intro h
  have hs : Succeeds (unused .asPut (some 0)) besideDue ⟨"b"⟩ 1 5 :=
    succeeds_iff.2 ⟨1, _, rfl, 1, rfl, rfl, rfl⟩
  have hs' : Succeeds (unused .asPut (some 0)) besideDue ⟨"b"⟩ 2 9 :=
    succeeds_iff.2 ⟨2, _, rfl, 3, rfl, rfl, rfl⟩
  have hfx : ((unused .asPut (some 0)).run (besideDue.take 10)).2 =
      [.load 0 ⟨"a"⟩ 0, .got 0 (.ok 0), .load 1 ⟨"b"⟩ 0, .got 1 (.ok 1), .unload 2 0,
        .load 3 ⟨"b"⟩ 0, .got 3 (.ok 2)] := rfl
  have hnot : ∀ b, b ≠ 0 → ¬ Stopped (unused .asPut (some 0)) besideDue b 10 := by
    intro b hb hstop
    rw [stopped_iff, hfx] at hstop
    simp [hb] at hstop
  have heq := h _ _ _ _ _ 10 hs hs' (by decide) (by decide) (hnot 1 (by decide))
    (hnot 2 (by decide))
  cases heq

theorem stuckUnload_gone : ¬ ∀ name n,
    (∀ id, ((unused .asPut (some 0)).moment stuckUnload n).stage? id = none) →
    (name ∈ ((unused .asPut (some 0)).moment stuckUnload n).table.loadedNames ↔
      ∃ m b, m < n ∧ Succeeds (unused .asPut (some 0)) stuckUnload name b m ∧
        ¬ Unloaded (unused .asPut (some 0)) stuckUnload b n) := by
  intro h
  have hs : Succeeds (unused .asPut (some 0)) stuckUnload ⟨"a"⟩ 0 2 :=
    succeeds_iff.2 ⟨0, _, rfl, 0, rfl, rfl, rfl⟩
  have hnot : ¬ Unloaded (unused .asPut (some 0)) stuckUnload 0 5 := by
    rintro ⟨k, -, e, he, id, cells, errors, rfl, -⟩
    have hm := List.mem_of_getElem? he
    simp [stuckUnload] at hm
  have hgone : ⟨"a"⟩ ∉ ((unused .asPut (some 0)).moment stuckUnload 5).table.loadedNames := by
    decide +kernel
  exact hgone ((h ⟨"a"⟩ 5 fun _ => rfl).2 ⟨2, 0, by decide, hs, hnot⟩)

theorem escapes :
    (¬ ∀ name b m n, Succeeds (unused .asPut (some 0)) lateLoad name b m → m < n →
      Accounted (unused .asPut (some 0)) lateLoad name b n) ∧
    (¬ ∀ name b b' m m' n, Succeeds (unused .asPut (some 0)) besideDue name b m →
      Succeeds (unused .asPut (some 0)) besideDue name b' m' → m < n → m' < n →
      ¬ Stopped (unused .asPut (some 0)) besideDue b n →
      ¬ Stopped (unused .asPut (some 0)) besideDue b' n → b = b') ∧
    ¬ ∀ name n, (∀ id, ((unused .asPut (some 0)).moment stuckUnload n).stage? id = none) →
      (name ∈ ((unused .asPut (some 0)).moment stuckUnload n).table.loadedNames ↔
        ∃ m b, m < n ∧ Succeeds (unused .asPut (some 0)) stuckUnload name b m ∧
          ¬ Unloaded (unused .asPut (some 0)) stuckUnload b n) :=
  ⟨lateLoad_escapes, besideDue_two, stuckUnload_gone⟩

theorem besideDue_kept : (∀ n, ¬ HappensAt Deserts (unused .asPut (some 0)) besideDue n) ∧
    (∀ id, ((unused .asPut (some 0)).moment besideDue 12).stage? id = none) ∧
    ⟨"b"⟩ ∈ ((unused .asPut (some 0)).moment besideDue 12).table.loadedNames ∧
    ∃ m b, m < 12 ∧ Succeeds (unused .asPut (some 0)) besideDue ⟨"b"⟩ b m ∧
      ¬ Late (unused .asPut (some 0)) besideDue b m ∧
      ¬ Stopped (unused .asPut (some 0)) besideDue b 12 := by
  have hd : ∀ n, ¬ HappensAt Deserts (unused .asPut (some 0)) besideDue n := by
    rintro n ⟨e, he, id, b, cells, errors, rfl, -⟩
    have hm := List.mem_of_getElem? he
    simp [besideDue] at hm
  have hrest : ∀ id, ((unused .asPut (some 0)).moment besideDue 12).stage? id = none := fun _ => rfl
  have hmem : ⟨"b"⟩ ∈ ((unused .asPut (some 0)).moment besideDue 12).table.loadedNames := by
    decide +kernel
  exact ⟨hd, hrest, hmem, ((well_kept .asPut (some 0) besideDue hd).at_rest hrest).1 hmem⟩

end SlotBroker.TableRun
