import Mathlib.Data.String.Basic
import SlotBroker.Proofs.Backend.Homes

/-!
# One load for a name

As long as nothing is unloaded, a name keeps its cell and all its calls are at that cell. So a load
for a name is the only one in flight, and the first that succeeds is the last one: every call for
the name gets its instance, whatever is registered later. A load that fails, or is given up, leaves
the name without a backend, and the first of the calls in line tries again with what is registered
for the name at that moment (`one_load`).
-/

namespace SlotBroker

/-- The factory that an event registers for a name. -/
def TableEvent.registers? (name : BackendName) : TableEvent → Option FactoryId
  | .register n f => if n = name then some f else none
  | _ => none

/-- The factory that was last registered for a name. -/
def lastRegistered? (name : BackendName) (es : List TableEvent) : Option FactoryId :=
  es.reverse.findSome? (TableEvent.registers? name)

namespace TableRun

variable (r : TableRun) (es : List TableEvent)

/-- A load in flight for a name fails, or its call is given up. -/
def Breaks (name : BackendName) (n : Nat) : Prop :=
  ∃ id m, InFlight r es id name m n ∧
    (es[n]? = some (.drop id) ∨ ∃ x, es[n]? = some (.loaded id (.error x)))

/-- What is to be said of the loads in a run of a table of which nothing has been asked before. -/
structure OneLoad (order : Arrangement Nat) (fallback : Option FactoryId) (es : List TableEvent) :
    Prop where
  one_flight : ∀ {id id' name m m' n}, InFlight (unused order fallback) es id name m n →
    InFlight (unused order fallback) es id' name m' n → id = id' ∧ m = m'
  one_success : ∀ {name b b' n n'}, Succeeds (unused order fallback) es name b n →
    Succeeds (unused order fallback) es name b' n' → n = n' ∧ b = b'
  /-- Whoever gets a backend for a name gets the one whose load has succeeded. -/
  shared : ∀ {id name b m n}, HappensAt (Asks id name) (unused order fallback) es m →
    HappensAt (Gets id (.ok b)) (unused order fallback) es n →
    ∃ k, k ≤ n ∧ Succeeds (unused order fallback) es name b k
  /-- So it stays, whatever is registered. -/
  stays : ∀ {id name b m n}, Succeeds (unused order fallback) es name b m → m < n →
    Pending (unused order fallback) es id name n →
    (((unused order fallback).moment es n).step (.resume id)).2 = [.got id (.ok b)]
  broken : ∀ {name n}, Breaks (unused order fallback) es name n →
    name ∉ ((unused order fallback).moment es (n + 1)).table.loadedNames
  /-- The first of the calls for a name without a backend tries to load it where none is loading. -/
  attempt : ∀ {id name n}, name ∉ ((unused order fallback).moment es n).table.loadedNames →
    (∀ i m, ¬ InFlight (unused order fallback) es i name m n) →
    Pending (unused order fallback) es id name n →
    (∀ i, Pending (unused order fallback) es i name n → id ≤ i) →
    (((unused order fallback).moment es n).step (.resume id)).2 =
      match (lastRegistered? name (es.take n)).or fallback with
      | some f => [.load id name f]
      | none => [.got id (.error (BackendError.unsupported name))]
  /-- No load begins otherwise. -/
  factory : ∀ {id name f n}, HappensAt (Begins id name f) (unused order fallback) es n →
    (lastRegistered? name (es.take n)).or fallback = some f
  ascending : ∀ n, ((unused order fallback).moment es n).table.loadedNames.Pairwise
    fun a b => a.text < b.text
  names : ∀ {name n}, name ∈ ((unused order fallback).moment es n).table.loadedNames ↔
    ∃ m, m < n ∧ ∃ b, Succeeds (unused order fallback) es name b m

variable {r r' : TableRun} {es : List TableEvent} {e : TableEvent} {fx : List TableEffect}
  {id i : CallId} {name name' : BackendName} {c cell n m : Nat} {b : InstanceId} {s : TableStage}
  {f : FactoryId}

variable {order : Arrangement Nat} {fallback : Option FactoryId}

/-! ## Factories -/

theorem lastRegistered?_concat (name : BackendName) (es : List TableEvent) (e : TableEvent) :
    lastRegistered? name (es ++ [e]) = (e.registers? name).or (lastRegistered? name es) := by
  simp only [lastRegistered?, List.reverse_append, List.reverse_singleton, List.singleton_append,
    List.findSome?_cons]
  cases e.registers? name <;> rfl

theorem Move.factories (hm : Move r e r' fx) (name : BackendName) :
    r'.table.fallback = r.table.fallback ∧ Assoc.get? name r'.table.factories =
      (e.registers? name).or (Assoc.get? name r.table.factories) := by
  cases hm with
  | @registers n f =>
    have hp := Assoc.get?_put name n f r.table.factories
    refine ⟨rfl, hp.trans ?_⟩
    simp only [TableEvent.registers?]
    split <;> rfl
  | idle hi =>
    cases e with
    | register => exact hi.elim
    | _ => exact ⟨rfl, rfl⟩
  | takes hu | unloaded _ hu | unloadFailed _ hu =>
    rw [hu.table.1]
    exact ⟨rfl, rfl⟩
  | _ => exact ⟨rfl, rfl⟩

/-- Which factory serves a name depends on what has been registered for it. -/
theorem factoryFor?_moment (name : BackendName) (es : List TableEvent) (n : Nat) :
    ((unused order fallback).moment es n).table.factoryFor? name =
      (lastRegistered? name (es.take n)).or fallback := by
  have hboth : ((unused order fallback).moment es n).table.fallback = fallback ∧
      Assoc.get? name ((unused order fallback).moment es n).table.factories =
        lastRegistered? name (es.take n) := by
    induction n with
    | zero => exact ⟨rfl, rfl⟩
    | succ n ih =>
      rcases moment_move (unused order fallback) es n with ⟨e, he, hm⟩ | ⟨he, hm⟩
      · obtain ⟨hf, hg⟩ := hm.factories name
        rw [hf, hg, List.take_add_one, he, Option.toList_some, lastRegistered?_concat, ih.2]
        exact ⟨ih.1, rfl⟩
      · rw [hm, List.take_add_one, he, Option.toList_none, List.append_nil]
        exact ih
  rw [BackendTable.factoryFor?, hboth.1, hboth.2]

/-! ## Loads -/

/-- Who gets a backend is at a cell with it, or has loaded it. -/
theorem Move.of_got (hm : Move r e r' fx) (h : .got id (.ok b) ∈ fx) : ∃ name c,
    r.SeatedAt id name c ∧ (r.table.loads.valueAt? c = some b ∨ Fills name c b r e) := by
  cases hm with
  | reads hs hv =>
    simp only [List.mem_singleton, TableEffect.got.injEq, Except.ok.injEq] at h
    obtain ⟨rfl, rfl⟩ := h
    exact ⟨_, _, .of_stage hs rfl, .inl hv⟩
  | fills hs =>
    simp only [List.mem_singleton, TableEffect.got.injEq, Except.ok.injEq] at h
    obtain ⟨rfl, rfl⟩ := h
    exact ⟨_, _, .of_stage hs rfl, .inr ⟨_, rfl, hs, rfl⟩⟩
  | takes hu | unloaded _ hu | unloadFailed _ hu => exact absurd h hu.not_got
  | _ => simp at h

theorem loadedNames_pairwise (h : Seated r) :
    r.table.loadedNames.Pairwise fun a b => a.text < b.text := by
  have hle : r.table.loadedNames.Pairwise fun a b => a.text ≤ b.text := by
    refine (List.pairwise_mergeSort ?_ ?_ _).imp fun hab => of_decide_eq_true hab
    · intro a b c hab hbc
      exact decide_eq_true (le_trans (of_decide_eq_true hab) (of_decide_eq_true hbc))
    · intro a b
      simpa using le_total a.text b.text
  have hnodup : r.table.loadedNames.Nodup := by
    refine (List.mergeSort_perm _ _).nodup_iff.2 ?_
    exact h.filed.keys.sublist (List.filter_sublist.map Prod.fst)
  refine (hle.and hnodup).imp fun {a b} hab => lt_of_le_of_ne hab.1 fun ht => hab.2 ?_
  cases a
  cases b
  exact congrArg BackendName.mk ht

section Undisturbed

variable (hes : TableEvent.start .unloadAll ∉ es)
include hes

theorem ne_unloadAll (he : es[n]? = some e) : e ≠ .start .unloadAll := by
  rintro rfl
  exact hes (List.mem_of_getElem? he)

theorem home_moment (order : Arrangement Nat) (fallback : Option FactoryId) (id : CallId)
    (n : Nat) :
    AtHome id ((unused order fallback).moment es n) := by
  induction n with
  | zero => exact fun _ _ h => absurd h (not_seatedAt_unused order fallback)
  | succ n ih =>
    rcases moment_move (unused order fallback) es n with ⟨e, he, hm⟩ | ⟨-, hm⟩
    · exact (seated_moment order fallback es n).home_move hm (ne_unloadAll hes he) ih
    · exact hm ▸ ih

/-- A name has the backend whose load has succeeded for it. -/
theorem get?_iff : ((unused order fallback).moment es n).table.loads.get? name = some b ↔
    ∃ m, m < n ∧ Succeeds (unused order fallback) es name b m := by
  rw [← spans_iff (P := fun r e => ∃ c, Fills name c b r e) (Q := fun _ _ => False)
    (S := fun r => r.table.loads.get? name = some b) (by rintro ⟨⟩) (fun n e he => ?_) n]
  · simp only [succeeds_iff]
    constructor
    · rintro ⟨m, hlt, ⟨e, he, c, hc⟩, -⟩
      exact ⟨m, hlt, c, e, he, hc⟩
    · rintro ⟨m, hlt, c, e, he, hc⟩
      exact ⟨m, hlt, ⟨e, he, c, hc⟩, fun k _ _ ⟨_, _, h⟩ => h⟩
  · simpa [or_comm] using (seated_moment order fallback es n).get?_move
      (seated_moment order fallback es (n + 1)) (move_at _ he) (ne_unloadAll hes he)
      fun id => home_moment hes order fallback id n

/-- A load is for a name that has no backend. -/
theorem get?_of_loading
    (hs : ((unused order fallback).moment es n).stage? id = some (.loading name c)) :
    ((unused order fallback).moment es n).table.loads.get? name = none := by
  have hcell := home_moment hes order fallback id n name c (.of_stage hs rfl)
  have hv := OnceMap.valueAt?_of_compute ((seated_moment order fallback es n).loading hs)
  rw [OnceMap.get?, hcell, Option.bind_some, hv]

theorem one_flight {id' : CallId} {m' : Nat} (h : InFlight (unused order fallback) es id name m n)
    (h' : InFlight (unused order fallback) es id' name m' n) : id = id' ∧ m = m' := by
  have hq := seated_moment order fallback es n
  obtain ⟨c, hc⟩ := inFlight_iff.1 ⟨m, h⟩
  obtain ⟨c', hc'⟩ := inFlight_iff.1 ⟨m', h'⟩
  have hcell := home_moment hes order fallback id n name c (.of_stage hc rfl)
  have hcell' := home_moment hes order fallback id' n name c' (.of_stage hc' rfl)
  rw [hcell] at hcell'
  cases hcell'
  obtain rfl := OnceMap.compute_unique (hq.loading hc) (hq.loading hc')
  exact ⟨rfl, h.unique h'⟩

theorem not_succeeds_later {b' : InstanceId} (h : Succeeds (unused order fallback) es name b m)
    (hlt : m < n) : ¬ Succeeds (unused order fallback) es name b' n := by
  intro h'
  have hg : ((unused order fallback).moment es n).table.loads.get? name = some b :=
    (get?_iff hes).2 ⟨m, hlt, h⟩
  obtain ⟨c, e, -, id, -, hs, -⟩ := succeeds_iff.1 h'
  rw [get?_of_loading hes hs] at hg
  cases hg

theorem one_success {b' : InstanceId} {n' : Nat} (h : Succeeds (unused order fallback) es name b n)
    (h' : Succeeds (unused order fallback) es name b' n') : n = n' ∧ b = b' := by
  rcases Nat.lt_trichotomy n n' with hlt | rfl | hlt
  · exact absurd h' (not_succeeds_later hes h hlt)
  · obtain ⟨_, _, -, _, -, -, hb⟩ := succeeds_iff.1 h
    obtain ⟨_, _, -, _, -, -, hb'⟩ := succeeds_iff.1 h'
    exact ⟨rfl, hb.symm.trans hb'⟩
  · exact absurd h (not_succeeds_later hes h' hlt)

/-- Whoever gets a backend for a name gets the one whose load has succeeded. -/
theorem succeeds_of_gets (h : HappensAt (Asks id name) (unused order fallback) es m)
    (h' : HappensAt (Gets id (.ok b)) (unused order fallback) es n) :
    ∃ k, k ≤ n ∧ Succeeds (unused order fallback) es name b k := by
  obtain ⟨e, he, hg⟩ := h'
  obtain ⟨name', c, hseat, hb⟩ := (step_move ((unused order fallback).moment es n) e).of_got hg
  obtain ⟨m', hp⟩ := pending_iff.2 ⟨c, hseat⟩
  obtain ⟨-, rfl⟩ := asks_unique h hp.first
  rcases hb with hv | hf
  · have hcell := home_moment hes order fallback id n name c hseat
    have hget : ((unused order fallback).moment es n).table.loads.get? name = some b :=
      Option.bind_eq_some_iff.2 ⟨c, hcell, hv⟩
    obtain ⟨k, hk, hs⟩ := (get?_iff hes).1 hget
    exact ⟨k, Nat.le_of_lt hk, hs⟩
  · exact ⟨n, Nat.le_refl n, succeeds_iff.2 ⟨c, e, he, hf⟩⟩

/-- A name has a backend exactly if a load for it has succeeded. -/
theorem mem_loadedNames_iff : name ∈ ((unused order fallback).moment es n).table.loadedNames ↔
    ∃ m, m < n ∧ ∃ b, Succeeds (unused order fallback) es name b m := by
  rw [mem_loadedNames (seated_moment order fallback es n), Option.isSome_iff_exists]
  simp only [get?_iff hes]
  constructor
  · rintro ⟨b, m, hlt, hs⟩
    exact ⟨m, hlt, b, hs⟩
  · rintro ⟨m, hlt, b, hs⟩
    exact ⟨b, m, hlt, hs⟩

/-- A call for a name that has a backend gets it as soon as it goes on. -/
theorem resume_of_succeeds (h : Succeeds (unused order fallback) es name b m) (hlt : m < n)
    (hp : Pending (unused order fallback) es id name n) :
    (((unused order fallback).moment es n).step (.resume id)).2 = [.got id (.ok b)] := by
  have hg : ((unused order fallback).moment es n).table.loads.get? name = some b :=
    (get?_iff hes).2 ⟨m, hlt, h⟩
  obtain ⟨c, s, hs, ht⟩ := pending_iff.1 hp
  have hcell := home_moment hes order fallback id n name c (.of_stage hs ht)
  cases s with
  | waiting name' c' =>
    cases ht
    rw [OnceMap.get?, hcell, Option.bind_some] at hg
    rw [step_resume hs, OnceMap.turn_ready_iff.2 hg]
  | loading name' c' =>
    cases ht
    rw [get?_of_loading hes hs] at hg
    cases hg
  | unloading => cases ht

theorem not_mem_of_breaks (h : Breaks (unused order fallback) es name n) :
    name ∉ ((unused order fallback).moment es (n + 1)).table.loadedNames := by
  obtain ⟨id, m, hfly, he⟩ := h
  obtain ⟨c, hc⟩ := inFlight_iff.1 ⟨m, hfly⟩
  have hnone := get?_of_loading hes hc
  rw [mem_loadedNames_iff hes]
  rintro ⟨k, hk, b, hs⟩
  rcases Nat.lt_succ_iff_lt_or_eq.1 hk with hlt | rfl
  · rw [(get?_iff hes).2 ⟨k, hlt, hs⟩] at hnone
    cases hnone
  · -- The load that ends is the one that would have succeeded.
    obtain ⟨id', m', -, he', -⟩ := hs
    rw [he'] at he
    rcases he with he | ⟨x, he⟩ <;> cases he

/-- The first of the calls for a name without a backend is the head of its line. -/
theorem compute_of_first (hname : name ∉ ((unused order fallback).moment es n).table.loadedNames)
    (hp : Pending (unused order fallback) es id name n)
    (hfirst : ∀ i, Pending (unused order fallback) es i name n → id ≤ i) :
    ∃ c, ((unused order fallback).moment es n).SeatedAt id name c ∧
      ((unused order fallback).moment es n).table.loads.turn id c = .compute := by
  have hq := seated_moment order fallback es n
  obtain ⟨c, hseat⟩ := pending_iff.1 hp
  have hcell := home_moment hes order fallback id n name c hseat
  have hnone : ((unused order fallback).moment es n).table.loads.valueAt? c = none := by
    rw [mem_loadedNames hq, OnceMap.get?, hcell, Option.bind_some] at hname
    simpa using hname
  refine ⟨c, hseat, OnceMap.turn_compute_iff_head.2 ⟨hnone, ?_⟩⟩
  have hmem := hq.stands hseat hnone
  have hsorted := hq.sorted c
  cases hline : ((unused order fallback).moment es n).table.loads.lineAt c with
  | nil => simp [hline] at hmem
  | cons j rest =>
    obtain ⟨name', hj⟩ := hq.seated (hline ▸ List.mem_cons_self : j ∈ _)
    obtain rfl := hq.named hj hcell
    have hle : id ≤ j := hfirst j (pending_iff.2 ⟨c, hj⟩)
    rw [hline] at hmem hsorted
    rcases List.mem_cons.1 hmem with rfl | hrest
    · rfl
    · exact absurd (List.rel_of_pairwise_cons hsorted hrest) (Nat.not_lt_of_le hle)

theorem resume_of_first (hname : name ∉ ((unused order fallback).moment es n).table.loadedNames)
    (hfree : ∀ i m, ¬ InFlight (unused order fallback) es i name m n)
    (hp : Pending (unused order fallback) es id name n)
    (hfirst : ∀ i, Pending (unused order fallback) es i name n → id ≤ i) :
    (((unused order fallback).moment es n).step (.resume id)).2 =
      match (lastRegistered? name (es.take n)).or fallback with
      | some f => [.load id name f]
      | none => [.got id (.error (BackendError.unsupported name))] := by
  obtain ⟨c, ⟨s, hs, ht⟩, hturn⟩ := compute_of_first hes hname hp hfirst
  cases s with
  | waiting name' c' =>
    cases ht
    rw [step_resume hs, hturn, ← factoryFor?_moment]
    cases ((unused order fallback).moment es n).table.factoryFor? name <;> rfl
  | loading name' c' =>
    cases ht
    obtain ⟨m, hm⟩ := inFlight_iff.2 ⟨c, hs⟩
    exact absurd hm (hfree id m)
  | unloading => cases ht

end Undisturbed

theorem factory_of_begins (h : HappensAt (Begins id name f) (unused order fallback) es n) :
    (lastRegistered? name (es.take n)).or fallback = some f := by
  obtain ⟨e, -, he⟩ := h
  obtain ⟨c, -, hf⟩ := (step_move _ e).waiting_of_load he
  rw [← factoryFor?_moment, hf]

/-- As long as nothing is unloaded, each name is loaded once at most, and by what is registered for
it. -/
theorem one_load (order : Arrangement Nat) (fallback : Option FactoryId) (es : List TableEvent)
    (hes : TableEvent.start .unloadAll ∉ es) : OneLoad order fallback es where
  one_flight h h' := one_flight hes h h'
  one_success h h' := one_success hes h h'
  shared h h' := succeeds_of_gets hes h h'
  stays h hlt hp := resume_of_succeeds hes h hlt hp
  broken h := not_mem_of_breaks hes h
  attempt hname hfree hp hfirst := resume_of_first hes hname hfree hp hfirst
  factory h := factory_of_begins h
  ascending n := loadedNames_pairwise (seated_moment order fallback es n)
  names := mem_loadedNames_iff hes

/-- Of two calls for a name the first fails to load it, and a factory is registered for the second.
-/
def secondTry : List TableEvent :=
  [.start (.get ⟨"a"⟩), .start (.get ⟨"a"⟩), .resume 0, .loaded 0 (.error default),
    .register ⟨"a"⟩ 7, .resume 1, .loaded 1 (.ok ())]

theorem secondTry_loads : TableEvent.start .unloadAll ∉ secondTry ∧
    ((unused .asPut (some 0)).run secondTry).2 =
      [.load 0 ⟨"a"⟩ 0, .got 0 (.error default), .load 1 ⟨"a"⟩ 7, .got 1 (.ok 0)] ∧
    ⟨"a"⟩ ∈ ((unused .asPut (some 0)).moment secondTry 7).table.loadedNames ∧
    ∃ m, m < 7 ∧ ∃ b, Succeeds (unused .asPut (some 0)) secondTry ⟨"a"⟩ b m := by
  have hes : TableEvent.start .unloadAll ∉ secondTry := by simp [secondTry]
  have hmem : ⟨"a"⟩ ∈ ((unused .asPut (some 0)).moment secondTry 7).table.loadedNames := by
    decide +kernel
  exact ⟨hes, rfl, hmem, (one_load .asPut (some 0) secondTry hes).names.1 hmem⟩

end TableRun

end SlotBroker
