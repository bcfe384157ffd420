import SlotBroker.Proofs.Backend.Seats

/-!
# The calls of a table

A call for the backend of a name is at a cell from when it is made until it returns or is given up,
and a load is in flight from when a factory begins it until its answer comes or its call is given
up. Both can be read off the stages of the calls (`pending_iff`, `inFlight_iff`), so what holds of
the stages at every moment holds of what has happened in the run.
-/

namespace SlotBroker

/-- The load of a call comes to an end. -/
def TableEvent.endsLoad (id : CallId) : TableEvent → Prop
  | .loaded i _ => i = id
  | .drop i => i = id
  | _ => False

namespace TableRun

/-! ## What happens in a run -/

/-- A call is made for the backend of a name. -/
def Asks (id : CallId) (name : BackendName) (r : TableRun) (e : TableEvent) : Prop :=
  e = .start (.get name) ∧ r.nextCall = id

/-- A call returns. -/
def Gets (id : CallId) (result : Except BackendError InstanceId) (r : TableRun) (e : TableEvent) :
    Prop :=
  .got id result ∈ (r.step e).2

/-- A call returns, or is given up. -/
def Ends (id : CallId) (r : TableRun) (e : TableEvent) : Prop :=
  e = .drop id ∨ ∃ result, Gets id result r e

/-- A factory begins to load the backend of a name for a call. -/
def Begins (id : CallId) (name : BackendName) (f : FactoryId) (r : TableRun) (e : TableEvent) :
    Prop :=
  .load id name f ∈ (r.step e).2

variable (r : TableRun) (es : List TableEvent)

/-- A call for a name has been made and has not come to its end. -/
def Pending (id : CallId) (name : BackendName) (n : Nat) : Prop :=
  ∃ m, Spans (Asks id name) (Ends id) r es m n

/-- The load that a call has begun for a name at a moment has not come to its end. -/
def InFlight (id : CallId) (name : BackendName) (m n : Nat) : Prop :=
  Spans (fun r e => ∃ f, Begins id name f r e) (fun _ e => e.endsLoad id) r es m n

variable {r r' : TableRun} {es : List TableEvent} {e : TableEvent} {fx : List TableEffect}
  {id i : CallId} {name name' : BackendName} {c cell n m : Nat} {b : InstanceId} {s : TableStage}
  {f : FactoryId}

/-! ## Calls -/

theorem Unloads.not_got {errors : List BackendError} {cells : List Nat}
    (h : Unloads r id errors cells r' fx) {x : Except BackendError InstanceId} :
    .got i x ∉ fx := by
  cases h <;> simp

theorem seat?_unloading {cells : List Nat} {errors : List BackendError}
    (hs : r.stage? id = some (.unloading b cells errors)) (hs' : r.stage? id = some s) :
    s.seat? = none := by
  rw [hs] at hs'
  cases hs'
  rfl

theorem seatedAt_unloading {cells : List Nat} {errors : List BackendError}
    (hs : r.stage? id = some (.unloading b cells errors)) : ¬ r.SeatedAt id name c := by
  rintro ⟨s, hs', ht⟩
  rw [seat?_unloading hs hs'] at ht
  cases ht

/-- What a step does to the calls at the cells. -/
inductive Traffic (r : TableRun) (e : TableEvent) (r' : TableRun) (fx : List TableEffect) : Prop
  | comes {n : BackendName} (he : e = .start (.get n)) (hr : r' = r.asked n) (hfx : fx = [])
  | stays (he : ∀ name, e ≠ .start (.get name))
      (hs : ∀ i name c, r'.SeatedAt i name c ↔ r.SeatedAt i name c)
      (hi : ∀ i name c, r.SeatedAt i name c → ¬ (e = .drop i ∨ ∃ x, .got i x ∈ fx))
  | goes {id : CallId} (he : ∀ name, e ≠ .start (.get name))
      (hs : ∀ i name c, r'.SeatedAt i name c ↔ id ≠ i ∧ r.SeatedAt i name c)
      (hi : ∀ i, (e = .drop i ∨ ∃ x, .got i x ∈ fx) ↔ i = id)

theorem Unloads.traffic {errors errors' : List BackendError} {cells cells' : List Nat}
    {fx' : List TableEffect} (h : Unloads r id errors cells r' fx')
    (hs : r.stage? id = some (.unloading b cells' errors'))
    (he : ∀ name, e ≠ .start (.get name)) (hd : ∀ i, e = .drop i → i = id)
    (hfx : ∀ i x, .got i x ∉ fx) : Traffic r e r' fx := by
  refine .stays he (fun i name c => h.seatedAt (fun _ => rfl) (seat?_unloading hs)) ?_
  rintro i name c hi (hdrop | ⟨x, hx⟩)
  · exact seatedAt_unloading hs (hd i hdrop ▸ hi)
  · exact hfx i x hx

theorem Traffic.gone {id : CallId} (he : ∀ name, e ≠ .start (.get name))
    (ht : ∀ j, r'.stage? j = if id = j then none else r.stage? j)
    (hi : ∀ i, (e = .drop i ∨ ∃ x, .got i x ∈ fx) ↔ i = id) : Traffic r e r' fx :=
  .goes he (fun _ _ _ => seatedAt_of_ended ht) hi

theorem Seated.traffic (h : Seated r) (hm : Move r e r' fx) : Traffic r e r' fx := by
  cases hm with
  | idle hi =>
    refine .stays ?_ (fun _ _ _ => Iff.rfl) ?_
    · rintro name rfl
      exact hi
    · rintro i name c ⟨s, hs, -⟩ (rfl | ⟨x, hx⟩)
      · have hnone : r.stage? i = none := hi
        rw [hs] at hnone
        cases hnone
      · cases hx
  | registers => exact .stays (by simp) (fun _ _ _ => Iff.rfl) (by simp)
  | asks => exact .comes rfl rfl rfl
  | takes hu =>
    refine .stays (by simp) (fun i name c => hu.seatedAt (fun _ => rfl) fun hs => ?_) ?_
    · rw [h.not_made] at hs
      cases hs
    · rintro i name c - (hdrop | ⟨x, hx⟩)
      · cases hdrop
      · exact hu.not_got hx
  | begins hs => exact .stays (by simp) (fun _ _ _ => seatedAt_begins hs) (by simp)
  | reads => exact .gone (by simp) (fun j => stage?_endCall _ j r) (by simp)
  | unserved => exact .gone (by simp) (fun j => stage?_left _ j _) (by simp)
  | fills => exact .gone (by simp) (fun j => stage?_filled _ j _) (by simp)
  | fails => exact .gone (by simp) (fun j => stage?_left _ j _) (by simp)
  | leaves => exact .gone (by simp) (fun j => stage?_left _ j _) (by simp [eq_comm])
  | unloaded hs hu => exact hu.traffic hs (by simp) (by simp) fun _ _ => hu.not_got
  | unloadFailed hs hu => exact hu.traffic hs (by simp) (by simp) fun _ _ => hu.not_got
  | @givesUp id b cells errors hs =>
    have hu : Unloads r id [] [] (r.endCall id) _ := .ends rfl
    exact hu.traffic hs (by simp) (by simp [eq_comm]) (by simp)

/-- A call is at a cell from when it was made until its end. -/
theorem Seated.pending_move (h : Seated r) (hm : Move r e r' fx) : (∃ c, r'.SeatedAt i name c) ↔
    (e = .start (.get name) ∧ r.nextCall = i) ∨
      (∃ c, r.SeatedAt i name c) ∧ ¬ (e = .drop i ∨ ∃ x, .got i x ∈ fx) := by
  cases h.traffic hm with
  | comes he hr hfx =>
    subst he hr hfx
    simp only [seatedAt_asked]
    constructor
    · rintro ⟨c, ⟨hi, rfl, -⟩ | ⟨-, hc⟩⟩
      · exact .inl ⟨rfl, hi⟩
      · exact .inr ⟨⟨c, hc⟩, by simp⟩
    · rintro (⟨he, hi⟩ | ⟨⟨c, hc⟩, -⟩)
      · cases he
        exact ⟨_, .inl ⟨hi, rfl, rfl⟩⟩
      · exact ⟨c, .inr ⟨Nat.ne_of_gt (hc.lt h.toQueued), hc⟩⟩
  | stays he hs hi =>
    simp only [hs, he, false_and, false_or]
    exact ⟨fun ⟨c, hc⟩ => ⟨⟨c, hc⟩, hi i name c hc⟩, And.left⟩
  | goes he hs hi =>
    simp only [hs, hi, he, false_and, false_or, exists_and_left, ne_eq, eq_comm, and_comm]

theorem Unloads.loading_move {errors : List BackendError} {cells : List Nat} {r₀ : TableRun}
    (h : Unloads r₀ id errors cells r' fx) (hs : ∀ j, r₀.stage? j = r.stage? j)
    (hi : ∀ {s}, r.stage? id = some s → s.seat? = none) (he : ∀ i, ¬ e.endsLoad i) :
    (∃ c, r'.stage? i = some (.loading name c)) ↔
      (∃ f, .load i name f ∈ fx) ∨
        (∃ c, r.stage? i = some (.loading name c)) ∧ ¬ e.endsLoad i := by
  have hsame (c : Nat) :
      r'.stage? i = some (.loading name c) ↔ r.stage? i = some (.loading name c) := by
    by_cases hid : i = id
    · subst hid
      constructor
      · intro hs'
        cases h.seat? hs'
      · intro hs'
        cases hi hs'
    · rw [h.stage? hid, hs]
  have hfx : ∀ f, .load i name f ∉ fx := by
    intro f
    cases h <;> simp
  simp [hsame, hfx, he i]

theorem loading_of_ended (ht : ∀ j, r'.stage? j = if id = j then none else r.stage? j)
    (hl : ∀ name c, r.stage? id = some (.loading name c) → e.endsLoad id)
    (he : ∀ i, e.endsLoad i → id = i) (hfx : ∀ f, .load i name f ∉ fx) :
    (∃ c, r'.stage? i = some (.loading name c)) ↔
      (∃ f, .load i name f ∈ fx) ∨
        (∃ c, r.stage? i = some (.loading name c)) ∧ ¬ e.endsLoad i := by
  simp only [ht, hfx, exists_false, false_or]
  by_cases hi : id = i
  · subst hi
    simp only [if_true, reduceCtorEq, exists_false, false_iff, not_and, not_not]
    exact fun ⟨c, hc⟩ => hl name c hc
  · have hne : ¬ e.endsLoad i := fun h => hi (he i h)
    simp [hi, hne]

theorem Idle.loading (h : r.Idle e) (hs : r.stage? i = some (.loading name c)) :
    ¬ e.endsLoad i := by
  intro he
  cases e with
  | loaded id x =>
    cases he
    exact h name c hs
  | drop id =>
    cases he
    rw [Idle, hs] at h
    cases h
  | _ => exact he

/-- A load is in flight from when it begins until it comes to its end. -/
theorem Seated.loading_move (h : Seated r) (hm : Move r e r' fx) :
    (∃ c, r'.stage? i = some (.loading name c)) ↔
      (∃ f, .load i name f ∈ fx) ∨
        (∃ c, r.stage? i = some (.loading name c)) ∧ ¬ e.endsLoad i := by
  cases hm with
  | idle hi =>
    have hne : (∃ c, r.stage? i = some (.loading name c)) → ¬ e.endsLoad i :=
      fun ⟨_, hc⟩ => hi.loading hc
    simpa using hne
  | registers =>
    change (∃ c, r.stage? i = some (.loading name c)) ↔ _
    simp [TableEvent.endsLoad]
  | asks =>
    have hnone := h.not_made
    simp only [stage?_asked]
    by_cases hi : r.nextCall = i
    · subst hi
      simp [hnone]
    · simp [hi, TableEvent.endsLoad]
  | takes hu => exact hu.loading_move (fun _ => rfl) (by simp [h.not_made]) fun _ h => h
  | @begins id name' cell f hs ht hf =>
    simp only [stage?_setStage]
    by_cases hi : id = i
    · subst hi
      simp [hs, eq_comm]
    · simp [hi, Ne.symm hi, TableEvent.endsLoad]
  | reads hs =>
    exact loading_of_ended (fun j => stage?_endCall _ j r) (by simp [hs]) (fun _ => False.elim)
      (by simp)
  | unserved hs =>
    exact loading_of_ended (fun j => stage?_left _ j _) (by simp [hs]) (fun _ => False.elim)
      (by simp)
  | fills =>
    exact loading_of_ended (fun j => stage?_filled _ j _) (fun _ _ _ => rfl) (fun _ hi => hi)
      (by simp)
  | fails | leaves =>
    exact loading_of_ended (fun j => stage?_left _ j _) (fun _ _ _ => rfl) (fun _ hi => hi)
      (by simp)
  | givesUp =>
    exact loading_of_ended (fun j => stage?_endCall _ j r) (fun _ _ _ => rfl) (fun _ hi => hi)
      (by simp)
  | unloaded hs hu | unloadFailed hs hu =>
    exact hu.loading_move (fun _ => rfl) (seat?_unloading hs) fun _ h => h

/-! ## Over a run -/

/-- A table of which nothing has been asked. -/
def unused (order : Arrangement Nat) (fallback : Option FactoryId) : TableRun :=
  new (BackendTable.empty order fallback)

theorem stage?_unused (order : Arrangement Nat) (fallback : Option FactoryId) (id : CallId) :
    (unused order fallback).stage? id = none := rfl

theorem not_seatedAt_unused (order : Arrangement Nat) (fallback : Option FactoryId) :
    ¬ (unused order fallback).SeatedAt id name c := by
  rintro ⟨s, hs, -⟩
  cases hs

variable {order : Arrangement Nat} {fallback : Option FactoryId}

theorem seated_moment (order : Arrangement Nat) (fallback : Option FactoryId) (es : List TableEvent)
    (n : Nat) :
    Seated ((unused order fallback).moment es n) :=
  (seated_new order fallback).moment es n

theorem pending_iff : Pending (unused order fallback) es id name n ↔
    ∃ c, ((unused order fallback).moment es n).SeatedAt id name c := by
  refine spans_iff (S := fun r => ∃ c, r.SeatedAt id name c) ?_ (fun n e he => ?_) n
  · rintro ⟨c, hc⟩
    exact not_seatedAt_unused order fallback hc
  · exact (seated_moment order fallback es n).pending_move (move_at _ he)

theorem inFlight_iff : (∃ m, InFlight (unused order fallback) es id name m n) ↔
    ∃ c, ((unused order fallback).moment es n).stage? id = some (.loading name c) := by
  refine spans_iff (S := fun r => ∃ c, r.stage? id = some (.loading name c)) ?_
    (fun n e he => ?_) n
  · simp [stage?_unused]
  · exact (seated_moment order fallback es n).loading_move (move_at _ he)

/-- A call that begins to load was waiting. -/
theorem Move.waiting_of_load (hm : Move r e r' fx) (h : .load id name f ∈ fx) :
    ∃ c, r.stage? id = some (.waiting name c) ∧ r.table.factoryFor? name = some f := by
  cases hm with
  | begins hs _ hf =>
    simp only [List.mem_singleton, TableEffect.load.injEq] at h
    obtain ⟨rfl, rfl, rfl⟩ := h
    exact ⟨_, hs, hf⟩
  | takes hu | unloaded _ hu | unloadFailed _ hu => cases hu <;> simp at h
  | _ => simp at h

theorem InFlight.earlier {k : Nat} (h : InFlight r es id name m n) (hm : m < k) (hk : k ≤ n) :
    InFlight r es id name m k :=
  ⟨hm, h.first, fun i hi hik => h.since i hi (Nat.lt_of_lt_of_le hik hk)⟩

theorem InFlight.not_begins {k : Nat} (h : InFlight (unused order fallback) es id name m n)
    (hm : m < k) (hk : k < n) : ¬ HappensAt (Begins id name' f) (unused order fallback) es k := by
  rintro ⟨e, -, he⟩
  obtain ⟨c, hc⟩ := inFlight_iff.1 ⟨m, h.earlier hm (Nat.le_of_lt hk)⟩
  obtain ⟨c', hc', -⟩ := (step_move _ e).waiting_of_load he
  rw [hc] at hc'
  cases hc'

/-- A call has one load in flight at most. -/
theorem InFlight.unique (h : InFlight (unused order fallback) es id name m n)
    (h' : InFlight (unused order fallback) es id name' i n) : m = i := by
  rcases Nat.lt_trichotomy m i with hlt | heq | hlt
  · obtain ⟨e, he, f, hf⟩ := h'.first
    exact absurd ⟨e, he, hf⟩ (h.not_begins hlt h'.before)
  · exact heq
  · obtain ⟨e, he, f, hf⟩ := h.first
    exact absurd ⟨e, he, hf⟩ (h'.not_begins hlt h.before)

/-! ## The numbers of the calls -/

theorem Move.nextCall (hm : Move r e r' fx) :
    r.nextCall ≤ r'.nextCall ∧ ∀ call, e = .start call → r'.nextCall = r.nextCall + 1 := by
  cases hm with
  | idle hi =>
    refine ⟨Nat.le_refl _, ?_⟩
    rintro call rfl
    exact hi.elim
  | asks => exact ⟨Nat.le_succ _, fun _ _ => rfl⟩
  | takes hu =>
    rw [hu.table.2]
    exact ⟨Nat.le_succ _, fun _ _ => rfl⟩
  | unloaded _ hu | unloadFailed _ hu =>
    rw [hu.table.2]
    exact ⟨Nat.le_refl _, by simp⟩
  | _ => exact ⟨Nat.le_refl _, by simp⟩

theorem nextCall_le (r : TableRun) (es : List TableEvent) (h : m ≤ n) :
    (r.moment es m).nextCall ≤ (r.moment es n).nextCall := by
  induction h with
  | refl => exact Nat.le_refl _
  | @step n _ ih =>
    rcases moment_move r es n with ⟨e, -, hm⟩ | ⟨-, hm⟩
    · exact Nat.le_trans ih hm.nextCall.1
    · exact hm ▸ ih

theorem nextCall_lt (h : m < n) {call : TableCall} (he : es[m]? = some (.start call)) :
    (r.moment es m).nextCall < (r.moment es n).nextCall := by
  have hs := (move_at r he).nextCall.2 call rfl
  exact Nat.lt_of_lt_of_le (hs ▸ Nat.lt_succ_self _) (nextCall_le r es h)

/-- A call is made once. -/
theorem asks_unique (h : HappensAt (Asks id name) r es m) (h' : HappensAt (Asks id name') r es n) :
    m = n ∧ name = name' := by
  obtain ⟨e, he, rfl, hid⟩ := h
  obtain ⟨e', he', rfl, hid'⟩ := h'
  rcases Nat.lt_trichotomy m n with hlt | rfl | hlt
  · have hids := nextCall_lt (r := r) hlt he
    rw [hid, hid'] at hids
    exact absurd hids (Nat.lt_irrefl id)
  · rw [he] at he'
    cases he'
    exact ⟨rfl, rfl⟩
  · have hids := nextCall_lt (r := r) hlt he'
    rw [hid, hid'] at hids
    exact absurd hids (Nat.lt_irrefl id)

end TableRun

end SlotBroker
