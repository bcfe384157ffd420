import SlotBroker.Backend.TableRun
import SlotBroker.Proofs.Assoc
import SlotBroker.Proofs.Cells

/-!
# What a step of the table can do

`Move` lists the segments of the calls to a table, each with the stage it starts from, what it finds
there, the table after it and its effects. Every step is one of them (`step_move`). The moments of
a run are told by the number of events before them, and `HappensAt` tells at which of them a step is
of a kind.
-/

namespace SlotBroker

/-- The name that a call needs the backend of, and the cell at which it asks for it. -/
def TableStage.seat? : TableStage → Option (BackendName × Nat)
  | .waiting name cell => some (name, cell)
  | .loading name cell => some (name, cell)
  | .unloading _ _ _ => none

namespace TableRun

variable (r : TableRun)

/-- Where a call stands that is in progress. -/
def stage? (id : CallId) : Option TableStage := Assoc.get? id r.calls

/-- A call asks at a cell for the backend of a name. -/
def SeatedAt (id : CallId) (name : BackendName) (cell : Nat) : Prop :=
  ∃ s, r.stage? id = some s ∧ s.seat? = some (name, cell)

/-- How unloading goes on: with the next backend, or to its end. -/
inductive Unloads (id : CallId) (errors : List BackendError) (cells : List Nat) :
    TableRun → List TableEffect → Prop
  | next {b rest} (h : r.table.nextLoaded cells = some (b, rest)) :
      Unloads id errors cells (r.setStage id (.unloading b rest errors)) [.unload id b]
  | ends (h : r.table.nextLoaded cells = none) :
      Unloads id errors cells (r.endCall id)
        [.unloadedAll id (if errors.isEmpty then .ok ()
          else .error (.shutdownFailed (errors.map BrokerError.backend)))]

/-- The next call asks for the backend of a name. -/
def asked (name : BackendName) : TableRun :=
  { r with nextCall := r.nextCall + 1, table := (r.table.join r.nextCall name).1 }.setStage
    r.nextCall (.waiting name (r.table.join r.nextCall name).2)

/-- A call leaves its cell and ends. -/
def left (id : CallId) (cell : Nat) : TableRun :=
  { r with table := r.table.leave id cell }.endCall id

/-- A load has filled its cell, and its call ends. -/
def filled (id : CallId) (cell : Nat) : TableRun :=
  { r with table := (r.table.loaded id cell (.ok ())).1 }.endCall id

/-- The event fits no call in progress, or the call has to wait on. -/
def Idle : TableEvent → Prop
  | .resume id => ∀ name cell, r.stage? id = some (.waiting name cell) →
      r.table.loads.turn id cell = .wait
  | .loaded id _ => ∀ name cell, r.stage? id ≠ some (.loading name cell)
  | .unloaded id _ => ∀ b cells errors, r.stage? id ≠ some (.unloading b cells errors)
  | .drop id => r.stage? id = none
  | _ => False

/-- A segment of a call: what happens at an event, from the stage of its call to the table and the
effects after it. -/
inductive Move : TableEvent → TableRun → List TableEffect → Prop
  | idle {e} (h : r.Idle e) : Move e r []
  | registers {name f} :
      Move (.register name f) { r with table := r.table.register name f } []
  | asks {name} : Move (.start (.get name)) (r.asked name) []
  | takes {r' fx}
      (h : Unloads { r with nextCall := r.nextCall + 1, table := r.table.takeAll.1 } r.nextCall []
        r.table.takeAll.2 r' fx) : Move (.start .unloadAll) r' fx
  -- Waiting for a backend
  | reads {id name cell b} (hs : r.stage? id = some (.waiting name cell))
      (hv : r.table.loads.valueAt? cell = some b) :
      Move (.resume id) (r.endCall id) [.got id (.ok b)]
  | begins {id name cell f} (hs : r.stage? id = some (.waiting name cell))
      (ht : r.table.loads.turn id cell = .compute) (hf : r.table.factoryFor? name = some f) :
      Move (.resume id) (r.setStage id (.loading name cell)) [.load id name f]
  | unserved {id name cell} (hs : r.stage? id = some (.waiting name cell))
      (ht : r.table.loads.turn id cell = .compute) (hf : r.table.factoryFor? name = none) :
      Move (.resume id) (r.left id cell) [.got id (.error (BackendError.unsupported name))]
  -- Loading
  | fills {id name cell} (hs : r.stage? id = some (.loading name cell)) :
      Move (.loaded id (.ok ())) (r.filled id cell) [.got id (.ok r.table.loadCount)]
  | fails {id name cell x} (hs : r.stage? id = some (.loading name cell)) :
      Move (.loaded id (.error x)) (r.left id cell) [.got id (.error x)]
  | leaves {id s name cell} (hs : r.stage? id = some s) (ht : s.seat? = some (name, cell)) :
      Move (.drop id) (r.left id cell) []
  -- Unloading
  | unloaded {id b cells errors r' fx} (hs : r.stage? id = some (.unloading b cells errors))
      (h : Unloads r id errors cells r' fx) : Move (.unloaded id (.ok ())) r' fx
  | unloadFailed {id b cells errors x r' fx} (hs : r.stage? id = some (.unloading b cells errors))
      (h : Unloads r id (errors ++ [x]) cells r' fx) : Move (.unloaded id (.error x)) r' fx
  | givesUp {id b cells errors} (hs : r.stage? id = some (.unloading b cells errors)) :
      Move (.drop id) (r.endCall id) []

variable {r : TableRun} {r' : TableRun} {e : TableEvent} {es : List TableEvent}
  {fx : List TableEffect} {id i : CallId} {n : Nat} {P : TableRun → TableEvent → Prop}

/-! ## What is left of a table after a change -/

@[simp] theorem setStage_frame (id : CallId) (s : TableStage) (r : TableRun) :
    (r.setStage id s).table = r.table ∧ (r.setStage id s).nextCall = r.nextCall := ⟨rfl, rfl⟩

@[simp] theorem endCall_frame (id : CallId) (r : TableRun) :
    (r.endCall id).table = r.table ∧ (r.endCall id).nextCall = r.nextCall := ⟨rfl, rfl⟩

@[simp] theorem stage?_setStage (id i : CallId) (s : TableStage) (r : TableRun) :
    (r.setStage id s).stage? i = if id = i then some s else r.stage? i :=
  Assoc.get?_put i id s r.calls

@[simp] theorem stage?_endCall (id i : CallId) (r : TableRun) :
    (r.endCall id).stage? i = if id = i then none else r.stage? i :=
  Assoc.get?_erase i id r.calls

theorem stage?_asked (name : BackendName) (i : CallId) : (r.asked name).stage? i =
    if r.nextCall = i then some (.waiting name (r.table.join r.nextCall name).2)
    else r.stage? i :=
  stage?_setStage _ _ _ _

theorem stage?_left (id i : CallId) (cell : Nat) :
    (r.left id cell).stage? i = if id = i then none else r.stage? i :=
  stage?_endCall _ _ _

theorem stage?_filled (id i : CallId) (cell : Nat) :
    (r.filled id cell).stage? i = if id = i then none else r.stage? i :=
  stage?_endCall _ _ _

/-! ## Steps -/

theorem unloadNext_unloads (id : CallId) (errors : List BackendError) (cells : List Nat)
    (r : TableRun) : Unloads r id errors cells (r.unloadNext id errors cells).1
      (r.unloadNext id errors cells).2 := by
  unfold unloadNext
  split
  · exact .next ‹_›
  · exact .ends ‹_›

/-- What a call does that waits and looks whether it is its turn. -/
theorem step_resume {name : BackendName} {cell : Nat}
    (hs : r.stage? id = some (.waiting name cell)) : r.step (.resume id) =
      match r.table.loads.turn id cell with
      | .ready b => (r.endCall id, [.got id (.ok b)])
      | .wait => (r, [])
      | .compute =>
        match r.table.factoryFor? name with
        | some f => (r.setStage id (.loading name cell), [.load id name f])
        | none => (r.left id cell, [.got id (.error (BackendError.unsupported name))]) := by
  rw [stage?] at hs
  simp only [step, hs, BackendTable.turn]
  cases r.table.loads.turn id cell with
  | ready b => rfl
  | wait => rfl
  | compute => cases r.table.factoryFor? name <;> rfl

theorem resume_move {name : BackendName} {cell : Nat}
    (hs : r.stage? id = some (.waiting name cell)) :
    Move r (.resume id) (r.step (.resume id)).1 (r.step (.resume id)).2 := by
  rw [step_resume hs]
  cases ht : r.table.loads.turn id cell with
  | ready b => exact .reads hs (OnceMap.turn_ready_iff.1 ht)
  | wait =>
    refine .idle fun name' cell' hs' => ?_
    rw [hs] at hs'
    cases hs'
    exact ht
  | compute =>
    cases hf : r.table.factoryFor? name with
    | some f => exact .begins hs ht hf
    | none => exact .unserved hs ht hf

theorem resume_idle (hs : ∀ name cell, r.stage? id ≠ some (.waiting name cell)) :
    r.step (.resume id) = (r, []) := by
  simp only [step]
  split
  · exact absurd ‹_› (hs _ _)
  · rfl

/-- Every step is a segment of a call. -/
theorem step_move (r : TableRun) (e : TableEvent) : Move r e (r.step e).1 (r.step e).2 := by
  cases e with
  | register name f => exact .registers
  | start c =>
    cases c with
    | get name => exact .asks
    | unloadAll => exact .takes (unloadNext_unloads _ _ _ _)
  | resume id =>
    by_cases hs : ∃ name cell, r.stage? id = some (.waiting name cell)
    · obtain ⟨name, cell, hs⟩ := hs
      exact resume_move hs
    · simp only [not_exists] at hs
      rw [resume_idle hs]
      exact .idle fun name cell hs' => absurd hs' (hs name cell)
  | loaded id answer =>
    simp only [step]
    split
    · rename_i hs
      cases answer with
      | ok => exact .fills hs
      | error x => exact .fails hs
    · rename_i hs
      exact .idle fun name cell hs' => hs name cell hs'
  | unloaded id answer =>
    simp only [step]
    split
    · rename_i hs
      cases answer with
      | ok => exact .unloaded hs (unloadNext_unloads _ _ _ _)
      | error x => exact .unloadFailed hs (unloadNext_unloads _ _ _ _)
    · rename_i hs
      exact .idle fun b cells errors hs' => hs b cells errors hs'
  | drop id =>
    simp only [step]
    split
    · exact .leaves ‹_› rfl
    · exact .leaves ‹_› rfl
    · exact .givesUp ‹_›
    · exact .idle ‹_›

/-! ## Runs and their moments -/

/-- A run at one of its moments: after so many events. -/
def moment (r : TableRun) (es : List TableEvent) (n : Nat) : TableRun := (r.run (es.take n)).1

/-- The step at a moment of a run is of a kind. -/
def HappensAt (P : TableRun → TableEvent → Prop) (r : TableRun) (es : List TableEvent) (n : Nat) :
    Prop :=
  ∃ e, es[n]? = some e ∧ P (r.moment es n) e

@[simp] theorem moment_zero (r : TableRun) (es : List TableEvent) : r.moment es 0 = r := rfl

theorem moment_succ (h : es[n]? = some e) :
    r.moment es (n + 1) = ((r.moment es n).step e).1 :=
  Machine.moment_succ h

theorem moment_end (r : TableRun) (h : es[n]? = none) : r.moment es (n + 1) = r.moment es n :=
  Machine.moment_end r h

theorem move_at (r : TableRun) (h : es[n]? = some e) :
    (r.moment es n).Move e (r.moment es (n + 1)) ((r.moment es n).step e).2 :=
  moment_succ h ▸ step_move _ e

/-- The step at a moment is a segment, or there is none and nothing changes. -/
theorem moment_move (r : TableRun) (es : List TableEvent) (n : Nat) :
    (∃ e, es[n]? = some e ∧
        (r.moment es n).Move e (r.moment es (n + 1)) ((r.moment es n).step e).2) ∨
      es[n]? = none ∧ r.moment es (n + 1) = r.moment es n := by
  cases h : es[n]? with
  | none => exact .inr ⟨rfl, moment_end r h⟩
  | some e => exact .inl ⟨e, rfl, move_at r h⟩

/-- What is the case at a moment and is kept by every step up to a later one is the case there
too. -/
theorem moment_keeps {Q : TableRun → Prop} (hle : m ≤ n) (h : Q (r.moment es m))
    (hQ : ∀ k e, m ≤ k → k < n → es[k]? = some e → Q (r.moment es k) →
      Q ((r.moment es k).step e).1) :
    Q (r.moment es n) :=
  Machine.moment_keeps hle h hQ

/-- What holds at first and is kept by every segment holds at every moment. -/
theorem moment_induction {Q : TableRun → Prop} (h : Q r)
    (hQ : ∀ {r e r' fx}, Q r → Move r e r' fx → Q r') (es : List TableEvent) (n : Nat) :
    Q (r.moment es n) :=
  Machine.run_induction h (fun h => hQ h (step_move _ _)) _

/-- An effect of a run is one of a step. -/
theorem mem_run_iff {x : TableEffect} : x ∈ (r.run (es.take n)).2 ↔
    ∃ k, k < n ∧ HappensAt (fun r e => x ∈ (r.step e).2) r es k :=
  Machine.mem_run_take

/-! ## What has happened since -/

/-- Something of one kind happens at a moment, and nothing of another kind after it and before a
later moment. -/
structure Spans (P Q : TableRun → TableEvent → Prop) (r : TableRun) (es : List TableEvent)
    (m n : Nat) : Prop where
  before : m < n
  first : HappensAt P r es m
  since : ∀ k, m < k → k < n → ¬ HappensAt Q r es k

theorem HappensAt.of_event (h : HappensAt P r es n) (he : es[n]? = some e) :
    P (r.moment es n) e := by
  obtain ⟨e', he', h⟩ := h
  rw [he] at he'
  cases he'
  exact h

theorem spans_succ {Q : TableRun → TableEvent → Prop} : (∃ m, Spans P Q r es m (n + 1)) ↔
    HappensAt P r es n ∨ (∃ m, Spans P Q r es m n) ∧ ¬ HappensAt Q r es n := by
  constructor
  · rintro ⟨m, hm, hp, hq⟩
    rcases Nat.lt_succ_iff_lt_or_eq.1 hm with hlt | rfl
    · exact .inr ⟨⟨m, hlt, hp, fun k hk hkn => hq k hk (Nat.lt_succ_of_lt hkn)⟩,
        hq n hlt (Nat.lt_succ_self n)⟩
    · exact .inl hp
  · rintro (hp | ⟨⟨m, hm, hp, hq⟩, hn⟩)
    · exact ⟨n, Nat.lt_succ_self n, hp, fun k hk hkn => absurd hk (by omega)⟩
    · refine ⟨m, Nat.lt_succ_of_lt hm, hp, fun k hk hkn => ?_⟩
      rcases Nat.lt_succ_iff_lt_or_eq.1 hkn with hlt | rfl
      · exact hq k hk hlt
      · exact hn

/-- A condition that steps of one kind bring about, and steps of another kind end, holds at a moment
if there was a step of the first kind and none of the second since. -/
theorem spans_iff {Q : TableRun → TableEvent → Prop} {S : TableRun → Prop} (h : ¬ S r)
    (hstep : ∀ n e, es[n]? = some e → (S (r.moment es (n + 1)) ↔
      P (r.moment es n) e ∨ S (r.moment es n) ∧ ¬ Q (r.moment es n) e)) (n : Nat) :
    (∃ m, Spans P Q r es m n) ↔ S (r.moment es n) := by
  induction n with
  | zero =>
    refine ⟨fun ⟨m, hm⟩ => absurd hm.before (Nat.not_lt_zero m), fun hs => absurd hs h⟩
  | succ n ih =>
    rw [spans_succ, ih]
    cases he : es[n]? with
    | none =>
      rw [moment_end r he]
      simp [HappensAt, he]
    | some e =>
      rw [hstep n e he]
      simp [HappensAt, he]

end TableRun

end SlotBroker
