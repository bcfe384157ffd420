import Mathlib.Data.List.DropRight
import Mathlib.Data.List.Nodup
import SlotBroker.Backend.SimulatedRun
import SlotBroker.Proofs.Backend.Simulated

/-!
# The account of a simulated backend

The answers that a simulated backend has given tell which handles are attached: those that were
given out and were neither detached nor swept away by an unloading since (`Live`). The backend is
compared with its answers after each step (`Counted`). As long as the counter has not come round,
the handles given out are the numbers from one on, so the next one is not attached and what is
attached can be counted.

An attach that is given up is told by what the run would be without it: the backend and all answers
are the same, since two runs that differ in one attach that waits go on alike until that attach is
answered (`Alike`).
-/

namespace SlotBroker

namespace SimulatedEffect

/-- The handle that an attach was given. -/
def returned? : SimulatedEffect → Option Handle
  | attached _ h => some h
  | _ => none

/-- The handle that was detached, if a detach succeeded. -/
def released? : SimulatedEffect → Option Handle
  | detached h (.ok ()) => some h
  | _ => none

def isUnloaded : SimulatedEffect → Bool
  | unloaded => true
  | _ => false

end SimulatedEffect

namespace SimulatedRun

/-- The handles that were given out, in order. -/
def returned (fx : List SimulatedEffect) : List Handle := fx.filterMap SimulatedEffect.returned?

/-- The handles that were detached, in order. -/
def released (fx : List SimulatedEffect) : List Handle := fx.filterMap SimulatedEffect.released?

/-- What was answered after the last unloading. -/
def sinceUnload (fx : List SimulatedEffect) : List SimulatedEffect :=
  fx.rtakeWhile fun x => !x.isUnloaded

/-- A handle was given out, and since then it was not detached and the backend was not unloaded. -/
def Live (h : Handle) (fx : List SimulatedEffect) : Prop :=
  ∃ before id after, fx = before ++ .attached id h :: after ∧
    .unloaded ∉ after ∧ h ∉ released after

/-- What the answers of a run tell of the backend after it, and of what it answers next. -/
structure Accounted (r : SimulatedRun) (es : List SimulatedEvent) : Prop where
  /-- No handle is given out twice. -/
  distinct : (returned (r.run es).2).Nodup
  /-- An attach whose latency is over is given a new handle, and its location is attached by it. -/
  attaches : ∀ {id l}, Assoc.get? id (r.run es).1.waiting = some l →
    ∃ h, ((r.run es).1.step (.elapse id)).2 = [.attached id h] ∧ h ∉ returned (r.run es).2 ∧
      Assoc.get? h.id ((r.run es).1.step (.elapse id)).1.backend.attached = some l
  /-- To detach succeeds exactly for the handles that are live. -/
  detaches : ∀ h, ((r.run es).1.step (.detach h)).2 = [.detached h (.ok ())] ↔ Live h (r.run es).2
  /-- For any other handle it fails and nothing is changed. -/
  refuses : ∀ h, ¬ Live h (r.run es).2 → (r.run es).1.step (.detach h) =
    ((r.run es).1, [.detached h (.error ⟨r.backend.name.text, .invalidHandle,
      s!"handle {Text.decimal h.id.toNat} is not attached"⟩)])
  /-- A run in which an attach is given up is as it would be if that attach had not been asked
  for. -/
  traceless : ∀ {es₁ es₂ es₃ id l}, es = es₁ ++ .attach id l :: (es₂ ++ .drop id :: es₃) →
    .elapse id ∉ es₂ → (r.run (es₁ ++ (es₂ ++ .drop id :: es₃))).2 = (r.run es).2 ∧
      (r.run (es₁ ++ (es₂ ++ .drop id :: es₃))).1.backend = (r.run es).1.backend
  /-- What is attached are the attaches since the last unloading, less the detaches. -/
  size : (r.run es).1.backend.size + (released (sinceUnload (r.run es).2)).length =
    (returned (sinceUnload (r.run es).2)).length

/-- What an event can do to the backend, and what is answered. -/
inductive Change (b : SimulatedBackend) : SimulatedBackend → List SimulatedEffect → Prop
  | rests : Change b b []
  | attaches {id l} : Change b (b.attach l).1 [.attached id ⟨b.next⟩]
  | detaches {h l} (ha : Assoc.get? h.id b.attached = some l) :
      Change b (b.detach h).1 [.detached h (.ok ())]
  | refuses {h x} (ha : Assoc.get? h.id b.attached = none) : Change b b [.detached h (.error x)]
  | unloads : Change b b.unload [.unloaded]

variable {r r' : SimulatedRun} {b b' : SimulatedBackend} {e : SimulatedEvent}
  {es : List SimulatedEvent} {fx gx : List SimulatedEffect} {x : SimulatedEffect} {h : Handle}
  {id : CallId} {l : Location}

/-! ## Answers -/

theorem filterMap_concat (f : SimulatedEffect → Option Handle) :
    (fx ++ [x]).filterMap f = fx.filterMap f ++ (f x).toList := by
  rw [List.filterMap_append]
  cases hx : f x <;> simp [hx]

@[simp] theorem returned_concat : returned (fx ++ [x]) = returned fx ++ x.returned?.toList :=
  filterMap_concat _

@[simp] theorem released_concat : released (fx ++ [x]) = released fx ++ x.released?.toList :=
  filterMap_concat _

@[simp] theorem sinceUnload_concat : sinceUnload (fx ++ [x]) =
    if x.isUnloaded then [] else sinceUnload fx ++ [x] := by
  rw [sinceUnload, List.rtakeWhile_concat]
  cases x.isUnloaded <;> rfl

attribute [simp] SimulatedEffect.returned? SimulatedEffect.released? SimulatedEffect.isUnloaded

theorem Live.mem_returned (hl : Live h fx) : h ∈ returned fx := by
  obtain ⟨before, id, after, rfl, -, -⟩ := hl
  simp [returned]

theorem live_concat : Live h (fx ++ [x]) ↔ x.returned? = some h ∨
    Live h fx ∧ x.isUnloaded = false ∧ x.released? ≠ some h := by
  constructor
  · rintro ⟨before, id, after, hfx, hu, hr⟩
    rcases List.eq_nil_or_concat' after with rfl | ⟨after, y, rfl⟩
    · obtain ⟨-, rfl⟩ := List.append_singleton_inj.1 hfx
      exact .inl rfl
    · rw [← List.cons_append, ← List.append_assoc] at hfx
      obtain ⟨rfl, rfl⟩ := List.append_singleton_inj.1 hfx
      rw [released_concat] at hr
      refine .inr ⟨⟨before, id, after, rfl, ?_, ?_⟩, ?_, ?_⟩
      · exact fun hm => hu (List.mem_append_left _ hm)
      · exact fun hm => hr (List.mem_append_left _ hm)
      · cases x with
        | unloaded => exact absurd (List.mem_append_right _ List.mem_cons_self) hu
        | _ => rfl
      · intro hx
        rw [hx] at hr
        exact hr (List.mem_append_right _ List.mem_cons_self)
  · rintro (hx | ⟨⟨before, id, after, rfl, hu, hr⟩, hxu, hxr⟩)
    · cases x with
      | attached id h' =>
        cases hx
        exact ⟨fx, id, [], rfl, List.not_mem_nil, List.not_mem_nil⟩
      | _ => cases hx
    · refine ⟨before, id, after ++ [x], by simp, fun hm => ?_, fun hm => ?_⟩
      · rcases List.mem_append.1 hm with hm | hm
        · exact hu hm
        · obtain rfl := List.mem_singleton.1 hm
          cases hxu
      · rw [released_concat] at hm
        rcases List.mem_append.1 hm with hm | hm
        · exact hr hm
        · exact hxr (Option.mem_toList.1 hm)

/-! ## Steps -/

theorem step_elapse (hw : Assoc.get? id r.waiting = some l) : r.step (.elapse id) =
    ({ r.settle id with backend := (r.backend.attach l).1 }, [.attached id ⟨r.backend.next⟩]) := by
  simp only [step, hw]
  rfl

theorem step_detach_some (ha : Assoc.get? h.id r.backend.attached = some l) :
    r.step (.detach h) =
      ({ r with backend := (r.backend.detach h).1 }, [.detached h (.ok ())]) := by
  simp only [step, SimulatedBackend.detach_ok ha]

theorem step_detach_none (ha : Assoc.get? h.id r.backend.attached = none) :
    r.step (.detach h) = (r, [.detached h (.error ⟨r.backend.name.text, .invalidHandle,
      s!"handle {Text.decimal h.id.toNat} is not attached"⟩)]) := by
  simp only [step, SimulatedBackend.detach_none ha]

theorem step_change (r : SimulatedRun) (e : SimulatedEvent) :
    Change r.backend (r.step e).1.backend (r.step e).2 := by
  cases e with
  | attach id l => exact .rests
  | drop id => exact .rests
  | unload => exact .unloads
  | elapse id =>
    cases hw : Assoc.get? id r.waiting with
    | some l =>
      rw [step_elapse hw]
      exact .attaches
    | none =>
      simp only [step, hw]
      exact .rests
  | detach h =>
    cases ha : Assoc.get? h.id r.backend.attached with
    | some l =>
      rw [step_detach_some ha]
      exact .detaches ha
    | none =>
      rw [step_detach_none ha]
      exact .refuses ha

theorem Change.name (hc : Change b b' fx) : b'.name = b.name := by
  cases hc with
  | detaches ha => rw [SimulatedBackend.detach_some ha]
  | _ => rfl

@[simp] theorem run_nil (r : SimulatedRun) : r.run [] = (r, []) := rfl

theorem run_cons (r : SimulatedRun) (e : SimulatedEvent) (es : List SimulatedEvent) :
    r.run (e :: es) = (((r.step e).1.run es).1, (r.step e).2 ++ ((r.step e).1.run es).2) := rfl

theorem run_append (r : SimulatedRun) (es fs : List SimulatedEvent) :
    r.run (es ++ fs) = (((r.run es).1.run fs).1, (r.run es).2 ++ ((r.run es).1.run fs).2) :=
  Machine.run_append step r es fs

theorem name_run (r : SimulatedRun) (es : List SimulatedEvent) :
    (r.run es).1.backend.name = r.backend.name := by
  induction es generalizing r with
  | nil => rfl
  | cons e es ih => exact (ih (r.step e).1).trans (step_change r e).name

/-! ## The backend and its answers -/

/-- The backend has attached what is live, and the handles it has given out are counted. -/
structure Counted (b : SimulatedBackend) (fx : List SimulatedEffect) : Prop where
  numbered : (returned fx).map (fun h => h.id.toNat) = List.range' 1 (returned fx).length
  next : b.next.toNat = (returned fx).length + 1
  nodup : (Assoc.keys b.attached).Nodup
  live : ∀ {h : Handle}, h.id ∈ Assoc.keys b.attached ↔ Live h fx
  size : b.size + (released (sinceUnload fx)).length = (returned (sinceUnload fx)).length

namespace Counted

theorem load (name : BackendName) (latency : Time.Span) :
    Counted (SimulatedBackend.load name latency) [] where
  numbered := rfl
  next := rfl
  nodup := List.nodup_nil
  live := by simp [SimulatedBackend.load, Live]
  size := rfl

theorem distinct (hc : Counted b fx) : (returned fx).Nodup := by
  refine List.Nodup.of_map (fun h : Handle => h.id.toNat) ?_
  rw [hc.numbered]
  exact List.nodup_range'

/-- The next handle was not given out before. -/
theorem next_not_mem (hc : Counted b fx) : ⟨b.next⟩ ∉ returned fx := by
  intro hm
  have hr := List.mem_map_of_mem (f := fun h : Handle => h.id.toNat) hm
  rw [hc.numbered, List.mem_range'_1, hc.next] at hr
  omega

theorem get?_next (hc : Counted b fx) : Assoc.get? b.next b.attached = none :=
  Assoc.get?_eq_none fun hk => hc.next_not_mem (hc.live.1 hk).mem_returned

theorem live_iff (hc : Counted b fx) : Live h fx ↔ ∃ l, Assoc.get? h.id b.attached = some l := by
  rw [← hc.live, Assoc.mem_keys_iff, Option.isSome_iff_exists]

theorem attach (hc : Counted b fx) (hn : (returned fx).length + 2 < UInt64.size) :
    Counted (b.attach l).1 (fx ++ [.attached id ⟨b.next⟩]) where
  numbered := by
    simp only [returned_concat, SimulatedEffect.returned?, Option.toList_some, List.map_append,
      hc.numbered, List.length_append, List.length_singleton, List.range'_1_concat]
    simp [hc.next, Nat.add_comm]
  next := by
    have hb := hc.next
    rw [SimulatedBackend.next_attach (by omega), hb]
    simp
  nodup := Assoc.nodup_put hc.nodup
  live {h} := by
    have hk : h.id ∈ Assoc.keys (b.attach l).1.attached ↔
        h.id = b.next ∨ h.id ∈ Assoc.keys b.attached := Assoc.mem_keys_put
    have hh : h.id = b.next ↔ (⟨b.next⟩ : Handle) = h := by
      rw [← Handle.mk.injEq, eq_comm]
    rw [hk, hc.live, live_concat, hh]
    simp
  size := by
    have hs := hc.size
    have hb : b.size + 1 + (released (sinceUnload fx)).length =
        (returned (sinceUnload fx)).length + 1 := by omega
    rw [SimulatedBackend.size_attach hc.get?_next]
    simpa using hb

theorem detach (hc : Counted b fx) (ha : Assoc.get? h.id b.attached = some l) :
    Counted (b.detach h).1 (fx ++ [.detached h (.ok ())]) where
  numbered := by simpa using hc.numbered
  next := by
    rw [SimulatedBackend.next_detach, hc.next]
    simp
  nodup := by
    rw [SimulatedBackend.detach_some ha]
    exact Assoc.nodup_erase hc.nodup
  live {h'} := by
    have hh : h.id = h'.id ↔ h = h' := by rw [← Handle.mk.injEq]
    rw [Assoc.mem_keys_iff, SimulatedBackend.get?_detach, live_concat, ← hc.live,
      Assoc.mem_keys_iff]
    by_cases hne : h = h' <;> simp [hh, hne]
  size := by
    have hs := hc.size
    have hd := SimulatedBackend.size_detach hc.nodup ha
    have hb : (b.detach h).1.size + ((released (sinceUnload fx)).length + 1) =
        (returned (sinceUnload fx)).length := by omega
    simpa using hb

theorem refuse {x : BackendError} (hc : Counted b fx) :
    Counted b (fx ++ [.detached h (.error x)]) where
  numbered := by simpa using hc.numbered
  next := by simpa using hc.next
  nodup := hc.nodup
  live {h'} := by
    rw [hc.live, live_concat]
    simp
  size := by simpa using hc.size

theorem unload (hc : Counted b fx) : Counted b.unload (fx ++ [.unloaded]) where
  numbered := by simpa using hc.numbered
  next := hc.next.trans (by simp)
  nodup := List.nodup_nil
  live {h} := by
    rw [live_concat]
    simp [SimulatedBackend.unload]
  size := by
    rw [sinceUnload_concat]
    rfl

theorem change (hc : Counted b fx) (hb : Change b b' gx)
    (hn : (returned (fx ++ gx)).length + 1 < UInt64.size) : Counted b' (fx ++ gx) := by
  cases hb with
  | rests =>
    rw [List.append_nil]
    exact hc
  | attaches =>
    rw [returned_concat, List.length_append] at hn
    exact hc.attach hn
  | detaches ha => exact hc.detach ha
  | refuses => exact hc.refuse
  | unloads => exact hc.unload

theorem run (hc : Counted r.backend fx)
    (hn : (returned (fx ++ (r.run es).2)).length + 1 < UInt64.size) :
    Counted (r.run es).1.backend (fx ++ (r.run es).2) := by
  induction es generalizing r fx with
  | nil =>
    rw [run_nil, List.append_nil]
    exact hc
  | cons e es ih =>
    rw [run_cons, ← List.append_assoc] at hn ⊢
    refine ih (hc.change (step_change r e) ?_) hn
    rw [returned, List.filterMap_append, List.length_append] at hn
    exact Nat.lt_of_le_of_lt (Nat.succ_le_succ (Nat.le_add_right _ _)) hn

end Counted

/-! ## Attaches that are given up -/

/-- The backend is the same, and the same attaches wait as far as `P` goes. -/
structure Alike (P : CallId → Prop) (r r' : SimulatedRun) : Prop where
  backend : r'.backend = r.backend
  waiting : ∀ {i}, P i → Assoc.get? i r'.waiting = Assoc.get? i r.waiting

namespace Alike

variable {P : CallId → Prop}

theorem settle (ha : Alike P r r') (id : CallId) :
    Alike (fun i => P i ∨ i = id) (r.settle id) (r'.settle id) where
  backend := ha.backend
  waiting {i} hi := by
    simp only [SimulatedRun.settle, Assoc.get?_erase]
    split
    · rfl
    · rename_i hne
      exact ha.waiting (hi.resolve_right (Ne.symm hne))

theorem mono {Q : CallId → Prop} (ha : Alike P r r') (h : ∀ i, Q i → P i) : Alike Q r r' :=
  ⟨ha.backend, fun hi => ha.waiting (h _ hi)⟩

theorem step (ha : Alike P r r') (he : ∀ i, e = .elapse i → P i) :
    Alike P (r.step e).1 (r'.step e).1 ∧ (r'.step e).2 = (r.step e).2 := by
  cases e with
  | attach id l =>
    refine ⟨⟨ha.backend, fun hi => ?_⟩, rfl⟩
    simp only [SimulatedRun.step, Assoc.get?_put, ha.waiting hi]
  | drop id => exact ⟨(ha.settle id).mono fun _ => .inl, rfl⟩
  | detach h =>
    simp only [SimulatedRun.step, ha.backend]
    exact ⟨⟨rfl, ha.waiting⟩, trivial⟩
  | unload =>
    simp only [SimulatedRun.step, ha.backend]
    exact ⟨⟨rfl, ha.waiting⟩, trivial⟩
  | elapse id =>
    have hw := ha.waiting (he id rfl)
    cases hl : Assoc.get? id r.waiting with
    | some l =>
      rw [hl] at hw
      rw [step_elapse hl, step_elapse hw, ha.backend]
      exact ⟨⟨rfl, ((ha.settle id).mono fun _ => .inl).waiting⟩, rfl⟩
    | none =>
      rw [hl] at hw
      simp only [SimulatedRun.step, hl, hw]
      exact ⟨ha, trivial⟩

theorem run (ha : Alike P r r') (hes : ∀ i, .elapse i ∈ es → P i) :
    Alike P (r.run es).1 (r'.run es).1 ∧ (r'.run es).2 = (r.run es).2 := by
  induction es generalizing r r' with
  | nil => exact ⟨ha, rfl⟩
  | cons e es ih =>
    obtain ⟨hs, hfx⟩ := ha.step fun i hi => hes i (hi ▸ List.mem_cons_self)
    obtain ⟨hr, hgx⟩ := ih hs fun i hi => hes i (List.mem_cons_of_mem _ hi)
    simp only [run_cons]
    exact ⟨hr, by rw [hfx, hgx]⟩

end Alike

/-- Without an attach that is given up before its latency is over, a run is the same. -/
theorem run_dropped (r : SimulatedRun) (l : Location) (es : List SimulatedEvent)
    {fs : List SimulatedEvent} (hfs : .elapse id ∉ fs) :
    (r.run (fs ++ .drop id :: es)).2 = (r.run (.attach id l :: (fs ++ .drop id :: es))).2 ∧
      (r.run (fs ++ .drop id :: es)).1.backend =
        (r.run (.attach id l :: (fs ++ .drop id :: es))).1.backend := by
  have ha : Alike (· ≠ id) (r.step (.attach id l)).1 r := by
    refine ⟨rfl, fun {i} hi => ?_⟩
    simp only [step, Assoc.get?_put, if_neg (Ne.symm hi)]
  obtain ⟨hw, hfx⟩ := ha.run fun i hi hid => hfs (hid ▸ hi)
  -- Once the attach is given up, nothing that waits tells the two apart.
  have hd := (hw.settle id).mono (Q := fun _ => True) fun i _ => ne_or_eq i id
  have hes : ∀ i, .elapse i ∈ es → True := fun _ _ => trivial
  obtain ⟨hr, hgx⟩ := hd.run hes
  simp only [run_cons, run_append]
  refine ⟨?_, hr.backend⟩
  rw [hfx]
  exact congrArg _ hgx

/-! ## The account -/

namespace Counted

theorem attaches (hc : Counted r.backend fx) (hw : Assoc.get? id r.waiting = some l) :
    ∃ h, (r.step (.elapse id)).2 = [.attached id h] ∧ h ∉ returned fx ∧
      Assoc.get? h.id (r.step (.elapse id)).1.backend.attached = some l := by
  rw [step_elapse hw]
  refine ⟨⟨r.backend.next⟩, rfl, hc.next_not_mem, ?_⟩
  rw [SimulatedBackend.get?_attach, if_pos rfl]

theorem detaches (hc : Counted r.backend fx) :
    (r.step (.detach h)).2 = [.detached h (.ok ())] ↔ Live h fx := by
  rw [hc.live_iff]
  cases ha : Assoc.get? h.id r.backend.attached with
  | some l => simp [step_detach_some ha]
  | none => simp [step_detach_none ha]

theorem refuses (hc : Counted r.backend fx) (hl : ¬ Live h fx) : r.step (.detach h) =
    (r, [.detached h (.error ⟨r.backend.name.text, .invalidHandle,
      s!"handle {Text.decimal h.id.toNat} is not attached"⟩)]) := by
  refine step_detach_none (Option.eq_none_iff_forall_ne_some.2 fun l ha => ?_)
  exact hl (hc.live_iff.2 ⟨l, ha⟩)

end Counted

/-- As long as fewer handles were given out than the counter can count, the answers of a simulated
backend tell how much is attached in it, and which detaches succeed. -/
theorem handles_accounted (name : BackendName) (latency : Time.Span) (es : List SimulatedEvent)
    (h : (returned ((new name latency).run es).2).length < UInt64.size - 1) :
    Accounted (new name latency) es := by
  have hload : Counted (new name latency).backend [] := .load name latency
  have hc : Counted ((new name latency).run es).1.backend ((new name latency).run es).2 :=
    hload.run (Nat.add_lt_of_lt_sub h)
  refine ⟨hc.distinct, hc.attaches, fun _ => hc.detaches, fun hd hl => ?_, ?_, hc.size⟩
  · rw [hc.refuses hl, name_run]
  · rintro es₁ es₂ es₃ id l rfl hes
    obtain ⟨hfx, hb⟩ := run_dropped ((new name latency).run es₁).1 l es₃ hes
    rw [run_append _ es₁, run_append _ es₁]
    exact ⟨by rw [hfx], hb⟩

/-- One attach is given up while others go on, and handles are detached a second time, and after the
backend was unloaded. -/
def staleDetaches : List SimulatedEvent :=
  [.attach 0 ⟨"slot1"⟩, .attach 1 ⟨"slot2"⟩, .elapse 1, .drop 0, .detach ⟨1⟩, .detach ⟨1⟩,
    .attach 2 ⟨"slot1"⟩, .elapse 2, .unload, .detach ⟨2⟩, .attach 3 ⟨"slot1"⟩, .elapse 3]

theorem handles_accounted_stale :
    (returned ((new ⟨"vendor"⟩ default).run staleDetaches).2).length < UInt64.size - 1 ∧
    Accounted (new ⟨"vendor"⟩ default) staleDetaches :=
  ⟨by decide, handles_accounted _ _ _ (by decide)⟩

end SimulatedRun

end SlotBroker
