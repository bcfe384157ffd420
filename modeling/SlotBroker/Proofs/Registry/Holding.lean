import Mathlib.Logic.Function.Basic
import SlotBroker.Proofs.Registry.Ending
import SlotBroker.Proofs.Registry.Releasing

/-!
# Who holds which handle

A handle that was attached belongs to a live session, or to a call that has still to detach it: a
create that undoes its attach, or the background call that does so for a create that was given up.
`Registry.holding` tells what each of them holds. Only four kinds of events change it: an attach
gives somebody a handle (`holding_attached`), a detach takes one away (`holding_detached`), giving a
create up hands its handle on (`holding_dropped`), and nothing else does anything
(`Segment.holding`).
-/

namespace SlotBroker

/-- Who may hold a handle. -/
inductive Owner
  | session (oid : Oid)
  | call (id : CallId)
  deriving DecidableEq

/-- A handle of a backend, and the location where it is attached if its owner knows. -/
structure Holding where
  backend : InstanceId
  handle : Handle
  location : Option Location

def LiveSession.holding (x : LiveSession) : Holding :=
  ⟨x.backend, x.info.handle, some x.info.location⟩

/-- The handle that a call has still to detach, and that no session has. -/
def Stage.holding : Stage → Option Holding
  | .creating l (.undoing b h) => some ⟨b, h, some l⟩
  | .reclaiming b h _ => some ⟨b, h, none⟩
  | _ => none

/-- Whose handle a call is detaching. -/
def Stage.frees? (id : CallId) : Stage → Option Owner
  | .creating _ (.undoing _ _) => some (.call id)
  | .reclaiming _ _ true => some (.call id)
  | .removing oid _ true => some (.session oid)
  | .releasing oid _ true _ _ => some (.session oid)
  | _ => none

theorem Stage.frees?_inv {s : Stage} {id : CallId} {o : Owner} (h : s.frees? id = some o) :
    o = .call id ∧ s.holding ≠ none ∨ ∃ oid, o = .session oid ∧ s.detaches? = some oid := by
  unfold frees? at h
  split at h
  · exact .inl ⟨(Option.some.inj h).symm, Option.some_ne_none _⟩
  · exact .inl ⟨(Option.some.inj h).symm, Option.some_ne_none _⟩
  · exact .inr ⟨_, (Option.some.inj h).symm, rfl⟩
  · exact .inr ⟨_, (Option.some.inj h).symm, rfl⟩
  · cases h

namespace Registry

def holding (r : Registry) : Owner → Option Holding
  | .session oid => (r.find? oid).map LiveSession.holding
  | .call id => (r.stage? id).bind Stage.holding

/-- A call has asked a backend to detach a handle, and waits for the answer. -/
def Asks (r : Registry) (i : CallId) (b : InstanceId) (h : Handle) : Prop :=
  ∃ s o c, r.stage? i = some s ∧ s.frees? i = some o ∧ r.holding o = some c ∧ c.backend = b ∧
    c.handle = h

/-- The event is none that could give a handle to anybody or take one away. -/
def Quiet (r : Registry) : Event → Prop
  | .attached _ _ _ | .detached _ _ => False
  | .drop id _ => r.holding (.call id) = none
  | _ => True

variable {r r' : Registry} {e : Event} {fx : List Effect} {id i j : CallId} {l : Location}
  {name : BackendName} {b : InstanceId} {h : Handle} {oid : Oid} {s s' : Stage} {o : Owner}

theorem holding_call (hs : r.stage? i = some s) : r.holding (.call i) = s.holding := by
  simp only [holding, hs, Option.bind_some]

theorem holding_call_none (hs : r.stage? i = none) : r.holding (.call i) = none := by
  simp only [holding, hs, Option.bind_none]

theorem holding_session {x : LiveSession} (hx : Sorted r.sessions) (hm : x ∈ r.sessions) :
    r.holding (.session x.info.oid) = some x.holding := by
  simp only [holding, find?, hx.find? hm, Option.map_some]

theorem session_of_holding {c : Holding} (hc : r.holding (.session oid) = some c) :
    ∃ x ∈ r.sessions, x.info.oid = oid ∧ x.holding = c := by
  obtain ⟨x, hx, rfl⟩ := Option.map_eq_some_iff.1 hc
  obtain ⟨hm, ho⟩ := mem_of_find? hx
  exact ⟨x, hm, ho, rfl⟩

theorem holding_congr (hs : r'.sessions = r.sessions)
    (hc : ∀ i, r'.holding (.call i) = r.holding (.call i)) : r'.holding = r.holding := by
  funext o
  cases o with
  | session oid => simp only [holding, find?, hs]
  | call i => exact hc i

/-! ## Events that change nothing -/

theorem holding_moved (hs : ∀ s, r.stage? j = some s → s.holding = none)
    (hs' : ∀ s, r'.stage? j = some s → s.holding = none)
    (hr : i ≠ j → r'.stage? i = r.stage? i) : r'.holding (.call i) = r.holding (.call i) := by
  by_cases hij : i = j
  · subst hij
    cases h : r.stage? i <;> cases h' : r'.stage? i <;> simp_all [holding]
  · simp only [holding, hr hij]

theorem Stage.holding_of_undrained? {ls : List Location} (h : s.undrained? = some ls) :
    s.holding = none := by
  cases s <;> first | rfl | cases h

theorem Segment.holding_call (ho : Orderly r) (hq : Quiet r e) (hg : Segment r e r' fx) :
    r'.holding (.call i) = r.holding (.call i) := by
  have here {j : CallId} {s₀ : Stage} (hj : r.stage? j = some s₀) (hn : s₀.holding = none) :
      ∀ s, r.stage? j = some s → s.holding = none :=
    fun s hs => Option.some.inj (hj.symm.trans hs) ▸ hn
  cases hg with
  | shutdownMade h =>
    refine holding_moved (j := r.nextCall) (by simp [ho.not_made]) (fun s hs => ?_) h.stage?
    exact Stage.holding_of_undrained? (h.undrained hs)
  | drained hj _ h =>
    exact holding_moved (here hj rfl)
      (fun s hs => Stage.holding_of_undrained? (h.undrained hs)) h.stage?
  | releaseGone hj _ _ h =>
    exact holding_moved (here hj rfl)
      (fun s hs => Stage.holding_of_undrained? (h.undrained hs)) h.stage?
  | unloaded hj h | unloadFailed hj h =>
    refine holding_moved (here hj rfl) (fun s hs => ?_) h.stage?
    obtain ⟨_, _, rfl⟩ := h.stage?_self hs
    rfl
  | enumerated hj h | partReady hj _ _ h | partResolved hj _ h =>
    refine holding_moved (here hj rfl) (fun s hs => ?_) h.stage?
    obtain ⟨_, rfl⟩ := h.stage?_self hs
    rfl
  | idle | reset | refused => rfl
  | attachFailed | attachedLate | committed | undone | removed | removeFailed | released
  | releaseFailed | reclaimed => exact hq.elim
  | dropUndoing hs | dropUntended hs => simp [Quiet, holding_call hs, Stage.holding] at hq
  | dropAlone hs hl =>
    rcases hl with rfl | ⟨_, _, _, rfl⟩ | ⟨_, _, _, rfl⟩
    · exact holding_moved (here hs rfl) (by simp) fun hi => by simp [Ne.symm hi]
    · exact holding_moved (here hs rfl) (by simp) fun hi => by simp [Ne.symm hi]
    · simp [Quiet, Registry.holding_call hs, Stage.holding] at hq
  | _ =>
    have hi := ho.not_made
    simp [Registry.holding]
    grind [Stage.holding]

theorem Quiet.releasable (hq : Quiet r e) : Releasable r e := by
  rintro i oid l rest errors x rfl
  exact hq.elim

/-- Nobody gets a handle or loses one at a quiet event. -/
theorem Segment.holding (hc : Covered r) (ho : Orderly r) (hq : Quiet r e)
    (hg : Segment r e r' fx) : r'.holding = r.holding := by
  refine holding_congr ?_ fun i => hg.holding_call ho hq
  cases hg.exact hc ho hq.releasable with
  | same h => exact h
  | commits he | ends he =>
    subst he
    exact hq.elim

/-! ## Attaching -/

/-- A handle that is attached goes to the session that the create commits, or to the create itself
if the registry was closed meanwhile. -/
theorem holding_attached (hs : r.stage? i = some (.creating l (.attaching name b oid)))
    (hf : r.find? oid = none) (now : Time.Instant) : ∃ o, r.holding o = none ∧
      (r.step (.attached i (.ok h) now)).1.holding =
        Function.update r.holding o (some ⟨b, h, some l⟩) := by
  cases hc : r.closed with
  | true =>
    refine ⟨.call i, holding_call hs, ?_⟩
    rw [step_attached_late hs hc]
    funext o
    cases o with
    | session => rfl
    | call j =>
      by_cases hj : i = j
      · subst hj
        simp [holding, Stage.holding]
      · rw [Function.update_of_ne (by simpa using Ne.symm hj)]
        simp [holding, hj]
  | false =>
    refine ⟨.session oid, by simp [holding, hf], ?_⟩
    rw [step_committed hs hc]
    funext o
    cases o with
    | session oid' =>
      simp only [holding, find?, endCall_frame, leaveLine_frame, addSession_frame,
        find?_insertSession]
      by_cases ho : oid = oid'
      · subst ho
        simp [LiveSession.holding]
      · rw [Function.update_of_ne (by simpa using Ne.symm ho)]
        simp [ho, holding, find?]
    | call j =>
      rw [Function.update_of_ne (by simp)]
      by_cases hj : i = j
      · subst hj
        simp [holding, hs, Stage.holding]
      · simp [holding, hj]

/-! ## Detaching -/

theorem holding_ended (hs : r'.sessions = r.sessions)
    (hc : ∀ j, r'.stage? j = if i = j then none else r.stage? j) :
    r'.holding = Function.update r.holding (.call i) none := by
  funext o
  cases o with
  | session => simp [holding, find?, hs]
  | call j =>
    by_cases hj : i = j
    · subst hj
      simp [holding, hc]
    · rw [Function.update_of_ne (by simpa using Ne.symm hj)]
      simp [holding, hc, hj]

theorem holding_erased (hs : r'.sessions = (r.eraseSession oid).sessions)
    (hc : ∀ j, r'.holding (.call j) = r.holding (.call j)) :
    r'.holding = Function.update r.holding (.session oid) none := by
  funext o
  cases o with
  | session oid' =>
    have hf : r'.find? oid' = (r.eraseSession oid).find? oid' := by simp only [find?, hs]
    by_cases ho : oid = oid'
    · subst ho
      simp [holding, hf, find?_eraseSession]
    · rw [Function.update_of_ne (by simpa using Ne.symm ho)]
      simp [holding, hf, find?_eraseSession, ho]
  | call j => simp [hc]

/-- A handle that is detached is nobody's any more. -/
theorem holding_detached {a : Except BackendError Unit} (hc : Covered r)
    (hs : r.stage? i = some s) (hf : s.frees? i = some o) (ha : a = .ok () ∨ o = .call i) :
    (r.step (.detached i a)).1.holding = Function.update r.holding o none := by
  have hs' : Assoc.get? i r.calls = some s := hs
  unfold Stage.frees? at hf
  split at hf <;> cases hf
  · simp only [step, hs']
    exact holding_ended rfl (by simp [endCreate])
  · simp only [step, hs']
    exact holding_ended rfl (by simp)
  · rename_i oid l
    obtain rfl := ha.resolve_right Owner.noConfusion
    rw [step_removed hs]
    refine holding_erased rfl fun j => holding_moved (j := i) ?_ (by simp) fun hj => ?_
    · simp [hs, Stage.holding]
    · simp [Ne.symm hj]
  · rename_i oid l rest errors
    obtain rfl := ha.resolve_right Owner.noConfusion
    have hr := step_released hs
    have hcov := hc _ _ _ hs rfl
    refine holding_erased (hr.covers fun x hx => ?_).1 fun j => ?_
    · exact Passes.covers (.released rfl) (fun _ _ _ _ _ _ he => by cases he) hs hcov x hx
    · refine holding_moved (j := i) (by simp [hs, Stage.holding]) (fun s hs => ?_) hr.stage?
      exact Stage.holding_of_undrained? (hr.undrained hs)

/-! ## Giving up -/

/-- The handle of a create that is given up goes to the background call that is made for it. -/
theorem holding_dropped (ho : Orderly r) (hs : r.stage? i = some (.creating l (.undoing b h))) :
    (r.step (.drop i true)).1.holding =
      Function.update (Function.update r.holding (.call i) none) (.call r.nextCall)
        (some ⟨b, h, none⟩) := by
  have hs' : Assoc.get? i r.calls = some (.creating l (.undoing b h)) := hs
  have hi : i ≠ r.nextCall := Nat.ne_of_lt (ho.fresh hs)
  simp only [step, hs', dropAt, reclaim, if_true]
  funext o
  cases o with
  | session => rfl
  | call j =>
    by_cases hj : r.nextCall = j
    · subst hj
      simp [holding, Stage.holding]
    · rw [Function.update_of_ne (by simpa using Ne.symm hj)]
      by_cases hij : i = j
      · subst hij
        simp [holding, hj]
      · rw [Function.update_of_ne (by simpa using Ne.symm hij)]
        simp [holding, hj, hij]

/-! ## Detaches under way -/

/-- A call that waits for a detach goes on waiting until it has the answer or is given up. -/
theorem Segment.frees (ho : Orderly r) (hg : Segment r e r' fx) (hs : r.stage? i = some s)
    (hf : s.frees? i = some o) :
    r'.stage? i = some s ∨ (∃ a, e = .detached i a) ∨ ∃ tending, e = .drop i tending := by
  have aside {j : CallId} {s₀ : Stage} {r₀ : Registry} (hj : r.stage? j = some s₀)
      (hn : s₀.frees? j = none) (hr : i ≠ j → r'.stage? i = r₀.stage? i)
      (hr₀ : r₀.stage? i = r.stage? i) : r'.stage? i = some s := by
    have hij : i ≠ j := by
      rintro rfl
      rw [Option.some.inj (hs.symm.trans hj), hn] at hf
      cases hf
    rw [hr hij, hr₀, hs]
  have moved {j : CallId} {r₀ : Registry} (hr : i ≠ j → r'.stage? i = r₀.stage? i)
      (hr₀ : r₀.stage? i = r.stage? i) : r'.stage? i = some s ∨ i = j := by
    by_cases hij : i = j
    · exact .inr hij
    · exact .inl (by rw [hr hij, hr₀, hs])
  cases hg with
  | shutdownMade hd => exact .inl ((hd.stage? (Nat.ne_of_lt (ho.fresh hs))).trans hs)
  | drained hj _ hd => exact .inl (aside hj rfl hd.stage? rfl)
  | releaseGone hj _ _ hd => exact .inl (aside hj rfl hd.stage? rfl)
  | released _ hd | releaseFailed _ hd =>
    rcases moved hd.stage? rfl with hi | rfl
    · exact .inl hi
    · exact .inr (.inl ⟨_, rfl⟩)
  | unloaded hj hd | unloadFailed hj hd => exact .inl (aside hj rfl hd.stage? rfl)
  | enumerated hj hd | partReady hj _ _ hd | partResolved hj _ hd =>
    exact .inl (aside hj rfl hd.stage? rfl)
  | idle | reset | refused => exact .inl hs
  | _ =>
    have hi := Nat.ne_of_lt (ho.fresh hs)
    simp
    grind [Stage.frees?]

/-- No two calls are detaching the handle of one owner. -/
theorem Numbered.frees_unique (hn : Numbered r) (hs : r.stage? i = some s)
    (hf : s.frees? i = some o) (hs' : r.stage? j = some s') (hf' : s'.frees? j = some o) :
    i = j := by
  rcases Stage.frees?_inv hf with ⟨rfl, -⟩ | ⟨oid, rfl, hd⟩
  · rcases Stage.frees?_inv hf' with ⟨h, -⟩ | ⟨_, h, -⟩ <;> cases h
    rfl
  · rcases Stage.frees?_inv hf' with ⟨h, -⟩ | ⟨_, h, hd'⟩ <;> cases h
    exact hn.once hs hd hs' hd'

/-- Whoever asks a backend to detach a handle waits for the answer, and the handle has its owner. -/
theorem Segment.asks (hg : Segment r e r' fx) (hx : .detach i b h ∈ fx) : Asks r' i b h := by
  cases hg with
  | attachedLate | reclaims =>
    simp only [List.mem_singleton, Effect.detach.injEq] at hx
    obtain ⟨rfl, rfl, rfl⟩ := hx
    have hs := stage?_setStage_self
    refine ⟨_, .call _, _, hs _ _ r, rfl, Registry.holding_call (hs _ _ r), ?_, ?_⟩ <;> rfl
  | @removeDetaches t oid l x _ _ hf | @releaseDetaches t oid l _ _ x _ _ hf =>
    simp only [List.mem_singleton, Effect.detach.injEq] at hx
    obtain ⟨rfl, rfl, rfl⟩ := hx
    exact ⟨_, .session oid, x.holding, stage?_setStage_self _ _ _, rfl,
      congrArg (Option.map LiveSession.holding) hf, rfl, rfl⟩
  | refused h => cases h <;> simp at hx
  | enumerated _ h | partReady _ _ _ h | partResolved _ _ h => exact (h.wide hx).elim
  | unloaded _ h | unloadFailed _ h => exact (h.wide hx).elim
  | shutdownMade h | drained _ _ h | releaseGone _ _ _ h | released _ h | releaseFailed _ h =>
    exact (h.wide hx).elim
  | _ => simp at hx

theorem Asks.segment (ha : Asks r i b h) (ho : Orderly r) (hg : Segment r e r' fx)
    (hd : ∀ a, e ≠ .detached i a) (hp : ∀ tending, e ≠ .drop i tending)
    (hh : ∀ s o c, r.stage? i = some s → s.frees? i = some o → r.holding o = some c →
      r'.holding o = some c) : Asks r' i b h := by
  obtain ⟨s, o, c, hs, hf, hc, hcb, hch⟩ := ha
  rcases hg.frees ho hs hf with hs' | ⟨a, he⟩ | ⟨t, he⟩
  · exact ⟨s, o, c, hs', hf, hh s o c hs hf hc, hcb, hch⟩
  · exact absurd he (hd a)
  · exact absurd he (hp t)

end Registry

end SlotBroker
