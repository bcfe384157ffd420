import SlotBroker.Proofs.Registry.Run

/-!
# How a create goes on

A create waits for its location, seeks its backend there, attaches, and undoes the attach if the
registry was closed meanwhile. `Segment.creating` tells, for a create that is at some stage after a
step, how it came there. Other calls are never moved by a step of one.
-/

namespace SlotBroker

/-- A create that holds its location and has no handle under way yet. -/
def CreateStage.seeks : CreateStage → Prop
  | .resolving _ | .asking _ | .fetching _ _ | .loading _ _ => True
  | _ => False

namespace Registry

variable {r r' : Registry} {e : Event} {fx : List Effect} {id i : CallId}

/-- How a create came to its stage in a step. -/
inductive Creates (r : Registry) (e : Event) (fx : List Effect) (i : CallId) (l : Location) :
    CreateStage → Prop
  | same {s} (h : r.stage? i = some (.creating l s)) : Creates r e fx i l s
  | made (hi : i = r.nextCall) (ho : r.closed = false) : Creates r e fx i l .locking
  | joins {cell} (h : r.stage? i = some (.creating l .locking)) (hh : r.holder? l = some i)
      (ho : r.closed = false)
      (hp : r.policy.allowMultipleSessions = false → r.sessionAt? l = none) :
      Creates r e fx i l (.resolving cell)
  | seeks {s s'} (h : r.stage? i = some (.creating l s)) (hs : s.seeks) (hs' : s'.seeks) :
      Creates r e fx i l s'
  | attaches {s name b} (h : r.stage? i = some (.creating l s)) (hs : s.seeks)
      (hfx : fx = [.attach i ⟨r.nextOid⟩ b l]) : Creates r e fx i l (.attaching name b ⟨r.nextOid⟩)
  | undoes {name b oid h now} (hs : r.stage? i = some (.creating l (.attaching name b oid)))
      (hc : r.closed = true) (he : e = .attached i (.ok h) now) : Creates r e fx i l (.undoing b h)

/-! ## Listings and shutdowns move no create -/

theorem Unloads.stage? {errors : List BrokerError} {cells : List Nat}
    (h : Unloads r id errors cells r' fx) (hi : i ≠ id) : r'.stage? i = r.stage? i := by
  cases h <;> simp [Ne.symm hi]

theorem Releases.stage? {errors : List BrokerError} {oids : List Oid}
    (h : Releases r id errors oids r' fx) (hi : i ≠ id) : r'.stage? i = r.stage? i := by
  cases h with
  | stands => simp [Ne.symm hi]
  | unloads _ h => rw [h.stage? hi, stage?_emptied]

theorem Drains.stage? {ls : List Location} (h : Drains r id ls r' fx) (hi : i ≠ id) :
    r'.stage? i = r.stage? i := by
  cases h with
  | stands => simp [Ne.symm hi]
  | releases h => exact h.stage? hi

theorem Lists.stage? {parts : List (Location × Part)} (h : Lists r id parts r' fx) (hi : i ≠ id) :
    r'.stage? i = r.stage? i := by
  cases h <;> simp [Ne.symm hi]

theorem Lists.stage?_self {parts : List (Location × Part)} {s : Stage}
    (h : Lists r id parts r' fx) (hs : r'.stage? id = some s) : ∃ parts, s = .listing parts := by
  cases h with
  | waits =>
    simp only [stage?_setStage, if_true, Option.some.injEq] at hs
    exact ⟨_, hs.symm⟩
  | ends => simp at hs

theorem Unloads.stage?_self {errors : List BrokerError} {cells : List Nat} {s : Stage}
    (h : Unloads r id errors cells r' fx) (hs : r'.stage? id = some s) :
    ∃ b rest, s = .unloading b rest errors := by
  cases h with
  | next =>
    simp only [stage?_setStage, if_true, Option.some.injEq] at hs
    exact ⟨_, _, hs.symm⟩
  | ends => simp at hs

variable {l : Location} {s : CreateStage}

theorem Unloads.not_creating {errors : List BrokerError} {cells : List Nat}
    (h : Unloads r id errors cells r' fx) : r'.stage? id ≠ some (.creating l s) := by
  intro hs
  obtain ⟨_, _, hs⟩ := h.stage?_self hs
  cases hs

theorem Releases.not_creating {errors : List BrokerError} {oids : List Oid}
    (h : Releases r id errors oids r' fx) : r'.stage? id ≠ some (.creating l s) := by
  cases h with
  | stands => simp
  | unloads _ h => exact h.not_creating

theorem Drains.not_creating {ls : List Location} (h : Drains r id ls r' fx) :
    r'.stage? id ≠ some (.creating l s) := by
  cases h with
  | stands => simp
  | releases h => exact h.not_creating

theorem Lists.not_creating {parts : List (Location × Part)} (h : Lists r id parts r' fx) :
    r'.stage? id ≠ some (.creating l s) := by
  intro hs
  obtain ⟨_, hs⟩ := h.stage?_self hs
  cases hs

/-- Where a call is after a step it was before, if the step moves another one. -/
theorem stage?_aside {r₁ : Registry} {s : Stage} (hi : r'.stage? i = some s)
    (hid : r'.stage? id ≠ some s) (hs : i ≠ id → r'.stage? i = r₁.stage? i)
    (h₁ : r₁.stage? i = r.stage? i) : r.stage? i = some s := by
  have hne : i ≠ id := fun h => hid (h ▸ hi)
  rw [← h₁, ← hs hne, hi]

/-! ## What a step does to a create -/

theorem Segment.creating (hg : Segment r e r' fx) (hi : r'.stage? i = some (.creating l s)) :
    Creates r e fx i l s := by
  -- A call that moves but is no create leaves every create where it is.
  have other {id : CallId} (hn : r'.stage? id ≠ some (.creating l s))
      (hs : i ≠ id → r'.stage? i = r.stage? i) : Creates r e fx i l s := by
    have hne : i ≠ id := fun h => hn (h ▸ hi)
    exact .same (by rw [← hs hne, hi])
  cases hg with
  | idle | reset => exact .same hi
  | shutdownMade h => exact other h.not_creating h.stage?
  | drained _ _ h => exact other h.not_creating fun hi => by rw [h.stage? hi, stage?_leaveLine]
  | releaseGone _ _ _ h | releaseFailed _ h =>
    exact other h.not_creating fun hi => by rw [h.stage? hi, stage?_leaveLine]
  | released _ h =>
    exact other h.not_creating fun hi => by
      rw [h.stage? hi, stage?_leaveLine, stage?_eraseSession]
  | unloaded _ h | unloadFailed _ h => exact other h.not_creating h.stage?
  | enumerated _ h | partReady _ _ _ h | partResolved _ _ h => exact other h.not_creating h.stage?
  | _ =>
    simp at hi
    grind [Creates, CreateStage.seeks]

theorem Creates.head (ho : Orderly r) (h : Creates r e fx i l s) (hs : s ≠ .locking) :
    (r.line l).head? = some i := by
  cases h with
  | same h => exact ho.head h (by cases s <;> first | rfl | exact absurd rfl hs)
  | made => exact absurd rfl hs
  | joins _ hh => rwa [← holder?_eq]
  | @seeks s₀ _ h hs₀ => exact ho.head h (by cases s₀ <;> first | rfl | exact hs₀.elim)
  | @attaches s₀ _ _ h hs₀ => exact ho.head h (by cases s₀ <;> first | rfl | exact hs₀.elim)
  | undoes h => exact ho.head h rfl

/-! ## How an attach ends -/

theorem step_attached_late {name : BackendName} {b : InstanceId} {oid : Oid}
    (hs : r.stage? i = some (.creating l (.attaching name b oid))) (hc : r.closed = true)
    (h : Handle) (now : Time.Instant) :
    r.step (.attached i (.ok h) now) =
      (r.setStage i (.creating l (.undoing b h)), [.detach i b h]) := by
  have hs' : Assoc.get? i r.calls = some (.creating l (.attaching name b oid)) := hs
  simp only [step, hs', createAttached, hc, if_true]

theorem step_committed {name : BackendName} {b : InstanceId} {oid : Oid}
    (hs : r.stage? i = some (.creating l (.attaching name b oid))) (hc : r.closed = false)
    (h : Handle) (now : Time.Instant) :
    r.step (.attached i (.ok h) now) =
      (((r.addSession ⟨⟨oid, l, name, h, now⟩, b⟩).leaveLine l i).endCall i,
        [.reply i (.created (.ok ⟨oid, l, name, h, now⟩))]) := by
  have hs' : Assoc.get? i r.calls = some (.creating l (.attaching name b oid)) := hs
  simp only [step, hs', createAttached, hc, endCreate, Bool.false_eq_true, if_false]

end Registry

end SlotBroker
