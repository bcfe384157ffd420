import SlotBroker.Proofs.Registry.Answers
import SlotBroker.Proofs.Registry.Moments

/-!
# The questions of a call

A list asks for the backends of all its locations at a time, and a create for that of one. `part?`
tells what a question has come to, whoever asks it. `Segment.resolves` lists what a step can do to
the questions and to the cells in which their answers are kept: one question moves on, or a call is
over and its questions leave their cells, or everything is forgotten.
-/

namespace SlotBroker

def CreateStage.part? : CreateStage → Option Part
  | .locking => some .fresh
  | .resolving cell => some (.waiting cell)
  | .asking cell => some (.asking cell)
  | .fetching name _ | .loading name _ | .attaching name _ _ => some (.named name)
  | .undoing _ _ => none

/-- What a question of a call has come to, and for which location it is. A create has only one. -/
def Stage.part? (k : Nat) : Stage → Option (Location × Part)
  | .listing parts => parts[k]?
  | .creating l s => if k = 0 then s.part?.map fun p => (l, p) else none
  | _ => none

namespace OnceMap

variable {κ α : Type} [DecidableEq κ] {m m' m'' : OnceMap κ Ticket α} {i : CallId}

/-- The questions of a call have left their cells, and nothing else has changed. -/
structure Left (i : CallId) (m m' : OnceMap κ Ticket α) : Prop where
  cellOf? : ∀ k, m'.cellOf? k = m.cellOf? k
  length : m'.cells.length = m.cells.length
  valueAt? : ∀ c, m'.valueAt? c = m.valueAt? c
  compute : ∀ {t c}, t.call ≠ i → m.turn t c = .compute → m'.turn t c = .compute

theorem Left.refl (i : CallId) (m : OnceMap κ Ticket α) : Left i m m :=
  ⟨fun _ => rfl, rfl, fun _ => rfl, fun _ h => h⟩

theorem Left.trans (h : Left i m m') (h' : Left i m' m'') : Left i m m'' where
  cellOf? k := (h'.cellOf? k).trans (h.cellOf? k)
  length := h'.length.trans h.length
  valueAt? c := (h'.valueAt? c).trans (h.valueAt? c)
  compute ht hc := h'.compute ht (h.compute ht hc)

theorem left_leave (i : CallId) (k c : Nat) (m : OnceMap κ Ticket α) :
    Left i m (m.leave ⟨i, k⟩ c) where
  cellOf? _ := rfl
  length := length_modifyCell
  valueAt? _ := valueAt?_leave
  compute ht := compute_leave fun h => ht (congrArg Ticket.call h)

theorem Left.apart (h : Left i m m') (hm : Apart m) : Apart m' where
  lt hk := by
    rw [h.cellOf?] at hk
    rw [h.length]
    exact hm.lt hk
  inj hk hk' := by
    rw [h.cellOf?] at hk hk'
    exact hm.inj hk hk'

end OnceMap

namespace Registry

/-- What a question has come to, and for which location it is. -/
def part? (t : Ticket) (r : Registry) : Option (Location × Part) :=
  (r.stage? t.call).bind (Stage.part? t.part)

/-- The platform has been asked, and has not yet answered. -/
def InFlight (t : Ticket) (l : Location) (r : Registry) : Prop :=
  ∃ cell, r.part? t = some (l, .asking cell)

/-- The question that an answer is for. -/
def asker (t : Ticket) (r : Registry) : Ticket :=
  match r.stage? t.call with
  | some (.creating _ _) => ⟨t.call, 0⟩
  | _ => t

/-- A question is answered with the name of a backend. -/
def Succeeds (t : Ticket) (l : Location) (b : BackendName) (r : Registry) (e : Event) : Prop :=
  InFlight t l r ∧ ∃ u, e = .resolved u (.ok b) ∧ r.asker u = t

/-- A call has not come to its questions. -/
def Unbegun (i : CallId) (r : Registry) : Prop :=
  r.stage? i = some .enumerating ∨ r.nextCall ≤ i

/-- A question has come to nothing in a step, unless its call has just come to it. -/
def Carries (r r' : Registry) (t : Ticket) : Prop :=
  ∀ l p, r'.part? t = some (l, p) → r.part? t = some (l, p) ∨ p = .fresh ∧ Unbegun t.call r

/-- What a step does to the questions of the calls and to the cells of the answers. -/
inductive Resolves (r : Registry) (e : Event) (r' : Registry) (fx : List Effect) : Prop
  | other (hm : r'.resolutions = r.resolutions) (hc : ∀ t, Carries r r' t)
      (hfx : ∀ t l, .resolve t l ∉ fx)
  | joins {t l} (hp : r.part? t = some (l, .fresh))
      (hp' : r'.part? t = some (l, .waiting (r.resolutions.join t l).2))
      (hm : r'.resolutions = (r.resolutions.join t l).1) (hc : ∀ u, u ≠ t → Carries r r' u)
      (hfx : fx = [])
  | asks {t l cell} (hp : r.part? t = some (l, .waiting cell))
      (ht : r.resolutions.turn t cell = .compute) (hp' : r'.part? t = some (l, .asking cell))
      (hm : r'.resolutions = r.resolutions) (hc : ∀ u, u ≠ t → Carries r r' u)
      (hfx : fx = [.resolve t l])
  | reads {t l cell b} (hp : r.part? t = some (l, .waiting cell))
      (ht : r.resolutions.turn t cell = .ready b)
      (hp' : ∀ p, r'.part? t = some p → p = (l, .named b)) (hm : r'.resolutions = r.resolutions)
      (hc : ∀ u, u ≠ t → Carries r r' u) (hfx : ∀ t l, .resolve t l ∉ fx)
  | fills {t l cell b} (hp : r.part? t = some (l, .asking cell)) (he : Succeeds t l b r e)
      (hp' : ∀ p, r'.part? t = some p → p = (l, .named b))
      (hm : r'.resolutions = r.resolutions.fill cell b) (hc : ∀ u, u ≠ t → Carries r r' u)
      (hfx : ∀ t l, .resolve t l ∉ fx)
  | leaves {i} (hi : r'.stage? i = none) (hm : OnceMap.Left i r.resolutions r'.resolutions)
      (hc : ∀ t, Carries r r' t) (hfx : ∀ t l, .resolve t l ∉ fx)
  | forgets (hf : e = .reset ∨ Clears r fx) (hm : r'.resolutions = r.resolutions.clear)
      (hc : ∀ t, Carries r r' t) (hfx : ∀ t l, .resolve t l ∉ fx)

variable {r r' r₁ : Registry} {e : Event} {fx : List Effect} {id i : CallId} {t u : Ticket}
  {l : Location} {p : Part}

/-! ## Where a question is -/

theorem part?_of_listing {parts : List (Location × Part)}
    (hs : r.stage? t.call = some (.listing parts)) : r.part? t = parts[t.part]? := by
  simp [part?, hs, Stage.part?]

theorem part?_of_creating {s : CreateStage} (hs : r.stage? i = some (.creating l s)) :
    r.part? ⟨i, 0⟩ = s.part?.map fun p => (l, p) := by
  simp [part?, hs, Stage.part?]

theorem part?_of_none (hs : r.stage? t.call = none) : r.part? t = none := by
  simp [part?, hs]

theorem Carries.of_stage (h : r'.stage? t.call = r.stage? t.call) : Carries r r' t := by
  intro l p hp
  rw [part?, h] at hp
  exact .inl hp

theorem Carries.of_none (h : r'.part? t = none) : Carries r r' t := by
  intro l p hp
  rw [h] at hp
  cases hp

theorem stage?_endCall_self (id : CallId) (r : Registry) : (r.endCall id).stage? id = none := by
  simp

theorem Lists.resolutions {parts : List (Location × Part)} (h : Lists r₁ id parts r' fx) :
    r'.resolutions = r₁.resolutions := by
  cases h <;> rfl

theorem Lists.part? {parts : List (Location × Part)} {q : Location × Part}
    (h : Lists r₁ t.call parts r' fx) (hq : r'.part? t = some q) : parts[t.part]? = some q := by
  cases h with
  | waits =>
    rw [part?_of_listing (stage?_setStage_self _ _ _)] at hq
    exact hq
  | ends => simp [Registry.part?] at hq

theorem Lists.no_question {parts : List (Location × Part)} (h : Lists r₁ id parts r' fx) :
    ∀ t l, .resolve t l ∉ fx := by
  rcases h.effects with rfl | ⟨_, rfl⟩ <;> simp

/-- The questions that a step of one question of a list leaves alone. -/
theorem Carries.part {parts : List (Location × Part)} {q : Location × Part}
    (hs : r.stage? t.call = some (.listing parts))
    (hp : ∀ k p, r'.part? ⟨t.call, k⟩ = some p → (parts.set t.part q)[k]? = some p)
    (hj : ∀ j, j ≠ t.call → r'.stage? j = r.stage? j) (hu : u ≠ t) : Carries r r' u := by
  obtain ⟨j, k⟩ := u
  by_cases hc : j = t.call
  · subst hc
    have hk : t.part ≠ k := fun hk => hu (by rw [← hk])
    intro l p h
    have h' := hp k _ h
    rw [List.getElem?_set_ne hk] at h'
    exact .inl ((part?_of_listing (t := ⟨t.call, k⟩) hs).trans h')
  · exact .of_stage (hj j hc)

theorem Lists.carries {parts : List (Location × Part)} {q : Location × Part}
    (h : Lists r₁ t.call (parts.set t.part q) r' fx) (hs : r.stage? t.call = some (.listing parts))
    (h₁ : ∀ i, r₁.stage? i = r.stage? i) (hu : u ≠ t) : Carries r r' u :=
  .part hs (fun k _ hp => h.part? (t := ⟨t.call, k⟩) hp)
    (fun _ hj => (h.stage? hj).trans (h₁ _)) hu

/-- The part of a list that has just been named is so, if the list goes on. -/
theorem Lists.named {parts : List (Location × Part)} {q q' : Location × Part}
    (h : Lists r₁ t.call (parts.set t.part q) r' fx) (hq : r'.part? t = some q') : q' = q := by
  have hq := h.part? hq
  rw [List.getElem?_set] at hq
  simp only [if_true] at hq
  split at hq
  · exact (Option.some.inj hq).symm
  · cases hq

theorem part?_setStage_set {parts : List (Location × Part)} {q q' : Location × Part}
    (hp : parts[t.part]? = some q) :
    (r₁.setStage t.call (.listing (parts.set t.part q'))).part? t = some q' := by
  rw [part?_of_listing (stage?_setStage_self _ _ _),
    List.getElem?_set_self (List.getElem?_eq_some_iff.1 hp).1]

theorem Carries.setStage_set {parts : List (Location × Part)} {q : Location × Part}
    (hs : r.stage? t.call = some (.listing parts)) (h₁ : ∀ i, r₁.stage? i = r.stage? i)
    (hu : u ≠ t) : Carries r (r₁.setStage t.call (.listing (parts.set t.part q))) u := by
  refine .part (q := q) hs (fun k p hp => ?_) (fun j hj => ?_) hu
  · rwa [part?_of_listing (stage?_setStage_self _ _ _)] at hp
  · rw [stage?_setStage, if_neg (Ne.symm hj), h₁]

theorem leaveParts_left (id : CallId) (k : Nat) (parts : List (Location × Part)) (r : Registry) :
    OnceMap.Left id r.resolutions (r.leaveParts id k parts).resolutions := by
  induction parts generalizing k r with
  | nil => exact .refl id _
  | cons q parts ih =>
    obtain ⟨l, p⟩ := q
    cases p with
    | waiting cell | asking cell =>
      exact (OnceMap.left_leave id k cell _).trans
        (ih (k + 1) { r with resolutions := r.resolutions.leave ⟨id, k⟩ cell })
    | fresh | named => exact ih (k + 1) r

theorem Releases.resolutions {errors : List BrokerError} {oids : List Oid}
    (h : Releases r₁ id errors oids r' fx)
    (hs : ∀ b cells errors, r.stage? id ≠ some (.unloading b cells errors)) :
    r'.resolutions = r₁.resolutions ∨ Clears r fx ∧ r'.resolutions = r₁.resolutions.clear := by
  cases h with
  | stands => exact .inl rfl
  | unloads _ h => exact .inr ⟨h.clears hs, by cases h <;> rfl⟩

theorem Drains.resolutions {ls : List Location} (h : Drains r₁ id ls r' fx)
    (hs : ∀ b cells errors, r.stage? id ≠ some (.unloading b cells errors)) :
    r'.resolutions = r₁.resolutions ∨ Clears r fx ∧ r'.resolutions = r₁.resolutions.clear := by
  cases h with
  | stands => exact .inl rfl
  | releases h => exact h.resolutions hs

theorem Stage.part?_of_undrained? {s : Stage} {ls : List Location} (h : s.undrained? = some ls)
    (k : Nat) : s.part? k = none := by
  cases s <;> first | rfl | cases h

/-! ## What a step does to the questions -/

/-- A shutdown asks nothing; it may come to forget everything. -/
theorem Resolves.shuts (hm : r'.resolutions = r.resolutions ∨
      Clears r fx ∧ r'.resolutions = r.resolutions.clear)
    (hid : ∀ s, r'.stage? id = some s → ∀ k, s.part? k = none)
    (hs : ∀ i, i ≠ id → r'.stage? i = r.stage? i)
    (hfx : fx = [] ∨ (∃ b, fx = [.unload id b]) ∨ ∃ o, fx = [.reply id (.shutDown o)]) :
    Resolves r e r' fx := by
  have hc (t : Ticket) : Carries r r' t := by
    by_cases h : t.call = id
    · refine .of_none ?_
      rw [part?, h]
      cases hs : r'.stage? id with
      | none => rfl
      | some s => exact hid s hs _
    · exact .of_stage (hs _ h)
  have hn (t : Ticket) (l : Location) : .resolve t l ∉ fx := by
    rcases hfx with rfl | ⟨_, rfl⟩ | ⟨_, rfl⟩ <;> simp
  rcases hm with hm | ⟨hf, hm⟩
  · exact .other hm hc hn
  · exact .forgets (.inr hf) hm hc hn

/-- The questions that a step of one create leaves alone. -/
theorem Carries.create {s : CreateStage}
    (hs : ∀ j, r'.stage? j = if i = j then some (.creating l s) else r.stage? j)
    (hu : u ≠ ⟨i, 0⟩) : Carries r r' u := by
  by_cases h : i = u.call
  · subst h
    have hk : u.part ≠ 0 := fun hk => hu (by rw [← hk])
    exact .of_none (by simp [part?, hs, Stage.part?, hk])
  · exact .of_stage (by rw [hs, if_neg h])

/-- A call that is over has no questions. -/
theorem Carries.over (hs : ∀ j, r'.stage? j = if i = j then none else r.stage? j) :
    Carries r r' t := by
  by_cases h : i = t.call
  · exact .of_none (part?_of_none (by rw [hs, if_pos h]))
  · exact .of_stage (by rw [hs, if_neg h])

theorem Segment.resolves (ho : Orderly r) (hg : Segment r e r' fx) : Resolves r e r' fx := by
  cases hg with
  | reset => exact .forgets (.inl rfl) rfl (fun _ => .of_stage rfl) (by simp)
  | idle => exact .other rfl (fun _ => .of_stage rfl) (by simp)
  | refused h => exact .other rfl (fun _ => .of_stage rfl) (by cases h <;> simp)
  | @enumerated id _ _ _ hs h =>
    refine .other h.resolutions (fun t l p hp => ?_) h.no_question
    by_cases ht : t.call = id
    · subst ht
      have hp := h.part? hp
      rw [List.getElem?_map, Option.map_eq_some_iff] at hp
      obtain ⟨_, -, hp⟩ := hp
      cases hp
      exact .inr ⟨rfl, .inl hs⟩
    · exact Carries.of_stage (h.stage? ht) l p hp
  | partJoins hs hp =>
    exact .joins ((part?_of_listing hs).trans hp) (part?_setStage_set hp) rfl
      (fun _ => .setStage_set hs fun _ => rfl) rfl
  | partReady hs hp ht h =>
    exact .reads ((part?_of_listing hs).trans hp) ht (fun _ => h.named) h.resolutions
      (fun _ => h.carries hs fun _ => rfl) h.no_question
  | partAsks hs hp ht =>
    exact .asks ((part?_of_listing hs).trans hp) ht (part?_setStage_set hp) rfl
      (fun _ => .setStage_set hs fun _ => rfl) rfl
  | @partResolved t _ _ _ _ _ _ hs hp h =>
    have hp' := (part?_of_listing hs).trans hp
    exact .fills hp' ⟨⟨_, hp'⟩, t, rfl, by simp [asker, hs]⟩ (fun _ => h.named) h.resolutions
      (fun _ => h.carries hs fun _ => rfl) h.no_question
  | partFailed =>
    exact .leaves (stage?_endCall_self _ _) (leaveParts_left _ _ _ r)
      (fun _ => .over (stage?_endCall _ · _)) (by simp)
  | dropList =>
    exact .leaves (stage?_endCall_self _ _) (leaveParts_left _ _ _ (r.endCall _))
      (fun _ => .over (stage?_endCall _ · _)) (by simp)
  | resolveFailed | dropResolving =>
    exact .leaves (stage?_endCall_self _ _) (OnceMap.left_leave _ _ _ _)
      (fun _ => .over (stage?_endCall _ · _)) (by simp)
  | createJoins hs =>
    exact .joins (part?_of_creating hs) (part?_of_creating (stage?_setStage_self _ _ _)) rfl
      (fun _ => .create (stage?_setStage _ · _ _)) rfl
  | createAsks hs ht =>
    exact .asks (part?_of_creating hs) ht (part?_of_creating (stage?_setStage_self _ _ _)) rfl
      (fun _ => .create (stage?_setStage _ · _ _)) rfl
  | createReady hs ht =>
    refine .reads (part?_of_creating hs) ht (fun p hp => ?_) rfl
      (fun _ => .create (stage?_setStage _ · _ _)) (by simp)
    rw [part?_of_creating (stage?_setStage_self _ _ _)] at hp
    exact (Option.some.inj hp).symm
  | @createResolved t _ _ _ hs =>
    have hp' := part?_of_creating hs
    refine .fills hp' ⟨⟨_, hp'⟩, t, rfl, by simp [asker, hs]⟩ (fun p hp => ?_) rfl
      (fun _ => .create (stage?_setStage _ · _ _)) (by simp)
    rw [part?_of_creating (stage?_setStage_self _ _ _)] at hp
    exact (Option.some.inj hp).symm
  | shutdownMade h =>
    exact .shuts (h.resolutions (by simp [ho.not_made]))
      (fun _ hs => Stage.part?_of_undrained? (h.undrained hs)) (fun _ hi => h.stage? hi) h.effects
  | drained hs _ h =>
    exact .shuts (h.resolutions (by simp [hs]))
      (fun _ hs => Stage.part?_of_undrained? (h.undrained hs)) (fun _ hi => h.stage? hi) h.effects
  | releaseGone hs _ _ h | released hs h | releaseFailed hs h =>
    exact .shuts (h.resolutions (by simp [hs]))
      (fun _ hs => Stage.part?_of_undrained? (h.undrained hs)) (fun _ hi => h.stage? hi) h.effects
  | unloaded hs h | unloadFailed hs h =>
    refine .shuts (.inl (by cases h <;> rfl)) (fun s hs k => ?_) (fun _ hi => h.stage? hi)
      (.inr h.effects)
    obtain ⟨_, _, rfl⟩ := h.stage?_self hs
    rfl
  | _ =>
    refine .other rfl (fun t l p hp => ?_) (by simp)
    simp [part?] at hp
    grind [part?, Stage.part?, CreateStage.part?, Unbegun]

theorem step_resolves (ho : Orderly r) (e : Event) :
    Resolves r e (r.step e).1 (r.step e).2 :=
  (step_segment r e).resolves ho

end Registry

end SlotBroker
