import SlotBroker.Proofs.Registry.Run

/-!
# The live sessions

The sessions stand in strictly ascending order of oid, so an oid finds at most one of them. A step
changes them in one of three ways (`Segment.rosters`): a create commits a session, a detach that
succeeds ends one, or a shutdown that comes to the backends ends all that are left.
-/

namespace SlotBroker

/-- The session that a call is detaching from its backend. -/
def Stage.detaches? : Stage → Option Oid
  | .removing oid _ true => some oid
  | .releasing oid _ true _ _ => some oid
  | _ => none

namespace Registry

/-! ## Inserting by oid -/

theorem mem_insertSession {s x : LiveSession} {xs : List LiveSession}
    (h : x ∈ insertSession s xs) : x = s ∨ x ∈ xs := by
  induction xs with
  | nil => simpa [insertSession] using h
  | cons y ys ih =>
    simp only [insertSession] at h
    split at h
    · simpa using h
    · split at h
      · simp only [List.mem_cons] at h ⊢
        exact h.imp_right .inr
      · simp only [List.mem_cons] at h ⊢
        rcases h with h | h
        · exact .inr (.inl h)
        · exact (ih h).imp_right .inr

theorem find?_insertSession (s : LiveSession) (oid : Oid) (xs : List LiveSession) :
    (insertSession s xs).find? (fun x => x.info.oid == oid) =
      if s.info.oid = oid then some s else xs.find? fun x => x.info.oid == oid := by
  induction xs with
  | nil => by_cases h : s.info.oid = oid <;> simp [insertSession, h]
  | cons y ys ih =>
    simp only [insertSession]
    split
    · by_cases h : s.info.oid = oid <;> simp [h]
    · split
      · rename_i he
        by_cases h : s.info.oid = oid
        · simp [h]
        · simp [h, ← he]
      · rename_i hne
        by_cases h : s.info.oid = oid
        · have hy : ¬ y.info.oid = oid := fun hy => hne (h.trans hy.symm)
          simp [h, hy, ih]
        · simp [h, ih, List.find?_cons]

/-- Strictly ascending by oid. -/
def Sorted (xs : List LiveSession) : Prop := xs.Pairwise fun x y => x.info.oid < y.info.oid

theorem Oid.lt_trans {a b c : Oid} (h : a < b) (h' : b < c) : a < c :=
  UInt64.lt_trans (a := a.value) h h'

theorem Oid.lt_of_not_lt {a b : Oid} (h : ¬ a < b) (hne : a ≠ b) : b < a := by
  refine UInt64.lt_of_le_of_ne (UInt64.not_lt.1 h) fun he => hne ?_
  cases a
  cases b
  cases he
  rfl

theorem Sorted.insertSession {s : LiveSession} {xs : List LiveSession} (h : Sorted xs) :
    Sorted (insertSession s xs) := by
  induction xs with
  | nil => exact List.pairwise_singleton _ _
  | cons y ys ih =>
    obtain ⟨hy, hys⟩ := List.pairwise_cons.1 h
    simp only [Registry.insertSession]
    split
    · rename_i hlt
      refine List.pairwise_cons.2 ⟨fun x hx => ?_, h⟩
      rcases List.mem_cons.1 hx with rfl | hx
      · exact hlt
      · exact Oid.lt_trans hlt (hy x hx)
    · rename_i hlt
      split
      · rename_i he
        exact List.pairwise_cons.2 ⟨fun x hx => he ▸ hy x hx, hys⟩
      · rename_i hne
        refine List.pairwise_cons.2 ⟨fun x hx => ?_, ih hys⟩
        rcases mem_insertSession hx with rfl | hx
        · exact Oid.lt_of_not_lt hlt hne
        · exact hy x hx

theorem Sorted.find? {xs : List LiveSession} (h : Sorted xs) {s : LiveSession} (hs : s ∈ xs) :
    xs.find? (fun x => x.info.oid == s.info.oid) = some s := by
  induction xs with
  | nil => cases hs
  | cons y ys ih =>
    obtain ⟨hy, hys⟩ := List.pairwise_cons.1 h
    rcases List.mem_cons.1 hs with rfl | hs
    · simp
    · have hne : y.info.oid ≠ s.info.oid := fun he => UInt64.lt_irrefl _ (he ▸ hy s hs)
      rw [List.find?_cons_of_neg (by simpa using hne)]
      exact ih hys hs

theorem Sorted.eq_of_oid {xs : List LiveSession} (h : Sorted xs) {s s' : LiveSession} (hs : s ∈ xs)
    (hs' : s' ∈ xs) (ho : s.info.oid = s'.info.oid) : s = s' := by
  have hf := h.find? hs
  rw [ho, h.find? hs', Option.some.injEq] at hf
  exact hf.symm

/-! ## What a step does to the sessions -/

/-- In this step a shutdown comes to the backends: it unloads the first, or returns at once. -/
def Clears (r : Registry) (fx : List Effect) : Prop :=
  ∃ id, ((∃ b, .unload id b ∈ fx) ∨ ∃ o, .reply id (.shutDown o) ∈ fx) ∧
    ∀ b cells errors, r.stage? id ≠ some (.unloading b cells errors)

variable {r r' : Registry} {e : Event} {fx : List Effect}

/-- How a step changes the sessions. -/
inductive Rosters (r : Registry) (e : Event) (fx : List Effect) (r' : Registry) : Prop
  | same (h : r'.sessions = r.sessions)
  | commits {id l name b oid h now} (he : e = .attached id (.ok h) now)
      (hs : r.stage? id = some (.creating l (.attaching name b oid))) (ho : r.closed = false)
      (hfx : fx = [.reply id (.created (.ok ⟨oid, l, name, h, now⟩))]) (hi : r'.stage? id = none)
      (h : r'.sessions = insertSession ⟨⟨oid, l, name, h, now⟩, b⟩ r.sessions)
  | ends {id s oid} (he : e = .detached id (.ok ())) (hs : r.stage? id = some s)
      (hd : s.detaches? = some oid)
      (h : r'.sessions = r.sessions.filter fun s => !(s.info.oid == oid))
  | clears (hc : Clears r fx) (h : r'.sessions = [])

theorem Unloads.clears {id : CallId} {errors : List BrokerError} {cells : List Nat}
    {r₀ : Registry} (h : Unloads r₀ id errors cells r' fx)
    (hs : ∀ b cells errors, r.stage? id ≠ some (.unloading b cells errors)) : Clears r fx := by
  cases h with
  | next => exact ⟨id, .inl ⟨_, List.mem_singleton_self _⟩, hs⟩
  | ends => exact ⟨id, .inr ⟨_, List.mem_singleton_self _⟩, hs⟩

theorem Releases.sessions {id : CallId} {errors : List BrokerError} {oids : List Oid}
    {r₀ : Registry} (h : Releases r₀ id errors oids r' fx)
    (hs : ∀ b cells errors, r.stage? id ≠ some (.unloading b cells errors)) :
    r'.sessions = r₀.sessions ∨ r'.sessions = [] ∧ Clears r fx := by
  cases h with
  | stands => exact .inl rfl
  | unloads _ h => exact .inr ⟨h.frame.1, h.clears hs⟩

theorem Drains.sessions {id : CallId} {ls : List Location} {r₀ : Registry}
    (h : Drains r₀ id ls r' fx)
    (hs : ∀ b cells errors, r.stage? id ≠ some (.unloading b cells errors)) :
    r'.sessions = r₀.sessions ∨ r'.sessions = [] ∧ Clears r fx := by
  cases h with
  | stands => exact .inl rfl
  | releases h => exact h.sessions hs

theorem Segment.rosters (ho : Orderly r) (hg : Segment r e r' fx) : Rosters r e fx r' := by
  cases hg with
  | committed hs hc => exact .commits rfl hs hc rfl (by simp) rfl
  | removed hs => exact .ends rfl hs rfl rfl
  | released hs h =>
    rcases h.sessions (r := r) (by simp [hs]) with h | ⟨h, hc⟩
    · exact .ends rfl hs rfl h
    · exact .clears hc h
  | shutdownMade h =>
    rcases h.sessions (r := r) (by simp [ho.not_made]) with h | ⟨h, hc⟩
    · exact .same h
    · exact .clears hc h
  | drained hs _ h =>
    rcases h.sessions (r := r) (by simp [hs]) with h | ⟨h, hc⟩
    · exact .same h
    · exact .clears hc h
  | releaseGone hs _ _ h | releaseFailed hs h =>
    rcases h.sessions (r := r) (by simp [hs]) with h | ⟨h, hc⟩
    · exact .same h
    · exact .clears hc h
  | unloaded _ h | unloadFailed _ h => exact .same h.frame.1
  | enumerated _ h | partReady _ _ _ h | partResolved _ _ h => exact .same h.frame.1
  | _ => exact .same rfl

theorem Sorted.segment (h : Sorted r.sessions) (ho : Orderly r) (hg : Segment r e r' fx) :
    Sorted r'.sessions := by
  cases hg.rosters ho with
  | same hs => exact hs ▸ h
  | commits _ _ _ _ _ hs => exact hs ▸ h.insertSession
  | ends _ _ _ hs => exact hs ▸ List.Pairwise.filter _ h
  | clears _ hs => exact hs ▸ List.Pairwise.nil

end Registry

end SlotBroker
