import SlotBroker.Proofs.Registry.Answers
import SlotBroker.Proofs.Registry.Solitude

/-!
# A removal alone

While a removal is alone, the registry is at every moment the one in which it was made but for the
removal itself (`Alone.removal`). If it fails nothing is left of it but its number
(`Alone.removal_failed`): it stood in a line that was there and empty before, since every live
session's location has one (`Lined`).
-/

namespace SlotBroker

namespace Registry

variable {r r' r₀ : Registry} {e : Event} {es : List Event} {fx : List Effect} {i : CallId}
  {o : Outcome} {l : Location} {x : BrokerError} {oid : Oid} {a k n : Nat}

/-! ## Lines of live sessions -/

/-- The location of a live session has a line. -/
def Lined (r : Registry) : Prop := ∀ x ∈ r.sessions, x.info.location ∈ Assoc.keys r.lines

theorem Lined.segment (h : Lined r) (ho : Orderly r) (hg : Segment r e r' fx) : Lined r' := by
  intro x hx
  cases hg.rosters ho with
  | same hs => exact hg.keys (h x (hs ▸ hx))
  | commits _ hs _ _ _ hss =>
    rcases mem_insertSession (hss ▸ hx) with rfl | hx
    · exact hg.keys (ho.mem_keys hs rfl)
    · exact hg.keys (h x hx)
  | ends _ _ _ hs => exact hg.keys (h x (List.mem_filter.1 (hs ▸ hx)).1)
  | clears _ hs =>
    rw [hs] at hx
    cases hx

theorem Lined.moment (h : Lined r₀) (ho : Orderly r₀) (es : List Event) (n : Nat) :
    Lined (r₀.moment es n) :=
  (run_induction (P := fun r => Orderly r ∧ Lined r) ⟨ho, h⟩
    (fun h hg => ⟨h.1.segment hg, h.2.segment h.1 hg⟩) _).2

/-- Where no call is in progress, the line of a live session is there and nobody stands in it. -/
theorem Lined.empty (h : Lined r) (ho : Orderly r) (hi : ∀ j, r.stage? j = none) {x : LiveSession}
    (hx : x ∈ r.sessions) : Assoc.get? x.info.location r.lines = some [] := by
  obtain ⟨js, hl⟩ := Option.isSome_iff_exists.1 (Assoc.mem_keys_iff.1 (h x hx))
  rw [hl, Option.some.injEq]
  refine List.eq_nil_iff_forall_not_mem.2 fun j hj => ?_
  have hm : j ∈ r.line x.info.location := by
    rw [line, hl]
    exact hj
  obtain ⟨s, hs, -⟩ := (ho.mem_line _ _).1 hm
  cases (hi j).symm.trans hs

/-! ## How it goes on -/

/-- A removal that has been made, and is all that is in progress. -/
def removal (oid : Oid) (l : Location) (d : Bool) (r : Registry) : Registry :=
  (r.enroll (.removing oid l d)).standAt l r.nextCall

theorem removal_detaches (l : Location) (d : Bool) (r : Registry) :
    (r.removal oid l d).setStage r.nextCall (.removing oid l true) = r.removal oid l true := by
  simp only [removal, enroll, standAt, setStage, Assoc.put_put]

theorem removal_ends {d : Bool} (hi : ∀ j, r.stage? j = none)
    (hl : Assoc.get? l r.lines = some []) :
    ((r.removal oid l d).leaveLine l r.nextCall).endCall r.nextCall =
      { r with nextCall := r.nextCall + 1 } := by
  have hcalls : r.calls = [] := List.isEmpty_iff.1 (none_in_progress_iff.1 hi)
  have hline : Assoc.put l [] r.lines = r.lines := Assoc.put_self hl
  simp only [removal, enroll, standAt, setStage, leaveLine, endCall, Assoc.modify_put, hl, hcalls,
    Option.getD_some, List.nil_append]
  simp [Assoc.put, Assoc.erase, hline]

/-- How a removal goes on that is all that is in progress: it still is, it has been given up, it
returns that all went well, or it has failed. -/
theorem Segment.removal {y : LiveSession} {d : Bool} (hi : ∀ j, r.stage? j = none)
    (hf : r.find? oid = some y) (hl : Assoc.get? l r.lines = some []) (he : e.begins = false)
    (hg : Segment (r.removal oid l d) e r' fx) :
    (∃ d, r' = r.removal oid l d) ∨ (∃ tending, e = .drop r.nextCall tending) ∨
      .reply r.nextCall (.removed (.ok ())) ∈ fx ∨ r' = { r with nextCall := r.nextCall + 1 } := by
  have only {j : CallId} {s : Stage} (hs : (r.removal oid l d).stage? j = some s) :
      r.nextCall = j ∧ s = .removing oid l d := by
    simp only [Registry.removal, stage?_standAt, stage?_enroll, hi] at hs
    split at hs
    · rename_i hj
      cases hs
      exact ⟨hj, rfl⟩
    · cases hs
  cases hg with
  | idle => exact .inl ⟨d, rfl⟩
  | removeDetaches hs =>
    obtain ⟨hj, hs⟩ := only hs
    cases hs
    rw [← hj]
    exact .inl ⟨true, removal_detaches _ _ _⟩
  | removeGone hs _ hn =>
    obtain ⟨-, hs⟩ := only hs
    cases hs
    cases hn.symm.trans hf
  | removed hs =>
    obtain ⟨rfl, -⟩ := only hs
    exact .inr (.inr (.inl (List.mem_singleton_self _)))
  | removeFailed hs =>
    obtain ⟨hj, hs⟩ := only hs
    cases hs
    rw [← hj]
    exact .inr (.inr (.inr (removal_ends hi hl)))
  | dropStanding hs =>
    obtain ⟨rfl, -⟩ := only hs
    exact .inr (.inl ⟨_, rfl⟩)
  -- Something would have to be begun.
  | reset | refused | listMade | createMade | removeMade | shutdownMade => cases he
  | dropResolving hs | dropLoading hs =>
    rcases hs with hs | hs
    · cases (only hs).2
    · cases (only hs).2
  | dropAlone hs hl =>
    cases (only hs).2
    rcases hl with hl | ⟨_, _, _, hl⟩ | ⟨_, _, _, hl⟩ <;> cases hl
  -- Stages in which a removal never is.
  | enumerated hs | enumerateFailed hs | partJoins hs | partReady hs | partAsks hs
  | partResolved hs | partFailed hs | createClosed hs | createBusy hs | createJoins hs
  | createReady hs | createAsks hs | createResolved hs | resolveFailed hs | loadStarts hs
  | unserved hs | fetched hs | loaded hs | loadFailed hs | attachFailed hs | attachedLate hs
  | committed hs | undone hs | drained hs | releaseGone hs | releaseDetaches hs | released hs
  | releaseFailed hs | unloaded hs | unloadFailed hs | reclaims hs | reclaimed hs | dropList hs
  | dropUndoing hs | dropUntended hs => cases (only hs).2

/-! ## In the course of a run -/

section alone

variable (h : Alone r₀ es (.remove oid) i o a n) (ho : Orderly r₀) (hl : Lined r₀)

include h ho

/-- A removal that does not return at once has found its session. -/
theorem Alone.finds (ha : a < n) : ∃ y, (r₀.moment es a).find? oid = some y ∧
    r₀.moment es (a + 1) = (r₀.moment es a).removal oid y.info.location false := by
  obtain ⟨_, he, rfl, rfl⟩ := id h.made
  obtain ⟨s, hs⟩ := (in_progress ho h.made h.returned).2 (a + 1) (Nat.lt_succ_self a) ha
  rw [moment_succ he] at hs ⊢
  cases hf : (r₀.moment es a).find? oid with
  | none =>
    simp only [Registry.step, start, hf] at hs
    cases (ho.moment es a).not_made.symm.trans hs
  | some y => exact ⟨y, rfl, by simp only [Registry.step, start, hf, removal]⟩

include hl

theorem Alone.removal_step {y : LiveSession} {d : Bool}
    (hf : (r₀.moment es a).find? oid = some y)
    (hk : r₀.moment es k = (r₀.moment es a).removal oid y.info.location d) (ha : a < k)
    (hkn : k ≤ n) :
    (∃ d, r₀.moment es (k + 1) = (r₀.moment es a).removal oid y.info.location d) ∨
      (k = n ∧ o = .removed (.ok ())) ∨
      r₀.moment es (k + 1) =
        { r₀.moment es a with nextCall := (r₀.moment es a).nextCall + 1 } := by
  cases he : es[k]? with
  | none =>
    rw [moment_end _ he]
    exact .inl ⟨d, hk⟩
  | some e =>
    obtain ⟨_, -, -, hi⟩ := id h.made
    have hline := (hl.moment ho es a).empty (ho.moment es a) h.idle (mem_of_find? hf).1
    have hg := step_segment (r₀.moment es k) e
    rw [← moment_succ he, hk] at hg
    rcases hg.removal h.idle hf hline (h.begins k hkn ha e he) with
      hd | ⟨tending, rfl⟩ | hx | hend
    · exact .inl hd
    · have hnone := h.not_dropped ho (Nat.le_of_lt ha) hkn he
      rw [hk, Registry.removal, stage?_standAt, stage?_enroll, if_pos rfl] at hnone
      cases hnone
    · rw [← hk, hi] at hx
      obtain ⟨-, hn, ho'⟩ := h.returns ho (Nat.le_of_lt ha) hkn ⟨e, he, hx⟩
      exact .inr (.inl ⟨hn, ho'.symm⟩)
    · exact .inr (.inr hend)

theorem Alone.removal {y : LiveSession} (hf : (r₀.moment es a).find? oid = some y)
    (hmade : r₀.moment es (a + 1) = (r₀.moment es a).removal oid y.info.location false)
    (ha : a < k) (hkn : k ≤ n) :
    ∃ d, r₀.moment es k = (r₀.moment es a).removal oid y.info.location d := by
  induction ha with
  | refl => exact ⟨false, hmade⟩
  | @step k ha ih =>
    obtain ⟨d, hk⟩ := ih (Nat.le_of_succ_le hkn)
    rcases h.removal_step ho hl hf hk ha (Nat.le_of_succ_le hkn) with hd | ⟨rfl, -⟩ | hend
    · exact hd
    · exact absurd hkn (Nat.not_succ_le_self k)
    · obtain ⟨s, hs⟩ := (in_progress ho h.made h.returned).2 (k + 1) (Nat.lt_succ_of_lt ha) hkn
      rw [hend, stage?_with, h.idle] at hs
      cases hs

theorem Alone.removal_failed (ho' : o = .removed (.error x)) :
    r₀.moment es (n + 1) =
      { r₀.moment es a with nextCall := (r₀.moment es a).nextCall + 1 } := by
  rcases Nat.eq_or_lt_of_le (h.le ho) with rfl | ha
  · obtain ⟨_, he, rfl, -⟩ := id h.made
    have hx := h.returned.of_event he
    rw [moment_succ he]
    cases hf : (r₀.moment es a).find? oid with
    | none => simp only [Registry.step, start, hf, answerNow]
    | some y => simp [Returns, Registry.step, start, hf] at hx
  · obtain ⟨y, hf, hmade⟩ := h.finds ho ha
    obtain ⟨d, hn⟩ := h.removal ho hl hf hmade ha (Nat.le_refl n)
    rcases h.removal_step ho hl hf hn ha (Nat.le_refl n) with ⟨d, hd⟩ | ⟨-, ho''⟩ | hend
    · have hnone := h.idle_again ho (r₀.moment es a).nextCall
      rw [hd, Registry.removal, stage?_standAt, stage?_enroll, if_pos rfl] at hnone
      cases hnone
    · rw [ho'] at ho''
      cases ho''
    · exact hend

end alone

end Registry

end SlotBroker
