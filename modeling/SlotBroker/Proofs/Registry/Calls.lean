import Mathlib.Data.List.Induction
import SlotBroker.Proofs.Registry.Creation

/-!
# The calls of a run

A call is known by the number that it is given when it is made (`Made`). It is over once it has
returned or has been given up: it is at no stage then and never returns again, so every call
returns at most once (`returns_once`).
-/

namespace SlotBroker

/-- What a call returns among some effects. -/
def Effect.returns? (i : CallId) : Effect → Option Outcome
  | .reply j o => if j = i then some o else none
  | _ => none

namespace Registry

variable {r r' : Registry} {e : Event} {es : List Event} {fx : List Effect} {i j : CallId}

theorem mem_run {x : Effect} (h : x ∈ (r.run es).2) :
    ∃ es₁ e es₂, es = es₁ ++ e :: es₂ ∧ x ∈ ((r.run es₁).1.step e).2 := by
  induction es using List.reverseRecOn with
  | nil => cases h
  | append_singleton es e ih =>
    rw [run_concat] at h
    rcases List.mem_append.1 h with h | h
    · obtain ⟨es₁, e', es₂, rfl, hx⟩ := ih h
      exact ⟨es₁, e', es₂ ++ [e], by simp, hx⟩
    · exact ⟨es, e, [], rfl, h⟩

/-! ## Calls that are over -/

/-- A call has been made and is not in progress any more. -/
structure Over (i : CallId) (r : Registry) : Prop where
  made : i < r.nextCall
  stage? : r.stage? i = none

variable {id : CallId} {o : Outcome}

theorem Unloads.reply {errors : List BrokerError} {cells : List Nat}
    (h : Unloads r id errors cells r' fx) (hx : .reply i o ∈ fx) :
    i = id ∧ r'.stage? id = none ∧ fx = [.reply i o] := by
  cases h with
  | next => simp at hx
  | ends =>
    simp only [List.mem_singleton] at hx
    cases hx
    exact ⟨rfl, by simp, rfl⟩

theorem Releases.reply {errors : List BrokerError} {oids : List Oid}
    (h : Releases r id errors oids r' fx) (hx : .reply i o ∈ fx) :
    i = id ∧ r'.stage? id = none ∧ fx = [.reply i o] := by
  cases h with
  | stands => cases hx
  | unloads _ h => exact h.reply hx

theorem Drains.reply {ls : List Location} (h : Drains r id ls r' fx) (hx : .reply i o ∈ fx) :
    i = id ∧ r'.stage? id = none ∧ fx = [.reply i o] := by
  cases h with
  | stands => cases hx
  | releases h => exact h.reply hx

theorem Lists.reply {parts : List (Location × Part)} (h : Lists r id parts r' fx)
    (hx : .reply i o ∈ fx) : i = id ∧ r'.stage? id = none ∧ fx = [.reply i o] := by
  cases h with
  | waits => cases hx
  | ends =>
    simp only [List.mem_singleton] at hx
    cases hx
    exact ⟨rfl, by simp, rfl⟩

theorem Over.beside (h : Over i r) (hi : i ≠ id) (hn : r.nextCall ≤ r'.nextCall)
    (hs : i ≠ id → r'.stage? i = r.stage? i)
    (hr : ∀ {o}, .reply i o ∈ fx → i = id ∧ r'.stage? id = none ∧ fx = [.reply i o]) :
    Over i r' ∧ ∀ o, .reply i o ∉ fx :=
  ⟨⟨Nat.lt_of_lt_of_le h.made hn, (hs hi).trans h.stage?⟩, fun _ hx => hi (hr hx).1⟩

/-- A call that is over stays so, and does not return again. -/
theorem Segment.over (hg : Segment r e r' fx) (h : Over i r) :
    Over i r' ∧ ∀ o, .reply i o ∉ fx := by
  have other {j : CallId} {s : Stage} (hs : r.stage? j = some s) : i ≠ j := by
    rintro rfl
    rw [h.stage?] at hs
    cases hs
  have hn := h.made
  have hi := h.stage?
  cases hg with
  | shutdownMade hd =>
    exact h.beside (Nat.ne_of_lt hn) (by simp [hd.frame.2.2.2]) hd.stage? hd.reply
  | drained hs _ hd => exact h.beside (other hs) (by simp [hd.frame.2.2.2]) hd.stage? hd.reply
  | releaseGone hs _ _ hd | released hs hd | releaseFailed hs hd =>
    exact h.beside (other hs) (by simp [hd.frame.2.2.2]) hd.stage? hd.reply
  | unloaded hs hd | unloadFailed hs hd =>
    exact h.beside (other hs) (by simp [hd.frame.2.2.2.2.2]) hd.stage? hd.reply
  | enumerated hs hd | partReady hs _ _ hd | partResolved hs _ hd =>
    exact h.beside (other hs) (by simp [hd.frame.2.2.2.2.2]) hd.stage? hd.reply
  | idle | reset => exact ⟨⟨hn, hi⟩, by simp⟩
  | refused =>
    refine ⟨⟨Nat.lt_succ_of_lt hn, hi⟩, ?_⟩
    simp [Nat.ne_of_lt hn]
  | _ =>
    refine ⟨⟨?_, ?_⟩, ?_⟩
    · simp
      grind
    · simp
      grind
    · grind

/-- A call that returns is over. -/
theorem Segment.returns (ho : Orderly r) (hg : Segment r e r' fx) (hx : .reply i o ∈ fx) :
    Over i r' ∧ fx = [.reply i o] := by
  have ends {j : CallId} {s : Stage} (hs : r.stage? j = some s) (hn : r.nextCall = r'.nextCall)
      (hr : i = j ∧ r'.stage? j = none ∧ fx = [.reply i o]) : Over i r' ∧ fx = [.reply i o] := by
    obtain ⟨rfl, hi, hfx⟩ := hr
    exact ⟨⟨hn ▸ ho.fresh hs, hi⟩, hfx⟩
  cases hg with
  | shutdownMade hd =>
    obtain ⟨rfl, hi, hfx⟩ := hd.reply hx
    refine ⟨⟨?_, hi⟩, hfx⟩
    simp [hd.frame.2.2.2]
  | drained hs _ hd => exact ends hs hd.frame.2.2.2.symm (hd.reply hx)
  | releaseGone hs _ _ hd | released hs hd | releaseFailed hs hd =>
    exact ends hs hd.frame.2.2.2.symm (hd.reply hx)
  | unloaded hs hd | unloadFailed hs hd => exact ends hs hd.frame.2.2.2.2.2.symm (hd.reply hx)
  | enumerated hs hd | partReady hs _ _ hd | partResolved hs _ hd =>
    exact ends hs hd.frame.2.2.2.2.2.symm (hd.reply hx)
  | refused h =>
    simp only [List.mem_singleton, Effect.reply.injEq] at hx
    obtain ⟨rfl, rfl⟩ := hx
    exact ⟨⟨Nat.lt_succ_self _, ho.not_made⟩, rfl⟩
  | enumerateFailed hs | partFailed hs | createClosed hs | createBusy hs | resolveFailed hs
  | unserved hs | loadFailed hs | attachFailed hs | committed hs | undone hs | removeGone hs
  | removed hs | removeFailed hs =>
    obtain ⟨rfl, rfl⟩ := Effect.reply.inj (List.mem_singleton.1 hx)
    exact ends hs rfl ⟨rfl, by simp, rfl⟩
  | _ => simp at hx

theorem Over.run (h : Over i r) (es : List Event) :
    Over i (r.run es).1 ∧ ∀ o, .reply i o ∉ (r.run es).2 := by
  induction es generalizing r with
  | nil => exact ⟨h, by simp⟩
  | cons e es ih =>
    obtain ⟨h₁, h₂⟩ := (step_segment r e).over h
    obtain ⟨h₃, h₄⟩ := ih h₁
    refine ⟨h₃, fun o hx => ?_⟩
    rcases List.mem_append.1 hx with hx | hx
    · exact h₂ o hx
    · exact h₄ o hx

theorem over_of_reply (ho : Orderly r) (hx : .reply i o ∈ (r.run es).2) : Over i (r.run es).1 := by
  obtain ⟨es₁, e, es₂, rfl, hs⟩ := mem_run hx
  rw [run_append, run_cons]
  exact (((step_segment _ e).returns (ho.run es₁) hs).1.run es₂).1

theorem returns?_eq_nil (h : ∀ o, .reply i o ∉ fx) : fx.filterMap (Effect.returns? i) = [] := by
  rw [List.filterMap_eq_nil_iff]
  intro x hx
  cases x with
  | reply j o =>
    refine if_neg ?_
    rintro rfl
    exact h o hx
  | _ => rfl

/-- Every call returns at most once. -/
theorem returns_once (ho : Orderly r) (es : List Event) (i : CallId) :
    ((r.run es).2.filterMap (Effect.returns? i)).length ≤ 1 := by
  induction es generalizing r with
  | nil => exact Nat.zero_le 1
  | cons e es ih =>
    have hg := step_segment r e
    rw [run_cons, List.filterMap_append, List.length_append]
    by_cases hx : ∃ o, .reply i o ∈ (r.step e).2
    · obtain ⟨o, hx⟩ := hx
      obtain ⟨hi, hfx⟩ := hg.returns ho hx
      rw [returns?_eq_nil (hi.run es).2, hfx]
      simp [Effect.returns?]
    · rw [returns?_eq_nil fun o h => hx ⟨o, h⟩, List.length_nil, Nat.zero_add]
      exact ih (ho.segment hg)

/-! ## The calls that were made -/

/-- A call with a number was made in a run. -/
def Made (r : Registry) (es : List Event) (i : CallId) (c : Call) : Prop :=
  ∃ es₁ es₂, es = es₁ ++ .start c :: es₂ ∧ (r.run es₁).1.nextCall = i

theorem Segment.nextCall_le (hg : Segment r e r' fx) : r.nextCall ≤ r'.nextCall := by
  cases hg with
  | shutdownMade h =>
    rw [h.frame.2.2.2]
    exact Nat.le_succ _
  | drained _ _ h | releaseGone _ _ _ h | released _ h | releaseFailed _ h =>
    exact Nat.le_of_eq h.frame.2.2.2.symm
  | unloaded _ h | unloadFailed _ h => exact Nat.le_of_eq h.frame.2.2.2.2.2.symm
  | enumerated _ h | partReady _ _ _ h | partResolved _ _ h =>
    exact Nat.le_of_eq h.frame.2.2.2.2.2.symm
  | _ => simp

theorem nextCall_run_le (r : Registry) (es : List Event) : r.nextCall ≤ (r.run es).1.nextCall := by
  induction es generalizing r with
  | nil => exact Nat.le_refl _
  | cons e es ih => exact Nat.le_trans (step_segment r e).nextCall_le (ih _)

theorem nextCall_start (r : Registry) (c : Call) :
    (r.step (.start c)).1.nextCall = r.nextCall + 1 := by
  cases c with
  | list => rfl
  | create l =>
    simp only [step, start]
    split
    · rfl
    · split <;> rfl
  | remove oid =>
    simp only [step, start]
    split <;> rfl
  | shutdown => exact (drainNext_drains _ _ _).frame.2.2.2

/-- A number is given to one call only. -/
theorem Made.unique {c c' : Call} (h : Made r es i c) (h' : Made r es i c') : c = c' := by
  obtain ⟨es₁, es₂, rfl, hi⟩ := h
  obtain ⟨es₁', es₂', he, hi'⟩ := h'
  -- Had one call been made before the other, it would have a smaller number.
  have earlier {c : Call} {es fs : List Event}
      (h : (r.run (es ++ .start c :: fs)).1.nextCall = (r.run es).1.nextCall) : False := by
    rw [run_append, run_cons] at h
    have hle := nextCall_run_le ((r.run es).1.step (.start c)).1 fs
    rw [nextCall_start] at hle
    exact Nat.lt_irrefl _ (Nat.lt_of_lt_of_le hle (Nat.le_of_eq h))
  rcases List.append_eq_append_iff.1 he with ⟨as, h₁, h₂⟩ | ⟨as, h₁, h₂⟩
  · cases as with
    | nil =>
      cases h₂
      rfl
    | cons a as =>
      cases h₂
      rw [h₁] at hi'
      exact (earlier (hi'.trans hi.symm)).elim
  · cases as with
    | nil =>
      cases h₂
      rfl
    | cons a as =>
      cases h₂
      rw [h₁] at hi
      exact (earlier (hi.trans hi'.symm)).elim

theorem Made.append {c : Call} (h : Made r es i c) (fs : List Event) : Made r (es ++ fs) i c := by
  obtain ⟨es₁, es₂, rfl, hi⟩ := h
  exact ⟨es₁, es₂ ++ fs, by simp, hi⟩

theorem made_start (r : Registry) (es : List Event) (c : Call) :
    Made r (es ++ [.start c]) (r.run es).1.nextCall c :=
  ⟨es, [], rfl, rfl⟩

end Registry

end SlotBroker
