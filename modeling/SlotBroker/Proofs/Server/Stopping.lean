import SlotBroker.Proofs.Server.Course

/-!
# How a server stops

A server stops in a fixed order, whatever comes first and whatever the requests do that are still at
work: its health turns to not serving, then the registry is shut down, once, and what that comes to
is its result unless serving had ended with an error before. From then on the registry is empty. A
request that outlives the server can only be told so.
-/

namespace SlotBroker

namespace BrokerEvent

/-- What a server returns: the error with which serving has ended, if that came first, and else what
the shutdown of the registry has come to. -/
def outcome (es : List BrokerEvent) (released : Except BrokerError Unit) :
    Except BrokerError Unit :=
  match firstStop? es with
  | some (.ended (.error e)) => .error e
  | _ => released

theorem result_ending (es : List BrokerEvent) (released : Except BrokerError Unit) :
    Server.result (ending es) released = outcome es released := by
  unfold ending outcome
  rcases firstStop? es with _ | _ | ⟨_ | _⟩ | _ | _ | _ <;> rfl

theorem due_of_none {es : List BrokerEvent} (h : firstStop? es = none) : due es = false := by
  rw [← List.append_nil es, due_append_of_none h]
  rfl

end BrokerEvent

namespace Broker

open BrokerEvent

variable {b : Broker} {r₀ : Registry} {e : BrokerEvent} {es fs : List BrokerEvent} {ev : Event}
  {evs : List Event} {fx : List Effect} {i : CallId} {h : HealthService}
  {result released : Except BrokerError Unit}

/-! ## What its course tells -/

theorem Course.closed (h : Course r₀ es evs fx b) (hu : Registry.Unshut r₀)
    (hb : b.registry = (r₀.run evs).1) (hc : b.registry.closed = true) :
    b.server.health.Says .notServing := by
  cases h with
  | serving _ _ _ _ hn =>
    have ho := (hu.run hn).opened
    rw [hb, ho] at hc
    cases hc
  | draining _ _ hh | releasing _ _ _ _ hh | stopped _ _ _ _ _ hh => exact hh.checks

/-- Whatever happens to a registry that is closed or is about to be shut down, health is then that
the server does not serve. -/
theorem Course.happens (hc : Course r₀ es evs fx b) (hu : Registry.Unshut r₀)
    (hb : b.registry = (r₀.run evs).1) (hh : b.happens? e = some (h, ev))
    (hev : ev = .start .shutdown ∨ b.registry.closed = true) : h.Says .notServing := by
  have hs := step_steps b e
  rw [hh] at hs
  generalize b.step e = p at hs
  cases hs with
  | ended => exact (HealthService.announced_announce _ _).checks
  | drained hp =>
    cases hc with
    | draining _ _ hh => exact hh.checks
    | serving hp' | releasing _ _ hp' | stopped _ _ _ hp' => cases hp.symm.trans hp'
  | handles hne =>
    rcases hev with rfl | hev
    · exact absurd rfl hne
    · exact hc.closed hu hb hev

theorem length_filter_isShutdown (h : .start .shutdown ∉ evs) :
    (evs.filter Event.isShutdown).length = 0 := by
  rw [List.length_eq_zero_iff, List.filter_eq_nil_iff]
  intro ev hev hs
  unfold Event.isShutdown at hs
  split at hs
  · exact h hev
  · cases hs

theorem Course.once (h : Course r₀ es evs fx b) :
    (evs.filter Event.isShutdown).length = if due es then 1 else 0 := by
  have one {evs₁ evs₂ : List Event} (he : evs = evs₁ ++ .start .shutdown :: evs₂)
      (h₁ : .start .shutdown ∉ evs₁) (h₂ : .start .shutdown ∉ evs₂) :
      (evs.filter Event.isShutdown).length = 1 := by
    rw [he, List.filter_append, List.filter_cons_of_pos rfl, List.length_append, List.length_cons,
      length_filter_isShutdown h₁, length_filter_isShutdown h₂]
  cases h with
  | serving _ _ _ hf hn => simp [due_of_none hf, length_filter_isShutdown hn]
  | draining _ _ _ _ hd hn => simp [hd, length_filter_isShutdown hn]
  | releasing _ _ _ _ _ _ hd he h₁ h₂ => rw [hd, one he h₁ h₂, if_pos rfl]
  | stopped _ _ _ _ _ _ _ hd he h₁ h₂ => rw [hd, one he h₁ h₂, if_pos rfl]

theorem Course.returns (h : Course r₀ es evs fx b) : b.server.phase = .stopped result ↔
    ∃ i released, .reply i (.shutDown released) ∈ fx ∧ result = outcome es released := by
  have quiet (hp : b.server.phase ≠ .stopped result)
      (hx : ∀ i o, .reply i (.shutDown o) ∉ fx) : b.server.phase = .stopped result ↔
      ∃ i released, .reply i (.shutDown released) ∈ fx ∧ result = outcome es released := by
    refine ⟨fun h => absurd h hp, ?_⟩
    rintro ⟨i, o, hm, -⟩
    exact absurd hm (hx i o)
  cases h with
  | serving hp _ _ _ _ hx => exact quiet (by simp [hp]) hx
  | draining hp _ _ _ _ _ hx => exact quiet (by simp [hp]) hx
  | releasing _ _ hp _ _ _ _ _ _ _ hx => exact quiet (by simp [hp]) hx
  | stopped _ _ released hp _ _ _ _ _ _ _ hx =>
    rw [hp, Phase.stopped.injEq, result_ending]
    constructor
    · rintro rfl
      exact ⟨_, released, (hx _ _).2 ⟨rfl, rfl⟩, rfl⟩
    · rintro ⟨i, o, hm, rfl⟩
      rw [((hx i o).1 hm).2]

theorem Course.empty (h : Course r₀ es evs fx b) (hu : Registry.Unshut r₀)
    (hb : b.registry = (r₀.run evs).1) (hfx : fx = (r₀.run evs).2)
    (hp : b.server.phase = .stopped result) : Registry.Emptied b.registry := by
  cases h with
  | serving hp' | draining hp' | releasing _ _ hp' => cases hp.symm.trans hp'
  | stopped evs₁ evs₂ released _ _ _ _ _ he h₁ h₂ hx =>
    have hm := (hx _ released).2 ⟨rfl, rfl⟩
    rw [hfx] at hm
    have hover := Registry.over_of_reply hu.orderly hm
    rw [he] at hm hover
    rw [hb, he]
    exact ((hu.during h₁ h₂).done hm hover).1

end Broker

end SlotBroker
