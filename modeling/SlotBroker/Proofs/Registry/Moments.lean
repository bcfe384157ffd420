import SlotBroker.Proofs.Registry.Calls
import SlotBroker.Proofs.Registry.Roster

/-!
# The moments of a run

A run goes through one state after another, and `moment` tells them by the number of events before
them. What a step does is said of the state before it and its event, and `HappensAt` tells at which
moments of a run that was so. So it can be said of two steps which of them was first, and what was
the case in between.
-/

namespace SlotBroker

namespace Registry

/-- A run at one of its moments: after so many events. -/
def moment (r : Registry) (es : List Event) (n : Nat) : Registry := (r.run (es.take n)).1

/-- The step at a moment of a run is of a kind. -/
def HappensAt (P : Registry → Event → Prop) (r : Registry) (es : List Event) (n : Nat) : Prop :=
  ∃ e, es[n]? = some e ∧ P (r.moment es n) e

/-- A step forgets what is known about the locations: that was asked for, or a shutdown has come to
the backends. -/
def Forgets (r : Registry) (e : Event) : Prop := e = .reset ∨ Clears r (r.step e).2

/-- A call is made, and is known by a number. -/
def Makes (c : Call) (i : CallId) (r : Registry) (e : Event) : Prop :=
  e = .start c ∧ r.nextCall = i

/-- A call returns. -/
def Returns (i : CallId) (o : Outcome) (r : Registry) (e : Event) : Prop :=
  .reply i o ∈ (r.step e).2

/-- The platform tells a list which locations there are. -/
def Enumerates (i : CallId) (ls : List Location) (r : Registry) (e : Event) : Prop :=
  e = .enumerated i (.ok ls) ∧ r.stage? i = some .enumerating

variable {r : Registry} {es : List Event} {e : Event} {m n : Nat} {P : Registry → Event → Prop}
  {i : CallId}

@[simp] theorem moment_zero (r : Registry) (es : List Event) : r.moment es 0 = r := rfl

theorem moment_succ (h : es[n]? = some e) : r.moment es (n + 1) = ((r.moment es n).step e).1 :=
  Machine.moment_succ h

theorem moment_end (r : Registry) (h : es[n]? = none) : r.moment es (n + 1) = r.moment es n :=
  Machine.moment_end r h

/-- What is the case at a moment and is kept by every step up to a later one is the case there
too. -/
theorem moment_keeps {Q : Registry → Prop} (hle : m ≤ n) (h : Q (r.moment es m))
    (hQ : ∀ k e, m ≤ k → k < n → es[k]? = some e → Q (r.moment es k) →
      Q ((r.moment es k).step e).1) :
    Q (r.moment es n) :=
  Machine.moment_keeps hle h hQ

theorem HappensAt.of_event (h : HappensAt P r es n) (he : es[n]? = some e) :
    P (r.moment es n) e := by
  obtain ⟨e', he', h⟩ := h
  rw [he] at he'
  cases he'
  exact h

theorem event_before (h : es[n + 1]? = some e) : ∃ e', es[n]? = some e' :=
  ⟨_, List.getElem?_eq_getElem (Nat.lt_of_succ_lt (List.getElem?_eq_some_iff.1 h).1)⟩

/-! ## Conditions on every step -/

/-- Every step of a run meets a condition. -/
def Throughout (P : Registry → Event → Prop) (r₀ : Registry) (es : List Event) : Prop :=
  ∀ n e, es[n]? = some e → P (r₀.moment es n) e

theorem throughout_cons : Throughout P r (e :: es) ↔ P r e ∧ Throughout P (r.step e).1 es := by
  constructor
  · exact fun h => ⟨h 0 e rfl, fun n e' he => h (n + 1) e' he⟩
  · rintro ⟨h, hs⟩ n e' he
    rcases n with _ | n
    · cases he
      exact h
    · exact hs n e' he

instance decidableThroughout (P : Registry → Event → Prop) [∀ r e, Decidable (P r e)] :
    ∀ (r : Registry) (es : List Event), Decidable (Throughout P r es)
  | _, [] => isTrue fun _ _ he => by cases he
  | r, e :: es =>
    have := decidableThroughout P (r.step e).1 es
    decidable_of_iff (P r e ∧ Throughout P (r.step e).1 es) throughout_cons.symm

theorem Orderly.moment (h : Orderly r) (es : List Event) (n : Nat) : Orderly (r.moment es n) :=
  h.run _

end Registry

end SlotBroker
