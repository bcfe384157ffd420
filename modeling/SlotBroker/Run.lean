/-!
# Runs of a machine

A machine takes a step at each event: it goes to another state, and the step has effects. A run
takes the steps of some events one after another, and `moment` tells the states in it by the number
of events before them.
-/

namespace SlotBroker

namespace Machine

variable {σ ε φ : Type} (step : σ → ε → σ × List φ)

/-- A run: the state after the events, and all effects in order. -/
def run (s : σ) : List ε → σ × List φ
  | [] => (s, [])
  | e :: es =>
    let t := step s e
    let u := run t.1 es
    (u.1, t.2 ++ u.2)

/-- A run at one of its moments: after so many events. -/
def moment (s : σ) (es : List ε) (n : Nat) : σ := (run step s (es.take n)).1

@[simp] theorem run_nil (s : σ) : run step s [] = (s, []) := rfl

theorem run_cons (s : σ) (e : ε) (es : List ε) :
    run step s (e :: es) =
      ((run step (step s e).1 es).1, (step s e).2 ++ (run step (step s e).1 es).2) := rfl

/-- A run of two sequences of events is a run of the first and then one of the second. So what is
said of the state after any run is said of every moment of one. -/
theorem run_append (s : σ) (es fs : List ε) :
    run step s (es ++ fs) =
      ((run step (run step s es).1 fs).1,
        (run step s es).2 ++ (run step (run step s es).1 fs).2) := by
  induction es generalizing s with
  | nil => rfl
  | cons e es ih => simp only [List.cons_append, run_cons, ih, List.append_assoc]

theorem run_concat (s : σ) (es : List ε) (e : ε) :
    run step s (es ++ [e]) =
      ((step (run step s es).1 e).1, (run step s es).2 ++ (step (run step s es).1 e).2) := by
  simp [run_append, run_cons]

variable {step} {s : σ} {e : ε} {es : List ε} {m n : Nat} {x : φ}

/-- What holds at first and is kept by every step holds after every run. -/
theorem run_induction {Q : σ → Prop} (h : Q s) (hQ : ∀ {s e}, Q s → Q (step s e).1)
    (es : List ε) : Q (run step s es).1 := by
  induction es generalizing s with
  | nil => exact h
  | cons e es ih => exact ih (hQ h)

@[simp] theorem moment_zero (s : σ) (es : List ε) : moment step s es 0 = s := rfl

theorem moment_succ (h : es[n]? = some e) :
    moment step s es (n + 1) = (step (moment step s es n) e).1 := by
  rw [moment, List.take_add_one, h, Option.toList_some, run_concat, moment]

theorem moment_end (s : σ) (h : es[n]? = none) :
    moment step s es (n + 1) = moment step s es n := by
  rw [moment, List.take_add_one, h, Option.toList_none, List.append_nil, moment]

/-- What is the case at a moment and is kept by every step up to a later one is the case there
too. -/
theorem moment_keeps {Q : σ → Prop} (hle : m ≤ n) (h : Q (moment step s es m))
    (hQ : ∀ k e, m ≤ k → k < n → es[k]? = some e → Q (moment step s es k) →
      Q (step (moment step s es k) e).1) :
    Q (moment step s es n) := by
  induction hle with
  | refl => exact h
  | @step n hle ih =>
    have hn := ih fun k e hk hkn => hQ k e hk (Nat.lt_succ_of_lt hkn)
    cases he : es[n]? with
    | none => rwa [moment_end _ he]
    | some e =>
      rw [moment_succ he]
      exact hQ n e hle (Nat.lt_succ_self n) he hn

/-- An effect of a run up to a moment is one of a step before it. -/
theorem mem_run_take : x ∈ (run step s (es.take n)).2 ↔
    ∃ k, k < n ∧ ∃ e, es[k]? = some e ∧ x ∈ (step (moment step s es k) e).2 := by
  induction n with
  | zero => simp
  | succ n ih =>
    simp only [Nat.lt_succ_iff_lt_or_eq, or_and_right, exists_or, exists_eq_left]
    rw [← ih, List.take_add_one]
    cases he : es[n]? with
    | none => simp
    | some e =>
      rw [Option.toList_some, run_concat, List.mem_append]
      simp [moment]

end Machine

end SlotBroker
