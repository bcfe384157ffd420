import SlotBroker.Proofs.Registry.Line

/-!
# Runs of a registry

A run of a registry is the run of a machine whose steps are its segments: what every segment keeps
holds after every run.
-/

namespace SlotBroker

namespace Registry

variable {r : Registry}

@[simp] theorem run_nil (r : Registry) : r.run [] = (r, []) := rfl

theorem run_cons (r : Registry) (e : Event) (es : List Event) :
    r.run (e :: es) = (((r.step e).1.run es).1, (r.step e).2 ++ ((r.step e).1.run es).2) := rfl

theorem run_append (r : Registry) (es fs : List Event) :
    r.run (es ++ fs) = (((r.run es).1.run fs).1, (r.run es).2 ++ ((r.run es).1.run fs).2) :=
  Machine.run_append step r es fs

theorem run_concat (r : Registry) (es : List Event) (e : Event) :
    r.run (es ++ [e]) = (((r.run es).1.step e).1, (r.run es).2 ++ ((r.run es).1.step e).2) :=
  Machine.run_concat step r es e

/-- What holds at first and is kept by every segment holds after every run. -/
theorem run_induction {P : Registry → Prop} (h : P r)
    (hP : ∀ {r e r' fx}, P r → Segment r e r' fx → P r') (es : List Event) : P (r.run es).1 :=
  Machine.run_induction h (fun h => hP h (step_segment _ _)) es

theorem stage?_new (adapter : Adapter) (policy : Policy) (order : CallId → Arrangement Location)
    (t : BackendTable) (id : CallId) :
    (new adapter policy order t).stage? id = none := rfl

theorem line_new (adapter : Adapter) (policy : Policy) (order : CallId → Arrangement Location)
    (t : BackendTable) (l : Location) :
    (new adapter policy order t).line l = [] := rfl

theorem orderly_new (adapter : Adapter) (policy : Policy) (order : CallId → Arrangement Location)
    (t : BackendTable) :
    Orderly (new adapter policy order t) where
  fresh hi := by simp [stage?_new] at hi
  nodup l := by simp [line_new]
  mem_line l id := by simp [line_new, stage?_new]
  head hi := by simp [stage?_new] at hi

theorem Orderly.run (h : Orderly r) (es : List Event) : Orderly (r.run es).1 :=
  run_induction h Orderly.segment es

end Registry

end SlotBroker
