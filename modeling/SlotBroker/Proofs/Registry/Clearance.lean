import SlotBroker.Proofs.Registry.Closing
import SlotBroker.Proofs.Registry.Ending
import SlotBroker.Proofs.Registry.Purpose
import SlotBroker.Proofs.Registry.Tabled

/-!
# What a shutdown does, reports and leaves

A shutdown that is made while no other call is in progress goes through the lines, then through the
sessions and then through the backends, whatever the backends answer. `Advance` tells how far it has
come: what it has done so far, the failures it has put down, the sessions that have stayed because
their detach failed, and how many steps are left to it. Every step that nothing disturbs keeps to
that (`Underway.step`), and as long as something is left there is a step that does the next of it
(`Underway.goes_on`).
-/

namespace SlotBroker

/-- What the backends answer to each detach and to each unload. -/
structure Responses where
  detach : Oid → Except BackendError Unit
  unload : InstanceId → Except BackendError Unit

/-- The failure that an answer tells. -/
def failure? : Except BackendError Unit → Option BrokerError
  | .ok () => none
  | .error e => some (.backend e)

theorem failure?_eq_none_iff {x : Except BackendError Unit} : failure? x = none ↔ x = .ok () := by
  cases x <;> simp [failure?]

namespace Responses

variable (a : Responses)

/-- The failures among the detaches of some sessions, in their order. -/
def detachFailures (xs : List LiveSession) : List BrokerError :=
  xs.filterMap fun x => failure? (a.detach x.info.oid)

/-- The failures among the unloads of some backends, in their order. -/
def unloadFailures (bs : List InstanceId) : List BrokerError :=
  bs.filterMap fun b => failure? (a.unload b)

/-- The failures of the sessions, and then those of the backends. -/
def failures (xs : List LiveSession) (bs : List InstanceId) : List BrokerError :=
  a.detachFailures xs ++ a.unloadFailures bs

/-- What a shutdown returns. -/
def result (xs : List LiveSession) (bs : List InstanceId) : Except BrokerError Unit :=
  if (a.failures xs bs).isEmpty then .ok () else .error (.shutdownFailed (a.failures xs bs))

/-- The sessions whose detach fails. -/
def kept (xs : List LiveSession) : List LiveSession :=
  xs.filter fun x => (failure? (a.detach x.info.oid)).isSome

/-- Every detach and every unload succeeds. -/
def Succeed (xs : List LiveSession) (bs : List InstanceId) : Prop :=
  (∀ x ∈ xs, a.detach x.info.oid = .ok ()) ∧ ∀ b ∈ bs, a.unload b = .ok ()

theorem failures_eq_nil_iff {xs : List LiveSession} {bs : List InstanceId} :
    a.failures xs bs = [] ↔ a.Succeed xs bs := by
  simp only [failures, detachFailures, unloadFailures, Succeed, List.append_eq_nil_iff,
    List.filterMap_eq_nil_iff, failure?_eq_none_iff]

theorem result_of_succeed {xs : List LiveSession} {bs : List InstanceId} (h : a.Succeed xs bs) :
    a.result xs bs = .ok () := by
  rw [result, a.failures_eq_nil_iff.2 h]
  rfl

theorem result_of_not_succeed {xs : List LiveSession} {bs : List InstanceId}
    (h : ¬ a.Succeed xs bs) :
    a.result xs bs = .error (.shutdownFailed (a.failures xs bs)) := by
  rw [result, if_neg fun hn => h (a.failures_eq_nil_iff.1 (List.isEmpty_iff.1 hn))]

theorem mem_failures {xs : List LiveSession} {bs : List InstanceId} {e : BrokerError}
    (h : e ∈ a.failures xs bs) : ∃ e', e = .backend e' := by
  have told {x : Except BackendError Unit} (hx : failure? x = some e) : ∃ e', e = .backend e' := by
    cases x with
    | ok => cases hx
    | error e' =>
      cases hx
      exact ⟨e', rfl⟩
  rcases List.mem_append.1 h with h | h
  · obtain ⟨_, -, hx⟩ := List.mem_filterMap.1 h
    exact told hx
  · obtain ⟨_, -, hx⟩ := List.mem_filterMap.1 h
    exact told hx

variable {a} {xs : List LiveSession} {bs : List InstanceId} {x : LiveSession} {b : InstanceId}
  {e : BackendError}

theorem detachFailures_ok (h : a.detach x.info.oid = .ok ()) :
    a.detachFailures (xs ++ [x]) = a.detachFailures xs := by
  simp [detachFailures, h, failure?]

theorem detachFailures_error (h : a.detach x.info.oid = .error e) :
    a.detachFailures (xs ++ [x]) = a.detachFailures xs ++ [.backend e] := by
  simp [detachFailures, h, failure?]

theorem kept_ok (h : a.detach x.info.oid = .ok ()) : a.kept (xs ++ [x]) = a.kept xs := by
  simp [kept, h, failure?]

theorem kept_error (h : a.detach x.info.oid = .error e) :
    a.kept (xs ++ [x]) = a.kept xs ++ [x] := by
  simp [kept, h, failure?]

end Responses

namespace Registry

variable {r r' : Registry} {e : Event} {es fs gs : List Event} {fx fx₀ : List Effect}
  {id i : CallId} {b : InstanceId}

/-! ## What a shutdown does, and how far it has come -/

def detaches (id : CallId) (xs : List LiveSession) : List Effect :=
  xs.map fun x => .detach id x.backend x.info.handle

def unloads (id : CallId) (bs : List InstanceId) : List Effect := bs.map (.unload id)

/-- All that a shutdown does with some sessions and some backends. -/
def clearance (a : Responses) (id : CallId) (xs : List LiveSession) (bs : List InstanceId) :
    List Effect :=
  detaches id xs ++ unloads id bs ++ [.reply id (.shutDown (a.result xs bs))]

/-- There is nothing left to forget or to unload. -/
structure Bare (r : Registry) : Prop where
  sessions : r.sessions = []
  resolutions : r.resolutions.index = []
  listed : r.listed = none
  backends : r.backends.loads.index = []

/-- How far a shutdown has come with some sessions and some backends: the steps left to it, what it
has done, and the registry. -/
inductive Advance (a : Responses) (id : CallId) (xs : List LiveSession) (bs : List InstanceId) :
    Nat → List Effect → Registry → Prop
  | draining {l rest n} {r : Registry} (hs : r.stage? id = some (.draining l rest))
      (hx : r.sessions = xs) (hb : r.tabled = bs)
      (hn : n = rest.length + 1 + 2 * xs.length + bs.length) : Advance a id xs bs n [] r
  | standing {done x todo n} {r : Registry}
      (hs : r.stage? id = some (.releasing x.info.oid x.info.location false
        (todo.map fun y => y.info.oid) (a.detachFailures done)))
      (hxs : xs = done ++ x :: todo) (hx : r.sessions = a.kept done ++ x :: todo)
      (hb : r.tabled = bs) (hn : n = 2 * todo.length + 2 + bs.length) :
      Advance a id xs bs n (detaches id done) r
  | detaching {done x todo n} {r : Registry}
      (hs : r.stage? id = some (.releasing x.info.oid x.info.location true
        (todo.map fun y => y.info.oid) (a.detachFailures done)))
      (hxs : xs = done ++ x :: todo) (hx : r.sessions = a.kept done ++ x :: todo)
      (hb : r.tabled = bs) (hn : n = 2 * todo.length + 1 + bs.length) :
      Advance a id xs bs n (detaches id (done ++ [x])) r
  | unloading {done b cells n} {r : Registry}
      (hs : r.stage? id = some (.unloading b cells (a.failures xs done)))
      (hbs : bs = done ++ b :: r.held cells) (hr : Bare r) (hn : n = (r.held cells).length + 1) :
      Advance a id xs bs n (detaches id xs ++ unloads id (done ++ [b])) r
  | done {r : Registry} (hs : r.stage? id = none) (hr : Bare r) :
      Advance a id xs bs 0 (clearance a id xs bs) r

variable {a : Responses} {xs done todo : List LiveSession} {bs bdone : List InstanceId} {n : Nat}
  {x : LiveSession} {l : Location}

theorem detaches_concat : detaches id (done ++ [x]) =
    detaches id done ++ [.detach id x.backend x.info.handle] := by
  simp [detaches]

theorem unloads_concat : unloads id (bs ++ [b]) = unloads id bs ++ [.unload id b] := by
  simp [unloads]

theorem Bare.emptied : Bare r.emptied := ⟨rfl, rfl, rfl, rfl⟩

/-! ## Going on to the next -/

/-- A shutdown with backends left to it unloads the next of them, or returns. -/
theorem Unloads.advance {cells : List Nat} (h : Unloads r id (a.failures xs bdone) cells r' fx)
    (hr : Bare r) (hbs : bs = bdone ++ r.held cells) :
    Advance a id xs bs (r.held cells).length (detaches id xs ++ unloads id bdone ++ fx) r' := by
  cases h with
  | @next b rest h =>
    have hh := held_of_nextLoaded h
    rw [hh] at hbs ⊢
    rw [List.append_assoc, ← unloads_concat]
    exact .unloading (stage?_setStage_self id _ r) hbs
      ⟨hr.sessions, hr.resolutions, hr.listed, hr.backends⟩ rfl
  | ends h =>
    have hh := held_of_nextLoaded_none h
    rw [hh, List.append_nil] at hbs
    subst hbs
    rw [hh]
    exact .done (by simp) ⟨hr.sessions, hr.resolutions, hr.listed, hr.backends⟩

theorem sorted_standing (hxs : Sorted (done ++ todo)) : Sorted (a.kept done ++ todo) :=
  hxs.sublist (List.filter_sublist.append_right todo)

/-- A shutdown with sessions left to it stands in the line of the next of them, or goes on to the
backends. -/
theorem Releases.advance (h : Releases r id (a.detachFailures done) (todo.map fun y => y.info.oid)
      r' fx) (hsort : Sorted xs) (hxs : xs = done ++ todo) (hx : r.sessions = a.kept done ++ todo)
    (hb : r.tabled = bs) :
    Advance a id xs bs (2 * todo.length + bs.length) (detaches id done ++ fx) r' := by
  -- All that are left are still live, so none is passed over.
  have live {y : LiveSession} (hy : y ∈ todo) : r.find? y.info.oid ≠ none :=
    find?_ne_none (by simp [hx, hy])
  generalize ho : todo.map (fun y => y.info.oid) = oids at h
  cases h with
  | @stands gone oid rest s hg hf =>
    cases todo with
    | nil => simp at ho
    | cons y todo =>
      cases gone with
      | cons o gone =>
        obtain ⟨rfl, -⟩ := List.cons.inj ho
        exact absurd (hg _ List.mem_cons_self) (live List.mem_cons_self)
      | nil =>
        cases ho
        have hy : r.find? y.info.oid = some y := by
          rw [Registry.find?, hx]
          exact (sorted_standing (hxs ▸ hsort)).find? (by simp)
        obtain rfl : s = y := Option.some.inj (hf.symm.trans hy)
        rw [List.append_nil]
        exact .standing (stage?_setStage_self id _ _) hxs hx hb rfl
  | unloads hg h =>
    cases todo with
    | cons y todo =>
      cases ho
      exact absurd (hg _ List.mem_cons_self) (live List.mem_cons_self)
    | nil =>
      rw [List.append_nil] at hxs
      subst hxs
      have hl : (r.emptied.held r.backends.takeAll.2).length = bs.length :=
        congrArg List.length hb
      have hc : Advance a id xs bs bs.length
          (detaches id xs ++ Registry.unloads id [] ++ fx) r' := by
        rw [← hl]
        refine Unloads.advance ?_ Bare.emptied hb.symm
        simpa [Responses.failures, Responses.unloadFailures] using h
      simpa [Registry.unloads] using hc

/-- A shutdown with lines left to it stands in the next of them, or goes on to the sessions. -/
theorem Drains.advance {ls : List Location} (h : Drains r id ls r' fx) (hsort : Sorted xs)
    (hx : r.sessions = xs) (hb : r.tabled = bs) :
    Advance a id xs bs (ls.length + 2 * xs.length + bs.length) fx r' := by
  cases h with
  | stands => exact .draining (stage?_setStage_self id _ _) hx hb rfl
  | releases h =>
    subst hx
    rw [List.length_nil, Nat.zero_add]
    have hc : Advance a id r.sessions bs _ (detaches id [] ++ fx) r' :=
      Releases.advance h hsort rfl rfl hb
    exact hc

/-! ## Undisturbed runs -/

/-- An event that lets a shutdown go on: no call is made, the shutdown is not given up, and the
backends answer it as they are said to. -/
def Fits (a : Responses) (id : CallId) (r : Registry) : Event → Prop
  | .start _ => False
  | .drop i _ => i ≠ id
  | .detached i x => ∀ oid, (r.stage? i).bind Stage.detaches? = some oid → x = a.detach oid
  | .unloaded i x => ∀ b cells errors, r.stage? i = some (.unloading b cells errors) →
      x = a.unload b
  | _ => True

def Undisturbed (a : Responses) (id : CallId) : Registry → List Event → Prop
  | _, [] => True
  | r, e :: es => Fits a id r e ∧ Undisturbed a id (r.step e).1 es

theorem undisturbed_append : Undisturbed a id r (fs ++ gs) ↔
    Undisturbed a id r fs ∧ Undisturbed a id (r.run fs).1 gs := by
  induction fs generalizing r with
  | nil => simp [Undisturbed]
  | cons e fs ih => simp only [List.cons_append, Undisturbed, ih, run_cons, and_assoc]

/-- A shutdown that is alone has come so far. -/
structure Underway (a : Responses) (id : CallId) (xs : List LiveSession) (bs : List InstanceId)
    (n : Nat) (fx : List Effect) (r : Registry) : Prop where
  orderly : Orderly r
  sorted : Sorted xs
  alone : ∀ {i s}, r.stage? i = some s → i = id ∧ s.call? = some .shutdown
  advance : Advance a id xs bs n fx r

theorem Advance.of_draining {rest : List Location} (h : Advance a id xs bs n fx r)
    (hs : r.stage? id = some (.draining l rest)) : fx = [] ∧ r.sessions = xs ∧ r.tabled = bs ∧
      n = rest.length + 1 + 2 * xs.length + bs.length := by
  cases h with
  | draining hs' hx hb hn =>
    cases hs.symm.trans hs'
    exact ⟨rfl, hx, hb, hn⟩
  | standing hs' | detaching hs' | unloading hs' | done hs' => cases hs.symm.trans hs'

theorem Advance.of_releasing {oid : Oid} {rest : List Oid} {errors : List BrokerError} {d : Bool}
    (h : Advance a id xs bs n fx r) (hs : r.stage? id = some (.releasing oid l d rest errors)) :
    ∃ done x todo, oid = x.info.oid ∧ l = x.info.location ∧
      rest = todo.map (fun y => y.info.oid) ∧ errors = a.detachFailures done ∧
      xs = done ++ x :: todo ∧ r.sessions = a.kept done ++ x :: todo ∧ r.tabled = bs ∧
      fx = detaches id (if d then done ++ [x] else done) ∧
      n = 2 * todo.length + (if d then 1 else 2) + bs.length := by
  cases h with
  | standing hs' hxs hx hb hn =>
    cases hs.symm.trans hs'
    exact ⟨_, _, _, rfl, rfl, rfl, rfl, hxs, hx, hb, rfl, hn⟩
  | detaching hs' hxs hx hb hn =>
    cases hs.symm.trans hs'
    exact ⟨_, _, _, rfl, rfl, rfl, rfl, hxs, hx, hb, rfl, hn⟩
  | draining hs' | unloading hs' | done hs' => cases hs.symm.trans hs'

theorem Advance.of_unloading {cells : List Nat} {errors : List BrokerError}
    (h : Advance a id xs bs n fx r) (hs : r.stage? id = some (.unloading b cells errors)) :
    ∃ done, errors = a.failures xs done ∧ bs = done ++ b :: r.held cells ∧ Bare r ∧
      fx = detaches id xs ++ unloads id (done ++ [b]) ∧ n = (r.held cells).length + 1 := by
  cases h with
  | unloading hs' hbs hr hn =>
    cases hs.symm.trans hs'
    exact ⟨_, rfl, hbs, hr, rfl, hn⟩
  | draining hs' | standing hs' | detaching hs' | done hs' => cases hs.symm.trans hs'

/-! ## One step further -/

theorem Advance.drained {rest : List Location} (h : Advance a id xs bs n fx₀ r) (hx : Sorted xs)
    (hs : r.stage? id = some (.draining l rest)) (hd : Drains (r.leaveLine l id) id rest r' fx) :
    ∃ m, n = m + 1 ∧ Advance a id xs bs m (fx₀ ++ fx) r' := by
  obtain ⟨rfl, hss, hb, rfl⟩ := h.of_draining hs
  exact ⟨_, by omega, hd.advance hx hss hb⟩

theorem Advance.found {oid : Oid} {rest : List Oid} {errors : List BrokerError}
    (h : Advance a id xs bs n fx₀ r) (hx : Sorted xs)
    (hs : r.stage? id = some (.releasing oid l false rest errors)) :
    ∃ s m, r.find? oid = some s ∧ n = m + 1 ∧
      Advance a id xs bs m (fx₀ ++ [.detach id s.backend s.info.handle])
        (r.setStage id (.releasing oid l true rest errors)) := by
  obtain ⟨done, x, todo, rfl, rfl, rfl, rfl, hxs, hss, hb, rfl, rfl⟩ := h.of_releasing hs
  refine ⟨x, 2 * todo.length + 1 + bs.length, ?_, by simp; omega, ?_⟩
  · rw [Registry.find?, hss]
    exact (sorted_standing (hxs ▸ hx)).find? (by simp)
  · rw [if_neg Bool.false_ne_true, ← detaches_concat]
    exact .detaching (stage?_setStage_self id _ r) hxs hss hb rfl

/-- A session that is detached leaves the others as they are. -/
theorem erase_standing (hx : Sorted (done ++ x :: todo)) :
    (a.kept done ++ x :: todo).filter (fun y => !(y.info.oid == x.info.oid)) =
      a.kept done ++ todo := by
  obtain ⟨-, hcons, hlt⟩ := List.pairwise_append.1 hx
  obtain ⟨hgt, -⟩ := List.pairwise_cons.1 hcons
  have before : ∀ y ∈ a.kept done, (!(y.info.oid == x.info.oid)) = true := by
    intro y hy
    have hy := hlt y (List.mem_filter.1 hy).1 x List.mem_cons_self
    simp only [Bool.not_eq_true', beq_eq_false_iff_ne]
    exact fun he => UInt64.lt_irrefl _ (he ▸ hy)
  have behind : ∀ y ∈ todo, (!(y.info.oid == x.info.oid)) = true := by
    intro y hy
    have hy := hgt y hy
    simp only [Bool.not_eq_true', beq_eq_false_iff_ne]
    exact fun he => UInt64.lt_irrefl _ (he ▸ hy)
  rw [List.filter_append, List.filter_eq_self.2 before, List.filter_cons_of_neg (by simp),
    List.filter_eq_self.2 behind]

theorem Advance.released {oid : Oid} {rest : List Oid} {errors : List BrokerError}
    (h : Advance a id xs bs n fx₀ r) (hx : Sorted xs) (ha : a.detach oid = .ok ())
    (hs : r.stage? id = some (.releasing oid l true rest errors))
    (hr : Releases ((r.eraseSession oid).leaveLine l id) id errors rest r' fx) :
    ∃ m, n = m + 1 ∧ Advance a id xs bs m (fx₀ ++ fx) r' := by
  obtain ⟨done, x, todo, rfl, rfl, rfl, rfl, hxs, hss, hb, rfl, rfl⟩ := h.of_releasing hs
  have he : a.detachFailures (done ++ [x]) = a.detachFailures done :=
    Responses.detachFailures_ok ha
  rw [← he] at hr
  refine ⟨2 * todo.length + bs.length, by simp; omega, ?_⟩
  refine hr.advance hx (by simp [hxs]) ?_ hb
  rw [Responses.kept_ok ha, ← erase_standing (hxs ▸ hx), ← hss]
  rfl

theorem Advance.releaseFailed {oid : Oid} {rest : List Oid} {errors : List BrokerError}
    {e : BackendError} (h : Advance a id xs bs n fx₀ r) (hx : Sorted xs)
    (ha : a.detach oid = .error e)
    (hs : r.stage? id = some (.releasing oid l true rest errors))
    (hr : Releases (r.leaveLine l id) id (errors ++ [.backend e]) rest r' fx) :
    ∃ m, n = m + 1 ∧ Advance a id xs bs m (fx₀ ++ fx) r' := by
  obtain ⟨done, x, todo, rfl, rfl, rfl, rfl, hxs, hss, hb, rfl, rfl⟩ := h.of_releasing hs
  have he : a.detachFailures (done ++ [x]) = a.detachFailures done ++ [.backend e] :=
    Responses.detachFailures_error ha
  rw [← he] at hr
  refine ⟨2 * todo.length + bs.length, by simp; omega, ?_⟩
  refine hr.advance hx (by simp [hxs]) ?_ hb
  rw [Responses.kept_error ha, List.append_assoc]
  exact hss

theorem Advance.unloaded {cells : List Nat} {errors errors' : List BrokerError}
    (h : Advance a id xs bs n fx₀ r) (hs : r.stage? id = some (.unloading b cells errors))
    (he : errors' = errors ++ a.unloadFailures [b]) (hu : Unloads r id errors' cells r' fx) :
    ∃ m, n = m + 1 ∧ Advance a id xs bs m (fx₀ ++ fx) r' := by
  obtain ⟨done, rfl, hbs, hr, rfl, rfl⟩ := h.of_unloading hs
  refine ⟨_, rfl, Unloads.advance ?_ hr (by simp [hbs])⟩
  rw [he] at hu
  simpa [Responses.failures, Responses.unloadFailures] using hu

theorem Advance.rests (h : Advance a id xs bs n fx r) :
    Advance a id xs bs n fx r.resetDiscovery := by
  have bare (hr : Bare r) : Bare r.resetDiscovery := ⟨hr.sessions, rfl, rfl, hr.backends⟩
  cases h with
  | draining hs hx hb hn => exact .draining hs hx hb hn
  | standing hs hxs hx hb hn => exact .standing hs hxs hx hb hn
  | detaching hs hxs hx hb hn => exact .detaching hs hxs hx hb hn
  | unloading hs hbs hr hn => exact .unloading hs hbs (bare hr) hn
  | done hs hr => exact .done hs (bare hr)

/-- What a shutdown does in a step that nothing disturbs. -/
theorem Segment.advance (h : Underway a id xs bs n fx₀ r) (hf : Fits a id r e)
    (hg : Segment r e r' fx) : ∃ m, m ≤ n ∧ Advance a id xs bs m (fx₀ ++ fx) r' := by
  have further (hm : ∃ m, n = m + 1 ∧ Advance a id xs bs m (fx₀ ++ fx) r') :
      ∃ m, m ≤ n ∧ Advance a id xs bs m (fx₀ ++ fx) r' := by
    obtain ⟨m, rfl, hc⟩ := hm
    exact ⟨m, Nat.le_succ m, hc⟩
  have answered {oid : Oid} {s : Stage} (hs : r.stage? id = some s)
      (hd : s.detaches? = some oid) : (r.stage? id).bind Stage.detaches? = some oid := by
    rw [hs, Option.bind_some, hd]
  cases hg with
  | idle => exact ⟨n, Nat.le_refl n, by simpa using h.advance⟩
  | reset => exact ⟨n, Nat.le_refl n, by simpa using h.advance.rests⟩
  | refused | listMade | createMade | removeMade | shutdownMade => exact hf.elim
  | drained hs _ hd =>
    obtain ⟨rfl, -⟩ := h.alone hs
    exact further (h.advance.drained h.sorted hs hd)
  | releaseGone hs _ hgone =>
    obtain ⟨rfl, -⟩ := h.alone hs
    obtain ⟨s, m, hfind, -⟩ := h.advance.found h.sorted hs
    cases hgone.symm.trans hfind
  | releaseDetaches hs _ hfind =>
    obtain ⟨rfl, -⟩ := h.alone hs
    obtain ⟨s, m, hfind', hm⟩ := h.advance.found h.sorted hs
    cases hfind.symm.trans hfind'
    exact further ⟨m, hm⟩
  | released hs hr =>
    obtain ⟨rfl, -⟩ := h.alone hs
    exact further (h.advance.released h.sorted (hf _ (answered hs rfl)).symm hs hr)
  | releaseFailed hs hr =>
    obtain ⟨rfl, -⟩ := h.alone hs
    exact further (h.advance.releaseFailed h.sorted (hf _ (answered hs rfl)).symm hs hr)
  | unloaded hs hu =>
    obtain ⟨rfl, -⟩ := h.alone hs
    refine further (h.advance.unloaded hs ?_ hu)
    simp [Responses.unloadFailures, ← hf _ _ _ hs, failure?]
  | unloadFailed hs hu =>
    obtain ⟨rfl, -⟩ := h.alone hs
    refine further (h.advance.unloaded hs ?_ hu)
    simp [Responses.unloadFailures, ← hf _ _ _ hs, failure?]
  | dropStanding hs | dropAlone hs => exact absurd (h.alone hs).1 hf
  | dropResolving hs | dropLoading hs =>
    rcases hs with hs | hs
    · cases (h.alone hs).2
    · cases (h.alone hs).2
  | _ hs => cases (h.alone hs).2

theorem Underway.alone_step (h : Underway a id xs bs n fx₀ r) (hf : Fits a id r e)
    {s : Stage} (hi : (r.step e).1.stage? i = some s) : i = id ∧ s.call? = some .shutdown := by
  have hp := (step_segment r e).purpose hi
  generalize hc : s.call? = c at hp
  cases hp with
  | same hs => exact h.alone hs
  | made hm =>
    obtain ⟨rfl, -⟩ := hm
    exact hf.elim
  | background hs => cases (h.alone hs).2

theorem Underway.step (h : Underway a id xs bs n fx₀ r) (hf : Fits a id r e) :
    ∃ m, m ≤ n ∧ Underway a id xs bs m (fx₀ ++ (r.step e).2) (r.step e).1 := by
  obtain ⟨m, hm, hc⟩ := (step_segment r e).advance h hf
  exact ⟨m, hm, h.orderly.segment (step_segment r e), h.sorted, h.alone_step hf, hc⟩

theorem Underway.run (h : Underway a id xs bs n fx₀ r) (hf : Undisturbed a id r es) :
    ∃ m, m ≤ n ∧ Underway a id xs bs m (fx₀ ++ (r.run es).2) (r.run es).1 := by
  induction es generalizing r n fx₀ with
  | nil => exact ⟨n, Nat.le_refl n, by simpa using h⟩
  | cons e es ih =>
    obtain ⟨m, hm, h⟩ := h.step hf.1
    obtain ⟨m', hm', h⟩ := ih h hf.2
    refine ⟨m', Nat.le_trans hm' hm, ?_⟩
    rw [run_cons, ← List.append_assoc]
    exact h

/-! ## To the end -/

/-- A shutdown that is alone has its turn in the line where it stands. -/
theorem Underway.holder? (h : Underway a id xs bs n fx r) {s : Stage}
    (hs : r.stage? id = some s) (hl : s.standsAt? = some l) : r.holder? l = some id := by
  have hmem : id ∈ r.line l := (h.orderly.mem_line l id).2 ⟨s, hs, hl⟩
  rw [holder?_eq]
  cases hline : r.line l with
  | nil =>
    rw [hline] at hmem
    cases hmem
  | cons j js =>
    obtain ⟨s', hj, -⟩ := (h.orderly.mem_line l j).1 (hline ▸ List.mem_cons_self)
    rw [List.head?_cons, (h.alone hj).1]

theorem step_draining {rest : List Location} (hs : r.stage? id = some (.draining l rest))
    (hh : r.holder? l = some id) :
    Drains (r.leaveLine l id) id rest (r.step (.resume ⟨id, 0⟩)).1
      (r.step (.resume ⟨id, 0⟩)).2 := by
  have hs' : Assoc.get? id r.calls = some (.draining l rest) := hs
  simp only [Registry.step, hs', resume, hh, if_true]
  exact drainNext_drains _ _ _

theorem step_standing {oid : Oid} {rest : List Oid} {errors : List BrokerError} {s : LiveSession}
    (hs : r.stage? id = some (.releasing oid l false rest errors)) (hh : r.holder? l = some id)
    (hf : r.find? oid = some s) :
    r.step (.resume ⟨id, 0⟩) = (r.setStage id (.releasing oid l true rest errors),
      [.detach id s.backend s.info.handle]) := by
  have hs' : Assoc.get? id r.calls = some (.releasing oid l false rest errors) := hs
  simp only [Registry.step, hs', resume, hh, if_true, releaseLocked, hf]

theorem step_releaseFailed {oid : Oid} {rest : List Oid} {errors : List BrokerError}
    {e : BackendError} (hs : r.stage? id = some (.releasing oid l true rest errors)) :
    Releases (r.leaveLine l id) id (errors ++ [.backend e]) rest
      (r.step (.detached id (.error e))).1 (r.step (.detached id (.error e))).2 := by
  have hs' : Assoc.get? id r.calls = some (.releasing oid l true rest errors) := hs
  simp only [Registry.step, hs', releaseDetached]
  exact releaseNext_releases _ _ _ _

theorem step_unloading {cells : List Nat} {errors : List BrokerError} (a : Responses)
    (hs : r.stage? id = some (.unloading b cells errors)) :
    Unloads r id (errors ++ a.unloadFailures [b]) cells (r.step (.unloaded id (a.unload b))).1
      (r.step (.unloaded id (a.unload b))).2 := by
  have hs' : Assoc.get? id r.calls = some (.unloading b cells errors) := hs
  cases ha : a.unload b with
  | ok =>
    simp only [Registry.step, hs', Responses.unloadFailures, List.filterMap_cons, ha, failure?,
      List.filterMap_nil, List.append_nil]
    exact unloadNext_unloads _ _ _ _
  | error e =>
    simp only [Registry.step, hs', Responses.unloadFailures, List.filterMap_cons, ha, failure?,
      List.filterMap_nil]
    exact unloadNext_unloads _ _ _ _

/-- As long as a step is left to a shutdown there is an event at which it goes on. -/
theorem Underway.goes_on (h : Underway a id xs bs (n + 1) fx₀ r) :
    ∃ e, Fits a id r e ∧ Underway a id xs bs n (fx₀ ++ (r.step e).2) (r.step e).1 := by
  have further {e : Event} (hf : Fits a id r e) (hm : ∃ m, n + 1 = m + 1 ∧
      Advance a id xs bs m (fx₀ ++ (r.step e).2) (r.step e).1) :
      ∃ e, Fits a id r e ∧ Underway a id xs bs n (fx₀ ++ (r.step e).2) (r.step e).1 := by
    obtain ⟨m, hm, hc⟩ := hm
    cases hm
    exact ⟨e, hf, h.orderly.segment (step_segment r e), h.sorted, h.alone_step hf, hc⟩
  cases h.advance with
  | draining hs =>
    have hd := step_draining hs (h.holder? hs rfl)
    exact further (e := .resume ⟨id, 0⟩) trivial (h.advance.drained h.sorted hs hd)
  | standing hs =>
    obtain ⟨s, m, hf, hm⟩ := h.advance.found h.sorted hs
    refine further (e := .resume ⟨id, 0⟩) trivial ⟨m, ?_⟩
    rw [step_standing hs (h.holder? hs rfl) hf]
    exact hm
  | @detaching done x todo _ _ hs =>
    have hf : Fits a id r (.detached id (a.detach x.info.oid)) := by
      intro oid hd
      rw [hs] at hd
      cases hd
      rfl
    refine further hf ?_
    cases ha : a.detach x.info.oid with
    | ok => exact h.advance.released h.sorted ha hs (step_released hs)
    | error e => exact h.advance.releaseFailed h.sorted ha hs (step_releaseFailed hs)
  | @unloading done b cells _ _ hs =>
    have hf : Fits a id r (.unloaded id (a.unload b)) := by
      intro b' cells' errors' hs'
      cases hs.symm.trans hs'
      rfl
    exact further hf (h.advance.unloaded hs rfl (step_unloading a hs))

theorem Underway.completes (h : Underway a id xs bs n fx₀ r) :
    ∃ gs, Undisturbed a id r gs ∧ Underway a id xs bs 0 (fx₀ ++ (r.run gs).2) (r.run gs).1 := by
  induction n generalizing r fx₀ with
  | zero => exact ⟨[], trivial, by simpa using h⟩
  | succ n ih =>
    obtain ⟨e, hf, h⟩ := h.goes_on
    obtain ⟨gs, hgs, h⟩ := ih h
    refine ⟨e :: gs, ⟨hf, hgs⟩, ?_⟩
    rw [run_cons, ← List.append_assoc]
    exact h

/-- What a shutdown has done so far is the beginning of all that it does. -/
theorem Advance.begins (h : Advance a id xs bs n fx r) : fx <+: clearance a id xs bs := by
  cases h with
  | draining => exact List.nil_prefix
  | @standing done x todo _ _ _ hxs =>
    subst hxs
    exact ⟨detaches id (x :: todo) ++ unloads id bs ++
      [.reply id (.shutDown (a.result (done ++ x :: todo) bs))], by simp [clearance, detaches]⟩
  | @detaching done x todo _ _ _ hxs =>
    subst hxs
    exact ⟨detaches id todo ++ unloads id bs ++
      [.reply id (.shutDown (a.result (done ++ x :: todo) bs))], by simp [clearance, detaches]⟩
  | @unloading done b cells _ _ _ hbs =>
    subst hbs
    exact ⟨unloads id (r.held cells) ++
      [.reply id (.shutDown (a.result xs (done ++ b :: r.held cells)))],
      by simp [clearance, unloads]⟩
  | done => exact List.prefix_refl _

theorem not_reply_mem_detaches {o : Outcome} : .reply i o ∉ detaches id xs := by simp [detaches]

theorem not_reply_mem_unloads {o : Outcome} : .reply i o ∉ unloads id bs := by simp [unloads]

/-- A shutdown that has returned has nothing left to do. -/
theorem Advance.returned {o : Outcome} (h : Advance a id xs bs n fx r) (hx : .reply i o ∈ fx) :
    fx = clearance a id xs bs ∧ r.stage? id = none ∧ Bare r := by
  cases h with
  | draining => cases hx
  | standing | detaching => exact absurd hx not_reply_mem_detaches
  | unloading =>
    rcases List.mem_append.1 hx with hx | hx
    · exact absurd hx not_reply_mem_detaches
    · exact absurd hx not_reply_mem_unloads
  | done hs hr => exact ⟨rfl, hs, hr⟩

theorem Advance.completed (h : Advance a id xs bs 0 fx r) :
    fx = clearance a id xs bs ∧ r.stage? id = none ∧ Bare r := by
  cases h with
  | draining _ _ _ hn | standing _ _ _ _ hn | detaching _ _ _ _ hn | unloading _ _ _ hn => omega
  | done hs hr => exact ⟨rfl, hs, hr⟩

/-! ## What a shutdown does -/

/-- A registry in which no call is in progress, as runs leave it. -/
structure Settled (r : Registry) : Prop where
  orderly : Orderly r
  loads : Loads r
  sorted : Sorted r.sessions
  filed : r.backends.loads.Filed
  idle : ∀ i, r.stage? i = none

theorem settled_of_run (orders : Orders) (adapter : Adapter) (policy : Policy)
    (factories : Assoc BackendName FactoryId) (fallback : Option FactoryId) (es : List Event)
    (h : ∀ i, ((unused orders adapter policy factories fallback).run es).1.stage? i = none) :
    Settled ((unused orders adapter policy factories fallback).run es).1 := by
  have ho : Orderly (unused orders adapter policy factories fallback) := orderly_new _ _ _ _
  have hrun : let r := ((unused orders adapter policy factories fallback).run es).1
      Orderly r ∧ Sorted r.sessions ∧ r.backends.loads.Filed :=
    run_induction (P := fun r => Orderly r ∧ Sorted r.sessions ∧ r.backends.loads.Filed)
      ⟨ho, List.Pairwise.nil, OnceMap.filed_empty⟩
      (fun h hg => ⟨h.1.segment hg, h.2.1.segment h.1 hg, Filed.segment h.2.2 h.1 hg⟩) es
  exact ⟨hrun.1, ((loads_new orders adapter policy factories fallback 0).run ho es).1, hrun.2.1,
    hrun.2.2, h⟩

/-- A shutdown that is made in a registry where no call is in progress is alone. -/
theorem Settled.underway (h : Settled r) (a : Responses) : ∃ n,
    Underway a r.nextCall r.sessions r.tabled n (r.step (.start .shutdown)).2
      (r.step (.start .shutdown)).1 := by
  have hd : Drains { r with closed := true, nextCall := r.nextCall + 1 } r.nextCall
      r.drainOrder (r.step (.start .shutdown)).1 (r.step (.start .shutdown)).2 :=
    drainNext_drains _ _ _
  refine ⟨_, h.orderly.segment (step_segment r _), h.sorted, fun hi => ?_,
    hd.advance h.sorted rfl rfl⟩
  have hp := (step_segment r (.start .shutdown)).purpose hi
  generalize hc : Stage.call? _ = c at hp
  cases hp with
  | same hs => cases (h.idle _).symm.trans hs
  | made hm =>
    obtain ⟨he, rfl⟩ := hm
    cases he
    exact ⟨rfl, rfl⟩
  | background hs => cases (h.idle _).symm.trans hs

theorem Settled.run (h : Settled r) (a : Responses)
    (hf : Undisturbed a r.nextCall (r.step (.start .shutdown)).1 fs) : ∃ n,
    Underway a r.nextCall r.sessions r.tabled n (r.run (.start .shutdown :: fs)).2
      (r.run (.start .shutdown :: fs)).1 := by
  obtain ⟨n, hu⟩ := h.underway a
  obtain ⟨m, -, hu⟩ := hu.run hf
  exact ⟨m, hu⟩

/-- What a shutdown does and returns that is made in a registry, when nothing disturbs it. -/
structure ReleasesAll (a : Responses) (r : Registry) : Prop where
  /-- What it has done at any moment is the beginning of a detach of each session in ascending order
  of oid, an unload of each loaded backend in the order in which the table gives them, and its
  return. -/
  begins : ∀ fs, Undisturbed a r.nextCall (r.step (.start .shutdown)).1 fs →
    (r.run (.start .shutdown :: fs)).2 <+: clearance a r.nextCall r.sessions r.tabled
  /-- As far as it has come, there are events with which it does all that and returns. -/
  completes : ∀ fs, Undisturbed a r.nextCall (r.step (.start .shutdown)).1 fs →
    ∃ gs, Undisturbed a r.nextCall (r.step (.start .shutdown)).1 (fs ++ gs) ∧
      (r.run (.start .shutdown :: (fs ++ gs))).2 = clearance a r.nextCall r.sessions r.tabled
  /-- When it has returned it has done all that, and nothing is left. -/
  returned : ∀ fs o, Undisturbed a r.nextCall (r.step (.start .shutdown)).1 fs →
    .reply r.nextCall o ∈ (r.run (.start .shutdown :: fs)).2 →
    (r.run (.start .shutdown :: fs)).2 = clearance a r.nextCall r.sessions r.tabled ∧
      (r.run (.start .shutdown :: fs)).1.sessionList = [] ∧
      (∀ l, (r.run (.start .shutdown :: fs)).1.resolutions.get? l = none) ∧
      (r.run (.start .shutdown :: fs)).1.listed = none ∧
      (r.run (.start .shutdown :: fs)).1.loadedBackends = []
  /-- A further shutdown then does nothing but return that all went well. -/
  again : ∀ fs o, Undisturbed a r.nextCall (r.step (.start .shutdown)).1 fs →
    .reply r.nextCall o ∈ (r.run (.start .shutdown :: fs)).2 →
    let r' := (r.run (.start .shutdown :: fs)).1
    ∀ a' gs, Undisturbed a' r'.nextCall (r'.step (.start .shutdown)).1 gs →
      (r'.run (.start .shutdown :: gs)).2 <+: [.reply r'.nextCall (.shutDown (.ok ()))] ∧
        ∃ hs, Undisturbed a' r'.nextCall (r'.step (.start .shutdown)).1 (gs ++ hs) ∧
          (r'.run (.start .shutdown :: (gs ++ hs))).2 =
            [.reply r'.nextCall (.shutDown (.ok ()))]
  ascending : Sorted r.sessions
  /-- The backends that it unloads are those which the table has for some name, each once. Their
  order is any that the table may take them in. -/
  tabled : ∀ b, b ∈ r.tabled ↔ ∃ name, r.backends.loads.get? name = some b
  once : r.tabled.Nodup
  named : ∀ name, name ∈ r.loadedBackends ↔ ∃ b, r.backends.loads.get? name = some b
  /-- It returns that all went well if every detach and every unload has, and all failures
  otherwise. -/
  succeeds : a.Succeed r.sessions r.tabled → a.result r.sessions r.tabled = .ok ()
  fails : ¬ a.Succeed r.sessions r.tabled →
    a.result r.sessions r.tabled = .error (.shutdownFailed (a.failures r.sessions r.tabled))
  causes : ∀ e ∈ a.failures r.sessions r.tabled, ∀ es, e ≠ .shutdownFailed es

theorem Settled.completes (h : Settled r) (a : Responses)
    (hf : Undisturbed a r.nextCall (r.step (.start .shutdown)).1 fs) : ∃ gs,
    Undisturbed a r.nextCall (r.step (.start .shutdown)).1 (fs ++ gs) ∧
      (r.run (.start .shutdown :: (fs ++ gs))).2 =
        clearance a r.nextCall r.sessions r.tabled := by
  obtain ⟨n, hu⟩ := h.run a hf
  obtain ⟨gs, hgs, hu⟩ := hu.completes
  refine ⟨gs, undisturbed_append.2 ⟨hf, hgs⟩, ?_⟩
  rw [← hu.advance.completed.1, ← List.cons_append, run_append]

theorem Settled.returned {o : Outcome} (h : Settled r) (a : Responses)
    (hf : Undisturbed a r.nextCall (r.step (.start .shutdown)).1 fs)
    (hx : .reply r.nextCall o ∈ (r.run (.start .shutdown :: fs)).2) :
    (r.run (.start .shutdown :: fs)).2 = clearance a r.nextCall r.sessions r.tabled ∧
      Settled (r.run (.start .shutdown :: fs)).1 ∧ Bare (r.run (.start .shutdown :: fs)).1 := by
  obtain ⟨n, hu⟩ := h.run a hf
  obtain ⟨hall, hs, hr⟩ := hu.advance.returned hx
  refine ⟨hall, ⟨hu.orderly, (h.loads.run h.orderly _).1, ?_, ?_, fun i => ?_⟩, hr⟩
  · rw [hr.sessions]
    exact List.Pairwise.nil
  · exact (run_induction (P := fun r => Orderly r ∧ r.backends.loads.Filed) ⟨h.orderly, h.filed⟩
      (fun h hg => ⟨h.1.segment hg, Filed.segment h.2 h.1 hg⟩) _).2
  · cases hi : (r.run (.start .shutdown :: fs)).1.stage? i with
    | none => rfl
    | some s => cases hi.symm.trans ((hu.alone hi).1 ▸ hs)

/-- A registry from which nothing has to be released or unloaded: a shutdown only returns. -/
theorem clearance_bare (h : Bare r) (a : Responses) :
    clearance a id r.sessions r.tabled = [.reply id (.shutDown (.ok ()))] := by
  rw [Registry.tabled, h.sessions, BackendTable.takeAll_of_index_nil h.backends]
  rfl

theorem Settled.releases_all (h : Settled r) (a : Responses) : ReleasesAll a r where
  begins fs hf := by
    obtain ⟨n, hu⟩ := h.run a hf
    exact hu.advance.begins
  completes fs hf := h.completes a hf
  returned fs o hf hx := by
    obtain ⟨hall, -, hr⟩ := h.returned a hf hx
    refine ⟨hall, ?_, fun l => ?_, hr.listed, ?_⟩
    · rw [sessionList, hr.sessions]
      rfl
    · rw [OnceMap.get?, OnceMap.cellOf?, hr.resolutions]
      rfl
    · simp [loadedBackends, BackendTable.loadedNames, OnceMap.computed, hr.backends]
  again fs o hf hx := by
    obtain ⟨-, hs, hr⟩ := h.returned a hf hx
    intro r' a' gs hg
    rw [← clearance_bare hr a']
    obtain ⟨n, hu⟩ := hs.run a' hg
    exact ⟨hu.advance.begins, hs.completes a' hg⟩
  ascending := h.sorted
  tabled b := mem_tabled h.filed
  once := nodup_tabled h.filed h.loads
  named name := by rw [mem_loadedBackends h.filed, Option.isSome_iff_exists]
  succeeds := a.result_of_succeed
  fails := a.result_of_not_succeed
  causes e he es := by
    obtain ⟨e', rfl⟩ := a.mem_failures he
    exact BrokerError.noConfusion

/-- A shutdown in a registry where no call is in progress releases every session and unloads every
backend whatever fails and in whatever order the backends come, tells every failure once, and leaves
nothing. -/
theorem shutdown_releases_all (orders : Orders) (adapter : Adapter) (policy : Policy)
    (factories : Assoc BackendName FactoryId) (fallback : Option FactoryId) (es : List Event)
    (a : Responses)
    (h : ∀ i, ((unused orders adapter policy factories fallback).run es).1.stage? i = none) :
    ReleasesAll a ((unused orders adapter policy factories fallback).run es).1 :=
  (settled_of_run orders adapter policy factories fallback es h).releases_all a

/-- Two sessions with a backend each. -/
def twoSessions : List Event :=
  [.start (.create ⟨"slot1"⟩), .resume ⟨0, 0⟩, .resume ⟨0, 0⟩, .resolved ⟨0, 0⟩ (.ok ⟨"vendor"⟩),
    .resume ⟨0, 0⟩, .loaded 0 (.ok ()), .attached 0 (.ok ⟨7⟩) default,
    .start (.create ⟨"slot2"⟩), .resume ⟨1, 0⟩, .resume ⟨1, 0⟩, .resolved ⟨1, 0⟩ (.ok ⟨"other"⟩),
    .resume ⟨1, 0⟩, .loaded 1 (.ok ()), .attached 1 (.ok ⟨7⟩) default]

/-- The first session is not detached, and the second backend is not unloaded. -/
def twoFailures : Responses where
  detach oid := if oid = ⟨1⟩ then .error ⟨"vendor", .detach, "stuck"⟩ else .ok ()
  unload b := if b = 1 then .error ⟨"other", .unload, "busy"⟩ else .ok ()

theorem two_failures_release_all :
    let r := ((unused .latestFirst .static ⟨true, false⟩ [] (some 0)).run twoSessions).1
    (∀ i, r.stage? i = none) ∧ r.sessionCount = 2 ∧ r.tabled = [1, 0] ∧
      ReleasesAll twoFailures r :=
  ⟨fun _ => rfl, rfl, rfl, shutdown_releases_all _ _ _ _ _ _ _ fun _ => rfl⟩

end Registry

end SlotBroker
