import Mathlib.Data.List.Pairwise
import SlotBroker.Proofs.Registry.Admission
import SlotBroker.Proofs.Registry.Closing
import SlotBroker.Proofs.Registry.Sharing
import SlotBroker.Proofs.Registry.Withdrawal

/-!
# Many creates at a time

However many requests for sessions come to a registry at rest where only one session is allowed at
a location, and however they interleave, each location that was free gets one session if all goes
well, and every other request is told who is there (`fan_out`). Nothing else is left of them: when
the sessions that were won are removed, the registry has those it had.
-/

namespace SlotBroker

namespace Registry

/-- What comes of requests for sessions, the `k`-th of which is the `k`-th call made in a run. -/
structure FannedOut (r₀ : Registry) (es : List Event) (ls : List Location) : Prop where
  /-- Of the requests for a free location one gets a session, and the others are told of it. -/
  free : ∀ l ∈ ls, Free l r₀ → ∃ (w : Nat) (a : Session), ls[w]? = some l ∧ a.location = l ∧
    outcomes (r₀.nextCall + w) (r₀.run es).2 = [.created (.ok a)] ∧
    ∀ k : Nat, ls[k]? = some l → k ≠ w →
      outcomes (r₀.nextCall + k) (r₀.run es).2 = [.created (.error (.locationBusy l a.oid))]
  /-- Who requests a location that was occupied is told of the session that was there. -/
  occupied : ∀ a ∈ r₀.sessionList, ∀ k : Nat, ls[k]? = some a.location →
    outcomes (r₀.nextCall + k) (r₀.run es).2 =
      [.created (.error (.locationBusy a.location a.oid))]
  distinct : ((winners (r₀.run es).2).map Session.oid).Nodup
  sessions : (r₀.run es).1.sessionList.Perm (r₀.sessionList ++ winners (r₀.run es).2)
  loaded_once : (loadsOf (r₀.run es).2).Nodup
  not_loaded : ∀ name ∈ loadsOf (r₀.run es).2, r₀.backends.loads.get? name = none
  /-- When the winners have been removed, the sessions are those of before. -/
  restored : ∀ fs, (∀ e ∈ fs, Withdraws ((winners (r₀.run es).2).map Session.oid) e) →
    (∀ a ∈ winners (r₀.run es).2, .start (.remove a.oid) ∈ fs) →
    (∀ i, (r₀.run (es ++ fs)).1.stage? i = none) →
    (r₀.run (es ++ fs)).1.sessions = r₀.sessions

variable {r r₀ : Registry} {es : List Event} {fx fx₀ : List Effect} {ls : List Location}
  {l : Location} {i : CallId} {k : Nat}

/-! ## Who is where in the end -/

theorem mem_of_outcomes {o : Outcome} (h : o ∈ outcomes i fx) : .reply i o ∈ fx := by
  obtain ⟨x, hx, ho⟩ := List.mem_filterMap.1 h
  cases x with
  | reply j o' =>
    simp only [Effect.returns?] at ho
    split at ho
    · rename_i hj
      cases ho
      exact hj ▸ hx
    · cases ho
  | _ => cases ho

theorem mem_winners {a : Session} (h : .reply i (.created (.ok a)) ∈ fx) : a ∈ winners fx :=
  List.mem_filterMap.2 ⟨_, h, rfl⟩

theorem Exclusive.alone (h : Exclusive r) {x y : LiveSession} (hx : x ∈ r.sessions)
    (hy : y ∈ r.sessions) (hl : x.info.location = y.info.location) : x = y := by
  have : Std.Symm fun x y : LiveSession => x.info.location ≠ y.info.location := ⟨fun _ _ => Ne.symm⟩
  by_contra hne
  exact h.apart.forall hx hy hne hl

theorem Fanned.old (h : Fanned r₀ ls fx r) {x : LiveSession} (hx : x ∈ r₀.sessions) :
    x ∈ r.sessions := by
  obtain ⟨new, -, hp⟩ := h.sessions
  exact hp.mem_iff.2 (List.mem_append_left _ hx)

/-- A session that was won is live, and was not so before. -/
theorem Fanned.winner (h : Fanned r₀ ls fx r) (hx : Exclusive r) {a : Session}
    (ha : a ∈ winners fx) : ∃ y ∈ r.sessions, y.info = a ∧
      ∀ x ∈ r₀.sessions, x.info.location ≠ a.location := by
  obtain ⟨new, hnew, hp⟩ := h.sessions
  rw [← hnew] at ha
  obtain ⟨y, hy, rfl⟩ := List.mem_map.1 ha
  have hapart := (hp.pairwise_iff fun {x y} h => Ne.symm h).1 hx.apart
  exact ⟨y, hp.mem_iff.2 (List.mem_append_right _ hy), rfl,
    fun x hx => (List.pairwise_append.1 hapart).2.2 x hx y hy⟩

theorem Fanned.live (h : Fanned r₀ ls fx r) {x : LiveSession} (hx : x ∈ r.sessions) :
    x ∈ r₀.sessions ∨ x.info ∈ winners fx := by
  obtain ⟨new, hnew, hp⟩ := h.sessions
  rcases List.mem_append.1 (hp.mem_iff.1 hx) with hx | hx
  · exact .inl hx
  · exact .inr (hnew ▸ List.mem_map_of_mem hx)

/-- Two requests do not win one session. -/
theorem Told.winner_unique (h : Told (fx₀ ++ fx) r) {a : Session} {i j : CallId}
    (hi : outcomes i fx = [.created (.ok a)]) (hj : outcomes j fx = [.created (.ok a)]) :
    i = j := by
  have told {i} (hi : outcomes i fx = [.created (.ok a)]) : ∃ b, .attach i a.oid b a.location ∈
      fx₀ ++ fx := by
    refine (h.created (List.mem_append_right _ (mem_of_outcomes ?_))).2
    rw [hi]
    exact List.mem_singleton_self _
  obtain ⟨b, hb⟩ := told hi
  obtain ⟨b', hb'⟩ := told hj
  exact h.attached hb hb'

/-- A request that has lost was told of the session that is live at its location in the end; one
that has won has that session. -/
theorem Fanned.outcome (h : Fanned r₀ ls fx r) (hx : Exclusive r) (hdone : ∀ i, r.stage? i = none)
    {x : LiveSession} (hm : x ∈ r.sessions) (hk : ls[k]? = some x.info.location) :
    outcomes (r₀.nextCall + k) fx = [.created (.ok x.info)] ∧ x.info ∈ winners fx ∨
      outcomes (r₀.nextCall + k) fx =
        [.created (.error (.locationBusy x.info.location x.info.oid))] := by
  cases h.fares hk with
  | pending hs =>
    rw [hdone] at hs
    cases hs
  | @won a _ hl ho =>
    have ha : a ∈ winners fx := by
      refine mem_winners (mem_of_outcomes (i := r₀.nextCall + k) ?_)
      rw [ho]
      exact List.mem_singleton_self _
    obtain ⟨y, hy, rfl, -⟩ := h.winner hx ha
    obtain rfl := hx.alone hy hm hl
    exact .inl ⟨ho, ha⟩
  | @lost y _ hy hl ho =>
    obtain rfl := hx.alone hy hm hl
    exact .inr ho

/-- A free location that is requested is won. -/
theorem Fanned.won_free (h : Fanned r₀ ls fx r) (hdone : ∀ i, r.stage? i = none)
    (hk : ls[k]? = some l) (hfree : Free l r₀) :
    ∃ (w : Nat) (a : Session), ls[w]? = some l ∧ a.location = l ∧
      outcomes (r₀.nextCall + w) fx = [.created (.ok a)] := by
  cases h.fares hk with
  | pending hs =>
    rw [hdone] at hs
    cases hs
  | @won a _ hl ho => exact ⟨k, a, hk, hl, ho⟩
  | @lost x _ hx hl ho =>
    rcases h.live hx with hx | ha
    · exact absurd hl (hfree x.info (List.mem_map_of_mem hx))
    · obtain ⟨w, hw, ho⟩ := h.won x.info ha
      exact ⟨w, x.info, hl ▸ hw, hl, ho⟩

/-- Of the requests for a free location one has won, and the others have lost to it. -/
theorem Fanned.free (h : Fanned r₀ ls fx r) (ht : Told (fx₀ ++ fx) r) (hx : Exclusive r)
    (hdone : ∀ i, r.stage? i = none) (hm : l ∈ ls) (hfree : Free l r₀) :
    ∃ (w : Nat) (a : Session), ls[w]? = some l ∧ a.location = l ∧
      outcomes (r₀.nextCall + w) fx = [.created (.ok a)] ∧
      ∀ k : Nat, ls[k]? = some l → k ≠ w →
        outcomes (r₀.nextCall + k) fx = [.created (.error (.locationBusy l a.oid))] := by
  obtain ⟨k, hk⟩ := List.getElem?_of_mem hm
  obtain ⟨w, a, hw, rfl, ho⟩ := h.won_free hdone hk hfree
  refine ⟨w, a, hw, rfl, ho, fun k hk hne => ?_⟩
  have ha : a ∈ winners fx := mem_winners (mem_of_outcomes (ho ▸ List.mem_singleton_self _))
  obtain ⟨y, hy, rfl, -⟩ := h.winner hx ha
  -- Whoever else has this session has attached with its oid, and so is the winner.
  rcases h.outcome hx hdone hy hk with ⟨hk', -⟩ | hk'
  · exact absurd (Nat.add_left_cancel (ht.winner_unique hk' ho)) hne
  · exact hk'

theorem Fanned.occupied (h : Fanned r₀ ls fx r) (hx : Exclusive r)
    (hdone : ∀ i, r.stage? i = none) {a : Session} (ha : a ∈ r₀.sessionList)
    (hk : ls[k]? = some a.location) :
    outcomes (r₀.nextCall + k) fx = [.created (.error (.locationBusy a.location a.oid))] := by
  obtain ⟨x, hm, rfl⟩ := List.mem_map.1 ha
  -- Nobody has won it, as there was no session where one was won.
  refine (h.outcome hx hdone (h.old hm) hk).resolve_left fun ⟨_, hwon⟩ => ?_
  obtain ⟨y, _, heq, hne⟩ := h.winner hx hwon
  exact hne x hm rfl

theorem Fanned.restored (h : Fanned r₀ ls fx r) (hx : Exclusive r) (hs₀ : Sorted r₀.sessions) :
    (r.sessions.filter fun x => x.info.oid ∉ (winners fx).map Session.oid) = r₀.sessions := by
  refine Sorted.ext (List.Pairwise.filter _ hx.sorted) hs₀ fun x => ?_
  rw [List.mem_filter, decide_eq_true_eq]
  refine ⟨fun ⟨hm, hno⟩ => ?_, fun hm => ⟨h.old hm, fun hoid => ?_⟩⟩
  · exact (h.live hm).resolve_right fun ha => hno (List.mem_map_of_mem ha)
  · obtain ⟨a, ha, hoid⟩ := List.mem_map.1 hoid
    obtain ⟨y, hy, rfl, hne⟩ := h.winner hx ha
    obtain rfl := hx.sorted.eq_of_oid (h.old hm) hy hoid.symm
    exact hne x hm rfl

/-! ## All of it -/

theorem fannedOut_of_run (h : Requests r₀ es ls) (h₀ : AtRest r₀) (hs : Sound r₀) (hp : Placed r₀)
    (hl : Loads r₀) (hx₀ : Exclusive r₀) (ht : Told fx₀ r₀)
    (hroom : r₀.nextOid.toNat + ls.length < UInt64.size)
    (hdone : ∀ i, (r₀.run es).1.stage? i = none) : FannedOut r₀ es ls := by
  have hf : Fanned r₀ ls (r₀.run es).2 (r₀.run es).1 := h.fanned h₀ hs hp hroom
  have hx : Exclusive (r₀.run es).1 := run_induction hx₀ Exclusive.segment es
  have told := ht.run hs (h.lasts h₀ hs.order hp hroom)
  have shares := h.shares h₀ hs.order hp hl
  exact {
    free := fun l hm => hf.free told hx hdone hm
    occupied := fun a ha k => hf.occupied hx hdone ha
    distinct := by
      have hd := told.distinct
      rw [List.filterMap_append, List.map_append] at hd
      exact (List.nodup_append.1 hd).2.1
    sessions := by
      obtain ⟨new, hnew, hperm⟩ := hf.sessions
      rw [← hnew, sessionList, sessionList, ← List.map_append]
      exact hperm.map _
    loaded_once := shares.once
    not_loaded := shares.new
    restored := by
      intro fs hfs hall hend
      rw [run_append] at hend ⊢
      refine (withdrawn_sessions hx.order hx.sorted hdone hfs (fun oid ho => ?_) hend).trans
        (hf.restored hx hx₀.sorted)
      obtain ⟨a, ha, rfl⟩ := List.mem_map.1 ho
      exact hall a ha }

/-- Where only one session is allowed at a location, take any open registry that a run has come to
and at which nothing is in progress, and any requests for sessions. If what they ask for succeeds,
then however they interleave every free location is won by one of them, and nobody gets anything
else than a session or word of who is there. -/
theorem fan_out (orders : Orders) (adapter : Adapter) (fresh : Bool)
    (factories : Assoc BackendName FactoryId) (fallback : Option FactoryId) (es₀ es : List Event)
    (ls : List Location)
    (hr : ((unused orders adapter ⟨false, fresh⟩ factories fallback).run es₀).1 = r₀)
    (h₀ : AtRest r₀)
    (hroom :
      (attempts ((unused orders adapter ⟨false, fresh⟩ factories fallback).run es₀).2).length +
        ls.length < UInt64.size - 1)
    (h : Requests r₀ es ls) (hdone : ∀ i, (r₀.run es).1.stage? i = none) :
    FannedOut r₀ es ls := by
  subst hr
  have ho : Orderly (unused orders adapter ⟨false, fresh⟩ factories fallback) :=
    orderly_new _ _ _ _
  have hs : Sound (unused orders adapter ⟨false, fresh⟩ factories fallback) := sound_new _ _ _ _
  have hlast : Lasts (unused orders adapter ⟨false, fresh⟩ factories fallback) es₀ :=
    lasts_new (Nat.lt_of_le_of_lt (Nat.le_add_right _ _) hroom)
  refine fannedOut_of_run h h₀ (hs.run hlast) ((placed_new _ _ _ _).run ho es₀)
    ((loads_new orders _ _ _ _ 0).run ho es₀).1
    (run_induction (exclusive_new _ _ _ _) Exclusive.segment es₀)
    ((told_new _ _ _ _).run hs hlast) ?_ hdone
  have hone : (unused orders adapter ⟨false, fresh⟩ factories fallback).nextOid.toNat = 1 := rfl
  rw [hlast.nextOid ho, hone]
  omega

/-- Three slots are listed, and a session is created at the first. -/
def occupySlot : List Event :=
  [.start .list, .enumerated 0 (.ok [⟨"slot1"⟩, ⟨"slot2"⟩, ⟨"slot3"⟩]),
    .resume ⟨0, 0⟩, .resume ⟨0, 1⟩, .resume ⟨0, 2⟩, .resume ⟨0, 2⟩, .resume ⟨0, 1⟩, .resume ⟨0, 0⟩,
    .resolved ⟨0, 1⟩ (.ok ⟨"vendor"⟩), .resolved ⟨0, 0⟩ (.ok ⟨"virtual"⟩),
    .resolved ⟨0, 2⟩ (.ok ⟨"vendor"⟩),
    .start (.create ⟨"slot1"⟩), .resume ⟨1, 0⟩, .resume ⟨1, 0⟩, .resume ⟨1, 0⟩, .loaded 1 (.ok ()),
    .attached 1 (.ok ⟨7⟩) default]

/-- The registry after that. -/
def oneOccupied : Registry := ((unused .asPut .static .strict [] (some 0)).run occupySlot).1

/-- Two creates contend for the second slot, and one comes to each of the others. Those that win
wait for one load. -/
def contendForSlots : List Event :=
  [.start (.create ⟨"slot2"⟩), .start (.create ⟨"slot2"⟩), .start (.create ⟨"slot3"⟩),
    .start (.create ⟨"slot1"⟩), .resume ⟨3, 0⟩, .resume ⟨5, 0⟩, .resume ⟨2, 0⟩, .resume ⟨4, 0⟩,
    .resume ⟨2, 0⟩, .resume ⟨4, 0⟩, .resume ⟨4, 0⟩, .resume ⟨2, 0⟩, .loaded 2 (.ok ()),
    .resume ⟨4, 0⟩, .attached 4 (.ok ⟨8⟩) default, .attached 2 (.ok ⟨9⟩) default, .resume ⟨3, 0⟩]

theorem fan_out_three_slots :
    let ls : List Location := [⟨"slot2"⟩, ⟨"slot2"⟩, ⟨"slot3"⟩, ⟨"slot1"⟩]
    AtRest oneOccupied ∧
      (attempts ((unused .asPut .static .strict [] (some 0)).run occupySlot).2).length + ls.length <
        UInt64.size - 1 ∧
      Requests oneOccupied contendForSlots ls ∧
      (∀ i, (oneOccupied.run contendForSlots).1.stage? i = none) ∧
      FannedOut oneOccupied contendForSlots ls := by
  intro ls
  have h₀ : AtRest oneOccupied := ⟨rfl, fun _ => rfl⟩
  have hroom : (attempts ((unused .asPut .static .strict [] (some 0)).run occupySlot).2).length +
      ls.length < UInt64.size - 1 := by decide
  have h : Requests oneOccupied contendForSlots ls :=
    ⟨rfl, by decide, fun _ => by decide, fun _ _ _ _ => rfl⟩
  have hdone : ∀ i, (oneOccupied.run contendForSlots).1.stage? i = none := fun _ => rfl
  exact ⟨h₀, hroom, h, hdone,
    fan_out .asPut .static true [] (some 0) occupySlot contendForSlots ls rfl h₀ hroom h hdone⟩

end Registry

end SlotBroker
