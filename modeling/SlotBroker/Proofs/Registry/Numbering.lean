import Mathlib.Data.List.Nodup
import Mathlib.Data.List.Perm.Subperm
import SlotBroker.Proofs.Registry.Calls
import SlotBroker.Proofs.Registry.Loads
import SlotBroker.Proofs.Registry.Shutdown

/-!
# The oids that are used

Every attempt to attach takes the next oid, whatever comes of it (`attempts_run`). As long as the
numbers last no oid is taken twice, so an oid is with one create, then perhaps with one live
session, and then with nobody (`Numbered`). A call that is to end a session holds its location while
it detaches, so at most one call at a time is detaching a session.
-/

namespace SlotBroker

/-- The session that a call is to end, and where that is. -/
def Stage.target? : Stage → Option (Oid × Location)
  | .removing oid l _ => some (oid, l)
  | .releasing oid l _ _ _ => some (oid, l)
  | _ => none

/-- The oid that an attempt to attach uses. -/
def Effect.attempt? : Effect → Option Oid
  | .attach _ oid _ _ => some oid
  | _ => none

/-- The oids of the attempts to attach, in order. -/
def attempts (fx : List Effect) : List Oid := fx.filterMap Effect.attempt?

/-- The call that attempts to attach. -/
def Effect.attacher? : Effect → Option CallId
  | .attach i _ _ _ => some i
  | _ => none

theorem Stage.target?_of_detaches? {s : Stage} {oid : Oid} (h : s.detaches? = some oid) :
    ∃ l, s.target? = some (oid, l) ∧ s.holds? = some l := by
  unfold detaches? at h
  split at h
  · cases h
    exact ⟨_, rfl, rfl⟩
  · cases h
    exact ⟨_, rfl, rfl⟩
  · cases h

namespace Registry

variable {r r' : Registry} {e : Event} {es : List Event} {fx : List Effect}
  {id i j : CallId} {oid : Oid} {l : Location} {s : Stage}

/-! ## How a call comes to end a session -/

/-- How a call came to a stage where it is to end a session: it was there before, it has just found
the session, or it has had its turn at the location and detaches now. -/
inductive Aims (r : Registry) (fx : List Effect) (r' : Registry) (i : CallId) (s : Stage)
    (oid : Oid) (l : Location) : Prop
  | same (h : r.stage? i = some s)
  | found {x} (hx : x ∈ r.sessions) (ho : x.info.oid = oid) (hl : x.info.location = l)
      (hd : s.detaches? = none)
  | turns {s₀ : Stage} {x} (h : r.stage? i = some s₀) (ht : s₀.target? = some (oid, l))
      (hh : r.holder? l = some i) (hf : r.find? oid = some x) (hs : r'.sessions = r.sessions)
      (hfx : fx = [.detach i x.backend x.info.handle])

theorem mem_of_find? {x : LiveSession} (h : r.find? oid = some x) :
    x ∈ r.sessions ∧ x.info.oid = oid :=
  ⟨List.mem_of_find?_eq_some h, by simpa using List.find?_some h⟩

theorem Releases.target {errors : List BrokerError} {oids : List Oid}
    (h : Releases r id errors oids r' fx) (hs : r'.stage? id = some s)
    (ht : s.target? = some (oid, l)) :
    s.detaches? = none ∧ ∃ x ∈ r.sessions, x.info.oid = oid ∧ x.info.location = l := by
  cases h with
  | stands _ h =>
    obtain ⟨hm, ho⟩ := mem_of_find? h
    simp only [stage?_setStage, if_true, Option.some.injEq] at hs
    subst hs
    cases ht
    exact ⟨rfl, _, hm, ho, rfl⟩
  | unloads _ h =>
    obtain ⟨_, _, rfl⟩ := h.stage?_self hs
    cases ht

theorem Drains.target {ls : List Location} (h : Drains r id ls r' fx)
    (hs : r'.stage? id = some s) (ht : s.target? = some (oid, l)) :
    s.detaches? = none ∧ ∃ x ∈ r.sessions, x.info.oid = oid ∧ x.info.location = l := by
  cases h with
  | stands =>
    simp only [stage?_setStage, if_true, Option.some.injEq] at hs
    subst hs
    cases ht
  | releases h => exact h.target hs ht

theorem Segment.aims (hg : Segment r e r' fx) (hi : r'.stage? i = some s)
    (ht : s.target? = some (oid, l)) : Aims r fx r' i s oid l := by
  have aside {j : CallId} {r₀ : Registry} (h₀ : r₀.stage? i = r.stage? i)
      (hm : ∀ x ∈ r₀.sessions, x ∈ r.sessions) (hs : i ≠ j → r'.stage? i = r₀.stage? i)
      (hj : r'.stage? j = some s →
        s.detaches? = none ∧ ∃ x ∈ r₀.sessions, x.info.oid = oid ∧ x.info.location = l) :
      Aims r fx r' i s oid l := by
    by_cases hij : i = j
    · subst hij
      obtain ⟨hd, x, hx, ho, hl⟩ := hj hi
      exact .found (hm x hx) ho hl hd
    · rw [hs hij, h₀] at hi
      exact .same hi
  cases hg with
  | shutdownMade h => exact aside rfl (fun _ h => h) h.stage? fun hs => h.target hs ht
  | drained hs _ h => exact aside rfl (fun _ h => h) h.stage? fun hs => h.target hs ht
  | releaseGone _ _ _ h | releaseFailed _ h =>
    exact aside rfl (fun _ h => h) h.stage? fun hs => h.target hs ht
  | @released id gone l' _ _ _ _ _ h =>
    have hm : ∀ x ∈ ((r.eraseSession gone).leaveLine l' id).sessions, x ∈ r.sessions :=
      fun x hx => (List.mem_filter.1 hx).1
    have h₀ : ((r.eraseSession gone).leaveLine l' id).stage? i = r.stage? i := rfl
    exact aside h₀ hm h.stage? fun hs => h.target hs ht
  | unloaded _ h | unloadFailed _ h =>
    refine aside rfl (fun _ h => h) h.stage? fun hs => ?_
    obtain ⟨_, _, rfl⟩ := h.stage?_self hs
    cases ht
  | enumerated _ h | partReady _ _ _ h | partResolved _ _ h =>
    refine aside rfl (fun _ h => h) h.stage? fun hs => ?_
    obtain ⟨_, rfl⟩ := h.stage?_self hs
    cases ht
  | idle | reset | refused => exact .same hi
  | removeMade h =>
    have := mem_of_find? h
    simp at hi
    grind [Stage.target?, Stage.detaches?, Aims]
  | removeDetaches hs hh hf | releaseDetaches hs hh hf =>
    simp only [stage?_setStage] at hi
    split at hi
    · rename_i hid
      subst hid
      cases hi
      cases ht
      exact .turns hs rfl hh hf rfl rfl
    · exact .same hi
  | _ =>
    simp at hi
    grind [Stage.target?, Aims]

/-! ## Attempts -/

/-- Whether a step is an attempt to attach. -/
inductive Tries (r : Registry) (fx : List Effect) (r' : Registry) : Prop
  | none (hn : r'.nextOid = r.nextOid) (hfx : attempts fx = [])
      (hs : ∀ {i l name b oid}, r'.stage? i = some (.creating l (.attaching name b oid)) →
        r.stage? i = some (.creating l (.attaching name b oid)))
  | takes {i l name b} (hn : r'.nextOid = r.nextOid + 1) (hfx : fx = [.attach i ⟨r.nextOid⟩ b l])
      (hs : ∀ j, r'.stage? j =
        if i = j then some (.creating l (.attaching name b ⟨r.nextOid⟩)) else r.stage? j)

theorem attempts_eq_nil (h : ∀ x ∈ fx, ¬ x.serves) : attempts fx = [] := by
  refine List.filterMap_eq_nil_iff.2 fun x hx => ?_
  cases x with
  | attach => exact absurd trivial (h _ hx)
  | _ => rfl

theorem Segment.tries (ho : Orderly r) (hg : Segment r e r' fx) : Tries r fx r' := by
  cases hg.serves ho with
  | other _ hn hs hfx => exact .none hn (attempts_eq_nil hfx) (hs _ _ _ trivial)
  | starts =>
    refine .none rfl rfl fun hi => ?_
    simp only [stage?_setStage] at hi
    split at hi
    · cases hi
    · exact hi
  | fetched | loaded => exact .takes rfl rfl fun _ => stage?_setStage _ _ _ _

theorem attempts_append (fx fx' : List Effect) :
    attempts (fx ++ fx') = attempts fx ++ attempts fx' :=
  List.filterMap_append

/-- The attempts of a run take the numbers one after another. -/
theorem attempts_run (ho : Orderly r) (es : List Event) :
    attempts (r.run es).2 = (List.range (attempts (r.run es).2).length).map
        (fun k => ⟨r.nextOid + UInt64.ofNat k⟩) ∧
      (r.run es).1.nextOid = r.nextOid + UInt64.ofNat (attempts (r.run es).2).length := by
  induction es using List.reverseRecOn with
  | nil => simp [attempts]
  | append_singleton es e ih =>
    obtain ⟨ih₁, ih₂⟩ := ih
    rw [run_concat]
    simp only [attempts_append, List.length_append]
    cases (step_segment (r.run es).1 e).tries (ho.run es) with
    | none hn hfx =>
      rw [hfx, hn]
      simpa using ⟨ih₁, ih₂⟩
    | takes hn hfx =>
      have hone : attempts ((r.run es).1.step e).2 = [⟨(r.run es).1.nextOid⟩] := by
        rw [hfx]
        rfl
      rw [hone, hn, ih₂]
      refine ⟨?_, ?_⟩
      · rw [List.length_singleton, List.range_succ, List.map_append, ← ih₁]
        rfl
      · rw [List.length_singleton, UInt64.ofNat_add, UInt64.add_assoc]
        rfl

/-! ## A call attempts once -/

/-- A call has not yet come to its attempt to attach. -/
def Unattached (i : CallId) (r : Registry) : Prop :=
  r.nextCall ≤ i ∨ ∃ l s, r.stage? i = some (.creating l s) ∧ (s = .locking ∨ s.seeks)

theorem Segment.unattached (hg : Segment r e r' fx) (h : Unattached i r') : Unattached i r := by
  rcases h with h | ⟨l, s, hs, hk⟩
  · exact .inl (Nat.le_trans hg.nextCall_le h)
  · cases hg.creating hs with
    | same h => exact .inr ⟨l, s, h, hk⟩
    | made hi => exact .inl (Nat.le_of_eq hi.symm)
    | joins h => exact .inr ⟨l, _, h, .inl rfl⟩
    | seeks h hs => exact .inr ⟨l, _, h, .inr hs⟩
    | attaches | undoes => simp [CreateStage.seeks] at hk

theorem Serves.attaches {b : InstanceId} (ho : Orderly r) (h : Serves r r' fx)
    (hx : .attach i oid b l ∈ fx) : Unattached i r ∧ ¬ Unattached i r' := by
  have moved {j : CallId} {l₁ l₂ : Location} {s : CreateStage} {name : BackendName}
      {b' : InstanceId} {oid' : Oid} (hs : r.stage? j = some (.creating l₁ s)) (hk : s.seeks)
      (hn : r'.nextCall = r.nextCall)
      (hs' : r'.stage? j = some (.creating l₂ (.attaching name b' oid'))) :
      Unattached j r ∧ ¬ Unattached j r' := by
    refine ⟨.inr ⟨l₁, s, hs, .inr hk⟩, ?_⟩
    rintro (h | ⟨_, _, h, hk⟩)
    · exact Nat.not_le.2 (ho.fresh hs) (hn ▸ h)
    · rw [hs'] at h
      cases h
      simp [CreateStage.seeks] at hk
  cases h with
  | other _ _ _ hfx => exact absurd trivial (hfx _ hx)
  | starts => simp at hx
  | fetched hs =>
    obtain ⟨rfl, -⟩ := Effect.attach.inj (List.mem_singleton.1 hx)
    exact moved hs trivial rfl (stage?_setStage_self _ _ _)
  | loaded hs =>
    obtain ⟨rfl, -⟩ := Effect.attach.inj (List.mem_singleton.1 hx)
    exact moved hs trivial rfl (stage?_setStage_self _ _ _)

theorem unattached_run {es : List Event} (h : Unattached i (r.run es).1) : Unattached i r := by
  induction es generalizing r with
  | nil => exact h
  | cons e es ih => exact (step_segment r e).unattached (ih h)

theorem length_attachers (fx : List Effect) :
    (fx.filterMap Effect.attacher?).length = (attempts fx).length := by
  induction fx with
  | nil => rfl
  | cons x fx ih =>
    cases x with
    | attach => exact congrArg (· + 1) ih
    | _ => exact ih

/-- The calls that attempt to attach in a run are different ones, and had not done so before. -/
theorem attachers_run (ho : Orderly r) (es : List Event) :
    ((r.run es).2.filterMap Effect.attacher?).Nodup ∧
      ∀ i ∈ (r.run es).2.filterMap Effect.attacher?,
        Unattached i r ∧ ¬ Unattached i (r.run es).1 := by
  induction es using List.reverseRecOn with
  | nil => exact ⟨List.nodup_nil, by simp⟩
  | append_singleton es e ih =>
    obtain ⟨hd, hi⟩ := ih
    have hg := step_segment (r.run es).1 e
    have old {i} (h : i ∈ (r.run es).2.filterMap Effect.attacher?) :
        Unattached i r ∧ ¬ Unattached i ((r.run es).1.step e).1 :=
      ⟨(hi i h).1, fun hu => (hi i h).2 (hg.unattached hu)⟩
    rw [run_concat, List.filterMap_append]
    cases hg.tries (ho.run es) with
    | none _ hfx =>
      have hnil : ((r.run es).1.step e).2.filterMap Effect.attacher? = [] := by
        rw [← List.length_eq_zero_iff, length_attachers, hfx]
        rfl
      rw [hnil, List.append_nil]
      exact ⟨hd, fun i => old⟩
    | @takes j l name b _ hfx =>
      have hone : ((r.run es).1.step e).2.filterMap Effect.attacher? = [j] := by
        rw [hfx]
        rfl
      obtain ⟨hj, hj'⟩ := (hg.serves (ho.run es)).attaches (ho.run es)
        (hfx ▸ List.mem_singleton_self _)
      rw [hone]
      refine ⟨?_, fun i h => ?_⟩
      · refine List.nodup_append.2 ⟨hd, List.nodup_singleton j, fun i h j' hjj => ?_⟩
        rintro rfl
        cases List.mem_singleton.1 hjj
        exact (hi _ h).2 hj
      · rcases List.mem_append.1 h with h | h
        · exact old h
        · cases List.mem_singleton.1 h
          exact ⟨unattached_run hj, hj'⟩

/-- From a registry at rest there are not more attempts than calls. -/
theorem attempts_le_calls (ho : Orderly r) (h₀ : ∀ i, r.stage? i = none) (es : List Event) :
    (attempts (r.run es).2).length ≤ (r.run es).1.nextCall - r.nextCall := by
  obtain ⟨hd, hi⟩ := attachers_run ho es
  have hsub : (r.run es).2.filterMap Effect.attacher? ⊆
      List.range' r.nextCall ((r.run es).1.nextCall - r.nextCall) := by
    intro i h
    obtain ⟨hu, hn⟩ := hi i h
    have hlt : i < (r.run es).1.nextCall := Nat.lt_of_not_le fun hle => hn (.inl hle)
    have hle : r.nextCall ≤ i := by
      rcases hu with hu | ⟨_, _, hs, -⟩
      · exact hu
      · rw [h₀] at hs
        cases hs
    rw [List.mem_range'_1, Nat.add_sub_of_le (Nat.le_of_lt (Nat.lt_of_le_of_lt hle hlt))]
    exact ⟨hle, hlt⟩
  rw [← length_attachers]
  simpa using (List.subperm_of_subset hd hsub).length_le

/-! ## An oid is used once -/

/-- The oid has been taken. -/
def Issued (oid : Oid) (r : Registry) : Prop :=
  0 < oid.value.toNat ∧ oid.value.toNat < r.nextOid.toNat

/-- The oid has been taken, and no create is attaching with it any more. -/
structure Spent (oid : Oid) (r : Registry) : Prop where
  issued : Issued oid r
  attached : ∀ {i l name b}, r.stage? i ≠ some (.creating l (.attaching name b oid))

structure Numbered (r : Registry) : Prop where
  next : 0 < r.nextOid.toNat
  attaching : ∀ {i l name b oid}, r.stage? i = some (.creating l (.attaching name b oid)) →
    Issued oid r
  unique : ∀ {i j l l' name name' b b' oid},
    r.stage? i = some (.creating l (.attaching name b oid)) →
    r.stage? j = some (.creating l' (.attaching name' b' oid)) → i = j
  live : ∀ x ∈ r.sessions, Spent x.info.oid r
  target : ∀ {i s oid l}, r.stage? i = some s → s.target? = some (oid, l) →
    Spent oid r ∧ ∀ x ∈ r.sessions, x.info.oid = oid → x.info.location = l
  once : ∀ {i j s s' oid}, r.stage? i = some s → s.detaches? = some oid →
    r.stage? j = some s' → s'.detaches? = some oid → i = j

/-- If a step is an attempt, there is another number after the one that it takes. -/
def Room (fx : List Effect) (r : Registry) : Prop :=
  attempts fx ≠ [] → r.nextOid.toNat + 1 < UInt64.size

theorem Room.next {b : InstanceId} (h : Room fx r) (hn : r'.nextOid = r.nextOid + 1)
    (hfx : fx = [.attach i oid b l]) : r'.nextOid.toNat = r.nextOid.toNat + 1 := by
  have hlt := h (by simp [hfx, attempts, Effect.attempt?])
  rw [hn, UInt64.toNat_add, UInt64.toNat_one, Nat.mod_eq_of_lt hlt]

theorem Tries.issued (h : Tries r fx r') (hr : Room fx r) (hi : Issued oid r) : Issued oid r' := by
  refine ⟨hi.1, ?_⟩
  cases h with
  | none hn =>
    rw [hn]
    exact hi.2
  | takes hn hfx =>
    rw [hr.next hn hfx]
    exact Nat.lt_succ_of_lt hi.2

theorem Tries.spent (h : Tries r fx r') (hr : Room fx r) (hi : Spent oid r) : Spent oid r' where
  issued := h.issued hr hi.issued
  attached {i l name b} ha := by
    cases h with
    | none _ _ hs => exact hi.attached (hs ha)
    | takes _ _ hs =>
      rw [hs] at ha
      split at ha
      · cases ha
        exact Nat.lt_irrefl _ hi.issued.2
      · exact hi.attached ha

/-- An oid is spent once the attach has ended for which it was taken. -/
theorem Numbered.ended {name : BackendName} {b : InstanceId} (h : Numbered r) (ht : Tries r fx r')
    (hfx : attempts fx = []) (hs : r.stage? i = some (.creating l (.attaching name b oid)))
    (hi : ∀ l name b, r'.stage? i ≠ some (.creating l (.attaching name b oid))) : Spent oid r' := by
  cases ht with
  | none hn _ hst =>
    refine ⟨by simpa [Issued, hn] using h.attaching hs, fun {j l' name' b'} hj => ?_⟩
    rw [h.unique (hst hj) hs] at hj
    exact hi _ _ _ hj
  | takes _ hfx' =>
    rw [hfx'] at hfx
    cases hfx

theorem Numbered.attached {name : BackendName} {b : InstanceId} {h : Handle} {now : Time.Instant}
    (hn : Numbered r) (ho : Orderly r)
    (hs : r.stage? i = some (.creating l (.attaching name b oid))) :
    Spent oid (r.step (.attached i (.ok h) now)).1 := by
  have ht := (step_segment r (.attached i (.ok h) now)).tries ho
  cases hc : r.closed with
  | true =>
    rw [step_attached_late hs hc] at ht ⊢
    exact hn.ended ht rfl hs (by simp)
  | false =>
    rw [step_committed hs hc] at ht ⊢
    exact hn.ended ht rfl hs (by simp)

/-- There are not more oids that were taken than the numbers have come. -/
theorem length_issued {oids : List Oid} (hd : oids.Nodup) (hi : ∀ o ∈ oids, Issued o r) :
    oids.length ≤ r.nextOid.toNat - 1 := by
  have hinj : (oids.map fun o => o.value.toNat - 1).Nodup := by
    refine hd.map_on fun o ho o' ho' h => ?_
    have h₁ := (hi o ho).1
    have h₂ := (hi o' ho').1
    have hv : o.value.toNat = o'.value.toNat := by omega
    cases o
    cases o'
    rw [Oid.mk.injEq]
    exact UInt64.toNat_inj.1 hv
  have hsub : (oids.map fun o => o.value.toNat - 1) ⊆ List.range (r.nextOid.toNat - 1) := by
    intro n hn
    obtain ⟨o, ho, rfl⟩ := List.mem_map.1 hn
    obtain ⟨h₁, h₂⟩ := hi o ho
    rw [List.mem_range]
    omega
  simpa using (List.subperm_of_subset hinj hsub).length_le

/-- The live session with an oid is at a location, if there is one. -/
def At (oid : Oid) (l : Location) (r : Registry) : Prop :=
  ∀ x ∈ r.sessions, x.info.oid = oid → x.info.location = l

theorem Rosters.at (h : Rosters r e fx r') (hs : Spent oid r) (hl : At oid l r) : At oid l r' := by
  intro x hx ho
  cases h with
  | same h => exact hl x (h ▸ hx) ho
  | commits _ ha _ _ _ h =>
    rcases mem_insertSession (h ▸ hx) with rfl | hx
    · cases ho
      exact absurd ha hs.attached
    · exact hl x hx ho
  | ends _ _ _ h => exact hl x (List.mem_filter.1 (h ▸ hx)).1 ho
  | clears _ h => simp [h] at hx

/-- A call whose turn has come at a session that is live is the one that is detaching it. -/
theorem Numbered.turned {l' : Location} {s' : Stage} {x : LiveSession} (h : Numbered r)
    (ho : Orderly r) (hi : r.stage? i = some s) (ht : s.target? = some (oid, l))
    (hl : r.holder? l = some i) (hf : r.find? oid = some x) (hj : r.stage? j = some s')
    (ht' : s'.target? = some (oid, l')) (hh' : s'.holds? = some l') : i = j := by
  obtain ⟨hm, hx⟩ := mem_of_find? hf
  have hll : l = l' := ((h.target hi ht).2 x hm hx).symm.trans ((h.target hj ht').2 x hm hx)
  rw [holder?_eq, hll, ho.head hj hh', Option.some.injEq] at hl
  exact hl.symm

theorem Numbered.once_segment {s' : Stage} (h : Numbered r) (ho : Orderly r)
    (hg : Segment r e r' fx) (hi : r'.stage? i = some s) (hd : s.detaches? = some oid)
    (hj : r'.stage? j = some s') (hd' : s'.detaches? = some oid) : i = j := by
  obtain ⟨l, ht, hh⟩ := Stage.target?_of_detaches? hd
  obtain ⟨l', ht', hh'⟩ := Stage.target?_of_detaches? hd'
  cases hg.aims hi ht with
  | found _ _ _ hn => simp [hn] at hd
  | same hi =>
    cases hg.aims hj ht' with
    | found _ _ _ hn => simp [hn] at hd'
    | same hj => exact h.once hi hd hj hd'
    | turns hj ht₀ hl hf => exact (h.turned ho hj ht₀ hl hf hi ht hh).symm
  | turns hi ht₀ hl hf _ hfx =>
    cases hg.aims hj ht' with
    | found _ _ _ hn => simp [hn] at hd'
    | same hj => exact h.turned ho hi ht₀ hl hf hj ht' hh'
    | turns _ _ _ _ _ hfx' =>
      rw [hfx] at hfx'
      simp only [List.cons.injEq, Effect.detach.injEq] at hfx'
      exact hfx'.1.1

theorem Numbered.segment (h : Numbered r) (ho : Orderly r) (hx : Sorted r.sessions)
    (hr : Room fx r) (hg : Segment r e r' fx) : Numbered r' where
  next := by
    cases hg.tries ho with
    | none hn => exact hn ▸ h.next
    | takes hn hfx =>
      rw [hr.next hn hfx]
      exact Nat.succ_pos _
  attaching {i l name b oid} hi := by
    have kept {oid : Oid} (hi : Issued oid r) : Issued oid r' := (hg.tries ho).issued hr hi
    cases hg.tries ho with
    | none _ _ hs => exact kept (h.attaching (hs hi))
    | takes hn hfx hs =>
      rw [hs] at hi
      split at hi
      · cases hi
        refine ⟨h.next, ?_⟩
        rw [hr.next hn hfx]
        exact Nat.lt_succ_self _
      · exact kept (h.attaching hi)
  unique {i j l l' name name' b b' oid} hi hj := by
    cases hg.tries ho with
    | none _ _ hs => exact h.unique (hs hi) (hs hj)
    | takes hn hfx hs =>
      rw [hs] at hi hj
      split at hi <;> split at hj
      · rename_i h₁ h₂
        exact h₁.symm.trans h₂
      · cases hi
        exact absurd (h.attaching hj).2 (Nat.lt_irrefl _)
      · cases hj
        exact absurd (h.attaching hi).2 (Nat.lt_irrefl _)
      · exact h.unique hi hj
  live x hx := by
    have ht := hg.tries ho
    cases hg.rosters ho with
    | same hs => exact ht.spent hr (h.live x (hs ▸ hx))
    | @commits id l name b oid hd now _ hid _ hfx hend hs =>
      rcases mem_insertSession (hs ▸ hx) with rfl | hx
      · refine h.ended ht ?_ hid (by simp [hend])
        rw [hfx]
        rfl
      · exact ht.spent hr (h.live x hx)
    | ends _ _ _ hs => exact ht.spent hr (h.live x (List.mem_filter.1 (hs ▸ hx)).1)
    | clears _ hs => simp [hs] at hx
  target {i s oid l} hi ht := by
    cases hg.aims hi ht with
    | same hi =>
      obtain ⟨hs, hl⟩ := h.target hi ht
      exact ⟨(hg.tries ho).spent hr hs, (hg.rosters ho).at hs hl⟩
    | found hm hoid hl =>
      subst hoid hl
      have hs := h.live _ hm
      refine ⟨(hg.tries ho).spent hr hs, (hg.rosters ho).at hs fun y hy hoid => ?_⟩
      rw [hx.eq_of_oid hy hm hoid]
    | turns hi ht =>
      obtain ⟨hs, hl⟩ := h.target hi ht
      exact ⟨(hg.tries ho).spent hr hs, (hg.rosters ho).at hs hl⟩
  once := h.once_segment ho hg

theorem numbered_new (adapter : Adapter) (policy : Policy) (order : CallId → Arrangement Location)
    (t : BackendTable) :
    Numbered (new adapter policy order t) where
  next := Nat.one_pos
  attaching hi := by simp [stage?_new] at hi
  unique hi := by simp [stage?_new] at hi
  live := by simp [new]
  target hi := by simp [stage?_new] at hi
  once hi := by simp [stage?_new] at hi

/-- What holds of a registry at every moment of a run for which the numbers last. -/
structure Sound (r : Registry) : Prop where
  order : Orderly r
  sorted : Sorted r.sessions
  numbered : Numbered r

/-- There are numbers enough for the attempts of a run. -/
def Lasts (r : Registry) (es : List Event) : Prop :=
  r.nextOid.toNat + (attempts (r.run es).2).length < UInt64.size

theorem Tries.lasts {fx' : List Effect} (h : Tries r fx r')
    (hl : r.nextOid.toNat + (attempts (fx ++ fx')).length < UInt64.size) :
    Room fx r ∧ r'.nextOid.toNat + (attempts fx').length < UInt64.size := by
  rw [attempts_append, List.length_append] at hl
  have hr : Room fx r := by
    intro hfx
    have hlen := List.length_pos_iff.2 hfx
    omega
  refine ⟨hr, ?_⟩
  cases h with
  | none hn =>
    rw [hn]
    omega
  | takes hn hfx =>
    rw [hr.next hn hfx]
    have hone : (attempts fx).length = 1 := by
      rw [hfx]
      rfl
    omega

theorem Lasts.cons (ho : Orderly r) (h : Lasts r (e :: es)) :
    Room (r.step e).2 r ∧ Lasts (r.step e).1 es :=
  ((step_segment r e).tries ho).lasts h

theorem Sound.segment (h : Sound r) (hr : Room fx r) (hg : Segment r e r' fx) : Sound r' :=
  ⟨h.order.segment hg, h.sorted.segment h.order hg, h.numbered.segment h.order h.sorted hr hg⟩

theorem Sound.step (h : Sound r) (hl : Lasts r (e :: es)) : Sound (r.step e).1 :=
  h.segment (hl.cons h.order).1 (step_segment r e)

theorem Sound.run (h : Sound r) (hl : Lasts r es) : Sound (r.run es).1 := by
  induction es generalizing r with
  | nil => exact h
  | cons e es ih => exact ih (h.step hl) (hl.cons h.order).2

/-- What every step keeps for which there is a number holds after a run for which they last. -/
theorem Sound.run_induction {P : Registry → Prop}
    (hP : ∀ {r e r' fx}, P r → Orderly r → Room fx r → Segment r e r' fx → P r') (hs : Sound r)
    (hl : Lasts r es) (h : P r) : P (r.run es).1 := by
  induction es generalizing r with
  | nil => exact h
  | cons e es ih =>
    obtain ⟨hr, hl'⟩ := hl.cons hs.order
    exact ih (hs.step hl) hl' (hP h hs.order hr (step_segment r e))

theorem Lasts.append {es₁ es₂ : List Event} (h : Sound r) (hl : Lasts r (es₁ ++ es₂)) :
    Lasts r es₁ ∧ Lasts (r.run es₁).1 es₂ := by
  induction es₁ generalizing r with
  | nil =>
    refine ⟨?_, hl⟩
    unfold Lasts at hl ⊢
    simp only [run_nil, attempts, List.filterMap_nil, List.length_nil]
    omega
  | cons e es₁ ih =>
    refine ⟨?_, (ih (h.step hl) (hl.cons h.order).2).2⟩
    unfold Lasts at hl ⊢
    rw [run_append, attempts_append, List.length_append] at hl
    omega

/-- While the numbers last, the next oid counts the attempts. -/
theorem Lasts.nextOid (h : Lasts r es) (ho : Orderly r) :
    (r.run es).1.nextOid.toNat = r.nextOid.toNat + (attempts (r.run es).2).length := by
  rw [(attempts_run ho es).2, UInt64.toNat_add, UInt64.toNat_ofNat', Nat.add_mod_mod]
  exact Nat.mod_eq_of_lt h

theorem sound_new (adapter : Adapter) (policy : Policy) (order : CallId → Arrangement Location)
    (t : BackendTable) :
    Sound (new adapter policy order t) :=
  ⟨orderly_new adapter policy order t, List.Pairwise.nil, numbered_new adapter policy order t⟩

theorem lasts_new {adapter : Adapter} {policy : Policy} {order : CallId → Arrangement Location}
    {t : BackendTable}
    (h : (attempts ((new adapter policy order t).run es).2).length < UInt64.size - 1) :
    Lasts (new adapter policy order t) es := by
  have hnew : (new adapter policy order t).nextOid.toNat = 1 := rfl
  simp only [Lasts, hnew]
  omega

end Registry

end SlotBroker
