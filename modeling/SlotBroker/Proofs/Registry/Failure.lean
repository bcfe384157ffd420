import SlotBroker.Proofs.Registry.Contract
import SlotBroker.Proofs.Registry.Removal

/-!
# What a failure leaves

A call that is alone and fails leaves the sessions, what the backends have attached, the listing
and every name in the cache as they were (`failures_leave`). A create takes an oid only if it came
to attach, a list only adds the names that the platform told it, and a removal leaves nothing at all
but its number.

What is kept is so by every step in which nothing succeeds (`Fruitless`), and a call that is alone
and fails makes only such steps.
-/

namespace SlotBroker

/-- A list, a create or a removal has failed. -/
def Outcome.Fails : Outcome → Prop
  | .listed (.error _) | .created (.error _) | .removed (.error _) => True
  | _ => False

theorem Outcome.Fails.not_shutdown {o : Outcome} {c : Call} (h : o.Fails) (ha : o.Answers c) :
    c ≠ .shutdown := by
  rintro rfl
  cases o <;> first | exact ha | exact h

namespace Registry

/-- A create waits for the backend to attach. -/
def Attaching (i : CallId) (r : Registry) : Prop :=
  ∃ l name b oid, r.stage? i = some (.creating l (.attaching name b oid))

/-- The backend answers a create that it has not attached, and that is how the create fails. -/
def AttachFails (i : CallId) (x : BrokerError) (r : Registry) (e : Event) : Prop :=
  Attaching i r ∧ ∃ y now, e = .attached i (.error y) now ∧ x = .backend y

variable {r r' r₀ : Registry} {e : Event} {es : List Event} {fx : List Effect} {c : Call}
  {i j : CallId} {o : Outcome} {l : Location} {b : BackendName} {x : BrokerError} {oid : Oid}
  {s s' : Stage} {a k n : Nat} {A : Nat → Set (InstanceId × Handle)}

/-! ## Steps in which nothing succeeds -/

/-- Nothing succeeds in a step, nothing is to be forgotten, and nobody shuts down. -/
structure Fruitless (r : Registry) (e : Event) : Prop where
  no_reset : e ≠ .reset
  no_shutdown : e ≠ .start .shutdown
  serves : ∀ {i s}, r.stage? i = some s → s.call? ≠ some .shutdown
  fails : ∀ {i o}, Returns i o r e → o.Fails

/-- The sessions, the listing and the names in the cache are still there. -/
structure Kept (r r' : Registry) : Prop where
  sessions : r'.sessions = r.sessions
  listed : r'.listed = r.listed
  cached : ∀ {l b}, r.resolutions.get? l = some b → r'.resolutions.get? l = some b

theorem Kept.refl (r : Registry) : Kept r r := ⟨rfl, rfl, id⟩

theorem Kept.trans {r'' : Registry} (h : Kept r r') (h' : Kept r' r'') : Kept r r'' :=
  ⟨h'.sessions.trans h.sessions, h'.listed.trans h.listed, fun hb => h'.cached (h.cached hb)⟩

theorem Fruitless.not_forgets (h : Fruitless r e) (ho : Orderly r) : ¬ Forgets r e := by
  rintro (he | hc)
  · exact h.no_reset he
  · rcases (step_segment r e).clears ho hc with he | ⟨i, s, hs, hsh⟩
    · exact h.no_shutdown he
    · exact h.serves hs (Stage.call?_of_shuts hsh)

/-- A removal that has its answer succeeds, so no session ends in a fruitless step. -/
theorem Fruitless.not_detached (h : Fruitless r (.detached i (.ok ())))
    (hs : r.stage? i = some s) (hd : s.detaches? = some oid) : False := by
  unfold Stage.detaches? at hd
  split at hd
  · have hs' : Assoc.get? i r.calls = some (.removing _ _ true) := hs
    have hx : Returns i (.removed (.ok ())) r (.detached i (.ok ())) := by
      simp [Returns, step, hs', removeDetached, endRemove]
    exact h.fails hx
  · exact h.serves hs rfl
  · cases hd

theorem Fruitless.kept (h : Fruitless r e) (ho : Orderly r) (hp : Placed r) :
    Kept r (r.step e).1 where
  sessions := by
    cases (step_segment r e).rosters ho with
    | same hs => exact hs
    | @commits i l name b oid handle now _ _ _ hfx =>
      have hx : Returns i (.created (.ok ⟨oid, l, name, handle, now⟩)) r e := by simp [Returns, hfx]
      exact (h.fails hx).elim
    | ends he hs hd =>
      subst he
      exact (h.not_detached hs hd).elim
    | clears hc => exact absurd (.inr hc) (h.not_forgets ho)
  listed := by
    cases step_notes ho e with
    | same hs => exact hs
    | @lists i m _ _ hfx =>
      have hx : Returns i (.listed (.ok m)) r e := by simp [Returns, hfx]
      exact (h.fails hx).elim
    | forgets _ hf => exact absurd hf (h.not_forgets ho)
  cached hb := (step_resolves ho e).get?_kept hp (h.not_forgets ho) hb

/-- A step of a call that is alone changes what the backends have attached only if something
succeeds, or it is given up. -/
theorem Solitary.not_touches (h : Solitary c i r) (hf : Fruitless r e)
    (hd : ∀ {j tending}, e = .drop j tending → r.stage? j = none) : ¬ Touches r e := by
  intro ht
  cases ht with
  | @attached i l name b oid handle now hs =>
    have hx : Returns i (.created (.ok ⟨oid, l, name, handle, now⟩)) r
        (.attached i (.ok handle) now) := by
      simp [Returns, step_committed hs (h.opened hs)]
    exact hf.fails hx
  | detached hs hfr =>
    rcases Stage.frees?_inv hfr with ⟨-, hh⟩ | ⟨oid, -, hdt⟩
    · unfold Stage.holding at hh
      split at hh
      · exact h.commits hs
      · cases (h.alone hs).2
      · exact hh rfl
    · exact hf.not_detached hs hdt
  | dropped hs => cases (hd rfl).symm.trans hs
  | unloaded hs => exact hf.serves hs rfl

/-! ## A call that is alone and fails -/

section alone

variable (h : Alone r₀ es c i o a n) (ho : Orderly r₀)

include h ho

theorem Alone.not_shutdown (hf : o.Fails) : c ≠ .shutdown :=
  hf.not_shutdown (h.made.answers ho h.returned)

theorem Alone.fruitless (hf : o.Fails) (hak : a ≤ k) (hkn : k ≤ n) (he : es[k]? = some e) :
    Fruitless (r₀.moment es k) e where
  no_reset := by
    rintro rfl
    rcases h.event hak hkn he with hb | hm
    · cases hb
    · cases hm.1
  no_shutdown := by
    rintro rfl
    rcases h.event hak hkn he with hb | hm
    · cases hb
    · cases hm.1
      exact h.not_shutdown ho hf rfl
  serves hs hc := by
    rw [((h.solitary hak (Nat.le_succ_of_le hkn)).alone hs).2, Option.some.injEq] at hc
    exact h.not_shutdown ho hf hc
  fails hx := by
    obtain ⟨-, -, rfl⟩ := h.returns ho hak hkn ⟨e, he, hx⟩
    exact hf

theorem Alone.kept (hp : Placed r₀) (hf : o.Fails) (hak : a ≤ k) (hkn : k ≤ n + 1) :
    Kept (r₀.moment es a) (r₀.moment es k) := by
  refine moment_keeps hak (.refl _) fun m e ha hlt he hk => ?_
  have hfr := h.fruitless ho hf ha (Nat.le_of_lt_succ (Nat.lt_of_lt_of_le hlt hkn)) he
  exact hk.trans (hfr.kept (ho.moment es m) (hp.moment ho es m))

theorem Alone.attached (hA : Obeys r₀ es A) (hf : o.Fails) (hak : a ≤ k) (hkn : k ≤ n + 1) :
    A k = A a := by
  induction hak with
  | refl => rfl
  | @step k hak ih =>
    have hle := Nat.le_of_succ_le_succ hkn
    obtain ⟨e, he⟩ : ∃ e, es[k]? = some e := by
      obtain ⟨e, he, -⟩ := h.returned
      have hlt := Nat.lt_of_le_of_lt hle (List.getElem?_eq_some_iff.1 he).1
      exact ⟨_, List.getElem?_eq_getElem hlt⟩
    rw [← ih (Nat.le_of_succ_le hkn)]
    refine (hA k e he).rests ?_
    refine (h.solitary hak (Nat.le_succ_of_le hle)).not_touches (h.fruitless ho hf hak hle he) ?_
    rintro j tending rfl
    exact h.not_dropped ho hak hle he

/-- A name that comes into the cache is one that the platform told the call. -/
theorem Alone.added (hp : Placed r₀) (h₀ : ∀ i, r₀.stage? i = none)
    (hv : ∀ c, r₀.resolutions.valueAt? c = none)
    (hb : (r₀.moment es (n + 1)).resolutions.get? l = some b) :
    (r₀.moment es a).resolutions.get? l = some b ∨
      ∃ p k, a < k ∧ k ≤ n ∧ HappensAt (Succeeds ⟨i, p⟩ l b) r₀ es k := by
  -- The name was told at some moment: before the call, when it was made, or to the call itself.
  obtain ⟨t, k, m, n', hkm, hmn, hn', hk, -, hsucc, hrem⟩ := cached ho hp h₀ hv hb
  have hle := Nat.le_of_lt_succ hn'
  rcases Nat.lt_trichotomy n' a with ha | rfl | ha
  · refine .inl (get?_kept ho hp h₀ hk hsucc ha fun j hkj hja => hrem j hkj ?_)
    exact Nat.lt_of_lt_of_le hja (Nat.le_succ_of_le (h.le ho))
  · obtain ⟨e, he, -, u, rfl, -⟩ := hsucc
    cases (h.made.of_event he).1
  · obtain ⟨e, he, ⟨cell, hq⟩, -⟩ := id hsucc
    obtain ⟨s, hs⟩ := part?_in_progress hq
    obtain ⟨p, q⟩ := t
    obtain rfl := ((h.solitary (Nat.le_of_lt ha) (Nat.le_succ_of_le hle)).alone hs).1
    exact .inr ⟨q, n', ha, hle, hsucc⟩

end alone

/-! ## Oids -/

/-- A call that is alone takes an oid when it comes to attach, and not otherwise. -/
theorem Solitary.oids (h : Solitary c i r) (h' : Solitary c i r') (ho : Orderly r)
    (hg : Segment r e r' fx) (hs : r'.stage? i = some s) :
    (r'.nextOid = r.nextOid ∧ (Attaching i r' ↔ Attaching i r)) ∨
      (r'.nextOid = r.nextOid + 1 ∧ ¬ Attaching i r ∧ Attaching i r') := by
  have not_attaching {l : Location} {s : CreateStage} {j : CallId}
      (hj : r.stage? j = some (.creating l s)) (hk : s.seeks) : ¬ Attaching i r := by
    rintro ⟨_, _, _, _, ha⟩
    obtain ⟨rfl, -⟩ := h.alone hj
    cases hj.symm.trans ha
    exact hk
  cases hg.serves ho with
  | other _ hn hserved =>
    refine .inl ⟨hn, fun ⟨l, name, b, oid, ha⟩ => ⟨l, name, b, oid, ?_⟩, ?_⟩
    · exact hserved _ _ _ trivial ha
    · -- An attach that begins takes an oid, so one that waits now has waited before.
      rintro ⟨l, name, b, oid, ha⟩
      obtain ⟨s', rfl⟩ := Stage.creating_of_call? ((h'.alone hs).2.trans (h.alone ha).2.symm)
      cases hg.creating hs with
      | same hb =>
        cases hb.symm.trans ha
        exact ⟨_, _, _, _, hs⟩
      | made hi => exact absurd (ho.fresh ha) (hi ▸ Nat.lt_irrefl _)
      | joins hb => cases hb.symm.trans ha
      | attaches => exact ⟨_, _, _, _, hs⟩
      | seeks hb hk => exact absurd ⟨_, _, _, _, ha⟩ (not_attaching hb hk)
      | undoes hb hc => cases (h.opened hb).symm.trans hc
  | starts hj =>
    refine .inl ⟨rfl, ?_, fun ha => absurd ha (not_attaching hj trivial)⟩
    obtain ⟨rfl, -⟩ := h.alone hj
    rintro ⟨_, _, _, _, ha⟩
    simp at ha
  | fetched hj | loaded hj =>
    obtain ⟨rfl, -⟩ := h.alone hj
    exact .inr ⟨rfl, not_attaching hj trivial, _, _, _, _, stage?_setStage_self _ _ _⟩

theorem Segment.oid_of_reply (ho : Orderly r) (hg : Segment r e r' fx) (hx : .reply i o ∈ fx) :
    r'.nextOid = r.nextOid := by
  cases hg.tries ho with
  | none hn => exact hn
  | takes _ hfx =>
    rw [hfx] at hx
    simp at hx

/-- A create that fails when it waits for the backend to attach has been told so. -/
theorem Segment.attach_failed (ho : Orderly r) (hg : Segment r e r' fx) (ha : Attaching i r)
    (hx : .reply i (.created (.error x)) ∈ fx) : AttachFails i x r e := by
  obtain ⟨l, name, b, oid, ha⟩ := ha
  cases hg with
  | attachFailed hs =>
    cases List.mem_singleton.1 hx
    exact ⟨⟨_, _, _, _, hs⟩, _, _, rfl, rfl⟩
  -- Creates that fail without having come to attach.
  | createClosed hs | createBusy hs | resolveFailed hs | unserved hs | loadFailed hs | undone hs =>
    cases List.mem_singleton.1 hx
    cases hs.symm.trans ha
  | refused =>
    cases List.mem_singleton.1 hx
    cases ho.not_made.symm.trans ha
  -- Answers to a list or a shutdown.
  | enumerated _ h | partReady _ _ _ h | partResolved _ _ h => exact (h.wide hx).elim
  | unloaded _ h | unloadFailed _ h => exact (h.wide hx).elim
  | shutdownMade h | drained _ _ h | releaseGone _ _ _ h | released _ h | releaseFailed _ h =>
    exact (h.wide hx).elim
  | _ => simp at hx

section alone

variable (h : Alone r₀ es c i o a n) (ho : Orderly r₀)

include h ho

/-- While a call is alone it has taken an oid if it waits for a backend to attach. -/
theorem Alone.oids (hak : a ≤ k) (hkn : k ≤ n) :
    (Attaching i (r₀.moment es k) → (r₀.moment es k).nextOid = (r₀.moment es a).nextOid + 1) ∧
      (¬ Attaching i (r₀.moment es k) →
        (r₀.moment es k).nextOid = (r₀.moment es a).nextOid) := by
  induction hak with
  | refl =>
    refine ⟨fun ⟨_, _, _, _, ha⟩ => ?_, fun _ => rfl⟩
    cases (h.idle i).symm.trans ha
  | @step k hak ih =>
    have hle := Nat.le_of_succ_le hkn
    obtain ⟨h₁, h₂⟩ := ih hle
    cases he : es[k]? with
    | none =>
      rw [moment_end _ he]
      exact ⟨h₁, h₂⟩
    | some e =>
      obtain ⟨s, hs⟩ := (in_progress ho h.made h.returned).2 (k + 1) (Nat.lt_succ_of_le hak) hkn
      have hk := h.solitary hak (Nat.le_succ_of_le hle)
      have hk' := h.solitary (Nat.le_succ_of_le hak) (Nat.le_succ_of_le hkn)
      rw [moment_succ he] at hs hk' ⊢
      rcases hk.oids hk' (ho.moment es k) (step_segment _ e) hs with
        ⟨hn, hiff⟩ | ⟨hn, hna, ha⟩
      · rw [hn, hiff]
        exact ⟨h₁, h₂⟩
      · rw [hn, h₂ hna]
        exact ⟨fun _ => rfl, fun hx => absurd ha hx⟩

theorem Alone.oids_after :
    (Attaching i (r₀.moment es n) →
        (r₀.moment es (n + 1)).nextOid = (r₀.moment es a).nextOid + 1) ∧
      (¬ Attaching i (r₀.moment es n) →
        (r₀.moment es (n + 1)).nextOid = (r₀.moment es a).nextOid) := by
  obtain ⟨e, he, hx⟩ := h.returned
  rw [moment_succ he, (step_segment _ e).oid_of_reply (ho.moment es n) hx]
  exact h.oids ho (h.le ho) (Nat.le_refl n)

theorem Alone.no_oid (hc : ∀ l, c ≠ .create l) :
    (r₀.moment es (n + 1)).nextOid = (r₀.moment es a).nextOid := by
  refine (h.oids_after ho).2 ?_
  rintro ⟨l, _, _, _, ha⟩
  have hn := ((h.solitary (h.le ho) (Nat.le_succ n)).alone ha).2
  exact hc l (Option.some.inj hn).symm

end alone

/-! ## What a failure leaves -/

/-- What calls leave that are alone in a run and fail. -/
structure FailuresLeave (r₀ : Registry) (es : List Event) (A : Nat → Set (InstanceId × Handle)) :
    Prop where
  kept : ∀ {c i o a n}, Alone r₀ es c i o a n → o.Fails →
    Kept (r₀.moment es a) (r₀.moment es (n + 1))
  attached : ∀ {c i o a n}, Alone r₀ es c i o a n → o.Fails → A (n + 1) = A a
  /-- The cache has at most those names more that the platform told the call. -/
  added : ∀ {c i o a n l b}, Alone r₀ es c i o a n → o.Fails →
    (r₀.moment es (n + 1)).resolutions.get? l = some b →
    (r₀.moment es a).resolutions.get? l = some b ∨
      ∃ p k, a < k ∧ k ≤ n ∧ HappensAt (Succeeds ⟨i, p⟩ l b) r₀ es k
  create_takes : ∀ {l i x a n}, Alone r₀ es (.create l) i (.created (.error x)) a n →
    HappensAt (AttachFails i x) r₀ es n →
    (r₀.moment es (n + 1)).nextOid = (r₀.moment es a).nextOid + 1
  create_takes_none : ∀ {l i x a n}, Alone r₀ es (.create l) i (.created (.error x)) a n →
    ¬ HappensAt (AttachFails i x) r₀ es n →
    (r₀.moment es (n + 1)).nextOid = (r₀.moment es a).nextOid
  list_takes_none : ∀ {i x a n}, Alone r₀ es .list i (.listed (.error x)) a n →
    (r₀.moment es (n + 1)).nextOid = (r₀.moment es a).nextOid
  /-- A removal leaves a registry that has only counted one call more. -/
  remove : ∀ {oid i x a n}, Alone r₀ es (.remove oid) i (.removed (.error x)) a n →
    r₀.moment es (n + 1) = { r₀.moment es a with nextCall := (r₀.moment es a).nextCall + 1 }
  idle_again : ∀ {c i o a n}, Alone r₀ es c i o a n → o.Fails →
    ∀ j, (r₀.moment es (n + 1)).stage? j = none

/-- Whatever the policy, the platform and the backends, a call that is alone and fails leaves things
as they were. -/
theorem failures_leave (adapter : Adapter) (policy : Policy) (order : CallId → Arrangement Location)
    (t : BackendTable) (es : List Event)
    (A : Nat → Set (InstanceId × Handle)) (hA : Obeys (new adapter policy order t) es A) :
    FailuresLeave (new adapter policy order t) es A := by
  have ho := orderly_new adapter policy order t
  have hp := placed_new adapter policy order t
  have h₀ := stage?_new adapter policy order t
  have hv (c : Nat) : (new adapter policy order t).resolutions.valueAt? c = none := rfl
  have hl : Lined (new adapter policy order t) := fun x hx => by cases hx
  generalize new adapter policy order t = r₀ at hA ho hp h₀ hv hl ⊢
  constructor
  case kept =>
    intro c i o a n h hf
    exact h.kept ho hp hf (Nat.le_succ_of_le (h.le ho)) (Nat.le_refl _)
  case attached =>
    intro c i o a n h hf
    exact h.attached ho hA hf (Nat.le_succ_of_le (h.le ho)) (Nat.le_refl _)
  case added => exact fun h _ hb => h.added ho hp h₀ hv hb
  case create_takes =>
    rintro l i x a n h ⟨_, _, ha, -⟩
    exact (h.oids_after ho).1 ha
  case create_takes_none =>
    intro l i x a n h hn
    refine (h.oids_after ho).2 fun ha => hn ?_
    obtain ⟨e, he, hx⟩ := h.returned
    exact ⟨e, he, (step_segment _ e).attach_failed (ho.moment es n) ha hx⟩
  case list_takes_none => exact fun h => h.no_oid ho fun _ => Call.noConfusion
  case remove => exact fun h => h.removal_failed ho hl rfl
  case idle_again => exact fun h _ => h.idle_again ho

/-- A session is created at one location. Another create there fails to attach, the session fails to
be detached, and a list fails after it was told one backend. -/
def failures : List Event :=
  [.start (.create ⟨"slot1"⟩), .resume ⟨0, 0⟩, .resume ⟨0, 0⟩, .resolved ⟨0, 0⟩ (.ok ⟨"vendor"⟩),
    .resume ⟨0, 0⟩, .loaded 0 (.ok ()), .attached 0 (.ok ⟨7⟩) default,
    .start (.create ⟨"slot1"⟩), .resume ⟨1, 0⟩, .resume ⟨1, 0⟩, .resume ⟨1, 0⟩,
    .attached 1 (.error default) default,
    .start (.remove ⟨1⟩), .resume ⟨2, 0⟩, .detached 2 (.error default),
    .start .list, .enumerated 3 (.ok [⟨"slot2"⟩, ⟨"slot3"⟩]), .resume ⟨3, 0⟩, .resume ⟨3, 1⟩,
    .resume ⟨3, 0⟩, .resume ⟨3, 1⟩, .resolved ⟨3, 0⟩ (.ok ⟨"vendor"⟩),
    .resolved ⟨3, 1⟩ (.error (.probe default))]

def lenient : Registry := unused .asPut .static ⟨true, false⟩ [] (some 0)

theorem failures_leave_session :
    Obeys lenient failures (attachedAt lenient failures) ∧
      Alone lenient failures (.create ⟨"slot1"⟩) 1 (.created (.error (.backend default))) 7 11 ∧
      HappensAt (AttachFails 1 (.backend default)) lenient failures 11 ∧
      Alone lenient failures (.remove ⟨1⟩) 2 (.removed (.error (.backend default))) 12 14 ∧
      Alone lenient failures .list 3 (.listed (.error (.probe default))) 15 22 ∧
      FailuresLeave lenient failures (attachedAt lenient failures) := by
  refine ⟨obeys_attachedAt _ _, ⟨⟨_, rfl, rfl, rfl⟩, ?_, fun _ => rfl, by decide⟩,
    ⟨_, rfl, ⟨_, _, _, _, rfl⟩, _, _, rfl, rfl⟩, ⟨⟨_, rfl, rfl, rfl⟩, ?_, fun _ => rfl, by decide⟩,
    ⟨⟨_, rfl, rfl, rfl⟩, ?_, fun _ => rfl, by decide⟩,
    failures_leave _ _ _ _ failures _ (obeys_attachedAt _ _)⟩
  · exact ⟨_, rfl, List.mem_of_getElem? (i := 0) rfl⟩
  · exact ⟨_, rfl, List.mem_of_getElem? (i := 0) rfl⟩
  · exact ⟨_, rfl, List.mem_of_getElem? (i := 0) rfl⟩

end Registry

end SlotBroker
