import SlotBroker.Proofs.Registry.Sequential

/-!
# What has been discovered

In a sequential run the answer to a create hangs on the lists before it. `discovery_law` says how,
whatever the platform answers to each call:

* a create is told that its location is unknown exactly if the location is not `Known`, that is, was
  not enumerated by the last list that returned a listing since what was known was forgotten;
* a create never asks the platform, since every location that is listed has its name in the cache;
* no call but a list that returns a listing changes for which locations creates are let in;
* a list that returns a listing has one descriptor for each location that was enumerated, with the
  name that the location had before (`ResolvedBefore`), or else with the one that the list itself
  was told.
-/

namespace SlotBroker

namespace Registry

/-- A location was enumerated by the list that returned last, if one has returned a listing since
what was known was forgotten. -/
def Known (r₀ : Registry) (es : List Event) (l : Location) (n : Nat) : Prop :=
  ∃ i m k k', Listed r₀ es i m k k' n ∧ Rests r₀ es (k' + 1) n ∧ l ∈ m.keys

/-- A location was resolved, and nothing was forgotten since. -/
def ResolvedBefore (r₀ : Registry) (es : List Event) (l : Location) (b : BackendName) (n : Nat) :
    Prop :=
  ∃ t n', n' < n ∧ HappensAt (Succeeds t l b) r₀ es n' ∧ Remembers r₀ es n' n

/-- A call asks the platform for the locations or for a backend. -/
def AsksPlatform (i : CallId) (r : Registry) (e : Event) : Prop :=
  .enumerate i ∈ (r.step e).2 ∨ ∃ k l, .resolve ⟨i, k⟩ l ∈ (r.step e).2

/-- A create of a session at the location, made now, is not told that the location is unknown. -/
def Creatable (l : Location) (r : Registry) : Prop :=
  ¬ Returns r.nextCall (.created (.error (.unknownLocation l))) r (.start (.create l))

/-- A list that was made at a moment `a` and returns at a moment `n` has the backend of a location
from before, or there was none and the list was told the backend itself. -/
def Discovers (r₀ : Registry) (es : List Event) (i : CallId) (a n : Nat) (d : Descriptor) : Prop :=
  ResolvedBefore r₀ es d.location d.backend a ∨
    (∀ b, ¬ ResolvedBefore r₀ es d.location b a) ∧
      ∃ k n', a < n' ∧ n' ≤ n ∧ HappensAt (Succeeds ⟨i, k⟩ d.location d.backend) r₀ es n'

/-- How discovery goes in a run. -/
structure DiscoveryLaw (r₀ : Registry) (es : List Event) : Prop where
  unknown : ∀ {a i l}, HappensAt (Makes (.create l) i) r₀ es a →
    ((∃ n l', HappensAt (Returns i (.created (.error (.unknownLocation l')))) r₀ es n) ↔
      ¬ Known r₀ es l a)
  told_at_once : ∀ {a i l}, HappensAt (Makes (.create l) i) r₀ es a → ¬ Known r₀ es l a →
    HappensAt (Returns i (.created (.error (.unknownLocation l)))) r₀ es a
  never_asks : ∀ {a i l}, HappensAt (Makes (.create l) i) r₀ es a →
    ∀ n, ¬ HappensAt (AsksPlatform i) r₀ es n
  creatable_kept : ∀ {a n i c o}, HappensAt (Makes c i) r₀ es a →
    HappensAt (Returns i o) r₀ es n → (∀ m, o ≠ .listed (.ok m)) →
      ∀ l, Creatable l (r₀.moment es (n + 1)) ↔ Creatable l (r₀.moment es a)
  enumerated : ∀ {a n i m}, HappensAt (Makes .list i) r₀ es a →
    HappensAt (Returns i (.listed (.ok m))) r₀ es n →
      ∃ k, a < k ∧ k ≤ n ∧ HappensAt (Enumerates i m.keys) r₀ es k
  resolved : ∀ {a n i m}, HappensAt (Makes .list i) r₀ es a →
    HappensAt (Returns i (.listed (.ok m))) r₀ es n → ∀ d ∈ m.entries, Discovers r₀ es i a n d
  one_name : ∀ {n l b b'}, ResolvedBefore r₀ es l b n → ResolvedBefore r₀ es l b' n → b = b'

variable {r r' r₀ : Registry} {e : Event} {es : List Event} {fx : List Effect} {i : CallId}
  {t : Ticket} {l : Location} {b : BackendName} {a n n' : Nat} {m : Listing}

/-! ## The listing and the cache as histories -/

/-- The listing that a list returns is the one that counts from then on. -/
theorem Returns.notes (ho : Orderly r) (h : Returns i (.listed (.ok m)) r e) :
    (r.step e).1.listed = some m.keys ∧ Finds r e i m.keys := by
  cases step_notes ho e with
  | same _ _ _ hfx => exact absurd h (hfx i m)
  | forgets _ _ hfx => exact absurd h (hfx i m)
  | lists hl hfinds hfx =>
    rw [Returns, hfx] at h
    cases List.mem_singleton.1 h
    exact ⟨hl, hfinds⟩

theorem known_iff (ho : Orderly r₀) (h₀ : ∀ i, r₀.stage? i = none) (hl : r₀.listed = none) :
    Known r₀ es l n ↔ (r₀.moment es n).wasListed l = true := by
  constructor
  · rintro ⟨i, m, k, k', hlisted, hrests, hm⟩
    obtain ⟨e, he, hret⟩ := hlisted.returned
    have hnoted := (hret.notes (ho.moment es k')).1
    rw [← moment_succ he, ← hrests.listed ho hlisted.lt] at hnoted
    rw [wasListed, hnoted]
    exact List.contains_iff_mem.2 hm
  · intro h
    have hlatest := latest_moment ho h₀ hl es n
    generalize hls : (r₀.moment es n).listed = ls at hlatest
    rw [wasListed, hls] at h
    cases hlatest with
    | forgotten => cases h
    | returned hlisted hrests =>
      exact ⟨_, _, _, _, hlisted, hrests, List.contains_iff_mem.1 h⟩

theorem get?_moment (ho : Orderly r₀) (hp : Placed r₀) (hn : n ≤ n')
    (hf : ∀ j, n ≤ j → j < n' → ¬ HappensAt Forgets r₀ es j)
    (hb : (r₀.moment es n).resolutions.get? l = some b) :
    (r₀.moment es n').resolutions.get? l = some b := by
  obtain ⟨c, hc, hv⟩ := Option.bind_eq_some_iff.1 hb
  rw [OnceMap.get?_of_cell (cellOf?_moment ho hn hf hc)]
  exact valueAt?_moment ho hp hn hv

/-! ## What a create can be told -/

theorem Segment.enumerate (hg : Segment r e r' fx) (hx : .enumerate i ∈ fx) :
    Makes .list i r e := by
  cases hg with
  | listMade =>
    cases List.mem_singleton.1 hx
    exact ⟨rfl, rfl⟩
  | refused => simp at hx
  | enumerated _ h | partReady _ _ _ h | partResolved _ _ h => exact (h.wide hx).elim
  | unloaded _ h | unloadFailed _ h => exact (h.wide hx).elim
  | shutdownMade h | drained _ _ h | releaseGone _ _ _ h | released _ h | releaseFailed _ h =>
    exact (h.wide hx).elim
  | _ => simp at hx

/-- A create is told that a location is unknown when it is made, or by the platform. -/
theorem Segment.unknown (hg : Segment r e r' fx)
    (hx : .reply i (.created (.error (.unknownLocation l))) ∈ fx) :
    Makes (.create l) i r e ∧ r.wasListed l = false ∨
      ∃ l' c, r.stage? i = some (.creating l' (.asking c)) := by
  cases hg with
  | refused h =>
    cases List.mem_singleton.1 hx
    cases h with
    | unlisted _ _ hl => exact .inl ⟨⟨rfl, rfl⟩, hl⟩
  | resolveFailed hs =>
    cases List.mem_singleton.1 hx
    exact .inr ⟨_, _, hs⟩
  | enumerated _ h | partReady _ _ _ h | partResolved _ _ h => exact (h.wide hx).elim
  | unloaded _ h | unloadFailed _ h => exact (h.wide hx).elim
  | shutdownMade h | drained _ _ h | releaseGone _ _ _ h | released _ h | releaseFailed _ h =>
    exact (h.wide hx).elim
  | _ => simp at hx

/-- A create finds the name of its location in the cache. -/
theorem InTurn.not_asking {c : Nat} (h : InTurn r) (hp : Placed r) :
    r.stage? i ≠ some (.creating l (.asking c)) := by
  intro hs
  have hl := h.creating hs
  rw [wasListed] at hl
  cases hls : r.listed with
  | none => simp [hls] at hl
  | some ls =>
    rw [hls] at hl
    obtain ⟨b, hb⟩ := h.listed hls l (List.contains_iff_mem.1 hl)
    have hq : r.part? ⟨i, 0⟩ = some (l, .asking c) := part?_of_creating hs
    rw [OnceMap.get?_of_cell (h.questions hq),
      OnceMap.valueAt?_of_compute (hp.asking hq)] at hb
    cases hb

theorem InTurn.not_creatable (h : InTurn r) (hl : r.wasListed l = false) : ¬ Creatable l r := by
  simp [Creatable, Returns, Registry.step, start, answerNow, h.opened, h.policy, hl]

theorem InTurn.creatable_iff (h : InTurn r) (ho : Orderly r) :
    Creatable l r ↔ r.wasListed l = true := by
  constructor
  · intro hc
    by_contra hl
    exact h.not_creatable (Bool.eq_false_iff.2 hl) hc
  · intro hl hx
    rcases (step_segment r _).unknown hx with ⟨-, hl'⟩ | ⟨_, _, hs⟩
    · rw [hl] at hl'
      cases hl'
    · rw [ho.not_made] at hs
      cases hs

/-! ## The law -/

theorem enumerated_since (ho : Orderly r₀) (h₀ : ∀ i, r₀.stage? i = none)
    (hm : HappensAt (Makes .list i) r₀ es a)
    (hr : HappensAt (Returns i (.listed (.ok m))) r₀ es n) :
    ∃ k, a < k ∧ k ≤ n ∧ HappensAt (Enumerates i m.keys) r₀ es k := by
  obtain ⟨e, he, hret⟩ := hr
  have hfinds := (hret.notes (ho.moment es n)).2
  obtain ⟨k, hk, hen⟩ := hfinds.enumerated h₀ he
  obtain ⟨_, -, -, hst⟩ := id hen
  exact ⟨k, made_before ho hm hst, hk, hen⟩

section sequential

variable (hs : Sequential r₀ es) (ho : Orderly r₀) (hp : Placed r₀) (hi : InTurn r₀)

include hs ho hp hi

theorem Sequential.unknown (hl₀ : r₀.listed = none) {l' : Location}
    (h₀ : ∀ i, r₀.stage? i = none) (hm : HappensAt (Makes (.create l) i) r₀ es a)
    (hr : HappensAt (Returns i (.created (.error (.unknownLocation l')))) r₀ es n) :
    ¬ Known r₀ es l a := by
  obtain ⟨e, he, hx⟩ := hr
  rcases (step_segment _ e).unknown hx with ⟨hm', hl⟩ | ⟨_, _, hst⟩
  · obtain ⟨rfl, hc⟩ := made_once hm ⟨e, he, hm'⟩
    cases hc
    rw [known_iff ho h₀ hl₀, hl]
    exact Bool.false_ne_true
  · exact absurd hst ((hs.in_turn ho hp hi n).not_asking (hp.moment ho es n))

theorem Sequential.told_at_once (hl₀ : r₀.listed = none) (h₀ : ∀ i, r₀.stage? i = none)
    (hm : HappensAt (Makes (.create l) i) r₀ es a) (hk : ¬ Known r₀ es l a) :
    HappensAt (Returns i (.created (.error (.unknownLocation l)))) r₀ es a := by
  obtain ⟨_, he, rfl, rfl⟩ := hm
  rw [known_iff ho h₀ hl₀, Bool.not_eq_true] at hk
  exact ⟨_, he, Classical.not_not.1 ((hs.in_turn ho hp hi a).not_creatable hk)⟩

theorem Sequential.never_asks (hm : HappensAt (Makes (.create l) i) r₀ es a) (n : Nat) :
    ¬ HappensAt (AsksPlatform i) r₀ es n := by
  rintro ⟨e, he, hx | ⟨k, l', hx⟩⟩
  · have hlist := (step_segment _ e).enumerate hx
    cases (made_once hm ⟨e, he, hlist⟩).2
  · obtain ⟨-, c, hq⟩ := (step_resolves (ho.moment es n) e).asks_iff hx
    rw [← moment_succ he] at hq
    obtain ⟨s, hst⟩ := part?_in_progress hq
    -- The call that asks has been made, so it is the create and knows its backend.
    have han : a < n + 1 := made_before ho hm hst
    obtain ⟨s', rfl⟩ := Stage.creating_of_call? ((asked_for ho hm han).stage s hst)
    rw [part?, hst, Option.bind_some, Stage.part?] at hq
    split at hq
    · cases s' with
      | asking c' => exact (hs.in_turn ho hp hi (n + 1)).not_asking (hp.moment ho es (n + 1)) hst
      | _ => simp [CreateStage.part?] at hq
    · cases hq

theorem Sequential.creatable_kept {c : Call} {o : Outcome}
    (hm : HappensAt (Makes c i) r₀ es a) (hr : HappensAt (Returns i o) r₀ es n)
    (hno : ∀ m, o ≠ .listed (.ok m)) (l : Location) :
    Creatable l (r₀.moment es (n + 1)) ↔ Creatable l (r₀.moment es a) := by
  have hn := (in_progress ho hm hr).1
  have hlisted := (hs.rests ho hp hi hm hr hno).listed ho (Nat.le_succ_of_le hn)
  rw [(hs.in_turn ho hp hi (n + 1)).creatable_iff (ho.moment es (n + 1)),
    (hs.in_turn ho hp hi a).creatable_iff (ho.moment es a), wasListed, wasListed, hlisted]

theorem resolvedBefore_iff (h₀ : ∀ i, r₀.stage? i = none)
    (hv : ∀ c, r₀.resolutions.valueAt? c = none) :
    ResolvedBefore r₀ es l b n ↔ (r₀.moment es n).resolutions.get? l = some b := by
  constructor
  · rintro ⟨t, n', hn', ⟨e, he, hsucc⟩, hrem⟩
    have hturn := hs.in_turn ho hp hi n'
    obtain ⟨s, hst⟩ := Learns.in_progress (.told hsucc)
    have hf := hturn.remembers (ho.moment es n') (hs n' e he) hst
    have hb := hturn.learns (ho.moment es n') (hp.moment ho es n') hf (.told hsucc)
    rw [← moment_succ he] at hb
    exact get?_moment ho hp hn' (fun j hj hjn => hrem j hj hjn) hb
  · intro hb
    obtain ⟨t, k, s, n', hks, hsn, hn', -, -, hsucc, hrem⟩ := cached ho hp h₀ hv hb
    exact ⟨t, n', hn', hsucc, fun j hj => hrem j (Nat.lt_trans (Nat.lt_trans hks hsn) hj)⟩

/-- A list has the backend of a location from the cache in which it found it, or from the platform
that it asked. -/
theorem Sequential.resolved (h₀ : ∀ i, r₀.stage? i = none)
    (hv : ∀ c, r₀.resolutions.valueAt? c = none) (hm : HappensAt (Makes .list i) r₀ es a)
    (hr : HappensAt (Returns i (.listed (.ok m))) r₀ es n) {d : Descriptor} (hd : d ∈ m.entries) :
    Discovers r₀ es i a n d := by
  have hrem {j : Nat} (haj : a ≤ j) (hjn : j ≤ n) : ¬ HappensAt Forgets r₀ es j :=
    hs.remembers ho hp hi hm hr haj hjn
  -- When the list returns, the name is in the cache.
  have hcached : (r₀.moment es (n + 1)).resolutions.get? d.location = some d.backend := by
    obtain ⟨k, hk⟩ := List.mem_iff_getElem?.1 hd
    obtain ⟨e, he, hx⟩ := id hr
    have hl := (step_segment _ e).lists_learned hx hk
    rw [moment_succ he]
    exact (hs.in_turn ho hp hi n).learns (ho.moment es n) (hp.moment ho es n)
      (Returns.list_alone (ho.moment es n) hx).1 hl
  obtain ⟨t, k, s, n', hks, hsn, hn', -, -, hsucc, hkept⟩ := cached ho hp h₀ hv hcached
  have hkn : k < n' := Nat.lt_trans hks hsn
  have han := (in_progress ho hm hr).1
  by_cases hbefore : n' < a
  · refine .inl ⟨t, n', hbefore, hsucc, fun j hj hja => ?_⟩
    exact hkept j (Nat.lt_trans hkn hj) (Nat.lt_of_lt_of_le hja (Nat.le_succ_of_le han))
  -- It came there after the list was made, so the list has asked for it.
  obtain ⟨e, he, ⟨c, hq⟩, u, rfl, hu⟩ := id hsucc
  have hne : a ≠ n' := by
    rintro rfl
    cases (hm.of_event he).1
  have han' : a < n' := Nat.lt_of_le_of_ne (Nat.not_lt.1 hbefore) hne
  have hturn := hs.in_turn ho hp hi n'
  obtain ⟨s₁, hs₁⟩ := part?_in_progress hq
  obtain ⟨s₂, hs₂⟩ := (in_progress ho hm hr).2 n' han' (Nat.le_of_lt_succ hn')
  obtain rfl := hturn.alone hs₁ hs₂
  refine .inr ⟨fun b hb => ?_, t.part, n', han', Nat.le_of_lt_succ hn', hsucc⟩
  -- A name that was in the cache before would be there still.
  rw [resolvedBefore_iff hs ho hp hi h₀ hv] at hb
  have hb' := get?_moment ho hp (Nat.le_of_lt han')
    (fun j haj hjn => hrem haj (Nat.le_of_lt_succ (Nat.lt_trans hjn hn'))) hb
  rw [OnceMap.get?_of_cell (hturn.questions hq),
    OnceMap.valueAt?_of_compute ((hp.moment ho es n').asking hq)] at hb'
  cases hb'

end sequential

/-- In a sequential run of a registry that insists on a listing, what creates are told and what
lists find follow from the lists that returned before. -/
theorem discovery_law (adapter : Adapter) (multiple : Bool) (order : CallId → Arrangement Location)
    (t : BackendTable) (es : List Event)
    (hs : Sequential (new adapter ⟨multiple, true⟩ order t) es) :
    DiscoveryLaw (new adapter ⟨multiple, true⟩ order t) es := by
  have ho := orderly_new adapter ⟨multiple, true⟩ order t
  have hp := placed_new adapter ⟨multiple, true⟩ order t
  have hi := inTurn_new adapter multiple order t
  have h₀ := stage?_new adapter ⟨multiple, true⟩ order t
  have hl₀ : (new adapter ⟨multiple, true⟩ order t).listed = none := rfl
  have hv (c : Nat) : (new adapter ⟨multiple, true⟩ order t).resolutions.valueAt? c = none := rfl
  generalize new adapter ⟨multiple, true⟩ order t = r₀ at hs ho hp hi h₀ hl₀ hv ⊢
  constructor
  case unknown =>
    intro a i l hm
    constructor
    · rintro ⟨n, l', hr⟩
      exact hs.unknown ho hp hi hl₀ h₀ hm hr
    · intro hk
      exact ⟨a, l, hs.told_at_once ho hp hi hl₀ h₀ hm hk⟩
  case told_at_once => exact hs.told_at_once ho hp hi hl₀ h₀
  case never_asks => exact hs.never_asks ho hp hi
  case creatable_kept => exact hs.creatable_kept ho hp hi
  case enumerated => exact enumerated_since ho h₀
  case resolved => exact fun hm hr d hd => hs.resolved ho hp hi h₀ hv hm hr hd
  case one_name =>
    intro n l b b' hb hb'
    rw [resolvedBefore_iff hs ho hp hi h₀ hv] at hb hb'
    rw [hb] at hb'
    exact Option.some.inj hb'

/-- A list fails after it was told one backend, and the next one has it from the cache. Then a
session is created and removed, a list fails at once, and a reset makes the location unknown. -/
def discoveries : List Event :=
  [.start .list, .enumerated 0 (.ok [⟨"slot1"⟩, ⟨"slot2"⟩]), .resume ⟨0, 0⟩, .resume ⟨0, 1⟩,
    .resume ⟨0, 0⟩, .resume ⟨0, 1⟩, .resolved ⟨0, 0⟩ (.ok ⟨"vendor"⟩),
    .resolved ⟨0, 1⟩ (.error (.probe default)),
    .start .list, .enumerated 1 (.ok [⟨"slot1"⟩]), .resume ⟨1, 0⟩, .resume ⟨1, 0⟩,
    .start (.create ⟨"slot1"⟩), .resume ⟨2, 0⟩, .resume ⟨2, 0⟩, .resume ⟨2, 0⟩, .loaded 2 (.ok ()),
    .attached 2 (.ok ⟨7⟩) default, .start (.create ⟨"slot2"⟩),
    .start .list, .enumerated 4 (.error (.probe default)),
    .start (.remove ⟨1⟩), .resume ⟨5, 0⟩, .detached 5 (.ok ()), .reset,
    .start (.create ⟨"slot1"⟩)]

theorem discoveries_lawful :
    Sequential (unused .asPut .static ⟨false, true⟩ [] (some 0)) discoveries ∧
      DiscoveryLaw (unused .asPut .static ⟨false, true⟩ [] (some 0)) discoveries :=
  ⟨by decide, discovery_law _ _ _ _ discoveries (by decide)⟩

end Registry

end SlotBroker
