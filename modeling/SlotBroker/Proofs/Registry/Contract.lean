import Mathlib.Data.Set.Insert
import SlotBroker.Proofs.Registry.Holding
import SlotBroker.Proofs.Registry.Moments

/-!
# What the backends have attached

What the backends have attached is no part of a registry. It is told by a history beside a run, and
`Obeys` says that the history keeps to the contract of a backend: an attach or a detach does what
its answer says, and nothing is attached by an attach that fails or is given up, or detached by a
detach that fails. Backends that do no more and no less have such a history in every run
(`obeys_attachedAt`).
-/

namespace SlotBroker

namespace Registry

/-- What the backends have attached may change: an attach or a detach succeeds, a detach is given
up, or a backend is unloaded. -/
inductive Touches (r : Registry) : Event → Prop
  | attached {i l name b oid h now} (hs : r.stage? i = some (.creating l (.attaching name b oid))) :
      Touches r (.attached i (.ok h) now)
  | detached {i s o} (hs : r.stage? i = some s) (hf : s.frees? i = some o) :
      Touches r (.detached i (.ok ()))
  | dropped {i s o tending} (hs : r.stage? i = some s) (hf : s.frees? i = some o) :
      Touches r (.drop i tending)
  | unloaded {i b cells errors a} (hs : r.stage? i = some (.unloading b cells errors)) :
      Touches r (.unloaded i a)

/-- What the backends have attached before and after a step, as their contract has it. -/
structure Contract (r : Registry) (e : Event) (A A' : Set (InstanceId × Handle)) : Prop where
  attaches : ∀ {i l name b oid h now}, r.stage? i = some (.creating l (.attaching name b oid)) →
    e = .attached i (.ok h) now → A' = insert (b, h) A
  detaches : ∀ {i b h}, Asks r i b h → e = .detached i (.ok ()) → A' = A \ {(b, h)}
  /-- Nothing else does anything: no attach or detach that fails, and no attach that is given up. -/
  rests : ¬ Touches r e → A' = A

/-- The backends keep to their contract in a run. -/
def Obeys (r₀ : Registry) (es : List Event) (A : Nat → Set (InstanceId × Handle)) : Prop :=
  ∀ n e, es[n]? = some e → Contract (r₀.moment es n) e (A n) (A (n + 1))

/-- What backends have attached after a step that do what they say. -/
def attachedAfter (r : Registry) (A : Set (InstanceId × Handle)) :
    Event → Set (InstanceId × Handle)
  | .attached i (.ok h) _ =>
    match r.stage? i with
    | some (.creating _ (.attaching _ b _)) => insert (b, h) A
    | _ => A
  | .detached i (.ok ()) => {p ∈ A | ¬ Asks r i p.1 p.2}
  | _ => A

/-- What such backends have attached at the moments of a run that begins with nothing attached. -/
def attachedAt (r₀ : Registry) (es : List Event) : Nat → Set (InstanceId × Handle)
  | 0 => ∅
  | n + 1 =>
    match es[n]? with
    | some e => attachedAfter (r₀.moment es n) (attachedAt r₀ es n) e
    | none => attachedAt r₀ es n

variable {r : Registry} {i : CallId}

theorem Asks.unique {b b' : InstanceId} {h h' : Handle} (ha : Asks r i b h)
    (ha' : Asks r i b' h') : b = b' ∧ h = h' := by
  obtain ⟨s, o, p, hs, hf, hp, rfl, rfl⟩ := ha
  obtain ⟨s', o', p', hs', hf', hp', rfl, rfl⟩ := ha'
  obtain rfl := Option.some.inj (hs.symm.trans hs')
  obtain rfl := Option.some.inj (hf.symm.trans hf')
  obtain rfl := Option.some.inj (hp.symm.trans hp')
  exact ⟨rfl, rfl⟩

theorem contract_attachedAfter (r : Registry) (e : Event) (A : Set (InstanceId × Handle)) :
    Contract r e A (attachedAfter r A e) where
  attaches hs he := by
    subst he
    simp only [attachedAfter, hs]
  detaches {i b h} ha he := by
    subst he
    ext p
    simp only [attachedAfter, Set.mem_ofPred_eq, Set.mem_sdiff, Set.mem_singleton_iff]
    refine and_congr_right fun _ => not_congr ⟨fun hp => ?_, fun hp => hp ▸ ha⟩
    obtain ⟨hb, hh⟩ := hp.unique ha
    exact Prod.ext hb hh
  rests hn := by
    unfold attachedAfter
    split
    · split
      · rename_i hs
        exact absurd (.attached hs) hn
      · rfl
    · rename_i i
      refine Set.sep_eq_self_iff_mem_true.2 fun p _ hp => hn ?_
      obtain ⟨s, o, _, hs, hf, -⟩ := hp
      exact .detached hs hf
    · rfl

theorem obeys_attachedAt (r₀ : Registry) (es : List Event) : Obeys r₀ es (attachedAt r₀ es) := by
  intro n e he
  simp only [attachedAt, he]
  exact contract_attachedAfter _ _ _

end Registry

end SlotBroker
