import Mathlib.Data.List.Nodup
import SlotBroker.Proofs.Registry.Calls
import SlotBroker.Proofs.Registry.Loads
import SlotBroker.Proofs.Registry.Shutdown

/-!
# One shutdown

`Phase` follows the one shutdown of a run: it drains, releases, and unloads one backend after
another. No create is at work any more once it has drained, so the backends that are loaded then
(`instances`) are all that there will ever be, and the cells that it takes out of the table hold
them all. What it has unloaded and what it has still to unload are at every moment those backends,
in the order of their cells.
-/

namespace SlotBroker

def Effect.unloads? : Effect → Option InstanceId
  | .unload _ b => some b
  | _ => none

/-- The backends that are unloaded among some effects, in order. -/
def unloadOrder (fx : List Effect) : List InstanceId := fx.filterMap Effect.unloads?

theorem unloadOrder_append (fx fx' : List Effect) :
    unloadOrder (fx ++ fx') = unloadOrder fx ++ unloadOrder fx' :=
  List.filterMap_append

theorem unloadOrder_eq_nil {fx : List Effect} (h : ∀ x ∈ fx, ¬ x.shuts) : unloadOrder fx = [] := by
  refine List.filterMap_eq_nil_iff.2 fun x hx => ?_
  cases x with
  | unload => exact absurd trivial (h _ hx)
  | _ => rfl

namespace BackendTable

variable {t : BackendTable} {cells rest : List Nat} {b : InstanceId}

/-- The next backend to be unloaded is the first of those in the cells. -/
theorem filterMap_of_nextLoaded (h : t.nextLoaded cells = some (b, rest)) :
    cells.filterMap (fun c => t.loads.valueAt? c) =
      b :: rest.filterMap fun c => t.loads.valueAt? c := by
  induction cells with
  | nil => cases h
  | cons c cs ih =>
    simp only [nextLoaded] at h
    split at h
    · rename_i i hi
      cases h
      simp only [List.filterMap_cons, hi]
    · rename_i hi
      simp only [List.filterMap_cons, hi]
      exact ih h

theorem filterMap_of_nextLoaded_none (h : t.nextLoaded cells = none) :
    cells.filterMap (fun c => t.loads.valueAt? c) = [] := by
  induction cells with
  | nil => rfl
  | cons c cs ih =>
    simp only [nextLoaded] at h
    split at h
    · cases h
    · rename_i hi
      simp only [List.filterMap_cons, hi]
      exact ih h

end BackendTable

namespace Registry

/-- The loaded backends in some cells. -/
def held (cells : List Nat) (r : Registry) : List InstanceId :=
  cells.filterMap fun c => r.backends.loads.valueAt? c

/-- The loaded backends, in the order of their cells. -/
def instances (r : Registry) : List InstanceId :=
  r.held (List.range r.backends.loads.cells.length)

/-- No create is at work and no session is live. -/
structure Vacant (r : Registry) : Prop where
  drained : Drained r
  sessions : r.sessions = []

/-- A registry that a shutdown has emptied. -/
structure Emptied (r : Registry) : Prop extends Vacant r where
  index : r.backends.loads.index = []

/-- How far the one shutdown of a run has come. -/
inductive Phase (id : CallId) (fx : List Effect) (r : Registry) : Prop
  | draining {l rest} (hs : r.stage? id = some (.draining l rest)) (hu : unloadOrder fx = [])
      (hi : r.backends.loads.Indexed)
  | releasing {oid l d rest errors} (hs : r.stage? id = some (.releasing oid l d rest errors))
      (hd : Drained r) (hu : unloadOrder fx = []) (hi : r.backends.loads.Indexed)
  | unloading {b cells errors} (hs : r.stage? id = some (.unloading b cells errors))
      (he : Emptied r) (hu : (unloadOrder fx ++ r.held cells).Perm r.instances)
  | done (hs : Over id r) (he : Emptied r) (hu : (unloadOrder fx).Perm r.instances)
  | dropped (hs : Over id r) (hn : ∀ o, .reply id o ∉ fx)

variable {r r' : Registry} {e : Event} {es : List Event} {fx fx₀ : List Effect} {id i : CallId}

/-! ## Creates are not at work any more -/

theorem Within.locking {l : Location} {s : CreateStage} (h : Drained r)
    (hs : r.stage? i = some (.creating l s)) : s = .locking := by
  refine Classical.byContradiction fun hn => ?_
  cases h.at_work hs hn

theorem Within.not_seeks {l : Location} {s : CreateStage} (h : Drained r)
    (hs : r.stage? i = some (.creating l s)) : ¬ s.seeks := by
  rw [h.locking hs]
  exact fun h => h

theorem Within.not_serves (h : Drained r) (ho : Orderly r) (hg : Segment r e r' fx) :
    Tends r fx r' ∧ ∀ x ∈ fx, ¬ x.serves := by
  cases hg.serves ho with
  | other ht _ _ hfx => exact ⟨ht, hfx⟩
  | starts hs | fetched hs | loaded hs => exact absurd trivial (h.not_seeks hs)

theorem Within.backends (h : Drained r) (ho : Orderly r) (hg : Segment r e r' fx) :
    r'.backends = r.backends ∨ Clears r fx ∧ r'.backends = r.backends.takeAll.1 := by
  cases (h.not_serves ho hg).1 with
  | same ht => exact .inl ht
  | joins hs hw | leaves hs hw => exact absurd hw (h.not_seeks hs)
  | takes hc ht => exact .inr ⟨hc, ht⟩

theorem Within.sessions (h : Drained r) (ho : Orderly r) (hg : Segment r e r' fx) :
    ∀ x ∈ r'.sessions, x ∈ r.sessions := by
  intro x hx
  cases hg.rosters ho with
  | same hs => exact hs ▸ hx
  | commits _ hs => cases h.locking hs
  | ends _ _ _ hs => exact (List.mem_filter.1 (hs ▸ hx)).1
  | clears _ hs => simp [hs] at hx

theorem Within.held (h : Drained r) (ho : Orderly r) (hg : Segment r e r' fx) (cells : List Nat) :
    r'.held cells = r.held cells ∧ r'.instances = r.instances := by
  rcases h.backends ho hg with hb | ⟨-, hb⟩
  · simp only [instances, Registry.held, hb, and_self]
  · simp only [instances, Registry.held, hb, BackendTable.takeAll, OnceMap.clear, OnceMap.valueAt?,
      and_self]

theorem Vacant.segment (h : Vacant r) (ho : Orderly r) (hg : Segment r e r' fx) : Vacant r' where
  drained := h.drained.segment hg
  sessions := by
    refine List.eq_nil_iff_forall_not_mem.2 fun x hx => ?_
    have hm := h.drained.sessions ho hg x hx
    rw [h.sessions] at hm
    cases hm

theorem Emptied.segment (h : Emptied r) (ho : Orderly r) (hg : Segment r e r' fx) : Emptied r' where
  toVacant := h.toVacant.segment ho hg
  index := by
    rcases h.drained.backends ho hg with hb | ⟨-, hb⟩
    · rw [hb, h.index]
    · rw [hb]
      rfl

/-! ## One backend after another -/

theorem held_of_nextLoaded {cells rest : List Nat} {b : InstanceId}
    (h : r.backends.nextLoaded cells = some (b, rest)) : r.held cells = b :: r.held rest :=
  BackendTable.filterMap_of_nextLoaded h

theorem held_of_nextLoaded_none {cells : List Nat} (h : r.backends.nextLoaded cells = none) :
    r.held cells = [] :=
  BackendTable.filterMap_of_nextLoaded_none h

theorem held_congr (h : r'.backends = r.backends) (cells : List Nat) :
    r'.held cells = r.held cells ∧ r'.instances = r.instances := by
  simp only [instances, held, h, and_self]

variable {errors : List BrokerError}

theorem Unloads.phase {cells : List Nat} (h : Unloads r id errors cells r' fx) (he : Emptied r')
    (hu : (unloadOrder fx₀ ++ r.held cells).Perm r.instances) (hid : id < r.nextCall) :
    Phase id (fx₀ ++ fx) r' := by
  have hb := held_congr h.frame.2.2.2.2.1
  cases h with
  | @next b rest hn =>
    refine .unloading (by simp; exact ⟨rfl, rfl, rfl⟩) he ?_
    rw [held_of_nextLoaded hn] at hu
    rw [(hb rest).1, (hb rest).2, unloadOrder_append, List.append_assoc]
    exact hu
  | ends hn =>
    refine .done ⟨hid, by simp⟩ he ?_
    rw [held_of_nextLoaded_none hn, List.append_nil] at hu
    rw [(hb []).2, unloadOrder_append]
    exact (List.append_nil _).symm ▸ hu

theorem Releases.phase {oids : List Oid} (h : Releases r id errors oids r' fx) (hd : Drained r')
    (hu : unloadOrder fx₀ = []) (hi : r.backends.loads.Indexed) (hid : id < r.nextCall) :
    Phase id (fx₀ ++ fx) r' := by
  cases h with
  | stands => exact .releasing (by simp; exact ⟨rfl, rfl, rfl, rfl, rfl⟩) hd (by simpa using hu) hi
  | unloads _ h =>
    have hb := h.frame.2.2.2.2.1
    refine h.phase ⟨⟨hd, h.frame.1⟩, by rw [hb]; rfl⟩ ?_ hid
    rw [hu, List.nil_append]
    exact (r.backends.takeAll_perm.trans hi).filterMap _

theorem Drains.phase {ls : List Location} (h : Drains r id ls r' fx) (hw : Within ls r')
    (hu : unloadOrder fx₀ = []) (hi : r.backends.loads.Indexed) (hid : id < r.nextCall) :
    Phase id (fx₀ ++ fx) r' := by
  cases h with
  | stands => exact .draining (by simp; exact ⟨rfl, rfl⟩) (by simpa using hu) hi
  | releases h => exact h.phase hw hu hi hid

/-! ## Every step -/

/-- Before there is a shutdown. -/
structure Before (fx : List Effect) (r : Registry) : Prop where
  none : ∀ {i s}, r.stage? i = some s → ¬ s.shuts
  unloads : unloadOrder fx = []
  indexed : r.backends.loads.Indexed

/-- The one shutdown of a run and how far it has come. -/
structure During (id : CallId) (fx : List Effect) (r : Registry) : Prop where
  alone : ∀ {i s}, r.stage? i = some s → s.shuts → i = id
  draining : Draining r
  phase : Phase id fx r

/-- The table keeps its cells in order as long as no shutdown comes to the backends. -/
theorem Segment.indexed (ho : Orderly r) (hg : Segment r e r' fx) (hfx : ∀ x ∈ fx, ¬ x.shuts)
    (hi : r.backends.loads.Indexed) : r'.backends.loads.Indexed := by
  cases hg.serves ho with
  | other ht =>
    cases ht with
    | same ht => rwa [ht]
    | joins _ _ ht =>
      rw [ht]
      exact hi.join _
    | leaves _ _ _ ht =>
      rw [ht]
      exact hi.modifyCell
    | takes hc => exact absurd hc (not_clears hfx)
  | starts | fetched => exact hi
  | loaded => exact hi.modifyCell

theorem Before.segment (h : Before fx₀ r) (ho : Orderly r) (hg : Segment r e r' fx)
    (he : e ≠ .start .shutdown) : Before (fx₀ ++ fx) r' := by
  have hnone {i : CallId} {s : Stage} (hi : r'.stage? i = some s) : ¬ s.shuts := by
    intro hs
    rcases hg.shutting ho hi hs with ⟨s₀, hi, hs⟩ | ⟨h, -⟩
    · exact h.none hi hs
    · exact he h
  cases hg.shuts ho with
  | other _ hfx =>
    refine ⟨hnone, ?_, hg.indexed ho hfx h.indexed⟩
    rw [unloadOrder_append, h.unloads, unloadOrder_eq_nil hfx]
    rfl
  | made h => exact absurd h he
  | drained hs => exact absurd trivial (h.none hs)
  | detaches hs => exact absurd trivial (h.none hs)
  | releases hs => exact absurd trivial (h.none hs)
  | unloaded hs => exact absurd trivial (h.none hs)
  | dropped hs ht => exact absurd ht (h.none hs)

theorem Before.made (h : Before fx₀ r) (ho : Orderly r) (hd : Draining r) :
    During r.nextCall (fx₀ ++ (r.step (.start .shutdown)).2) (r.step (.start .shutdown)).1 := by
  have hg := step_segment r (.start .shutdown)
  have hm : Drains { r with closed := true, nextCall := r.nextCall + 1 } r.nextCall
      r.drainOrder (r.step (.start .shutdown)).1 (r.step (.start .shutdown)).2 :=
    drainNext_drains _ _ _
  refine ⟨fun {i s} hi hs => ?_, hd.segment ho hg, ?_⟩
  · rcases hg.shutting ho hi hs with ⟨s₀, hi, hs⟩ | ⟨-, h⟩
    · exact absurd hs (h.none hi)
    · exact h
  · exact hm.phase (hm.within ho) h.unloads h.indexed (Nat.lt_succ_self _)

theorem Phase.draining_inv {l : Location} {rest : List Location} (h : Phase id fx r)
    (hs : r.stage? id = some (.draining l rest)) :
    unloadOrder fx = [] ∧ r.backends.loads.Indexed := by
  cases h with
  | draining _ hu hi => exact ⟨hu, hi⟩
  | releasing hs' | unloading hs' =>
    rw [hs] at hs'
    cases hs'
  | done ho | dropped ho =>
    rw [ho.stage?] at hs
    cases hs

theorem Phase.releasing_inv {oid : Oid} {l : Location} {d : Bool} {rest : List Oid}
    (h : Phase id fx r) (hs : r.stage? id = some (.releasing oid l d rest errors)) :
    Drained r ∧ unloadOrder fx = [] ∧ r.backends.loads.Indexed := by
  cases h with
  | releasing _ hd hu hi => exact ⟨hd, hu, hi⟩
  | draining hs' | unloading hs' =>
    rw [hs] at hs'
    cases hs'
  | done ho | dropped ho =>
    rw [ho.stage?] at hs
    cases hs

theorem Phase.unloading_inv {b : InstanceId} {cells : List Nat} (h : Phase id fx r)
    (hs : r.stage? id = some (.unloading b cells errors)) :
    Emptied r ∧ (unloadOrder fx ++ r.held cells).Perm r.instances := by
  cases h with
  | unloading hs' he hu =>
    rw [hs] at hs'
    cases hs'
    exact ⟨he, hu⟩
  | draining hs' | releasing hs' =>
    rw [hs] at hs'
    cases hs'
  | done ho | dropped ho =>
    rw [ho.stage?] at hs
    cases hs

/-- A step of another call leaves the shutdown in its phase. -/
theorem Phase.other (h : Phase id fx₀ r) (ho : Orderly r) (hg : Segment r e r' fx)
    (hs : ∀ i s, s.shuts → (r'.stage? i = some s ↔ r.stage? i = some s))
    (hfx : ∀ x ∈ fx, ¬ x.shuts) : Phase id (fx₀ ++ fx) r' := by
  have hu : unloadOrder (fx₀ ++ fx) = unloadOrder fx₀ := by
    rw [unloadOrder_append, unloadOrder_eq_nil hfx, List.append_nil]
  cases h with
  | draining h₀ hu₀ hi =>
    exact .draining ((hs _ _ (by trivial)).2 h₀) (hu.trans hu₀) (hg.indexed ho hfx hi)
  | releasing h₀ hd hu₀ hi =>
    exact .releasing ((hs _ _ (by trivial)).2 h₀) (hd.segment hg) (hu.trans hu₀)
      (hg.indexed ho hfx hi)
  | @unloading b cells errors h₀ he hu₀ =>
    obtain ⟨hh, hi⟩ := he.drained.held ho hg cells
    refine .unloading ((hs _ _ (by trivial)).2 h₀) (he.segment ho hg) ?_
    rw [hu, hh, hi]
    exact hu₀
  | done h₀ he hu₀ =>
    refine .done (hg.over h₀).1 (he.segment ho hg) ?_
    rw [hu, (he.drained.held ho hg []).2]
    exact hu₀
  | dropped h₀ hn =>
    obtain ⟨h₁, h₂⟩ := hg.over h₀
    refine .dropped h₁ fun o hx => ?_
    rcases List.mem_append.1 hx with hx | hx
    · exact hn o hx
    · exact h₂ o hx

theorem During.segment (h : During id fx₀ r) (ho : Orderly r) (hg : Segment r e r' fx)
    (he : e ≠ .start .shutdown) (hq : ∀ o, .reply id o ∈ fx₀ → Over id r) :
    During id (fx₀ ++ fx) r' := by
  refine ⟨fun {i s} hi hs => ?_, h.draining.segment ho hg, ?_⟩
  · rcases hg.shutting ho hi hs with ⟨s₀, hi, hs⟩ | ⟨h, -⟩
    · exact h.alone hi hs
    · exact absurd h he
  cases hg.shuts ho with
  | other hs hfx => exact h.phase.other ho hg hs hfx
  | made h => exact absurd h he
  | drained hs hh hd =>
    cases h.alone hs trivial
    obtain ⟨hu, hi⟩ := h.phase.draining_inv hs
    have hw := ((h.draining _ _ _ hs rfl).tail ho hs trivial hh).segment hg
    exact hd.phase hw hu hi (ho.fresh hs)
  | detaches hs hh =>
    cases h.alone hs trivial
    obtain ⟨hd, hu, hi⟩ := h.phase.releasing_inv hs
    refine .releasing (by simp; exact ⟨rfl, rfl, rfl, rfl, rfl⟩) (hd.segment hg) ?_ hi
    rw [unloadOrder_append, hu]
    rfl
  | releases hs hp hr =>
    cases h.alone hs trivial
    obtain ⟨hd, hu, hi⟩ := h.phase.releasing_inv hs
    refine hr.phase (hd.segment hg) hu ?_ ?_
    · cases hp <;> exact hi
    · cases hp <;> exact ho.fresh hs
  | unloaded hs hu =>
    cases h.alone hs trivial
    obtain ⟨he, hu₀⟩ := h.phase.unloading_inv hs
    exact hu.phase (he.segment ho hg) hu₀ (ho.fresh hs)
  | dropped hs ht _ hr =>
    cases h.alone hs ht
    refine .dropped ⟨Nat.lt_of_lt_of_le (ho.fresh hs) hg.nextCall_le, ?_⟩ fun o hx => ?_
    · rw [hr, if_pos rfl]
    · rw [List.append_nil] at hx
      rw [(hq o hx).stage?] at hs
      cases hs

end Registry

end SlotBroker
