import SlotBroker.Proofs.Platform.Probe
import SlotBroker.Proofs.Registry.Discovery
import SlotBroker.Rpc.Service

/-!
# What the probe is asked

The argument of a run says what the probe is asked: the word `list`, or the key of a location. A key
is any text without white space, so one of them is that word itself, and nothing keeps it out: a
probe may list it, and a caller may name it (`askable_iff`). The two requests are then one run, and
the locations that were listed are read as the name of a backend (`backend_listLocation`). No other
requests share an argument (`argument_eq_iff`), and no run of a registry asks for a location that
was neither listed nor, where that is allowed, named by a caller (`inquires_about`).
-/

namespace SlotBroker

namespace Probe

/-- The word that asks for all locations, taken as the key of one. -/
def listLocation : Location := ⟨listArgument⟩

/-- A location that the probe may come to be asked about: a probe has listed it, or callers may name
locations that were not listed, and one has named it. -/
def Askable (policy : Policy) (l : Location) : Prop :=
  (∃ (p : Probe) (e : Execution) (keys : List Location), p.locations e = .ok keys ∧ l ∈ keys) ∨
    policy.requireFreshListing = false ∧
      ∃ id r m, Service.handle id r (.create m) = .call (.create l)

variable {p : Probe} {e : Execution} {keys : List Location} {l : Location} {policy : Policy}

/-! ## Locations that the probe may be asked about -/

/-- A probe that prints a key lists it. -/
theorem locations_of_wellFormed (p : Probe) (h : l.WellFormed) :
    p.locations (.ended (.code 0) (Text.toBytes l.text) []) = .ok [l] := by
  rw [locations_of_text (Text.ofBytes?_eq_some_iff.2 rfl), locationsIn_eq_ok_iff,
    Text.contents_of_not_blank h.1 h.2]
  exact ⟨rfl, by simpa using h, List.nodup_singleton l⟩

theorem parse_of_handled {id : Identity} {r : Registry} {m : Message.Create}
    (h : Service.handle id r (.create m) = .call (.create l)) :
    Location.parse m.location = .ok l := by
  simp only [Service.handle] at h
  split at h
  · rename_i hl
    cases h
    exact hl
  · cases h

theorem askable_iff : Askable policy l ↔ l.WellFormed := by
  constructor
  · rintro (⟨p, e, keys, h, hl⟩ | ⟨-, id, r, m, h⟩)
    · exact wellFormed_of_locations h l hl
    · exact (Location.parse_eq_ok_iff.1 (parse_of_handled h)).2
  · intro h
    exact .inl ⟨default, _, [l], locations_of_wellFormed default h, List.mem_singleton_self l⟩

/-! ## Arguments -/

theorem argument_eq_iff {q q' : Request} :
    argument q = argument q' ↔ q = q' ∨ q = .enumerate ∧ q' = .resolve listLocation ∨
      q = .resolve listLocation ∧ q' = .enumerate := by
  have hl (l : Location) : l.text = listArgument ↔ l = listLocation := by
    obtain ⟨t⟩ := l
    simp [listLocation]
  rcases q with _ | ⟨l⟩ <;> rcases q' with _ | ⟨l'⟩
  · simp
  · simpa [argument, eq_comm] using hl l'
  · simpa [argument] using hl l
  · obtain ⟨t⟩ := l
    obtain ⟨t'⟩ := l'
    simp [argument]

theorem output_listLocation (p : Probe) (e : Execution) :
    p.output (.resolve listLocation) e = p.output .enumerate e := by
  cases e <;> rfl

/-- What is read as the backend of `listLocation` is the first of the locations listed. -/
theorem backend_listLocation (h : p.locations e = .ok (l :: keys)) :
    p.backend listLocation e = .ok ⟨l.text⟩ := by
  unfold locations at h
  rw [backend, output_listLocation]
  split at h
  · cases h
  · rename_i text ht
    split at h
    · rename_i hr
      cases h
      have hk := (readLocations_eq_ok_iff.1 hr).1
      rcases hc : contentLines text with _ | ⟨line, ls⟩
      · simp [hc] at hk
      · simp only [hc, List.map_cons, List.cons.injEq] at hk
        simp only [BackendName.ofText, Text.trimmed, String.toList_ofList, ← hk.1,
          String.ofList_toList]
    · cases h

end Probe

namespace Registry

variable {r r₀ : Registry} {e : Event} {es : List Event} {t : Ticket} {l : Location} {k n : Nat}

/-- A question that the platform is asked is one of a list or that of a create. -/
theorem Inquires.part (ho : Orderly r) (h : Inquires t l r e) :
    (∃ parts, r.stage? t.call = some (.listing parts) ∧ l ∈ parts.map Prod.fst) ∨
      ∃ cell, r.stage? t.call = some (.creating l (.resolving cell)) := by
  unfold Inquires at h
  cases step_resolves ho e with
  | @asks t' l' cell hp _ _ _ _ hfx =>
    rw [hfx, List.mem_singleton] at h
    cases h
    obtain ⟨s, hs, hp⟩ := Option.bind_eq_some_iff.1 hp
    cases s with
    | listing parts =>
      exact .inl ⟨parts, hs, List.mem_map_of_mem (f := Prod.fst) (List.mem_of_getElem? hp)⟩
    | creating l' s =>
      rw [Stage.part?] at hp
      split at hp
      · cases s <;> cases hp
        exact .inr ⟨_, hs⟩
      · cases hp
    | _ => cases hp
  | joins _ _ _ _ hfx =>
    rw [hfx] at h
    cases h
  | other _ _ hfx | reads _ _ _ _ _ hfx | fills _ _ _ _ _ hfx | leaves _ _ _ hfx
  | forgets _ _ _ hfx => exact absurd h (hfx t l)

theorem inquires_about (ho : Orderly r₀) (h₀ : ∀ i, r₀.stage? i = none) (hl : r₀.listed = none)
    (h : HappensAt (Inquires t l) r₀ es n) :
    (∃ k ≤ n, ∃ i ls, HappensAt (Enumerates i ls) r₀ es k ∧ l ∈ ls) ∨
      r₀.policy.requireFreshListing = false ∧
        ∃ k < n, ∃ i, HappensAt (Makes (.create l) i) r₀ es k := by
  obtain ⟨e, he, hi⟩ := h
  rcases hi.part (ho.moment es n) with ⟨parts, hs, hm⟩ | ⟨cell, hs⟩
  · obtain ⟨k, hk, hen⟩ := Finds.enumerated h₀ he (.inr ⟨parts, hs, rfl⟩)
    exact .inl ⟨k, hk, t.call, _, hen, hm⟩
  · obtain ⟨k, hkn, ⟨-, -, hlock, -⟩, -⟩ := works_entered h₀ ⟨_, hs, CreateStage.noConfusion⟩
    obtain ⟨j, hj, hmade, hlisted⟩ := locking_made h₀ hlock
    rw [moment, policy_run] at hlisted
    cases hp : r₀.policy.requireFreshListing with
    | false => exact .inr ⟨rfl, j, Nat.lt_trans hj hkn, t.call, hmade⟩
    | true =>
      obtain ⟨i, m, a, b, hfound, -, hm⟩ := (known_iff ho h₀ hl).2 (hlisted hp)
      have hbefore : a ≤ n := by
        have := hfound.le
        have := hfound.lt
        omega
      exact .inl ⟨a, hbefore, i, _, hfound.enumerated, hm⟩

end Registry

namespace Probe

open Registry

/-- How far the argument of a run of the probe tells what it is asked. A location is asked about
only if it was listed or named, and the probe can tell it from all others, and from the request for
all locations unless it is `listLocation`. -/
structure ToldApart (policy : Policy) : Prop where
  argument_eq : ∀ q q' : Request, argument q = argument q' ↔
    q = q' ∨ q = .enumerate ∧ q' = .resolve listLocation ∨
      q = .resolve listLocation ∧ q' = .enumerate
  askable : ∀ l, Askable policy l ↔ l.WellFormed
  apart : ∀ l, Askable policy l → l ≠ listLocation → argument (.resolve l) ≠ argument .enumerate
  inquired : ∀ {adapter order table es n t l},
    HappensAt (Inquires t l) (.new adapter policy order table) es n →
      (∃ k ≤ n, ∃ i ls,
          HappensAt (Enumerates i ls) (.new adapter policy order table) es k ∧ l ∈ ls) ∨
        policy.requireFreshListing = false ∧
          ∃ k < n, ∃ i, HappensAt (Makes (.create l) i) (.new adapter policy order table) es k
  /-- Whatever program the probe is, its list is read back as the backend of `listLocation`. -/
  read_back : ∀ (p : Probe) (answer : String → Execution) l keys,
    p.locations (answer (argument .enumerate)) = .ok (l :: keys) →
      p.backend listLocation (answer (argument (.resolve listLocation))) = .ok ⟨l.text⟩

theorem requests_told_apart (policy : Policy) : ToldApart policy where
  argument_eq _ _ := argument_eq_iff
  askable _ := askable_iff
  apart l _ hl h := by
    rcases argument_eq_iff.1 h with h | ⟨h, -⟩ | ⟨h, -⟩
    · cases h
    · cases h
    · exact hl (Request.resolve.inj h)
  inquired {adapter order table _ _ _ _} h :=
    inquires_about (orderly_new adapter policy order table)
      (stage?_new adapter policy order table) rfl h
  read_back _ _ _ _ h := backend_listLocation h

/-- A probe that lists a slot called `list` before another one. -/
def listSlot : Execution := .ended (.code 0) (Text.toBytes "list\n1\n") []

theorem locations_listSlot (p : Probe) : p.locations listSlot = .ok [listLocation, ⟨"1"⟩] := by
  rw [listSlot, locations_of_text (Text.ofBytes?_eq_some_iff.2 rfl)]
  rfl

/-- The slot called `list` is listed, and asking for its backend lists the slots again: the name
that is read is that of a slot. -/
theorem listLocation_confused :
    (default : Probe).locations listSlot = .ok [listLocation, ⟨"1"⟩] ∧
      argument (.resolve listLocation) = argument .enumerate ∧
      (default : Probe).backend listLocation listSlot = .ok ⟨"list"⟩ ∧
      ¬ ∀ l, Askable .strict l → argument (.resolve l) ≠ argument .enumerate :=
  ⟨locations_listSlot default, rfl, backend_listLocation (locations_listSlot default),
    fun h => h listLocation (.inl ⟨default, listSlot, _, locations_listSlot default,
      List.mem_cons_self⟩) rfl⟩

end Probe

end SlotBroker
