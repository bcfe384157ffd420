import SlotBroker.Proofs.Message.Fidelity
import SlotBroker.Proofs.Registry.Listing
import SlotBroker.Proofs.Registry.Purpose
import SlotBroker.Proofs.Registry.Resolution

/-!
# What a registry holds was read from texts

The platform reads its locations and its backend names from texts, and the clock knows no leap
second (`Event.Sound`). Then the same is so of everything that the registry keeps of them, in its
sessions, its calls and its cells (`Contents`), and of everything that a call returns
(`Contents.tells`).
-/

namespace SlotBroker

/-- What comes from the platform and from callers was read from texts, and the time of a session is
no leap second. -/
def Event.Sound : Event → Prop
  | .start (.create l) => l.Parsed
  | .enumerated _ (.ok ls) => ∀ l ∈ ls, l.Parsed
  | .resolved _ (.ok b) => b.Given
  | .attached _ _ now => now.isLeapSecond = false
  | _ => True

/-- What a call returns can be told in messages. -/
def Outcome.Sound : Outcome → Prop
  | .listed (.ok m) => ∀ d ∈ m.entries, d.Sound
  | .created (.ok s) => s.Sound
  | _ => True

namespace Registry

/-- All locations and backend names that a registry holds were read from texts, and no session was
created in a leap second. -/
structure Contents (r : Registry) : Prop where
  session : ∀ x ∈ r.sessions, x.info.Sound
  listing : ∀ {i parts}, r.stage? i = some (.listing parts) →
    ∀ l ∈ parts.map Prod.fst, l.Parsed
  creating : ∀ {i l s}, r.stage? i = some (.creating l s) → l.Parsed
  named : ∀ {t l b}, r.part? t = some (l, .named b) → b.Given
  cell : ∀ {c b}, r.resolutions.valueAt? c = some b → b.Given

variable {r r' : Registry} {e : Event} {fx : List Effect} {i : CallId} {t : Ticket}
  {l : Location} {b : BackendName} {p : Part}

theorem contents_new (adapter : Adapter) (policy : Policy) (order : CallId → Arrangement Location)
    (t : BackendTable) :
    Contents (new adapter policy order t) where
  session x hx := by cases hx
  listing hi := by cases hi
  creating hi := by cases hi
  named hp := by cases hp
  cell hc := by cases hc

theorem Contents.sessionList (h : Contents r) : ∀ s ∈ r.sessionList, s.Sound := by
  intro s hs
  obtain ⟨x, hx, rfl⟩ := List.mem_map.1 hs
  exact h.session x hx

theorem Contents.moduleInfo {oid : Oid} {i : ModuleInfo} (h : Contents r)
    (hi : r.moduleInfo oid = .ok i) : i.session.Sound := by
  rw [Registry.moduleInfo, getSession] at hi
  cases hf : r.find? oid with
  | none =>
    rw [hf] at hi
    cases hi
  | some x =>
    rw [hf] at hi
    cases hi
    exact h.session x (List.mem_of_find?_eq_some hf)

theorem Contents.asked (h : Contents r) (hp : r.part? t = some (l, p)) : l.Parsed := by
  rw [part?] at hp
  obtain ⟨s, hs, hp⟩ := Option.bind_eq_some_iff.1 hp
  cases s with
  | listing parts =>
    have hm : (l, p) ∈ parts := List.mem_of_getElem? hp
    exact h.listing hs l (List.mem_map_of_mem (f := Prod.fst) hm)
  | creating l' s =>
    rw [Stage.part?] at hp
    split at hp
    · obtain ⟨_, -, hp⟩ := Option.map_eq_some_iff.1 hp
      cases hp
      exact h.creating hs
    · cases hp
  | _ => cases hp

theorem Contents.learns (h : Contents r) (he : e.Sound) (hl : Learns t l b r e) :
    l.Parsed ∧ b.Given := by
  obtain ⟨p, hp, -, -⟩ := hl.names
  refine ⟨h.asked hp, ?_⟩
  cases hl with
  | before hp => exact h.named hp
  | reads _ ht => exact h.cell (OnceMap.turn_ready_iff.1 ht)
  | told hs =>
    obtain ⟨-, u, rfl, -⟩ := hs
    exact he

theorem Contents.rosters (h : Contents r) (he : e.Sound) (hr : Rosters r e fx r') :
    ∀ x ∈ r'.sessions, x.info.Sound := by
  intro x hx
  cases hr with
  | same hs => exact h.session x (hs ▸ hx)
  | @commits id l name b oid hd now hev hs _ _ _ hss =>
    rw [hss] at hx
    rcases mem_insertSession hx with rfl | hx
    · subst hev
      have hp : r.part? ⟨id, 0⟩ = some (l, .named name) := part?_of_creating hs
      exact ⟨h.creating hs, h.named hp, he⟩
    · exact h.session x hx
  | ends _ _ _ hss =>
    rw [hss] at hx
    exact h.session x (List.mem_of_mem_filter hx)
  | clears _ hss =>
    rw [hss] at hx
    cases hx

/-- A step keeps what was read from texts. -/
theorem Contents.step (h : Contents r) (ho : Orderly r) (hp : Placed r) (he : e.Sound) :
    Contents (r.step e).1 where
  session := h.rosters he ((step_segment r e).rosters ho)
  listing {i parts} hi := by
    rcases (step_segment r e).lists hi with ⟨rfl, -⟩ | ⟨parts', hs, heq⟩
    · exact he
    · rw [← heq]
      exact h.listing hs
  creating {i l s} hi := by
    have hpur := (step_segment r e).purpose hi
    rw [show Stage.call? (.creating l s) = some (.create l) from rfl] at hpur
    generalize hc : some (Call.create l) = c at hpur
    cases hpur with
    | same hs =>
      obtain ⟨s', rfl⟩ := Stage.creating_of_call? hc.symm
      exact h.creating hs
    | made hm =>
      cases hc
      obtain ⟨rfl, -⟩ := hm
      exact he
    | background => cases hc
  named {t l b} hq := by
    cases (step_resolves ho e).comes hq with
    | same hq => exact h.named hq
    | learns hl => exact (h.learns he hl).2
  cell {c b} hc := by
    rcases (step_resolves ho e).valueAt?_or hp hc with hc | ⟨t, l, -, hs⟩
    · exact h.cell hc
    · exact (h.learns he (.told hs)).2

/-- What a call returns was read from texts too. -/
theorem Contents.tells {o : Outcome} (h : Contents r) (ho : Orderly r) (he : e.Sound)
    (hx : .reply i o ∈ (r.step e).2) : o.Sound := by
  have hg := step_segment r e
  cases o with
  | listed a =>
    cases a with
    | error => trivial
    | ok m =>
      intro d hd
      obtain ⟨k, hk⟩ := List.mem_iff_getElem?.1 hd
      obtain ⟨hl, hb⟩ := h.learns he (hg.lists_learned hx hk)
      exact ⟨hl, hb⟩
  | created a =>
    cases a with
    | error => trivial
    | ok s =>
      obtain ⟨b, -, hss, -, -⟩ := hg.commits hx
      -- The session is among those that are live after the step.
      refine h.rosters he (hg.rosters ho) ⟨s, b⟩ ?_
      rw [hss]
      exact mem_insertSession_self ⟨s, b⟩ r.sessions
  | _ => trivial

end Registry

end SlotBroker
