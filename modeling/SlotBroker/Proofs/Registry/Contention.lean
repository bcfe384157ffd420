import SlotBroker.Proofs.Registry.Favour

/-!
# How contending requests fare

Requests for sessions come to a registry at rest, and are favoured (`Requests`). Every one of them
is under way, or has a session of its own, or was told of one that is live at its location, and the
sessions are those of before and those that were won (`Fanned`). This holds at every moment of the
run (`Requests.fanned`), as there are numbers enough for its attempts (`Requests.lasts`).
-/

namespace SlotBroker

namespace Registry

/-- What a call has returned among some effects. -/
def outcomes (i : CallId) (fx : List Effect) : List Outcome := fx.filterMap (Effect.returns? i)

/-- The sessions that creates have returned among some effects. -/
def winners (fx : List Effect) : List Session := fx.filterMap Effect.created?

/-- How the request with a number among others for sessions fares, for a location: its create is
under way, or has a session of its own, or was told of a live one. -/
inductive Fares (i : CallId) (l : Location) (fx : List Effect) (r : Registry) : Prop
  | pending {s} (hs : r.stage? i = some (.creating l s)) (ho : outcomes i fx = [])
  | won {a} (hs : r.stage? i = none) (hl : a.location = l)
      (ho : outcomes i fx = [.created (.ok a)])
  | lost {x} (hs : r.stage? i = none) (hx : x ∈ r.sessions) (hl : x.info.location = l)
      (ho : outcomes i fx = [.created (.error (.locationBusy l x.info.oid))])

/-- How requests for sessions have fared so far. -/
structure Fanned (r₀ : Registry) (ls : List Location) (fx : List Effect) (r : Registry) : Prop where
  counted : r.nextCall = r₀.nextCall + ls.length
  early : ∀ {i}, r.nextCall ≤ i → outcomes i fx = []
  pursued : ∀ {i l s}, r.stage? i = some (.creating l s) →
    ∃ k : Nat, i = r₀.nextCall + k ∧ ls[k]? = some l
  fares : ∀ {k : Nat} {l}, ls[k]? = some l → Fares (r₀.nextCall + k) l fx r
  won : ∀ a ∈ winners fx, ∃ k : Nat, ls[k]? = some a.location ∧
    outcomes (r₀.nextCall + k) fx = [.created (.ok a)]
  /-- The sessions are those of before and those of the winners. -/
  sessions : ∃ new : List LiveSession, new.map LiveSession.info = winners fx ∧
    r.sessions.Perm (r₀.sessions ++ new)

variable {r r' r₀ : Registry} {e : Event} {es : List Event} {fx fx' : List Effect}
  {i j : CallId} {k : Nat} {ls : List Location} {l : Location}

theorem outcomes_append : outcomes i (fx ++ fx') = outcomes i fx ++ outcomes i fx' :=
  List.filterMap_append

theorem winners_append : winners (fx ++ fx') = winners fx ++ winners fx' :=
  List.filterMap_append

theorem outcomes_eq_nil (h : ∀ o, .reply i o ∉ fx) : outcomes i fx = [] := returns?_eq_nil h

theorem outcomes_reply (o : Outcome) : outcomes j [.reply i o] = if i = j then [o] else [] := by
  by_cases h : i = j <;> simp [outcomes, Effect.returns?, h]

theorem winners_eq_nil (h : ∀ i o, .reply i o ∉ fx) : winners fx = [] := by
  refine List.eq_nil_iff_forall_not_mem.2 fun a ha => ?_
  obtain ⟨i, hi⟩ := mem_created ha
  exact h i _ hi

/-! ## Putting a new session among the others -/

theorem perm_insertSession {s : LiveSession} {xs : List LiveSession}
    (h : ∀ x ∈ xs, x.info.oid ≠ s.info.oid) : (insertSession s xs).Perm (s :: xs) := by
  induction xs with
  | nil => exact List.Perm.refl _
  | cons x xs ih =>
    obtain ⟨hx, hxs⟩ := List.forall_mem_cons.1 h
    simp only [insertSession]
    split
    · exact List.Perm.refl _
    · rw [if_neg (Ne.symm hx)]
      exact ((ih hxs).cons x).trans (List.Perm.swap s x xs)

/-- No live session has the oid that a create is attaching with. -/
theorem Numbered.fresh {a : Session} {b : InstanceId} (h : Numbered r)
    (hi : r.stage? i = some (.creating a.location (.attaching a.backend b a.oid))) :
    ∀ x ∈ r.sessions, x.info.oid ≠ a.oid := by
  intro x hx ho
  rw [← ho] at hi
  exact (h.live x hx).attached hi

/-! ## How the requests fare in a step -/

theorem fanned_start (r₀ : Registry) (h₀ : ∀ i, r₀.stage? i = none) : Fanned r₀ [] [] r₀ where
  counted := rfl
  early _ := rfl
  pursued hs := by
    rw [h₀] at hs
    cases hs
  fares hk := by cases hk
  won a ha := by cases ha
  sessions := ⟨[], rfl, by rw [List.append_nil]⟩

/-- A request that a step leaves alone fares as before. -/
theorem Fares.beside (h : Fares i l fx r) (hs : r'.stage? i = r.stage? i)
    (hx : ∀ x ∈ r.sessions, x ∈ r'.sessions) (ho : outcomes i fx' = []) :
    Fares i l (fx ++ fx') r' := by
  have hsame : outcomes i (fx ++ fx') = outcomes i fx := by
    rw [outcomes_append, ho, List.append_nil]
  cases h with
  | pending hs' ho' => exact .pending (hs.trans hs') (hsame.trans ho')
  | won hs' hl ho' => exact .won (hs.trans hs') hl (hsame.trans ho')
  | lost hs' hx' hl ho' => exact .lost (hs.trans hs') (hx _ hx') hl (hsame.trans ho')

theorem Fares.outcomes_of_creating {s : CreateStage} (h : Fares i l fx r)
    (hs : r.stage? i = some (.creating l s)) : outcomes i fx = [] := by
  cases h with
  | pending _ ho => exact ho
  | won hn | lost hn =>
    rw [hs] at hn
    cases hn

theorem Fanned.pending {s : CreateStage} (h : Fanned r₀ ls fx r)
    (hs : r.stage? i = some (.creating l s)) :
    ∃ k : Nat, i = r₀.nextCall + k ∧ ls[k]? = some l ∧ outcomes i fx = [] := by
  obtain ⟨k, rfl, hk⟩ := h.pursued hs
  exact ⟨k, rfl, hk, (h.fares hk).outcomes_of_creating hs⟩

theorem Fanned.lt (h : Fanned r₀ ls fx r) (hk : ls[k]? = some l) :
    r₀.nextCall + k < r.nextCall := by
  rw [h.counted]
  exact Nat.add_lt_add_left (List.getElem?_eq_some_iff.1 hk).1 _

/-- Another request is made. -/
theorem Fanned.made (h : Fanned r₀ ls fx r) (hx : r'.sessions = r.sessions)
    (hn : r'.nextCall = r.nextCall + 1)
    (hs : ∀ j, r'.stage? j = if r.nextCall = j then some (.creating l .locking) else r.stage? j) :
    Fanned r₀ (ls ++ [l]) fx r' where
  counted := by rw [hn, h.counted, List.length_append, Nat.add_assoc]; rfl
  early hi := by
    rw [hn] at hi
    exact h.early (Nat.le_of_succ_le hi)
  pursued {i l' s} hi := by
    rw [hs] at hi
    split at hi
    · rename_i hj
      cases hi
      exact ⟨ls.length, by rw [← hj, h.counted], by simp⟩
    · obtain ⟨k, rfl, hk⟩ := h.pursued hi
      exact ⟨k, rfl, by rw [List.getElem?_append_left (List.getElem?_eq_some_iff.1 hk).1, hk]⟩
  fares {k l'} hk := by
    rw [List.getElem?_append] at hk
    split at hk
    · have hlt := h.lt hk
      rw [← List.append_nil fx]
      exact (h.fares hk).beside (by rw [hs, if_neg (Nat.ne_of_gt hlt)]) (fun x => hx ▸ id) rfl
    · rename_i hlen
      have hk₀ : k = ls.length := by
        have hlt := (List.getElem?_eq_some_iff.1 hk).1
        rw [List.length_singleton] at hlt
        omega
      subst hk₀
      rw [Nat.sub_self] at hk
      cases hk
      rw [← h.counted]
      exact .pending (s := .locking) (by rw [hs, if_pos rfl]) (h.early (Nat.le_refl _))
  won a ha := by
    obtain ⟨k, hk, ho⟩ := h.won a ha
    exact ⟨k, by rw [List.getElem?_append_left (List.getElem?_eq_some_iff.1 hk).1, hk], ho⟩
  sessions := hx ▸ h.sessions

/-- A create goes on. -/
theorem Fanned.moves {s s' : CreateStage} (h : Fanned r₀ ls fx r)
    (hi : r.stage? i = some (.creating l s)) (hx : r'.sessions = r.sessions)
    (hn : r'.nextCall = r.nextCall) (hfx : ∀ j o, .reply j o ∉ fx')
    (hs : ∀ j, r'.stage? j = if i = j then some (.creating l s') else r.stage? j) :
    Fanned r₀ ls (fx ++ fx') r' where
  counted := hn.trans h.counted
  early hj := by rw [outcomes_append, h.early (hn ▸ hj), outcomes_eq_nil (hfx _)]; rfl
  pursued {j l' s₁} hj := by
    rw [hs] at hj
    split at hj
    · rename_i hij
      cases hj
      exact hij ▸ h.pursued hi
    · exact h.pursued hj
  fares {k l'} hk := by
    by_cases hik : i = r₀.nextCall + k
    · subst hik
      obtain ⟨k', hkk, hk', ho⟩ := h.pending hi
      obtain rfl := Nat.add_left_cancel hkk
      rw [hk] at hk'
      cases hk'
      refine .pending (s := s') (by rw [hs, if_pos rfl]) ?_
      rw [outcomes_append, ho, outcomes_eq_nil (hfx _)]
      rfl
    · exact (h.fares hk).beside (by rw [hs, if_neg hik]) (fun x => hx ▸ id)
        (outcomes_eq_nil (hfx _))
  won a ha := by
    rw [winners_append, winners_eq_nil hfx, List.append_nil] at ha
    obtain ⟨k, hk, ho⟩ := h.won a ha
    exact ⟨k, hk, by rw [outcomes_append, ho, outcomes_eq_nil (hfx _)]; rfl⟩
  sessions := by
    rw [winners_append, winners_eq_nil hfx, List.append_nil, hx]
    exact h.sessions

/-- A create returns: with a session of its own, or because it found one. -/
theorem Fanned.ends {s : CreateStage} {o : Outcome} (h : Fanned r₀ ls fx r)
    (hi : r.stage? i = some (.creating l s)) (hx : ∀ x ∈ r.sessions, x ∈ r'.sessions)
    (hn : r'.nextCall = r.nextCall) (hs : ∀ j, r'.stage? j = if i = j then none else r.stage? j)
    (hf : outcomes i (fx ++ [.reply i o]) = [o] → Fares i l (fx ++ [.reply i o]) r')
    (hw : ∀ a ∈ winners [.reply i o], o = .created (.ok a) ∧ a.location = l)
    (hss : ∃ new : List LiveSession, new.map LiveSession.info = winners (fx ++ [.reply i o]) ∧
      r'.sessions.Perm (r₀.sessions ++ new)) : Fanned r₀ ls (fx ++ [.reply i o]) r' := by
  -- The create is one of the requests, and this is the first that it returns.
  obtain ⟨k, rfl, hk, ho⟩ := h.pending hi
  have hone : outcomes (r₀.nextCall + k) (fx ++ [.reply (r₀.nextCall + k) o]) = [o] := by
    rw [outcomes_append, ho, outcomes_reply, if_pos rfl]
    rfl
  have other {j} (hj : r₀.nextCall + k ≠ j) :
      outcomes j [.reply (r₀.nextCall + k) o] = [] := by
    rw [outcomes_reply, if_neg hj]
  refine ⟨hn.trans h.counted, fun {j} hj => ?_, fun {j l' s'} hj => ?_, fun {k' l'} hk' => ?_,
    fun a ha => ?_, hss⟩
  · have hlt := h.lt hk
    rw [hn] at hj
    rw [outcomes_append, h.early hj, other (Nat.ne_of_lt (Nat.lt_of_lt_of_le hlt hj))]
    rfl
  · rw [hs] at hj
    split at hj
    · cases hj
    · exact h.pursued hj
  · by_cases hkk : k = k'
    · subst hkk
      rw [hk] at hk'
      cases hk'
      exact hf hone
    · have hne : r₀.nextCall + k ≠ r₀.nextCall + k' := fun h => hkk (Nat.add_left_cancel h)
      exact (h.fares hk').beside (by rw [hs, if_neg hne]) hx (other hne)
  · rw [winners_append] at ha
    rcases List.mem_append.1 ha with ha | ha
    · obtain ⟨k', hk', ho'⟩ := h.won a ha
      have hne : r₀.nextCall + k ≠ r₀.nextCall + k' := by
        intro heq
        rw [← heq, ho] at ho'
        cases ho'
      exact ⟨k', hk', by rw [outcomes_append, ho', other hne]; rfl⟩
    · obtain ⟨rfl, rfl⟩ := hw a ha
      exact ⟨k, hk, hone⟩

theorem Fanned.fans (h : Fanned r₀ ls fx r) (hs : Sound r) (hf : Fans r e r' fx') :
    Fanned r₀ (ls ++ e.request?.toList) (fx ++ fx') r' := by
  cases hf with
  | waits he hr hfx =>
    subst hr
    rw [he, hfx, Option.toList_none, List.append_nil, List.append_nil]
    exact h
  | made he hx hn hfx hst =>
    rw [he, hfx, List.append_nil]
    exact h.made hx hn hst
  | moves he hi _ hx hn hfx hst =>
    rw [he, Option.toList_none, List.append_nil]
    exact h.moves hi hx hn hfx hst
  | @busy i l x he hi hm hl hx hn hfx hst =>
    have hw : winners [.reply i (.created (.error (.locationBusy l x.info.oid)))] = [] := rfl
    rw [he, hfx, Option.toList_none, List.append_nil]
    refine h.ends hi (fun y => hx ▸ id) hn hst (fun ho => ?_) (by simp [hw]) ?_
    · exact .lost (by rw [hst, if_pos rfl]) (hx ▸ hm) hl ho
    · rw [winners_append, hw, List.append_nil, hx]
      exact h.sessions
  | @commits i a b he hi hx hn hfx hst =>
    have hw : winners [.reply i (.created (.ok a))] = [a] := rfl
    have hp := perm_insertSession (s := ⟨a, b⟩) (hs.numbered.fresh hi)
    rw [he, hfx, Option.toList_none, List.append_nil]
    refine h.ends hi (fun y hy => ?_) hn hst (fun ho => ?_) (by simp [hw]) ?_
    · rw [hx]
      exact hp.mem_iff.2 (List.mem_cons_of_mem _ hy)
    · exact .won (by rw [hst, if_pos rfl]) rfl ho
    · obtain ⟨new, hnew, hss⟩ := h.sessions
      refine ⟨new ++ [⟨a, b⟩], by rw [winners_append, List.map_append, hnew, hw]; rfl, ?_⟩
      rw [hx, ← List.append_assoc]
      exact hp.trans ((hss.cons _).trans (List.perm_append_singleton _ _).symm)

/-! ## How they fare in a run -/

/-- All that happens in a run is that sessions are requested for some locations, and the requests
are favoured. A name that is already known of one of the locations is of a backend that the table
can load. -/
structure Requests (r₀ : Registry) (es : List Event) (ls : List Location) : Prop where
  requested : es.filterMap Event.request? = ls
  favoured : ∀ e ∈ es, Favours r₀ ls e
  listed : r₀.policy.requireFreshListing = true → ∀ l ∈ ls, r₀.wasListed l = true
  cached : ∀ l ∈ ls, ∀ b, r₀.resolutions.get? l = some b →
    (r₀.backends.factoryFor? b).isSome = true

/-- A registry is open and nothing is in progress. -/
structure AtRest (r : Registry) : Prop where
  closed : r.closed = false
  calls : ∀ i, r.stage? i = none

theorem Requests.calm_start (h : Requests r₀ es ls) (h₀ : AtRest r₀) : Calm r₀ ls r₀ where
  closed := h₀.closed
  listed := rfl
  policy := rfl
  factories _ := rfl
  creating hs := by
    rw [h₀.calls] at hs
    cases hs
  waiting hp := by
    rw [part?_of_none (h₀.calls _)] at hp
    cases hp
  asking hp := by
    rw [part?_of_none (h₀.calls _)] at hp
    cases hp
  cached hl := h.cached _ hl _
  named hp := by
    rw [part?_of_none (h₀.calls _)] at hp
    cases hp

theorem Fans.nextCall (h : Fans r e r' fx) :
    r'.nextCall = r.nextCall + e.request?.toList.length := by
  cases h with
  | waits he h => rw [he, h]; rfl
  | made he _ hn => rw [he, hn]; rfl
  | moves he _ _ _ hn | busy he _ _ _ _ hn | commits he _ _ hn => rw [he, hn]; rfl

theorem request?_concat (es : List Event) (e : Event) :
    (es ++ [e]).filterMap Event.request? =
      es.filterMap Event.request? ++ e.request?.toList := by
  rw [List.filterMap_append]
  cases h : e.request? <;> simp [h]

/-- It stays calm for the whole run, and every call that is made is one of the requests. -/
theorem Calm.run (hc : Calm r₀ ls r₀) (ho : Orderly r₀) (hp : Placed r₀)
    (hl : ∀ l ∈ ls, r₀.policy.requireFreshListing = true → r₀.wasListed l = true)
    (he : ∀ e ∈ es, Favours r₀ ls e) : Calm r₀ ls (r₀.run es).1 ∧
      (r₀.run es).1.nextCall = r₀.nextCall + (es.filterMap Event.request?).length := by
  induction es using List.reverseRecOn with
  | nil => exact ⟨hc, rfl⟩
  | append_singleton es e ih =>
    obtain ⟨hes, hlast⟩ := List.forall_mem_append.1 he
    obtain ⟨hc', hn⟩ := ih hes
    have hfe := hlast e (List.mem_singleton_self e)
    rw [run_concat, request?_concat, List.length_append]
    refine ⟨hc'.step (ho.run es) (hp.run ho es) hfe hl, ?_⟩
    rw [(step_fans hc' hfe hl).1.nextCall, hn, Nat.add_assoc]

theorem Requests.calm (h : Requests r₀ es ls) (h₀ : AtRest r₀) (ho : Orderly r₀)
    (hp : Placed r₀) : Calm r₀ ls (r₀.run es).1 ∧
      (r₀.run es).1.nextCall = r₀.nextCall + ls.length := by
  have hr := (h.calm_start h₀).run ho hp (fun l hl hf => h.listed hf l hl) h.favoured
  rwa [h.requested] at hr

/-- There are not more attempts than requests. -/
theorem Requests.lasts (h : Requests r₀ es ls) (h₀ : AtRest r₀) (ho : Orderly r₀) (hp : Placed r₀)
    (hroom : r₀.nextOid.toNat + ls.length < UInt64.size) : Lasts r₀ es := by
  have hle := attempts_le_calls ho h₀.calls es
  rw [(h.calm h₀ ho hp).2, Nat.add_sub_cancel_left] at hle
  exact Nat.lt_of_le_of_lt (Nat.add_le_add_left hle _) hroom

theorem Calm.fanned (hc : Calm r₀ ls r₀) (h₀ : AtRest r₀) (hs : Sound r₀) (hp : Placed r₀)
    (hl : ∀ l ∈ ls, r₀.policy.requireFreshListing = true → r₀.wasListed l = true)
    (he : ∀ e ∈ es, Favours r₀ ls e) (hlast : Lasts r₀ es) :
    Fanned r₀ (es.filterMap Event.request?) (r₀.run es).2 (r₀.run es).1 := by
  induction es using List.reverseRecOn with
  | nil => exact fanned_start r₀ h₀.calls
  | append_singleton es e ih =>
    obtain ⟨hes, hlast'⟩ := List.forall_mem_append.1 he
    have hfe := hlast' e (List.mem_singleton_self e)
    obtain ⟨hles, -⟩ := Lasts.append hs hlast
    obtain ⟨hc', -⟩ := hc.run hs.order hp hl hes
    rw [run_concat, request?_concat]
    exact (ih hes hles).fans (hs.run hles) (step_fans hc' hfe hl).1

theorem Requests.fanned (h : Requests r₀ es ls) (h₀ : AtRest r₀) (hs : Sound r₀) (hp : Placed r₀)
    (hroom : r₀.nextOid.toNat + ls.length < UInt64.size) :
    Fanned r₀ ls (r₀.run es).2 (r₀.run es).1 := by
  have hf := (h.calm_start h₀).fanned h₀ hs hp (fun l hl hf => h.listed hf l hl) h.favoured
    (h.lasts h₀ hs.order hp hroom)
  rwa [h.requested] at hf

end Registry

end SlotBroker
