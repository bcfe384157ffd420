import SlotBroker.Proofs.Registry.Ending

/-!
# What calls tell

What a removal returns is settled by where it stood (`Segment.removes`), and that it stood there is
settled by how it was made (`Removes.made`). What a create returns is the session that it commits,
and `Told` goes through the effects of a run: every session that is live was returned by a create,
under the oid that this create attached with.
-/

namespace SlotBroker

/-- The session that a create returns. -/
def Effect.created? : Effect → Option Session
  | .reply _ (.created (.ok s)) => some s
  | _ => none

namespace Registry

/-- How a removal returns: it finds no session, or it has detached it, or has failed to. -/
inductive Removes (r : Registry) (e : Event) (i : CallId) (oid : Oid) :
    Except BrokerError Unit → Prop
  | refused (he : e = .start (.remove oid)) (hi : i = r.nextCall) :
      Removes r e i oid (.error (.unknownOid oid))
  | absent {l} (hs : r.stage? i = some (.removing oid l false)) :
      Removes r e i oid (.error (.unknownOid oid))
  | removed {l} (hs : r.stage? i = some (.removing oid l true)) (he : e = .detached i (.ok ())) :
      Removes r e i oid (.ok ())
  | failed {l x} (hs : r.stage? i = some (.removing oid l true))
      (he : e = .detached i (.error x)) : Removes r e i oid (.error (.backend x))

variable {r r' : Registry} {e : Event} {es : List Event} {fx : List Effect} {id i j : CallId}
  {oid : Oid} {l : Location} {s : Stage} {x : LiveSession}

/-! ## What removals tell -/

theorem Segment.removes {a : Except BrokerError Unit} (hg : Segment r e r' fx)
    (hx : .reply i (.removed a) ∈ fx) : ∃ oid, Removes r e i oid a := by
  cases hg with
  | refused h =>
    cases h with
    | gone =>
      simp only [List.mem_singleton, Effect.reply.injEq, Outcome.removed.injEq] at hx
      obtain ⟨rfl, rfl⟩ := hx
      exact ⟨_, .refused rfl rfl⟩
    | _ => simp at hx
  | removeGone hs =>
    simp only [List.mem_singleton, Effect.reply.injEq, Outcome.removed.injEq] at hx
    obtain ⟨rfl, rfl⟩ := hx
    exact ⟨_, .absent hs⟩
  | removed hs =>
    simp only [List.mem_singleton, Effect.reply.injEq, Outcome.removed.injEq] at hx
    obtain ⟨rfl, rfl⟩ := hx
    exact ⟨_, .removed hs rfl⟩
  | removeFailed hs =>
    simp only [List.mem_singleton, Effect.reply.injEq, Outcome.removed.injEq] at hx
    obtain ⟨rfl, rfl⟩ := hx
    exact ⟨_, .failed hs rfl⟩
  | enumerated _ h | partReady _ _ _ h | partResolved _ _ h => exact (h.wide hx).elim
  | unloaded _ h | unloadFailed _ h => exact (h.wide hx).elim
  | shutdownMade h | drained _ _ h | releaseGone _ _ _ h | released _ h | releaseFailed _ h =>
    exact (h.wide hx).elim
  | _ => simp at hx

/-- A call comes to remove a session only when it is made, and does not come back from its
detach. -/
theorem Segment.removing {d : Bool} (hg : Segment r e r' fx)
    (hi : r'.stage? i = some (.removing oid l d)) :
    (∃ d', r.stage? i = some (.removing oid l d') ∧ (d' = true → d = true)) ∨
      e = .start (.remove oid) ∧ i = r.nextCall := by
  cases hg with
  | shutdownMade h =>
    exact .inl ⟨d, stage?_aside hi (fun hs => by cases h.undrained hs) h.stage? rfl, id⟩
  | drained _ _ h =>
    exact .inl ⟨d, stage?_aside hi (fun hs => by cases h.undrained hs) h.stage? rfl, id⟩
  | releaseGone _ _ _ h | released _ h | releaseFailed _ h =>
    exact .inl ⟨d, stage?_aside hi (fun hs => by cases h.undrained hs) h.stage? rfl, id⟩
  | unloaded _ h | unloadFailed _ h =>
    refine .inl ⟨d, stage?_aside hi (fun hs => ?_) h.stage? rfl, id⟩
    obtain ⟨_, _, hs⟩ := h.stage?_self hs
    cases hs
  | enumerated _ h | partReady _ _ _ h | partResolved _ _ h =>
    refine .inl ⟨d, stage?_aside hi (fun hs => ?_) h.stage? rfl, id⟩
    obtain ⟨_, hs⟩ := h.stage?_self hs
    cases hs
  | idle | reset | refused => exact .inl ⟨d, hi, id⟩
  | _ =>
    simp at hi
    grind

theorem made_of_removing {r₀ : Registry} {d : Bool} (h₀ : ∀ i, r₀.stage? i = none)
    (hi : (r₀.run es).1.stage? i = some (.removing oid l d)) : Made r₀ es i (.remove oid) := by
  induction es using List.reverseRecOn generalizing d with
  | nil => simp [h₀] at hi
  | append_singleton es e ih =>
    rw [run_concat] at hi
    rcases (step_segment (r₀.run es).1 e).removing hi with ⟨d, hi, -⟩ | ⟨rfl, rfl⟩
    · exact (ih hi).append [e]
    · exact made_start r₀ es _

theorem Removes.made {r₀ : Registry} {a : Except BrokerError Unit} (h₀ : ∀ i, r₀.stage? i = none)
    (h : Removes (r₀.run es).1 e i oid a) : Made r₀ (es ++ [e]) i (.remove oid) := by
  cases h with
  | refused he hi =>
    subst he hi
    exact made_start r₀ es _
  | absent hs | removed hs | failed hs => exact (made_of_removing h₀ hs).append [e]

theorem Removes.ending (h : Removes r e i oid (.ok ())) :
    r.ending? e = some oid ∧ e = .detached i (.ok ()) := by
  cases h with
  | removed hs he => exact ⟨by simp [he, ending?, hs, Stage.detaches?], he⟩

/-- Once a call has detached a session, whoever still is to remove it finds it gone. -/
theorem Removes.gone {a : Except BrokerError Unit} (h : Removes r e i oid a)
    (hd : Detached oid r) : a = .error (.unknownOid oid) := by
  cases h with
  | refused | absent => rfl
  | removed hs | failed hs => exact absurd rfl (hd.alone hs)

/-- While a removal is at its detach it does not stand in the line again. -/
theorem detaching_run (hi : i < r.nextCall) (hs : ∀ l, r.stage? i ≠ some (.removing oid l false))
    (es : List Event) : ∀ l, (r.run es).1.stage? i ≠ some (.removing oid l false) := by
  refine (run_induction (P := fun r => i < r.nextCall ∧
    ∀ l, r.stage? i ≠ some (.removing oid l false)) ⟨hi, hs⟩ (fun ⟨hi, hs⟩ hg => ?_) es).2
  refine ⟨Nat.lt_of_lt_of_le hi hg.nextCall_le, fun l hl => ?_⟩
  rcases hg.removing hl with ⟨d, hd, himp⟩ | ⟨-, rfl⟩
  · cases d with
    | false => exact hs l hd
    | true => cases himp rfl
  · exact Nat.lt_irrefl _ hi

/-- A removal that waits does not come to detach a session that is dead. -/
theorem Dead.waits (hd : Dead oid r) (hg : Segment r e r' fx)
    (hs : ∀ l, r.stage? i ≠ some (.removing oid l true)) :
    ∀ l, r'.stage? i ≠ some (.removing oid l true) := by
  intro l hl
  cases hg.aims hl rfl with
  | same h => exact hs l h
  | found _ _ _ hn => cases hn
  | turns _ _ _ hf =>
    rw [hd.gone] at hf
    cases hf

theorem Dead.waits_run (hd : Dead oid r) (h : Sound r) (hl : Lasts r es)
    (hs : ∀ l, r.stage? i ≠ some (.removing oid l true)) :
    ∀ l, (r.run es).1.stage? i ≠ some (.removing oid l true) :=
  (h.run_induction (P := fun r => Dead oid r ∧ ∀ l, r.stage? i ≠ some (.removing oid l true))
    (fun ⟨hd, hs⟩ ho hr hg => ⟨hd.segment ho hr hg, hd.waits hg hs⟩) hl ⟨hd, hs⟩).2

/-- A removal that no session is left for finds it gone if it waits for its turn. -/
theorem Removes.swept {a : Except BrokerError Unit} (h : Removes r e i oid a)
    (hs : ∀ l, r.stage? i ≠ some (.removing oid l true)) : a = .error (.unknownOid oid) := by
  cases h with
  | refused | absent => rfl
  | removed h | failed h => exact absurd h (hs _)

/-- A removal that is at its detach returns what the backend answers. -/
theorem Removes.answered {a : Except BrokerError Unit} (h : Removes r e i oid a)
    (hi : i < r.nextCall) (hs : ∀ l, r.stage? i ≠ some (.removing oid l false)) :
    ∃ x, e = .detached i x ∧ a = x.mapError .backend := by
  cases h with
  | refused _ hi' => exact absurd hi (hi' ▸ Nat.lt_irrefl _)
  | absent h => exact absurd h (hs _)
  | removed _ he => exact ⟨_, he, rfl⟩
  | failed _ he => exact ⟨_, he, rfl⟩

/-! ## What creates tell -/

theorem Segment.commits {a : Session} (hg : Segment r e r' fx)
    (hx : .reply i (.created (.ok a)) ∈ fx) : ∃ b,
      r.stage? i = some (.creating a.location (.attaching a.backend b a.oid)) ∧
        r'.sessions = insertSession ⟨a, b⟩ r.sessions ∧ r'.stage? i = none ∧
        fx = [.reply i (.created (.ok a))] := by
  cases hg with
  | committed hs =>
    simp only [List.mem_singleton, Effect.reply.injEq, Outcome.created.injEq,
      Except.ok.injEq] at hx
    obtain ⟨rfl, rfl⟩ := hx
    exact ⟨_, hs, rfl, by simp, rfl⟩
  | refused h => cases h <;> simp at hx
  | enumerated _ h | partReady _ _ _ h | partResolved _ _ h => exact (h.wide hx).elim
  | unloaded _ h | unloadFailed _ h => exact (h.wide hx).elim
  | shutdownMade h | drained _ _ h | releaseGone _ _ _ h | released _ h | releaseFailed _ h =>
    exact (h.wide hx).elim
  | _ => simp at hx

theorem mem_created {a : Session} (h : a ∈ fx.filterMap Effect.created?) :
    ∃ i, .reply i (.created (.ok a)) ∈ fx := by
  obtain ⟨x, hx, ha⟩ := List.mem_filterMap.1 h
  unfold Effect.created? at ha
  split at ha
  · cases ha
    exact ⟨_, hx⟩
  · cases ha

theorem mem_insertSession_self (x : LiveSession) (xs : List LiveSession) :
    x ∈ insertSession x xs := by
  induction xs with
  | nil => exact List.mem_singleton_self x
  | cons y ys ih =>
    simp only [insertSession]
    split
    · exact List.mem_cons_self
    · split
      · exact List.mem_cons_self
      · exact List.mem_cons_of_mem _ ih

/-- What the effects of a run tell of its creates and sessions. -/
structure Told (fx : List Effect) (r : Registry) : Prop where
  attaching : ∀ {i l name b oid}, r.stage? i = some (.creating l (.attaching name b oid)) →
    .attach i oid b l ∈ fx
  issued : ∀ {i oid b l}, .attach i oid b l ∈ fx → Issued oid r
  attached : ∀ {i j oid b b' l l'}, .attach i oid b l ∈ fx → .attach j oid b' l' ∈ fx → i = j
  created : ∀ {i a}, .reply i (.created (.ok a)) ∈ fx →
    Spent a.oid r ∧ ∃ b, .attach i a.oid b a.location ∈ fx
  distinct : ((fx.filterMap Effect.created?).map Session.oid).Nodup
  live : ∀ x ∈ r.sessions, ∃ i, .reply i (.created (.ok x.info)) ∈ fx

theorem Tries.attach {b : InstanceId} (h : Tries r fx r') (hx : .attach i oid b l ∈ fx) :
    oid = ⟨r.nextOid⟩ ∧ fx = [.attach i oid b l] ∧
      ∃ name, r'.stage? i = some (.creating l (.attaching name b oid)) := by
  cases h with
  | none _ hfx =>
    have hn : some oid = Option.none := List.filterMap_eq_nil_iff.1 hfx _ hx
    cases hn
  | takes _ hfx hs =>
    rw [hfx, List.mem_singleton, Effect.attach.injEq] at hx
    obtain ⟨rfl, rfl, rfl, rfl⟩ := hx
    exact ⟨rfl, hfx, _, by rw [hs, if_pos rfl]⟩

theorem Told.distinct_segment {fx₀ : List Effect} (h : Told fx₀ r) (hg : Segment r e r' fx) :
    (((fx₀ ++ fx).filterMap Effect.created?).map Session.oid).Nodup := by
  rw [List.filterMap_append, List.map_append]
  by_cases hc : ∃ i a, .reply i (.created (.ok a)) ∈ fx
  · obtain ⟨i, a, hx⟩ := hc
    obtain ⟨b, hi, -, -, hfx⟩ := hg.commits hx
    have hnew : (fx.filterMap Effect.created?).map Session.oid = [a.oid] := by
      rw [hfx]
      rfl
    rw [hnew, List.nodup_append]
    refine ⟨h.distinct, by simp, fun oid ho oid' ho' => ?_⟩
    rintro rfl
    obtain ⟨a', ha', rfl⟩ := List.mem_map.1 ho
    obtain ⟨j, hj⟩ := mem_created ha'
    rw [List.mem_singleton] at ho'
    exact (ho' ▸ (h.created hj).1).attached hi
  · have hnew : fx.filterMap Effect.created? = [] := by
      refine List.eq_nil_iff_forall_not_mem.2 fun a ha => ?_
      obtain ⟨i, hi⟩ := mem_created ha
      exact hc ⟨i, a, hi⟩
    rw [hnew, List.map_nil, List.append_nil]
    exact h.distinct

theorem Told.segment {fx₀ : List Effect} (h : Told fx₀ r) (hs : Sound r) (hr : Room fx r)
    (hg : Segment r e r' fx) : Told (fx₀ ++ fx) r' where
  attaching {i l name b oid} hi := by
    cases hg.tries hs.order with
    | none _ _ ht => exact List.mem_append_left _ (h.attaching (ht hi))
    | takes _ hfx ht =>
      rw [ht] at hi
      split at hi
      · rename_i hj
        cases hi
        rw [hfx, ← hj]
        exact List.mem_append_right _ (List.mem_singleton_self _)
      · exact List.mem_append_left _ (h.attaching hi)
  issued {i oid b l} hx := by
    rcases List.mem_append.1 hx with hx | hx
    · exact (hg.tries hs.order).issued hr (h.issued hx)
    · obtain ⟨-, -, name, hi⟩ := (hg.tries hs.order).attach hx
      exact (hs.segment hr hg).numbered.attaching hi
  attached {i j oid b b' l l'} hx hx' := by
    -- The oid of an attempt made in this step is not of an earlier one.
    have later {i j : CallId} {b b' : InstanceId} {l l' : Location}
        (hx : .attach i oid b l ∈ fx₀) (hx' : .attach j oid b' l' ∈ fx) : False := by
      obtain ⟨rfl, -⟩ := (hg.tries hs.order).attach hx'
      exact Nat.lt_irrefl _ (h.issued hx).2
    rcases List.mem_append.1 hx with hx | hx
    · rcases List.mem_append.1 hx' with hx' | hx'
      · exact h.attached hx hx'
      · exact (later hx hx').elim
    · rcases List.mem_append.1 hx' with hx' | hx'
      · exact (later hx' hx).elim
      · obtain ⟨-, hfx, -⟩ := (hg.tries hs.order).attach hx
        rw [hfx, List.mem_singleton, Effect.attach.injEq] at hx'
        exact hx'.1.symm
  created {i a} hx := by
    rcases List.mem_append.1 hx with hx | hx
    · obtain ⟨ha, b, hb⟩ := h.created hx
      exact ⟨(hg.tries hs.order).spent hr ha, b, List.mem_append_left _ hb⟩
    · obtain ⟨b, hi, hss, -⟩ := hg.commits hx
      have hm : ⟨a, b⟩ ∈ r'.sessions := by
        rw [hss]
        exact mem_insertSession_self _ _
      exact ⟨(hs.segment hr hg).numbered.live _ hm, b, List.mem_append_left _ (h.attaching hi)⟩
  distinct := h.distinct_segment hg
  live x hx := by
    have old (hx : x ∈ r.sessions) : ∃ i, .reply i (.created (.ok x.info)) ∈ fx₀ ++ fx := by
      obtain ⟨i, hi⟩ := h.live x hx
      exact ⟨i, List.mem_append_left _ hi⟩
    cases hg.rosters hs.order with
    | same hss => exact old (hss ▸ hx)
    | @commits id _ _ _ _ _ _ _ _ _ hfx _ hss =>
      rcases mem_insertSession (hss ▸ hx) with rfl | hx
      · refine ⟨id, List.mem_append_right _ ?_⟩
        rw [hfx]
        exact List.mem_singleton_self _
      · exact old hx
    | ends _ _ _ hss => exact old (List.mem_filter.1 (hss ▸ hx)).1
    | clears _ hss => simp [hss] at hx

theorem told_new (adapter : Adapter) (policy : Policy) (order : CallId → Arrangement Location)
    (t : BackendTable) :
    Told [] (new adapter policy order t) where
  attaching hi := by simp [stage?_new] at hi
  issued hx := by cases hx
  attached hx := by cases hx
  created hx := by cases hx
  distinct := List.nodup_nil
  live := by simp [new]

theorem Told.run {fx₀ : List Effect} (h : Told fx₀ r) (hs : Sound r) (hl : Lasts r es) :
    Told (fx₀ ++ (r.run es).2) (r.run es).1 := by
  induction es generalizing r fx₀ with
  | nil => simpa using h
  | cons e es ih =>
    obtain ⟨hr, hl'⟩ := hl.cons hs.order
    have h' := ih (h.segment hs hr (step_segment r e)) (hs.step hl) hl'
    rwa [List.append_assoc] at h'

end Registry

end SlotBroker
