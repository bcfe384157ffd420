import SlotBroker.Proofs.Health.Watching

/-!
# What watches see

A health service gives out watches, and `Audience` puts the service together with all of them. A
watch is polled at any time, by whoever has it, in between the calls of others.

What a poll yields is said without versions (`Attentive`): a watch that has yielded nothing yields
the status that its service has now, and afterwards it yields the status that its service has now if
one was set since it yielded last. A watch reads the channel that its service has when it is made,
and no call puts another in place of that (`channel?_serve`). So it stays tuned to its service
(`Tuned.step`), and only a setting and a poll matter to what it yields next (`next?_step`).
-/

namespace SlotBroker

/-- What happens around a health service: it serves a call, or one of its watches is polled. The
watches are known by the order in which they were made. -/
inductive HealthEvent
  | call (c : HealthCall)
  | poll (n : Nat)
  deriving DecidableEq, Repr

/-- A health service, and the watches that it has given out. -/
structure Audience where
  health : HealthService
  watches : List Watch

namespace Audience

def empty : Audience := ⟨HealthService.empty, []⟩

def step (a : Audience) : HealthEvent → Audience
  | .call (.watch service) =>
    ⟨(a.health.watch service).1, a.watches ++ [(a.health.watch service).2]⟩
  | .call c => { a with health := a.health.serve c }
  | .poll n => { a with watches := a.watches.modify n fun w => (HealthService.poll w a.health).1 }

def after (es : List HealthEvent) : Audience := es.foldl step empty

/-- What a watch yields if it is polled now. -/
def next? (n : Nat) (a : Audience) : Option ServingStatus :=
  a.watches[n]?.bind fun w => (HealthService.poll w a.health).2

end Audience

namespace HealthEvent

def call? : HealthEvent → Option HealthCall
  | call c => some c
  | poll _ => none

def watched? : HealthEvent → Option String
  | call (.watch service) => some service
  | _ => none

end HealthEvent

namespace Audience

/-- The services that were watched in a history, one for each watch. -/
def watched (es : List HealthEvent) : List String := es.filterMap HealthEvent.watched?

/-- The status that a service has after a history: the one that was set last, or else the one it has
before anything is said about it. -/
def current (service : String) (es : List HealthEvent) : ServingStatus :=
  (HealthService.lastSet? service (es.filterMap HealthEvent.call?)).getD
    (HealthService.initialStatus service)

/-- After the history `fs`, a watch yields nothing at any of its polls in `gs`. -/
def Silent (n : Nat) (fs gs : List HealthEvent) : Prop :=
  ∀ gs₁ gs₂, gs = gs₁ ++ .poll n :: gs₂ → (after (fs ++ gs₁)).next? n = none

/-- In the history `es`, a watch yields something at its poll after `fs`, and nothing in `gs` from
then on. -/
structure LastYield (n : Nat) (fs gs es : List HealthEvent) : Prop where
  split : es = fs ++ .poll n :: gs
  yields : (after fs).next? n ≠ none
  silent : Silent n (fs ++ [.poll n]) gs

/-- What a poll of a watch yields after a history. -/
structure Attentive (n : Nat) (service : String) (es : List HealthEvent) : Prop where
  /-- As long as it has yielded nothing, it yields the status that its service has now. -/
  first : Silent n [] es → (after es).next? n = some (current service es)
  /-- After that, it yields the status that its service has now if one was set since it yielded
  last, and nothing otherwise. -/
  later : ∀ {fs gs}, LastYield n fs gs es →
    ((∃ s, .call (.set service s) ∈ gs) → (after es).next? n = some (current service es)) ∧
      ((∀ s, .call (.set service s) ∉ gs) → (after es).next? n = none)
  /-- If it yields nothing, it has yielded last what its service has now. -/
  caught_up : (after es).next? n = none →
    ∃ fs gs, LastYield n fs gs es ∧ (after fs).next? n = some (current service es)
  /-- The channel that it reads is the one that its service has had since the watch was made. -/
  subscribed : ∃ w, (after es).watches[n]? = some w ∧ ∀ {fs gs}, es = fs ++ gs →
    (watched fs)[n]? = some service → (after fs).health.channel? service = some w.channel

/-! ## Histories -/

section histories

variable (es fs : List HealthEvent) (e : HealthEvent) (service : String)

theorem after_concat : after (es ++ [e]) = (after es).step e := by
  simp [after, List.foldl_append]

theorem watched_concat : watched (es ++ [e]) = watched es ++ e.watched?.toList := by
  rw [watched, List.filterMap_append]
  cases h : e.watched? <;> simp [watched, h]

theorem current_concat : current service (es ++ [e])
    = ((e.call?.bind (HealthCall.setting? service)).getD (current service es)) := by
  rw [current, current, List.filterMap_append]
  rcases e with c | n
  · have hc : [HealthEvent.call c].filterMap HealthEvent.call? = [c] := rfl
    rw [hc, HealthService.lastSet?_concat]
    cases hs : c.setting? service <;> simp [HealthEvent.call?, hs]
  · have hp : [HealthEvent.poll n].filterMap HealthEvent.call? = [] := rfl
    rw [hp, List.append_nil]
    rfl

theorem setting_eq_none_iff : e.call?.bind (HealthCall.setting? service) = none
    ↔ ∀ s, e ≠ .call (.set service s) := by
  rcases e with (⟨service', s⟩ | _ | _) | _
  · by_cases he : service' = service <;> simp [HealthEvent.call?, HealthCall.setting?, he]
  all_goals simp [HealthEvent.call?, HealthCall.setting?]

theorem current_append (hs : ∀ s, .call (.set service s) ∉ fs) :
    current service (es ++ fs) = current service es := by
  induction fs using List.reverseRecOn with
  | nil => rw [List.append_nil]
  | append_singleton fs e ih =>
    rw [← List.append_assoc, current_concat, ih fun s h => hs s (List.mem_append_left _ h)]
    rw [(setting_eq_none_iff e service).2]
    · rfl
    · rintro s rfl
      exact hs s (List.mem_append_right _ (List.mem_singleton_self _))

variable {es fs e}

theorem watched?_of_getElem? {k : Nat} {service : String}
    (h : e.watched?.toList[k]? = some service) : k = 0 ∧ e = .call (.watch service) := by
  rcases e with (_ | _ | service') | _
  all_goals simp [HealthEvent.watched?, List.getElem?_singleton] at h
  exact ⟨h.1, by rw [h.2]⟩

theorem Silent.of_concat {n : Nat} (h : Silent n fs (es ++ [e])) : Silent n fs es := by
  rintro gs₁ gs₂ rfl
  exact h gs₁ (gs₂ ++ [e]) (by simp)

theorem Silent.concat {n : Nat} (h : Silent n fs es)
    (he : e = .poll n → (after (fs ++ es)).next? n = none) : Silent n fs (es ++ [e]) := by
  intro gs₁ gs₂ hg
  rcases List.eq_nil_or_concat gs₂ with rfl | ⟨gs, e', rfl⟩
  · obtain ⟨rfl, h'⟩ := List.append_inj' hg rfl
    exact he (List.cons.inj h').1
  · rw [List.concat_eq_append, ← List.cons_append, ← List.append_assoc] at hg
    exact h gs₁ gs (List.append_inj' hg rfl).1

/-- A watch has yielded nothing, or there is a poll at which it yielded last. -/
theorem silent_or_lastYield (n : Nat) (es : List HealthEvent) :
    Silent n [] es ∨ ∃ fs gs, LastYield n fs gs es := by
  induction es using List.reverseRecOn with
  | nil => exact .inl fun gs₁ gs₂ h => by simp at h
  | append_singleton es e ih =>
    by_cases hy : e = .poll n ∧ (after es).next? n ≠ none
    · obtain ⟨rfl, hy⟩ := hy
      exact .inr ⟨es, [], rfl, hy, fun gs₁ gs₂ h => by simp at h⟩
    · have he (h : e = .poll n) : (after es).next? n = none := by
        by_contra hn
        exact hy ⟨h, hn⟩
      rcases ih with hs | ⟨fs, gs, rfl, hl, hs⟩
      · exact .inl (hs.concat he)
      · refine .inr ⟨fs, gs ++ [e], by simp, hl, hs.concat ?_⟩
        rwa [List.append_assoc, List.singleton_append]

end histories

/-! ## Channels -/

section channels

variable {h : HealthService} {service service' : String} {k : Nat} {c : HealthChannel}

theorem kept_register (s : ServingStatus) (hn : h.channel? service' = none)
    (hk : h.channel? service = some k) :
    (h.register service' s).channel? service = some k ∧
      (h.register service' s).channels[k]? = h.channels[k]? := by
  have hne : service' ≠ service := by
    rintro rfl
    cases hn.symm.trans hk
  rw [HealthService.channel?_register, if_neg hne]
  exact ⟨hk, HealthService.channels_register _ _ _ (h.opened hk)⟩

/-- No call puts another channel in place of the one that a service has. -/
theorem channel?_serve (hk : h.channel? service = some k) (call : HealthCall) :
    (h.serve call).channel? service = some k := by
  cases call with
  | set service' s =>
    rw [HealthService.serve, HealthService.setStatus]
    split
    · exact hk
    · exact (kept_register s ‹_› hk).1
  | check => exact hk
  | watch service' =>
    rw [HealthService.serve, HealthService.watch]
    split
    · exact hk
    · exact (kept_register _ ‹_› hk).1

/-- What a call sends through the channel of a service is what it sets for that service. -/
theorem channels_serve (hk : h.channel? service = some k) (hc : h.channels[k]? = some c)
    (call : HealthCall) : (h.serve call).channels[k]? =
      some (((call.setting? service).map fun s => ⟨s, c.version + 1⟩).getD c) := by
  cases call with
  | set service' s =>
    rw [HealthService.serve, HealthService.setStatus]
    split
    · rename_i k' hk'
      rw [HealthService.channels_send, hc]
      by_cases he : service' = service
      · obtain rfl : k' = k := Option.some.inj (hk'.symm.trans (he ▸ hk))
        simp [HealthCall.setting?, he]
      · have hne : k' ≠ k := by
          rintro rfl
          exact he (h.apart hk' hk)
        simp [HealthCall.setting?, he, hne]
    · rename_i hn
      have hne : service' ≠ service := by
        rintro rfl
        cases hn.symm.trans hk
      rw [(kept_register s hn hk).2, hc]
      simp [HealthCall.setting?, hne]
  | check => exact hc
  | watch service' =>
    rw [HealthService.serve, HealthService.watch]
    split
    · exact hc
    · exact (kept_register _ ‹_› hk).2.trans hc

end channels

/-! ## Watches and their channels -/

/-- A watch reads the channel of a service, and has seen no version that is still to come. -/
structure Tuned (w : Watch) (service : String) (h : HealthService) : Prop where
  channel : h.channel? service = some w.channel
  seen : ∀ {c v}, h.channels[w.channel]? = some c → w.seen = some v → v ≤ c.version

variable {a : Audience} {n : Nat} {w : Watch} {c : HealthChannel} {e : HealthEvent}
  {es : List HealthEvent} {service : String} {h : HealthService}

theorem Tuned.serve (ht : Tuned w service h) (call : HealthCall) :
    Tuned w service (h.serve call) where
  channel := channel?_serve ht.channel call
  seen {c v} hc hv := by
    obtain ⟨c₀, hc₀⟩ := HealthService.exists_channel ht.channel
    have hle := ht.seen hc₀ hv
    rw [channels_serve ht.channel hc₀] at hc
    cases hc
    cases call.setting? service with
    | none => exact hle
    | some s => exact Nat.le_succ_of_le hle

theorem tuned_watch (service : String) (h : HealthService) :
    Tuned (h.watch service).2 service (h.watch service).1 := by
  rw [HealthService.watch]
  split
  · exact ⟨‹_›, fun _ hv => by cases hv⟩
  · exact ⟨(HealthService.channel?_register _ _ _ _).trans (if_pos rfl), fun _ hv => by cases hv⟩

/-- A poll leaves a watch with the version that its channel has. -/
theorem poll_seen (hc : h.channels[w.channel]? = some c) :
    (HealthService.poll w h).1 = { w with seen := some c.version } := by
  rw [HealthService.poll, hc]
  dsimp only
  split
  · rename_i hs
    rw [← hs]
  · rfl

theorem Tuned.poll (ht : Tuned w service h) : Tuned (HealthService.poll w h).1 service h := by
  obtain ⟨c, hc⟩ := HealthService.exists_channel ht.channel
  rw [poll_seen hc]
  refine ⟨ht.channel, fun hc' hv => ?_⟩
  cases hc.symm.trans hc'
  cases hv
  exact Nat.le_refl _

theorem health_step (a : Audience) (e : HealthEvent) :
    (a.step e).health = (e.call?.map a.health.serve).getD a.health := by
  rcases e with (_ | _ | _) | _ <;> rfl

theorem length_step (a : Audience) (e : HealthEvent) :
    (a.step e).watches.length = a.watches.length + e.watched?.toList.length := by
  rcases e with (_ | _ | _) | _ <;> simp [step, HealthEvent.watched?]

theorem length_after (es : List HealthEvent) :
    (after es).watches.length = (watched es).length := by
  induction es using List.reverseRecOn with
  | nil => rfl
  | append_singleton es e ih =>
    rw [after_concat, watched_concat, length_step, ih, List.length_append]

/-- A watch stays tuned to its service, whatever happens. -/
theorem Tuned.step (ht : Tuned w service a.health) (hw : a.watches[n]? = some w)
    (e : HealthEvent) :
    ∃ w', (a.step e).watches[n]? = some w' ∧ Tuned w' service (a.step e).health := by
  rcases e with (⟨service', s⟩ | _ | service') | m
  · exact ⟨w, hw, ht.serve (.set service' s)⟩
  · exact ⟨w, hw, ht⟩
  · refine ⟨w, ?_, ht.serve (.watch service')⟩
    rw [← hw]
    exact List.getElem?_append_left (List.getElem?_eq_some_iff.1 hw).1
  · by_cases hm : m = n
    · exact ⟨_, by simp [Audience.step, hw, hm], ht.poll⟩
    · exact ⟨w, by simp [Audience.step, hw, hm], ht⟩

/-- Every watch is tuned to the service that was watched. -/
theorem tuned_after (h : (watched es)[n]? = some service) :
    ∃ w, (after es).watches[n]? = some w ∧ Tuned w service (after es).health := by
  induction es using List.reverseRecOn with
  | nil => simp [watched] at h
  | append_singleton es e ih =>
    rw [after_concat]
    rw [watched_concat] at h
    by_cases hlt : n < (watched es).length
    · rw [List.getElem?_append_left hlt] at h
      obtain ⟨w, hw, ht⟩ := ih h
      exact ht.step hw e
    · -- The watch is made just now.
      rw [List.getElem?_append_right (Nat.le_of_not_lt hlt)] at h
      obtain ⟨hz, he⟩ := watched?_of_getElem? h
      obtain rfl : n = (after es).watches.length := by
        rw [length_after]
        omega
      subst he
      exact ⟨_, List.getElem?_concat_length, tuned_watch service _⟩

/-- The channel of a service is the same at all times. -/
theorem channel?_after {k : Nat} (hk : (after es).health.channel? service = some k)
    (fs : List HealthEvent) : (after (es ++ fs)).health.channel? service = some k := by
  induction fs using List.reverseRecOn with
  | nil => rwa [List.append_nil]
  | append_singleton fs e ih =>
    rw [← List.append_assoc, after_concat, health_step]
    cases e.call? with
    | none => exact ih
    | some call => exact channel?_serve ih call

theorem next?_of_channel (hw : a.watches[n]? = some w)
    (hc : a.health.channels[w.channel]? = some c) :
    a.next? n = if w.seen = some c.version then none else some c.status := by
  rw [next?, hw, Option.bind_some, HealthService.poll, hc]
  dsimp only
  split <;> rfl

/-- What a watch that is not polled yields next is what is set for its service, if anything is. -/
theorem next?_call (ht : Tuned w service a.health) (hw : a.watches[n]? = some w)
    (call : HealthCall) {ws : List Watch} (hws : ws[n]? = some w) :
    next? n ⟨a.health.serve call, ws⟩ = (call.setting? service).or (a.next? n) := by
  obtain ⟨c, hc⟩ := HealthService.exists_channel ht.channel
  have hn : w.seen ≠ some (c.version + 1) := fun hs => absurd (ht.seen hc hs) (by omega)
  rw [next?_of_channel (a := ⟨a.health.serve call, ws⟩) hws (channels_serve ht.channel hc call),
    next?_of_channel hw hc]
  cases call.setting? service with
  | none => simp
  | some s => simpa using hn

/-- To what a watch yields next only a setting of its service and a poll of it matter. -/
theorem next?_step (ht : Tuned w service a.health) (hw : a.watches[n]? = some w)
    (e : HealthEvent) :
    (a.step e).next? n = if e = .poll n then none
      else (e.call?.bind (HealthCall.setting? service)).or (a.next? n) := by
  rcases e with (⟨service', s⟩ | _ | service') | m
  · exact next?_call ht hw (.set service' s) hw
  · simp only [reduceCtorEq, if_false]
    rfl
  · refine next?_call ht hw (.watch service') ?_
    rw [← hw]
    exact List.getElem?_append_left (List.getElem?_eq_some_iff.1 hw).1
  · obtain ⟨c, hc⟩ := HealthService.exists_channel ht.channel
    by_cases hm : m = n
    · subst hm
      have hw' : (a.step (.poll m)).watches[m]? = some { w with seen := some c.version } := by
        rw [← poll_seen hc]
        simp [step, hw]
      rw [next?_of_channel hw' hc]
      simp
    · have hw' : (a.step (.poll m)).watches[n]? = some w := by simp [step, hw, hm]
      rw [next?_of_channel hw' hc, next?_of_channel hw hc]
      simp [HealthEvent.call?, hm]

/-! ## What was watched, and its status -/

theorem watch_unseen (service : String) (h : HealthService) : (h.watch service).2.seen = none := by
  rw [HealthService.watch]
  split <;> rfl

theorem health_after (es : List HealthEvent) :
    (after es).health = HealthService.after (es.filterMap HealthEvent.call?) := by
  induction es using List.reverseRecOn with
  | nil => rfl
  | append_singleton es e ih =>
    rw [after_concat]
    rcases e with (_ | _ | _) | _
    all_goals simp [step, ih, HealthEvent.call?, HealthService.after_concat, HealthService.serve,
      List.filterMap_cons]

theorem mem_watched (h : (watched es)[n]? = some service) :
    .watch service ∈ es.filterMap HealthEvent.call? := by
  obtain ⟨e, he, hs⟩ := List.mem_filterMap.1 (List.mem_of_getElem? h)
  refine List.mem_filterMap.2 ⟨e, he, ?_⟩
  rcases e with (_ | _ | _) | _
  all_goals cases hs
  rfl

/-- Whatever a watch yields is the status that its service has now. -/
theorem next?_eq (h : (watched es)[n]? = some service) :
    (after es).next? n = none ∨ (after es).next? n = some (current service es) := by
  obtain ⟨w, hw, ht⟩ := tuned_after h
  obtain ⟨c, hc⟩ := HealthService.exists_channel ht.channel
  have hst := HealthService.status?_after service (es.filterMap HealthEvent.call?)
  rw [← health_after, HealthService.status?_of_channel? ht.channel, hc,
    if_pos (mem_watched h)] at hst
  have hcur : c.status = current service es := by
    unfold current
    cases hl : HealthService.lastSet? service (es.filterMap HealthEvent.call?) <;>
      simp_all
  rw [next?_of_channel hw hc, hcur]
  split
  · exact .inl rfl
  · exact .inr rfl

/-! ## Every watch is attentive -/

/-- A watch that has yielded nothing so far has been made with something to yield, and no event but
its own poll takes that away. -/
theorem next?_of_silent (h : (watched es)[n]? = some service) (hs : Silent n [] es) :
    (after es).next? n = some (current service es) := by
  refine (next?_eq h).resolve_left fun hn => ?_
  induction es using List.reverseRecOn with
  | nil => simp [watched] at h
  | append_singleton es e ih =>
    rw [after_concat] at hn
    have hpoll : e = .poll n → (after es).next? n = none := by
      rintro rfl
      exact hs es [] rfl
    by_cases hlt : n < (watched es).length
    · rw [watched_concat, List.getElem?_append_left hlt] at h
      have hsome := ih h hs.of_concat
      obtain ⟨w, hw, ht⟩ := tuned_after h
      rw [next?_step ht hw] at hn
      split at hn
      · rename_i he
        exact hsome (hpoll he)
      · exact hsome (Option.or_eq_none_iff.1 hn).2
    · -- The watch is made just now.
      rw [watched_concat, List.getElem?_append_right (Nat.le_of_not_lt hlt)] at h
      obtain ⟨hz, rfl⟩ := watched?_of_getElem? h
      have hw : ((after es).step (.call (.watch service))).watches[n]?
          = some ((after es).health.watch service).2 := by
        rw [step, Nat.le_antisymm (Nat.le_of_sub_eq_zero hz) (Nat.le_of_not_lt hlt), ← length_after]
        exact List.getElem?_concat_length
      obtain ⟨c, hc⟩ := HealthService.exists_channel (tuned_watch service (after es).health).channel
      rw [next?_of_channel hw hc, watch_unseen] at hn
      simp at hn

/-- Once a watch has been polled it yields nothing until its service is set. -/
theorem next?_eq_none_iff {fs gs : List HealthEvent}
    (h : (watched fs)[n]? = some service) (hs : Silent n (fs ++ [.poll n]) gs) :
    (after (fs ++ .poll n :: gs)).next? n = none ↔ ∀ s, .call (.set service s) ∉ gs := by
  have hle (es : List HealthEvent) : (watched (fs ++ es))[n]? = some service := by
    rw [watched, List.filterMap_append]
    rw [← h]
    exact List.getElem?_append_left (List.getElem?_eq_some_iff.1 h).1
  induction gs using List.reverseRecOn with
  | nil =>
    obtain ⟨w, hw, ht⟩ := tuned_after h
    rw [after_concat, next?_step ht hw]
    simp
  | append_singleton gs e ih =>
    have hg := ih hs.of_concat
    obtain ⟨w, hw, ht⟩ := tuned_after (hle (.poll n :: gs))
    rw [← List.cons_append, ← List.append_assoc, after_concat, next?_step ht hw]
    by_cases he : e = .poll n
    · subst he
      have hn := hs gs [] rfl
      rw [List.append_assoc, List.singleton_append] at hn
      simpa using hg.1 hn
    · rw [if_neg he, Option.or_eq_none_iff]
      refine (and_congr (setting_eq_none_iff e service) hg).trans ?_
      simp only [List.mem_append, List.mem_singleton, not_or, forall_and, ne_eq, eq_comm, and_comm]

theorem LastYield.watched {fs gs : List HealthEvent} (h : LastYield n fs gs es)
    (hn : (watched es)[n]? = some service) : (watched fs)[n]? = some service := by
  have hlt : n < (Audience.watched fs).length := by
    rw [← length_after]
    by_contra hlt
    refine h.yields ?_
    rw [next?, List.getElem?_eq_none (Nat.le_of_not_lt hlt), Option.bind_none]
  rw [h.split, Audience.watched, List.filterMap_append] at hn
  rwa [← List.getElem?_append_left hlt]

/-- A watch loses no status, whenever it is polled and whatever happens in between: it yields the
status that its service has at the poll, and it yields nothing only if that is what it has yielded
last. -/
theorem loses_nothing (es : List HealthEvent) (n : Nat) (service : String)
    (h : (watched es)[n]? = some service) : Attentive n service es where
  first := next?_of_silent h
  later := by
    intro fs gs hl
    have hiff := next?_eq_none_iff (hl.watched h) hl.silent
    rw [← hl.split] at hiff
    refine ⟨fun ⟨s, hs⟩ => (next?_eq h).resolve_left fun hn => hiff.1 hn s hs, hiff.2⟩
  caught_up := by
    intro hn
    rcases silent_or_lastYield n es with hs | ⟨fs, gs, hl⟩
    · rw [next?_of_silent h hs] at hn
      cases hn
    · have hf := hl.watched h
      have hgs : ∀ s, .call (.set service s) ∉ gs := by
        rw [← next?_eq_none_iff hf hl.silent, ← hl.split]
        exact hn
      refine ⟨fs, gs, hl, ?_⟩
      rw [(next?_eq hf).resolve_left hl.yields, hl.split, current_append]
      simpa using hgs
  subscribed := by
    obtain ⟨w, hw, ht⟩ := tuned_after h
    refine ⟨w, hw, fun {fs gs} he hn => ?_⟩
    obtain ⟨w', -, ht'⟩ := tuned_after hn
    have hk := channel?_after ht'.channel gs
    rw [← he, ht.channel] at hk
    rw [ht'.channel, hk]

/-- One caller watches a service before anything is said about it, and another one the server as a
whole. -/
def earlyWatches : List HealthEvent :=
  [.call (.watch "x"), .call (.watch ""), .poll 0, .call (.set "x" .notServing),
    .call (.set "x" .serving), .poll 1]

theorem loses_nothing_early : (watched earlyWatches)[0]? = some "x" ∧
    (watched earlyWatches)[1]? = some "" ∧ Attentive 0 "x" earlyWatches ∧
    (after (earlyWatches.take 2)).next? 0 = some .serviceUnknown ∧
    (after earlyWatches).next? 0 = some .serving ∧ (after earlyWatches).next? 1 = none :=
  ⟨rfl, rfl, loses_nothing earlyWatches 0 "x" rfl, by decide, by decide, by decide⟩

end Audience

end SlotBroker
