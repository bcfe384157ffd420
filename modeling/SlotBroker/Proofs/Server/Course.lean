import SlotBroker.Proofs.Health.Watching
import SlotBroker.Proofs.Registry.Closing
import SlotBroker.Proofs.Registry.Purpose
import SlotBroker.Rpc.Server

/-!
# The course of a broker

What happens to the registry of a broker is a run like any other (`run_events`): the requests, and
among them the one shutdown that the server makes. `Course` tells how far a broker has come, by what
came first, the signal or the end of serving, and by what the shutdown has returned.
-/

namespace SlotBroker

namespace HealthService

/-- A check answers for the server as a whole and for its service that they are at a status. -/
def Says (s : ServingStatus) (h : HealthService) : Prop :=
  h.check "" = .ok s ∧ h.check brokerServiceName = .ok s

variable {s : ServingStatus} {h : HealthService} {service : String}

theorem check_of_status? (hs : h.status? service = some s) : h.check service = .ok s := by
  rw [check, hs]

/-- The statuses of both names have been set. -/
structure Announced (s : ServingStatus) (h : HealthService) : Prop where
  whole : h.status? "" = some s
  service : h.status? brokerServiceName = some s

theorem Announced.checks (ha : Announced s h) : Says s h :=
  ⟨check_of_status? ha.whole, check_of_status? ha.service⟩

theorem announced_announce (s : ServingStatus) (h : HealthService) :
    Announced s (Server.announce s h) := by
  constructor <;> simp [Server.announce, status?_setStatus]

/-- Watching changes no status that has been set. -/
theorem Announced.watch (ha : Announced s h) (service : String) :
    Announced s (h.watch service).1 := by
  constructor
  · rw [status?_watch, ha.whole, Option.some_or]
  · rw [status?_watch, ha.service, Option.some_or]

end HealthService

namespace BrokerEvent

/-- What the server is told. -/
def notice? : BrokerEvent → Option Notice
  | .signal => some .signal
  | .ended r => some (.ended r)
  | .graceOver => some .graceOver
  | .watch _ | .registry _ => none

/-- The server is told to stop, or serving has ended. -/
def isStop : BrokerEvent → Bool
  | .signal | .ended _ => true
  | _ => false

/-- The requests in progress are finished, or their time is over. -/
def isDrained : BrokerEvent → Bool
  | .ended _ | .graceOver => true
  | _ => false

/-- What came first, the signal or the end of serving. -/
def firstStop? (es : List BrokerEvent) : Option BrokerEvent := es.find? isStop

/-- Serving has ended by itself, or it was time to stop and the requests are drained. -/
def due : List BrokerEvent → Bool
  | [] => false
  | .ended _ :: _ => true
  | .signal :: es => es.any isDrained
  | _ :: es => due es

/-- How serving ended that has ended by itself. -/
def ending (es : List BrokerEvent) : Except BrokerError Unit :=
  match firstStop? es with
  | some (.ended r) => r
  | _ => .ok ()

variable {e : BrokerEvent} {es fs : List BrokerEvent}

theorem firstStop?_append : firstStop? (es ++ fs) = (firstStop? es).or (firstStop? fs) :=
  List.find?_append

theorem ending_append (h : firstStop? es ≠ none) : ending (es ++ fs) = ending es := by
  obtain ⟨e, he⟩ := Option.ne_none_iff_exists'.1 h
  rw [ending, ending, firstStop?_append, he, Option.some_or]

theorem due_append_of_none (h : firstStop? es = none) : due (es ++ fs) = due fs := by
  induction es with
  | nil => rfl
  | cons e es ih =>
    cases e with
    | signal | ended => simp [firstStop?, isStop] at h
    | graceOver | watch | registry => exact ih (by simpa [firstStop?, isStop] using h)

theorem due_append_of_signal (h : firstStop? es = some .signal) :
    due (es ++ fs) = (due es || fs.any isDrained) := by
  induction es with
  | nil => cases h
  | cons e es ih =>
    cases e with
    | signal => simp [due]
    | ended => simp [firstStop?, isStop] at h
    | graceOver | watch | registry => exact ih (by simpa [firstStop?, isStop] using h)

theorem due_append (h : due es = true) : due (es ++ fs) = true := by
  induction es with
  | nil => cases h
  | cons e es ih =>
    cases e with
    | signal =>
      simp only [due, List.cons_append, List.any_append, Bool.or_eq_true] at h ⊢
      exact .inl h
    | ended => rfl
    | graceOver | watch | registry => exact ih h

end BrokerEvent

namespace Event

def isShutdown : Event → Bool
  | .start .shutdown => true
  | _ => false

end Event

namespace Broker

open BrokerEvent

/-- What happens to the registry, and the health that can be read when it does. -/
def happens? (b : Broker) : BrokerEvent → Option (HealthService × Event)
  | .registry (.start .shutdown) => none
  | .registry e => some (b.server.health, e)
  | e =>
    match e.notice?.map b.server.step with
    | some (s, true) => some (s.health, .start .shutdown)
    | _ => none

theorem run_cons (b : Broker) (e : BrokerEvent) (es : List BrokerEvent) :
    b.run (e :: es) = (((b.step e).1.run es).1, (b.step e).2 ++ ((b.step e).1.run es).2) := rfl

theorem run_append (b : Broker) (es fs : List BrokerEvent) :
    b.run (es ++ fs) = (((b.run es).1.run fs).1, (b.run es).2 ++ ((b.run es).1.run fs).2) :=
  Machine.run_append step b es fs

theorem run_concat (b : Broker) (es : List BrokerEvent) (e : BrokerEvent) :
    b.run (es ++ [e]) = (((b.run es).1.step e).1, (b.run es).2 ++ ((b.run es).1.step e).2) :=
  Machine.run_concat step b es e

/-- What a step of a broker does: what happens to the registry, and the broker after it with the
effects. -/
inductive Steps (b : Broker) : BrokerEvent → Option (HealthService × Event) →
    Broker × List Effect → Prop
  | signalled (hp : b.server.phase = .serving) :
      Steps b .signal none
        ({ b with server := ⟨.draining, Server.announce .notServing b.server.health⟩ }, [])
  | watched {service} :
      Steps b (.watch service) none
        ({ b with server := ⟨b.server.phase, (b.server.health.watch service).1⟩ }, [])
  | ignored {e} (hs : b.server.phase = .serving → e.isStop = false)
      (hd : b.server.phase = .draining → e.isDrained = false) : Steps b e none (b, [])
  | ended {r} (hp : b.server.phase = .serving) :
      Steps b (.ended r)
        (some (Server.announce .notServing b.server.health, .start .shutdown))
        ({ b with
            server := ⟨.releasing r, Server.announce .notServing b.server.health⟩
            release := some b.registry.nextCall }.happen (.start .shutdown))
  | drained {e} (hp : b.server.phase = .draining) (he : e.isDrained = true) :
      Steps b e (some (b.server.health, .start .shutdown))
        ({ b with
            server := ⟨.releasing (.ok ()), b.server.health⟩
            release := some b.registry.nextCall }.happen (.start .shutdown))
  | handles {ev} (hne : ev ≠ .start .shutdown) :
      Steps b (.registry ev) (some (b.server.health, ev)) (b.happen ev)

theorem step_steps (b : Broker) (e : BrokerEvent) : Steps b e (b.happens? e) (b.step e) := by
  obtain ⟨⟨phase, health⟩, registry, release⟩ := b
  cases e with
  | signal =>
    cases phase with
    | serving => exact .signalled rfl
    | draining | releasing | stopped => exact .ignored (by simp) (by simp [isDrained])
  | ended r =>
    cases phase with
    | serving => exact .ended rfl
    | draining => exact .drained rfl rfl
    | releasing | stopped => exact .ignored (by simp) (by simp)
  | graceOver =>
    cases phase with
    | draining => exact .drained rfl rfl
    | serving | releasing | stopped => exact .ignored (by simp [isStop]) (by simp)
  | watch service => exact .watched
  | registry ev =>
    by_cases hne : ev = .start .shutdown
    · subst hne
      exact .ignored (fun _ => rfl) fun _ => rfl
    · have hev : (⟨⟨phase, health⟩, registry, release⟩ : Broker).happens? (.registry ev) =
          some (health, ev) ∧ (⟨⟨phase, health⟩, registry, release⟩ : Broker).step (.registry ev) =
          happen ev ⟨⟨phase, health⟩, registry, release⟩ := by
        constructor
        · unfold happens?
          split <;> simp_all
        · unfold step
          split <;> simp_all
      rw [hev.1, hev.2]
      exact .handles hne

end Broker

namespace Registry

variable {r r' r₀ : Registry} {e : Event} {es fs : List Event} {fx fx₀ : List Effect}
  {id i : CallId} {o : Except BrokerError Unit}

/-! ## A registry that is shut down once -/

/-- A create undoes its attach only in a registry that is closed. -/
structure Late (r : Registry) : Prop where
  closed : ∀ {i l b h}, r.stage? i = some (.creating l (.undoing b h)) → r.closed = true

theorem Late.segment (h : Late r) (hg : Segment r e r' fx) : Late r' where
  closed hi := by
    cases hg.creating hi with
    | same hs => exact hg.closed (h.closed hs)
    | undoes _ hc => exact hg.closed hc
    | seeks _ _ hs => exact hs.elim

/-- A create is told that the registry is shutting down only when it is closed, unless the platform
answers so. -/
theorem Segment.refuses (h : Late r) (hg : Segment r e r' fx)
    (hx : .reply i (.created (.error .shuttingDown)) ∈ fx) :
    r.closed = true ∨ ∃ t, e = .resolved t (.error .shuttingDown) := by
  cases hg with
  | refused hr =>
    cases hr with
    | closed hc => exact .inl hc
    | unlisted | gone => simp at hx
  | createClosed _ _ hc => exact .inl hc
  | undone hs => exact .inl (h.closed hs)
  | @resolveFailed t l cell e =>
    simp only [List.mem_singleton, Effect.reply.injEq, Outcome.created.injEq,
      Except.error.injEq] at hx
    exact .inr ⟨t, by rw [hx.2]⟩
  | enumerated _ hd | partReady _ _ _ hd | partResolved _ _ hd => exact (hd.wide hx).elim
  | unloaded _ hd | unloadFailed _ hd => exact (hd.wide hx).elim
  | shutdownMade hd | drained _ _ hd | releaseGone _ _ _ hd | released _ hd | releaseFailed _ hd =>
    exact (hd.wide hx).elim
  | _ => simp at hx

/-- Nobody has shut the registry down yet. -/
structure Unshut (r : Registry) : Prop where
  orderly : Orderly r
  draining : Draining r
  before : Before [] r
  late : Late r
  opened : r.closed = false

theorem Unshut.step (h : Unshut r) (he : e ≠ .start .shutdown) : Unshut (r.step e).1 where
  orderly := h.orderly.segment (step_segment r e)
  draining := h.draining.segment h.orderly (step_segment r e)
  before := by
    have hb := h.before.segment h.orderly (step_segment r e) he
    exact ⟨hb.none, rfl, hb.indexed⟩
  late := h.late.segment (step_segment r e)
  opened := ((step_segment r e).closed_eq he).trans h.opened

theorem Unshut.run (h : Unshut r) (hn : .start .shutdown ∉ es) : Unshut (r.run es).1 := by
  induction es generalizing r with
  | nil => exact h
  | cons e es ih =>
    rw [List.mem_cons, not_or] at hn
    exact ih (h.step (Ne.symm hn.1)) hn.2

theorem Unshut.during (h : Unshut r) (hn : .start .shutdown ∉ es) (hn' : .start .shutdown ∉ fs) :
    During (r.run es).1.nextCall (r.run (es ++ .start .shutdown :: fs)).2
      (r.run (es ++ .start .shutdown :: fs)).1 :=
  During.run h.before h.orderly h.draining hn hn'

/-- What a shutdown returns is told of a call that was shutting down or has just been made. -/
theorem Segment.shuts_down (hg : Segment r e r' fx) (hx : .reply i (.shutDown o) ∈ fx) :
    (∃ s, r.stage? i = some s ∧ s.shuts) ∨ e = .start .shutdown ∧ i = r.nextCall := by
  rcases hg.answers hx with ⟨s, c, hs, hc, ha⟩ | ⟨c, ⟨he, hi⟩, ha⟩
  · cases c with
    | shutdown => exact .inl ⟨s, hs, by cases s <;> first | trivial | cases hc⟩
    | list | create | remove => exact ha.elim
  · cases c with
    | shutdown => exact .inr ⟨he, hi.symm⟩
    | list | create | remove => exact ha.elim

end Registry

namespace Broker

open BrokerEvent

variable {b : Broker} {r₀ : Registry} {e : BrokerEvent} {es : List BrokerEvent} {ev : Event}
  {evs : List Event} {fx : List Effect} {id i : CallId} {o : Except BrokerError Unit}

/-! ## The course of a broker -/

/-- How far a broker has come whose registry was not shut down before: what has happened to it, what
has happened to its registry, the effects, and the broker. -/
inductive Course (r₀ : Registry) (es : List BrokerEvent) (evs : List Event) (fx : List Effect)
    (b : Broker) : Prop
  | serving (hp : b.server.phase = .serving) (hr : b.release = none)
      (hh : b.server.health.Announced .serving) (hf : firstStop? es = none)
      (hn : .start .shutdown ∉ evs) (hx : ∀ i o, .reply i (.shutDown o) ∉ fx)
  | draining (hp : b.server.phase = .draining) (hr : b.release = none)
      (hh : b.server.health.Announced .notServing) (hf : firstStop? es = some .signal)
      (hd : due es = false) (hn : .start .shutdown ∉ evs)
      (hx : ∀ i o, .reply i (.shutDown o) ∉ fx)
  | releasing (evs₁ evs₂) (hp : b.server.phase = .releasing (ending es))
      (hr : b.release = some (r₀.run evs₁).1.nextCall)
      (hh : b.server.health.Announced .notServing) (hf : firstStop? es ≠ none)
      (hd : due es = true) (he : evs = evs₁ ++ .start .shutdown :: evs₂)
      (h₁ : .start .shutdown ∉ evs₁) (h₂ : .start .shutdown ∉ evs₂)
      (hx : ∀ i o, .reply i (.shutDown o) ∉ fx)
  | stopped (evs₁ evs₂ released)
      (hp : b.server.phase = .stopped (Server.result (ending es) released))
      (hr : b.release = some (r₀.run evs₁).1.nextCall)
      (hh : b.server.health.Announced .notServing) (hf : firstStop? es ≠ none)
      (hd : due es = true) (he : evs = evs₁ ++ .start .shutdown :: evs₂)
      (h₁ : .start .shutdown ∉ evs₁) (h₂ : .start .shutdown ∉ evs₂)
      (hx : ∀ i o, .reply i (.shutDown o) ∈ fx ↔ i = (r₀.run evs₁).1.nextCall ∧ o = released)

theorem released?_eq_none {fx : List Effect} (h : ∀ o, .reply id (.shutDown o) ∉ fx) :
    released? id fx = none := by
  induction fx with
  | nil => rfl
  | cons x fx ih =>
    have ih := ih fun o hx => h o (List.mem_cons_of_mem _ hx)
    unfold released?
    split
    · contradiction
    · rename_i i o fx' he
      cases he
      split
      · rename_i hi
        subst hi
        exact absurd List.mem_cons_self (h o)
      · exact ih
    · rename_i he
      cases he
      exact ih

/-- As long as the shutdown does not return, the server stays as it is. -/
theorem happen_server (h : ∀ id, b.release = some id →
    ∀ o, .reply id (.shutDown o) ∉ (b.registry.step ev).2) :
    (b.happen ev).1.server = b.server := by
  unfold happen
  cases hr : b.release with
  | none => rfl
  | some id => simp only [Option.bind_some, released?_eq_none (h id hr)]

/-- When the shutdown returns, the server stops. -/
theorem happen_stops {ended : Except BrokerError Unit} (hp : b.server.phase = .releasing ended)
    (hr : b.release = some id) (hfx : (b.registry.step ev).2 = [.reply id (.shutDown o)]) :
    (b.happen ev).1.server = ⟨.stopped (Server.result ended o), b.server.health⟩ := by
  simp [happen, hr, hfx, released?, Server.step, hp]

/-- Nothing changes for the server. -/
theorem Course.goes_on {b' : Broker} {evs' : List Event} {fx' : List Effect}
    (h : Course r₀ es evs fx b) (hp : b'.server.phase = b.server.phase)
    (hr : b'.release = b.release)
    (hh : ∀ s, b.server.health.Announced s → b'.server.health.Announced s)
    (hs : b.server.phase = .serving → e.isStop = false)
    (hd : b.server.phase = .draining → e.isDrained = false) (hn : .start .shutdown ∉ evs')
    (hx : ∀ i o, .reply i (.shutDown o) ∉ fx') :
    Course r₀ (es ++ [e]) (evs ++ evs') (fx ++ fx') b' := by
  have quiet (h : ∀ i o, .reply i (.shutDown o) ∉ fx) :
      ∀ i o, .reply i (.shutDown o) ∉ fx ++ fx' := fun i o hm =>
    (List.mem_append.1 hm).elim (h i o) (hx i o)
  have unmade {evs : List Event} (h : .start .shutdown ∉ evs) : .start .shutdown ∉ evs ++ evs' :=
    fun hm => (List.mem_append.1 hm).elim h hn
  have stopped (h : firstStop? es ≠ none) : firstStop? (es ++ [e]) ≠ none := by
    obtain ⟨e', he⟩ := Option.ne_none_iff_exists'.1 h
    rw [firstStop?_append, he, Option.some_or]
    exact Option.some_ne_none e'
  cases h with
  | serving hp' hr' hh' hf hn' hx' =>
    refine .serving (hp.trans hp') (hr.trans hr') (hh _ hh') ?_ (unmade hn') (quiet hx')
    rw [firstStop?_append, hf, Option.none_or]
    simp [firstStop?, hs hp']
  | draining hp' hr' hh' hf hd' hn' hx' =>
    refine .draining (hp.trans hp') (hr.trans hr') (hh _ hh') ?_ ?_ (unmade hn') (quiet hx')
    · rw [firstStop?_append, hf, Option.some_or]
    · simp [due_append_of_signal hf, hd', hd hp']
  | releasing evs₁ evs₂ hp' hr' hh' hf hd' he h₁ h₂ hx' =>
    refine .releasing evs₁ (evs₂ ++ evs') ?_ (hr.trans hr') (hh _ hh') (stopped hf)
      (due_append hd') ?_ h₁ (unmade h₂) (quiet hx')
    · rw [hp, hp', ending_append hf]
    · rw [he, List.append_assoc, List.cons_append]
  | stopped evs₁ evs₂ released hp' hr' hh' hf hd' he h₁ h₂ hx' =>
    refine .stopped evs₁ (evs₂ ++ evs') released ?_ (hr.trans hr') (hh _ hh') (stopped hf)
      (due_append hd') ?_ h₁ (unmade h₂) fun i o => ?_
    · rw [hp, hp', ending_append hf]
    · rw [he, List.append_assoc, List.cons_append]
    · rw [List.mem_append, ← hx' i o]
      exact or_iff_left (hx i o)

/-- The server makes its shutdown, which may return at once. -/
theorem Course.made (es : List BrokerEvent) {health : HealthService} (hu : Registry.Unshut r₀)
    (hb : b.registry = (r₀.run evs).1) (hn : .start .shutdown ∉ evs)
    (hx : ∀ i o, .reply i (.shutDown o) ∉ fx) (hh : health.Announced .notServing)
    (hf : firstStop? es ≠ none) (hd : due es = true) :
    let p := { b with
      server := ⟨.releasing (ending es), health⟩
      release := some b.registry.nextCall }.happen (.start .shutdown)
    Course r₀ es (evs ++ [.start .shutdown]) (fx ++ p.2) p.1 := by
  intro p
  have hur := hb ▸ hu.run hn
  have hg := Registry.step_segment b.registry (.start .shutdown)
  have own {i : CallId} {o : Except BrokerError Unit}
      (hm : .reply i (.shutDown o) ∈ (b.registry.step (.start .shutdown)).2) :
      i = b.registry.nextCall := by
    rcases hg.shuts_down hm with ⟨s, hs, hsh⟩ | ⟨-, hi⟩
    · exact absurd hsh (hur.before.none hs)
    · exact hi
  have hnext : b.registry.nextCall = (r₀.run evs).1.nextCall := by rw [hb]
  by_cases hret : ∃ o, .reply b.registry.nextCall (.shutDown o) ∈
      (b.registry.step (.start .shutdown)).2
  · obtain ⟨o, hm⟩ := hret
    obtain ⟨-, hfx⟩ := hg.returns hur.orderly hm
    have hsv : p.1.server = _ := happen_stops rfl rfl hfx
    refine .stopped evs [] o (by rw [hsv])
      (congrArg some hnext) (by rw [hsv]; exact hh) hf hd rfl hn List.not_mem_nil fun i o' => ?_
    have hp : p.2 = [.reply b.registry.nextCall (.shutDown o)] := hfx
    rw [List.mem_append, hp, List.mem_singleton, or_iff_right (hx i o'), hnext]
    simp
  · have hquiet (i o) : .reply i (.shutDown o) ∉ (b.registry.step (.start .shutdown)).2 := by
      intro hm
      obtain rfl := own hm
      exact hret ⟨o, hm⟩
    have hsv : p.1.server = _ := happen_server fun i _ o => hquiet i o
    refine .releasing evs [] (by rw [hsv]) (congrArg some hnext)
      (by rw [hsv]; exact hh) hf hd rfl hn List.not_mem_nil fun i o hm => ?_
    exact (List.mem_append.1 hm).elim (hx i o) (hquiet i o)

/-- What happens to the registry does not move the server on, unless the shutdown returns. -/
theorem Course.handles (hu : Registry.Unshut r₀) (hb : b.registry = (r₀.run evs).1)
    (hfx : fx = (r₀.run evs).2) (h : Course r₀ es evs fx b) (hne : ev ≠ .start .shutdown) :
    Course r₀ (es ++ [.registry ev]) (evs ++ [ev]) (fx ++ (b.happen ev).2) (b.happen ev).1 := by
  have hg := Registry.step_segment b.registry ev
  have stays (hq : ∀ i o, .reply i (.shutDown o) ∉ (b.registry.step ev).2) :
      Course r₀ (es ++ [.registry ev]) (evs ++ [ev]) (fx ++ (b.happen ev).2)
        (b.happen ev).1 := by
    have hsv : (b.happen ev).1.server = b.server := happen_server fun i _ o => hq i o
    exact h.goes_on (congrArg Server.phase hsv) rfl (fun s ha => hsv ▸ ha) (fun _ => rfl)
      (fun _ => rfl) (by simpa using Ne.symm hne) hq
  have unshut (hn : .start .shutdown ∉ evs) (i : CallId) (o : Except BrokerError Unit) :
      .reply i (.shutDown o) ∉ (b.registry.step ev).2 := by
    intro hm
    rcases hg.shuts_down hm with ⟨s, hs, hsh⟩ | ⟨he, -⟩
    · exact (hb ▸ hu.run hn).before.none hs hsh
    · exact hne he
  have own {evs₁ evs₂ : List Event} (he : evs = evs₁ ++ .start .shutdown :: evs₂)
      (h₁ : .start .shutdown ∉ evs₁) (h₂ : .start .shutdown ∉ evs₂) {i : CallId}
      {o : Except BrokerError Unit} (hm : .reply i (.shutDown o) ∈ (b.registry.step ev).2) :
      i = (r₀.run evs₁).1.nextCall := by
    rcases hg.shuts_down hm with ⟨s, hs, hsh⟩ | ⟨he, -⟩
    · rw [hb, he] at hs
      exact (hu.during h₁ h₂).alone hs hsh
    · exact absurd he hne
  cases h with
  | serving _ _ _ _ hn | draining _ _ _ _ _ hn => exact stays (unshut hn)
  | releasing evs₁ evs₂ hp' hr' hh' hf hd' he h₁ h₂ hx' =>
    by_cases hret : ∃ o, .reply (r₀.run evs₁).1.nextCall (.shutDown o) ∈
        (b.registry.step ev).2
    · obtain ⟨o, hm⟩ := hret
      obtain ⟨-, hfx'⟩ := hg.returns (hb ▸ hu.orderly.run evs) hm
      have hsv := happen_stops hp' hr' hfx'
      refine .stopped evs₁ (evs₂ ++ [ev]) o ?_ hr'
        (by rw [hsv]; exact hh') ?_ (due_append hd') (by simp [he]) h₁ ?_ fun i o' => ?_
      · rw [hsv, ending_append hf]
      · rw [firstStop?_append]
        simpa using fun h => absurd h hf
      · simpa using ⟨h₂, Ne.symm hne⟩
      · have hfx'' : (b.happen ev).2 = _ := hfx'
        rw [List.mem_append, hfx'', List.mem_singleton, or_iff_right (hx' i o')]
        simp
    · refine stays fun i o hm => ?_
      obtain rfl := own he h₁ h₂ hm
      exact hret ⟨o, hm⟩
  | stopped evs₁ evs₂ released hp' hr' hh' hf hd' he h₁ h₂ hx' =>
    refine stays fun i o hm => ?_
    obtain rfl := own he h₁ h₂ hm
    have hm' := (hx' _ released).2 ⟨rfl, rfl⟩
    rw [hfx] at hm'
    have hover := Registry.over_of_reply hu.orderly hm'
    exact ((hg.over (hb ▸ hover)).2 _) hm

theorem Course.step (hu : Registry.Unshut r₀) (hb : b.registry = (r₀.run evs).1)
    (hfx : fx = (r₀.run evs).2) (h : Course r₀ es evs fx b) (e : BrokerEvent) :
    Course r₀ (es ++ [e]) (evs ++ ((b.happens? e).map Prod.snd).toList) (fx ++ (b.step e).2)
      (b.step e).1 := by
  generalize hh : b.happens? e = what
  generalize hp : b.step e = p
  have hs := step_steps b e
  rw [hh, hp] at hs
  cases hs with
  | watched =>
    exact h.goes_on rfl rfl (fun s ha => ha.watch _) (fun _ => rfl) (fun _ => rfl)
      List.not_mem_nil (by simp)
  | ignored hs hd => exact h.goes_on rfl rfl (fun s ha => ha) hs hd List.not_mem_nil (by simp)
  | signalled hph =>
    cases h with
    | serving hp' hr' hh' hf hn hx =>
      refine .draining rfl hr' (HealthService.announced_announce _ _) ?_ ?_ (by simpa using hn)
        (by simpa using hx)
      · rw [firstStop?_append, hf]
        rfl
      · rw [due_append_of_none hf]
        rfl
    | draining hp' | releasing _ _ hp' | stopped _ _ _ hp' => cases hph.symm.trans hp'
  | @ended r hph =>
    cases h with
    | serving hp' hr' hh' hf hn hx =>
      have hfirst : firstStop? (es ++ [.ended r]) = some (.ended r) := by
        rw [firstStop?_append, hf]
        rfl
      have hm := Course.made (es ++ [.ended r]) hu hb hn hx
        (HealthService.announced_announce .notServing b.server.health) (by simp [hfirst])
        (due_append_of_none hf)
      have hend : ending (es ++ [.ended r]) = r := by rw [ending, hfirst]
      rw [hend] at hm
      exact hm
    | draining hp' | releasing _ _ hp' | stopped _ _ _ hp' => cases hph.symm.trans hp'
  | drained hph he =>
    cases h with
    | draining hp' hr' hh' hf hd hn hx =>
      have hfirst : firstStop? (es ++ [e]) = some .signal := by
        rw [firstStop?_append, hf]
        rfl
      have hm := Course.made (es ++ [e]) hu hb hn hx hh' (by simp [hfirst])
        (by simp [due_append_of_signal hf, he])
      have hend : ending (es ++ [e]) = .ok () := by rw [ending, hfirst]
      rw [hend] at hm
      exact hm
    | serving hp' | releasing _ _ hp' | stopped _ _ _ hp' => cases hph.symm.trans hp'
  | handles hne => exact h.handles hu hb hfx hne

end Broker

end SlotBroker
