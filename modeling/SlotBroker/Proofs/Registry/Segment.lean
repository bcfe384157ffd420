import SlotBroker.Proofs.Registry.View

/-!
# What a step can do

`Segment` lists the segments of the calls of a registry, each with the stage it starts from, what it
finds there, the registry after it and its effects. Every step is one of them (`step_segment`), so
what a step keeps is shown by a case for each segment, and `Registry.step` need not be opened again.

A shutdown goes through lines, sessions and backends, each of which it may find none of. What it
goes on with is told by `Drains`, `Releases` and `Unloads`.
-/

namespace SlotBroker

/-- What only a call does that lists or shuts down. -/
def Effect.wide : Effect → Prop
  | .unload _ _ | .reply _ (.listed _) | .reply _ (.shutDown _) => True
  | _ => False

namespace Registry

variable (r : Registry)

/-- A call that is answered as soon as it is made. -/
inductive Refused : Call → Outcome → Prop
  | closed {l} (h : r.closed = true) : Refused (.create l) (.created (.error .shuttingDown))
  | unlisted {l} (ho : r.closed = false) (hp : r.policy.requireFreshListing = true)
      (h : r.wasListed l = false) : Refused (.create l) (.created (.error (.unknownLocation l)))
  | gone {oid} (h : r.find? oid = none) :
      Refused (.remove oid) (.removed (.error (.unknownOid oid)))

/-- How a listing goes on once it has come so far with its parts. -/
inductive Lists (id : CallId) (parts : List (Location × Part)) : Registry → List Effect → Prop
  | waits (h : allNamed? parts = none) : Lists id parts (r.setStage id (.listing parts)) []
  | ends {entries} (h : allNamed? parts = some entries) :
      Lists id parts ({ r with listed := some (parts.map Prod.fst) }.endCall id)
        [.reply id (.listed (.ok ⟨entries⟩))]

/-- How unloading goes on: with the next backend, or to its end. -/
inductive Unloads (id : CallId) (errors : List BrokerError) (cells : List Nat) :
    Registry → List Effect → Prop
  | next {b rest} (h : r.backends.nextLoaded cells = some (b, rest)) :
      Unloads id errors cells (r.setStage id (.unloading b rest errors)) [.unload id b]
  | ends (h : r.backends.nextLoaded cells = none) :
      Unloads id errors cells (r.endCall id)
        [.reply id (.shutDown (if errors.isEmpty then .ok () else .error (.shutdownFailed errors)))]

/-- How a shutdown that stands in no line goes on with the sessions left to it. -/
inductive Releases (id : CallId) (errors : List BrokerError) :
    List Oid → Registry → List Effect → Prop
  | stands {gone oid rest s} (hg : ∀ o ∈ gone, r.find? o = none) (h : r.find? oid = some s) :
      Releases id errors (gone ++ oid :: rest)
        ((r.standAt s.info.location id).setStage id
          (.releasing oid s.info.location false rest errors)) []
  | unloads {oids r' fx} (hg : ∀ o ∈ oids, r.find? o = none)
      (h : Unloads r.emptied id errors r.backends.takeAll.2 r' fx) :
      Releases id errors oids r' fx

/-- How a shutdown that stands in no line goes on with the lines left to it. -/
inductive Drains (id : CallId) : List Location → Registry → List Effect → Prop
  | stands {l rest} : Drains id (l :: rest) ((r.standAt l id).setStage id (.draining l rest)) []
  | releases {r' fx} (h : Releases r id [] (r.sessions.map fun s => s.info.oid) r' fx) :
      Drains id [] r' fx

/-- A segment of a call: what happens at an event, from the stage of its call to the registry and
the effects after it. -/
inductive Segment : Event → Registry → List Effect → Prop
  /-- The event fits no call in progress, or the call has to wait on. -/
  | idle (e) : Segment e r []
  | reset : Segment .reset r.resetDiscovery []
  -- Calls are made
  | refused {c o} (h : Refused r c o) :
      Segment (.start c) { r with nextCall := r.nextCall + 1 } [.reply r.nextCall o]
  | listMade : Segment (.start .list) (r.enroll .enumerating) [.enumerate r.nextCall]
  | createMade {l} (ho : r.closed = false)
      (hl : r.policy.requireFreshListing = true → r.wasListed l = true) :
      Segment (.start (.create l)) ((r.enroll (.creating l .locking)).standAt l r.nextCall) []
  | removeMade {oid s} (h : r.find? oid = some s) :
      Segment (.start (.remove oid))
        ((r.enroll (.removing oid s.info.location false)).standAt s.info.location r.nextCall) []
  | shutdownMade {r' fx}
      (h : Drains { r with closed := true, nextCall := r.nextCall + 1 } r.nextCall
        r.drainOrder r' fx) : Segment (.start .shutdown) r' fx
  -- Listing
  | enumerated {id ls r' fx} (hs : r.stage? id = some .enumerating)
      (h : Lists r id (ls.map fun l => (l, .fresh)) r' fx) : Segment (.enumerated id (.ok ls)) r' fx
  | enumerateFailed {id e} (hs : r.stage? id = some .enumerating) :
      Segment (.enumerated id (.error e)) (r.endCall id) [.reply id (.listed (.error e))]
  | partJoins {t parts l} (hs : r.stage? t.call = some (.listing parts))
      (hp : parts[t.part]? = some (l, .fresh)) :
      Segment (.resume t)
        ({ r with resolutions := (r.resolutions.join t l).1 }.setStage t.call
          (.listing (parts.set t.part (l, .waiting (r.resolutions.join t l).2)))) []
  | partReady {t parts l cell b r' fx} (hs : r.stage? t.call = some (.listing parts))
      (hp : parts[t.part]? = some (l, .waiting cell)) (ht : r.resolutions.turn t cell = .ready b)
      (h : Lists r t.call (parts.set t.part (l, .named b)) r' fx) : Segment (.resume t) r' fx
  | partAsks {t parts l cell} (hs : r.stage? t.call = some (.listing parts))
      (hp : parts[t.part]? = some (l, .waiting cell)) (ht : r.resolutions.turn t cell = .compute) :
      Segment (.resume t) (r.setStage t.call (.listing (parts.set t.part (l, .asking cell))))
        [.resolve t l]
  | partResolved {t parts l cell b r' fx} (hs : r.stage? t.call = some (.listing parts))
      (hp : parts[t.part]? = some (l, .asking cell))
      (h : Lists { r with resolutions := r.resolutions.fill cell b } t.call
        (parts.set t.part (l, .named b)) r' fx) : Segment (.resolved t (.ok b)) r' fx
  | partFailed {t parts l cell e} (hs : r.stage? t.call = some (.listing parts))
      (hp : parts[t.part]? = some (l, .asking cell)) :
      Segment (.resolved t (.error e))
        ({ r with resolutions := (r.leaveParts t.call 0 parts).resolutions }.endCall t.call)
        [.reply t.call (.listed (.error e))]
  -- Creating
  | createClosed {t l} (hs : r.stage? t.call = some (.creating l .locking))
      (hh : r.holder? l = some t.call) (hc : r.closed = true) :
      Segment (.resume t) ((r.leaveLine l t.call).endCall t.call)
        [.reply t.call (.created (.error .shuttingDown))]
  | createBusy {t l oid} (hs : r.stage? t.call = some (.creating l .locking))
      (hh : r.holder? l = some t.call) (ho : r.closed = false)
      (hp : r.policy.allowMultipleSessions = false) (h : r.sessionAt? l = some oid) :
      Segment (.resume t) ((r.leaveLine l t.call).endCall t.call)
        [.reply t.call (.created (.error (.locationBusy l oid)))]
  | createJoins {t l} (hs : r.stage? t.call = some (.creating l .locking))
      (hh : r.holder? l = some t.call) (ho : r.closed = false)
      (hp : r.policy.allowMultipleSessions = false → r.sessionAt? l = none) :
      Segment (.resume t)
        ({ r with resolutions := (r.resolutions.join (Ticket.mk t.call 0) l).1 }.setStage t.call
          (.creating l (.resolving (r.resolutions.join (Ticket.mk t.call 0) l).2))) []
  | createReady {t l cell name} (hs : r.stage? t.call = some (.creating l (.resolving cell)))
      (ht : r.resolutions.turn ⟨t.call, 0⟩ cell = .ready name) :
      Segment (.resume t)
        ({ r with backends := (r.backends.join t.call name).1 }.setStage t.call
          (.creating l (.fetching name (r.backends.join t.call name).2))) []
  | createAsks {t l cell} (hs : r.stage? t.call = some (.creating l (.resolving cell)))
      (ht : r.resolutions.turn ⟨t.call, 0⟩ cell = .compute) :
      Segment (.resume t) (r.setStage t.call (.creating l (.asking cell)))
        [.resolve ⟨t.call, 0⟩ l]
  | createResolved {t l cell name} (hs : r.stage? t.call = some (.creating l (.asking cell))) :
      Segment (.resolved t (.ok name))
        ({ r with
            resolutions := r.resolutions.fill cell name
            backends := (r.backends.join t.call name).1 }.setStage t.call
          (.creating l (.fetching name (r.backends.join t.call name).2))) []
  | resolveFailed {t l cell e} (hs : r.stage? t.call = some (.creating l (.asking cell))) :
      Segment (.resolved t (.error e))
        (({ r with resolutions := r.resolutions.leave ⟨t.call, 0⟩ cell }.leaveLine l t.call).endCall
          t.call) [.reply t.call (.created (.error e))]
  | loadStarts {t l name cell f} (hs : r.stage? t.call = some (.creating l (.fetching name cell)))
      (ht : r.backends.loads.turn t.call cell = .compute)
      (hf : r.backends.factoryFor? name = some f) :
      Segment (.resume t) (r.setStage t.call (.creating l (.loading name cell)))
        [.load t.call name f]
  | unserved {t l name cell} (hs : r.stage? t.call = some (.creating l (.fetching name cell)))
      (ht : r.backends.loads.turn t.call cell = .compute)
      (hf : r.backends.factoryFor? name = none) :
      Segment (.resume t)
        (({ r with backends := r.backends.leave t.call cell }.leaveLine l t.call).endCall t.call)
        [.reply t.call (.created (.error (.backend (.unsupported name))))]
  | fetched {t l name cell b} (hs : r.stage? t.call = some (.creating l (.fetching name cell)))
      (ht : r.backends.loads.turn t.call cell = .ready b) :
      Segment (.resume t)
        ({ r with nextOid := r.nextOid + 1 }.setStage t.call
          (.creating l (.attaching name b ⟨r.nextOid⟩))) [.attach t.call ⟨r.nextOid⟩ b l]
  | loaded {id l name cell} (hs : r.stage? id = some (.creating l (.loading name cell))) :
      Segment (.loaded id (.ok ()))
        ({ r with
            nextOid := r.nextOid + 1
            backends := (r.backends.loaded id cell (.ok ())).1 }.setStage id
          (.creating l (.attaching name r.backends.loadCount ⟨r.nextOid⟩)))
        [.attach id ⟨r.nextOid⟩ r.backends.loadCount l]
  | loadFailed {id l name cell e} (hs : r.stage? id = some (.creating l (.loading name cell))) :
      Segment (.loaded id (.error e))
        (({ r with backends := r.backends.leave id cell }.leaveLine l id).endCall id)
        [.reply id (.created (.error (.backend e)))]
  | attachFailed {id l name b oid e now}
      (hs : r.stage? id = some (.creating l (.attaching name b oid))) :
      Segment (.attached id (.error e) now) ((r.leaveLine l id).endCall id)
        [.reply id (.created (.error (.backend e)))]
  | attachedLate {id l name b oid h now}
      (hs : r.stage? id = some (.creating l (.attaching name b oid))) (hc : r.closed = true) :
      Segment (.attached id (.ok h) now) (r.setStage id (.creating l (.undoing b h)))
        [.detach id b h]
  | committed {id l name b oid h now}
      (hs : r.stage? id = some (.creating l (.attaching name b oid))) (ho : r.closed = false) :
      Segment (.attached id (.ok h) now)
        (((r.addSession ⟨⟨oid, l, name, h, now⟩, b⟩).leaveLine l id).endCall id)
        [.reply id (.created (.ok ⟨oid, l, name, h, now⟩))]
  | undone {id l b h a} (hs : r.stage? id = some (.creating l (.undoing b h))) :
      Segment (.detached id a) ((r.leaveLine l id).endCall id)
        [.reply id (.created (.error .shuttingDown))]
  -- Removing
  | removeGone {t oid l} (hs : r.stage? t.call = some (.removing oid l false))
      (hh : r.holder? l = some t.call) (h : r.find? oid = none) :
      Segment (.resume t) ((r.leaveLine l t.call).endCall t.call)
        [.reply t.call (.removed (.error (.unknownOid oid)))]
  | removeDetaches {t oid l s} (hs : r.stage? t.call = some (.removing oid l false))
      (hh : r.holder? l = some t.call) (h : r.find? oid = some s) :
      Segment (.resume t) (r.setStage t.call (.removing oid l true))
        [.detach t.call s.backend s.info.handle]
  | removed {id oid l} (hs : r.stage? id = some (.removing oid l true)) :
      Segment (.detached id (.ok ())) (((r.eraseSession oid).leaveLine l id).endCall id)
        [.reply id (.removed (.ok ()))]
  | removeFailed {id oid l e} (hs : r.stage? id = some (.removing oid l true)) :
      Segment (.detached id (.error e)) ((r.leaveLine l id).endCall id)
        [.reply id (.removed (.error (.backend e)))]
  -- Shutting down
  | drained {t l rest r' fx} (hs : r.stage? t.call = some (.draining l rest))
      (hh : r.holder? l = some t.call) (h : Drains (r.leaveLine l t.call) t.call rest r' fx) :
      Segment (.resume t) r' fx
  | releaseGone {t oid l rest errors r' fx}
      (hs : r.stage? t.call = some (.releasing oid l false rest errors))
      (hh : r.holder? l = some t.call) (hg : r.find? oid = none)
      (h : Releases (r.leaveLine l t.call) t.call errors rest r' fx) : Segment (.resume t) r' fx
  | releaseDetaches {t oid l rest errors s}
      (hs : r.stage? t.call = some (.releasing oid l false rest errors))
      (hh : r.holder? l = some t.call) (h : r.find? oid = some s) :
      Segment (.resume t) (r.setStage t.call (.releasing oid l true rest errors))
        [.detach t.call s.backend s.info.handle]
  | released {id oid l rest errors r' fx}
      (hs : r.stage? id = some (.releasing oid l true rest errors))
      (h : Releases ((r.eraseSession oid).leaveLine l id) id errors rest r' fx) :
      Segment (.detached id (.ok ())) r' fx
  | releaseFailed {id oid l rest errors e r' fx}
      (hs : r.stage? id = some (.releasing oid l true rest errors))
      (h : Releases (r.leaveLine l id) id (errors ++ [.backend e]) rest r' fx) :
      Segment (.detached id (.error e)) r' fx
  | unloaded {id b cells errors r' fx} (hs : r.stage? id = some (.unloading b cells errors))
      (h : Unloads r id errors cells r' fx) : Segment (.unloaded id (.ok ())) r' fx
  | unloadFailed {id b cells errors e r' fx} (hs : r.stage? id = some (.unloading b cells errors))
      (h : Unloads r id (errors ++ [.backend e]) cells r' fx) :
      Segment (.unloaded id (.error e)) r' fx
  -- Background calls
  | reclaims {t b h} (hs : r.stage? t.call = some (.reclaiming b h false)) :
      Segment (.resume t) (r.setStage t.call (.reclaiming b h true)) [.detach t.call b h]
  | reclaimed {id b h a} (hs : r.stage? id = some (.reclaiming b h true)) :
      Segment (.detached id a) (r.endCall id) [.ended id]
  -- Calls are given up
  | dropList {id tending parts} (hs : r.stage? id = some (.listing parts)) :
      Segment (.drop id tending)
        ({ r with resolutions := ((r.endCall id).leaveParts id 0 parts).resolutions }.endCall id) []
  | dropResolving {id tending l cell} (hs : r.stage? id = some (.creating l (.resolving cell)) ∨
        r.stage? id = some (.creating l (.asking cell))) :
      Segment (.drop id tending)
        (({ r with resolutions := r.resolutions.leave ⟨id, 0⟩ cell }.leaveLine l id).endCall id) []
  | dropLoading {id tending l name cell}
      (hs : r.stage? id = some (.creating l (.fetching name cell)) ∨
        r.stage? id = some (.creating l (.loading name cell))) :
      Segment (.drop id tending)
        (({ r with backends := r.backends.leave id cell }.leaveLine l id).endCall id) []
  | dropUndoing {id l b h} (hs : r.stage? id = some (.creating l (.undoing b h))) :
      Segment (.drop id true)
        (((r.leaveLine l id).endCall id).enroll (.reclaiming b h false)) [.background r.nextCall]
  | dropUntended {id l b h} (hs : r.stage? id = some (.creating l (.undoing b h))) :
      Segment (.drop id false) ((r.leaveLine l id).endCall id) []
  | dropStanding {id tending s l} (hs : r.stage? id = some s)
      (hl : s = .creating l .locking ∨ (∃ name b oid, s = .creating l (.attaching name b oid)) ∨
        (∃ oid d, s = .removing oid l d) ∨ (∃ rest, s = .draining l rest) ∨
        ∃ oid d rest errors, s = .releasing oid l d rest errors) :
      Segment (.drop id tending) ((r.leaveLine l id).endCall id) []
  | dropAlone {id tending s} (hs : r.stage? id = some s)
      (hl : s = .enumerating ∨ (∃ b cells errors, s = .unloading b cells errors) ∨
        ∃ b h d, s = .reclaiming b h d) :
      Segment (.drop id tending) (r.endCall id) []

/-! ## What listing and shutting down leave alone, and what they tell -/

variable {r} {r' : Registry} {id : CallId} {fx : List Effect}

theorem Lists.frame {parts : List (Location × Part)} (h : Lists r id parts r' fx) :
    r'.sessions = r.sessions ∧ r'.policy = r.policy ∧ r'.nextOid = r.nextOid ∧
      r'.closed = r.closed ∧ r'.backends = r.backends ∧ r'.nextCall = r.nextCall := by
  cases h <;> exact ⟨rfl, rfl, rfl, rfl, rfl, rfl⟩

theorem Lists.effects {parts : List (Location × Part)} (h : Lists r id parts r' fx) :
    fx = [] ∨ ∃ o, fx = [.reply id (.listed o)] := by
  cases h with
  | waits => exact .inl rfl
  | ends => exact .inr ⟨_, rfl⟩

theorem Unloads.frame {errors : List BrokerError} {cells : List Nat}
    (h : Unloads r id errors cells r' fx) :
    r'.sessions = r.sessions ∧ r'.policy = r.policy ∧ r'.nextOid = r.nextOid ∧
      r'.closed = r.closed ∧ r'.backends = r.backends ∧ r'.nextCall = r.nextCall := by
  cases h <;> exact ⟨rfl, rfl, rfl, rfl, rfl, rfl⟩

theorem Unloads.effects {errors : List BrokerError} {cells : List Nat}
    (h : Unloads r id errors cells r' fx) :
    (∃ b, fx = [.unload id b]) ∨ ∃ o, fx = [.reply id (.shutDown o)] := by
  cases h with
  | next => exact .inl ⟨_, rfl⟩
  | ends => exact .inr ⟨_, rfl⟩

theorem Releases.frame {errors : List BrokerError} {oids : List Oid}
    (h : Releases r id errors oids r' fx) :
    r'.policy = r.policy ∧ r'.nextOid = r.nextOid ∧ r'.closed = r.closed ∧
      r'.nextCall = r.nextCall := by
  cases h with
  | stands => exact ⟨rfl, rfl, rfl, rfl⟩
  | unloads _ h =>
    obtain ⟨-, hp, hn, hc, -, hi⟩ := h.frame
    exact ⟨hp, hn, hc, hi⟩

theorem Releases.effects {errors : List BrokerError} {oids : List Oid}
    (h : Releases r id errors oids r' fx) :
    fx = [] ∨ (∃ b, fx = [.unload id b]) ∨ ∃ o, fx = [.reply id (.shutDown o)] := by
  cases h with
  | stands => exact .inl rfl
  | unloads _ h => exact .inr h.effects

theorem Drains.frame {ls : List Location} (h : Drains r id ls r' fx) :
    r'.policy = r.policy ∧ r'.nextOid = r.nextOid ∧ r'.closed = r.closed ∧
      r'.nextCall = r.nextCall := by
  cases h with
  | stands => exact ⟨rfl, rfl, rfl, rfl⟩
  | releases h => exact h.frame

theorem Drains.effects {ls : List Location} (h : Drains r id ls r' fx) :
    fx = [] ∨ (∃ b, fx = [.unload id b]) ∨ ∃ o, fx = [.reply id (.shutDown o)] := by
  cases h with
  | stands => exact .inl rfl
  | releases h => exact h.effects

variable {x : Effect}

theorem Lists.wide {parts : List (Location × Part)} (h : Lists r id parts r' fx) (hx : x ∈ fx) :
    x.wide := by
  rcases h.effects with rfl | ⟨_, rfl⟩
  · cases hx
  · cases List.mem_singleton.1 hx
    trivial

theorem Unloads.wide {errors : List BrokerError} {cells : List Nat}
    (h : Unloads r id errors cells r' fx) (hx : x ∈ fx) : x.wide := by
  rcases h.effects with ⟨_, rfl⟩ | ⟨_, rfl⟩ <;>
  · cases List.mem_singleton.1 hx
    trivial

theorem Releases.wide {errors : List BrokerError} {oids : List Oid}
    (h : Releases r id errors oids r' fx) (hx : x ∈ fx) : x.wide := by
  cases h with
  | stands => cases hx
  | unloads _ h => exact h.wide hx

theorem Drains.wide {ls : List Location} (h : Drains r id ls r' fx) (hx : x ∈ fx) : x.wide := by
  cases h with
  | stands => cases hx
  | releases h => exact h.wide hx

theorem Segment.policy {e : Event} (hg : Segment r e r' fx) : r'.policy = r.policy := by
  cases hg with
  | enumerated _ h | partReady _ _ _ h | partResolved _ _ h => exact h.frame.2.1
  | unloaded _ h | unloadFailed _ h => exact h.frame.2.1
  | shutdownMade h | drained _ _ h => exact h.frame.1
  | releaseGone _ _ _ h | released _ h | releaseFailed _ h => exact h.frame.1
  | _ => rfl

/-- Only a shutdown closes a registry. -/
theorem Segment.closed_eq {e : Event} (hg : Segment r e r' fx) (he : e ≠ .start .shutdown) :
    r'.closed = r.closed := by
  cases hg with
  | shutdownMade => exact absurd rfl he
  | enumerated _ h | partReady _ _ _ h | partResolved _ _ h => exact h.frame.2.2.2.1
  | unloaded _ h | unloadFailed _ h => exact h.frame.2.2.2.1
  | drained _ _ h | releaseGone _ _ _ h | released _ h | releaseFailed _ h => exact h.frame.2.2.1
  | _ => rfl

theorem Segment.closed {e : Event} (hg : Segment r e r' fx) (hc : r.closed = true) :
    r'.closed = true := by
  by_cases he : e = .start .shutdown
  · subst he
    cases hg with
    | idle | refused => exact hc
    | shutdownMade h => exact h.frame.2.2.1
  · exact (hg.closed_eq he).trans hc

/-! ## Every step is a segment -/

theorem leaveParts_eq (id : CallId) (k : Nat) (parts : List (Location × Part)) (r : Registry) :
    r.leaveParts id k parts = { r with resolutions := (r.leaveParts id k parts).resolutions } := by
  induction parts generalizing k r with
  | nil => rfl
  | cons p parts ih =>
    obtain ⟨l, p⟩ := p
    cases p <;> simp only [leaveParts] <;> rw [ih]

theorem listProgress_lists (id : CallId) (parts : List (Location × Part)) (r : Registry) :
    Lists r id parts (r.listProgress id parts).1 (r.listProgress id parts).2 := by
  unfold listProgress
  split
  · rename_i h
    exact .ends h
  · rename_i h
    exact .waits h

theorem unloadNext_unloads (id : CallId) (errors : List BrokerError) (cells : List Nat)
    (r : Registry) :
    Unloads r id errors cells (r.unloadNext id errors cells).1
      (r.unloadNext id errors cells).2 := by
  unfold unloadNext
  split
  · rename_i h
    exact .next h
  · rename_i h
    exact .ends h

theorem releaseNext_releases (id : CallId) (errors : List BrokerError) (r : Registry) :
    ∀ oids : List Oid, Releases r id errors oids (releaseNext id errors oids r).1
      (releaseNext id errors oids r).2
  | [] => .unloads (by simp) (unloadNext_unloads id errors _ _)
  | oid :: rest => by
    unfold releaseNext
    split
    · rename_i hn
      have ih := releaseNext_releases id errors r rest
      generalize releaseNext id errors rest r = p at ih ⊢
      obtain ⟨r', fx⟩ := p
      cases ih with
      | @stands gone o rest s hg h =>
        rw [← List.cons_append]
        exact .stands (by simpa [hn] using hg) h
      | unloads hg h => exact .unloads (by simpa [hn] using hg) h
    · rename_i s hs
      rw [← List.nil_append (oid :: rest)]
      exact .stands (by simp) hs

theorem drainNext_drains (id : CallId) (rest : List Location) (r : Registry) :
    Drains r id rest (r.drainNext id rest).1 (r.drainNext id rest).2 := by
  cases rest with
  | nil => exact .releases (releaseNext_releases id [] r _)
  | cons l rest => exact .stands

theorem start_segment (c : Call) : Segment r (.start c) (r.start c).1 (r.start c).2 := by
  cases c with
  | list => exact .listMade
  | create l =>
    simp only [start]
    split
    · rename_i hc
      exact .refused (.closed hc)
    · rename_i ho
      rw [Bool.not_eq_true] at ho
      split
      · rename_i h
        simp only [Bool.and_eq_true, Bool.not_eq_true'] at h
        exact .refused (.unlisted ho h.1 h.2)
      · rename_i h
        refine .createMade ho fun hp => ?_
        simpa [hp] using h
  | remove oid =>
    simp only [start]
    split
    · rename_i h
      exact .refused (.gone h)
    · rename_i s h
      exact .removeMade h
  | shutdown => exact .shutdownMade (drainNext_drains _ _ _)

theorem listResume_segment {t : Ticket} {parts : List (Location × Part)}
    (hs : r.stage? t.call = some (.listing parts)) :
    Segment r (.resume t) (r.listResume t parts).1 (r.listResume t parts).2 := by
  unfold listResume
  split
  · rename_i l hp
    exact .partJoins hs hp
  · rename_i l cell hp
    split
    · rename_i b ht
      exact .partReady hs hp ht (listProgress_lists _ _ _)
    · rename_i ht
      exact .partAsks hs hp ht
    · exact .idle _
  · exact .idle _

theorem createLocked_segment {t : Ticket} {l : Location}
    (hs : r.stage? t.call = some (.creating l .locking)) (hh : r.holder? l = some t.call) :
    Segment r (.resume t) (r.createLocked t.call l).1 (r.createLocked t.call l).2 := by
  unfold createLocked
  split
  · rename_i hc
    exact .createClosed hs hh hc
  · rename_i ho
    rw [Bool.not_eq_true] at ho
    split
    · rename_i oid h
      split at h
      · cases h
      · rename_i hp
        exact .createBusy hs hh ho (by simpa using hp) h
    · rename_i h
      exact .createJoins hs hh ho fun hp => by simpa [hp] using h

theorem fetching_segment {t : Ticket} {l : Location} {name : BackendName} {cell : Nat}
    (hs : r.stage? t.call = some (.creating l (.fetching name cell))) :
    Segment r (.resume t) (r.resume t (.creating l (.fetching name cell))).1
      (r.resume t (.creating l (.fetching name cell))).2 := by
  rcases ht : r.backends.loads.turn t.call cell with b | _ | _
  · simp only [resume, BackendTable.turn, ht]
    exact .fetched hs ht
  · rcases hf : r.backends.factoryFor? name with _ | f
    · simp only [resume, BackendTable.turn, ht, hf]
      exact .unserved hs ht hf
    · simp only [resume, BackendTable.turn, ht, hf]
      exact .loadStarts hs ht hf
  · simp only [resume, BackendTable.turn, ht]
    exact .idle _

theorem resume_segment {t : Ticket} {s : Stage} (hs : r.stage? t.call = some s) :
    Segment r (.resume t) (r.resume t s).1 (r.resume t s).2 := by
  cases s with
  | listing parts => exact listResume_segment hs
  | creating l s =>
    cases s with
    | locking =>
      simp only [resume]
      split
      · rename_i hh
        exact createLocked_segment hs hh
      · exact .idle _
    | resolving cell =>
      rcases ht : r.resolutions.turn ⟨t.call, 0⟩ cell with name | _ | _ <;> simp only [resume, ht]
      · exact .createReady hs ht
      · exact .createAsks hs ht
      · exact .idle _
    | fetching name cell => exact fetching_segment hs
    | _ => exact .idle _
  | removing oid l detaching =>
    cases detaching with
    | true => exact .idle _
    | false =>
      simp only [resume, removeLocked]
      split
      · rename_i hh
        rcases h : r.find? oid with _ | x
        · exact .removeGone hs hh h
        · exact .removeDetaches hs hh h
      · exact .idle _
  | draining l rest =>
    simp only [resume]
    split
    · rename_i hh
      exact .drained hs hh (drainNext_drains _ _ _)
    · exact .idle _
  | releasing oid l detaching rest errors =>
    cases detaching with
    | true => exact .idle _
    | false =>
      simp only [resume, releaseLocked]
      split
      · rename_i hh
        rcases h : r.find? oid with _ | x
        · exact .releaseGone hs hh h (releaseNext_releases _ _ _ _)
        · exact .releaseDetaches hs hh h
      · exact .idle _
  | reclaiming b h detaching =>
    cases detaching with
    | true => exact .idle _
    | false => exact .reclaims hs
  | _ => exact .idle _

theorem resolved_segment (t : Ticket) (a : Except BrokerError BackendName) :
    Segment r (.resolved t a) (r.step (.resolved t a)).1 (r.step (.resolved t a)).2 := by
  cases a with
  | ok name =>
    simp only [step]
    split
    · rename_i parts hs
      unfold listResolved
      split
      · rename_i l cell hp
        exact .partResolved hs hp (listProgress_lists _ _ _)
      · exact .idle _
    · rename_i hs hn
      cases hn
      exact .createResolved hs
    · rename_i hn
      cases hn
    · exact .idle _
  | error e =>
    simp only [step]
    split
    · rename_i parts hs
      unfold listResolved
      split
      · rename_i l cell hp
        dsimp only
        rw [leaveParts_eq]
        exact .partFailed hs hp
      · exact .idle _
    · rename_i hn
      cases hn
    · rename_i hs hn
      cases hn
      exact .resolveFailed hs
    · exact .idle _

theorem detached_segment (id : CallId) (a : Except BackendError Unit) :
    Segment r (.detached id a) (r.step (.detached id a)).1 (r.step (.detached id a)).2 := by
  simp only [step]
  split
  · rename_i hs
    exact .undone hs
  · rename_i hs
    cases a with
    | ok u => exact .removed hs
    | error e => exact .removeFailed hs
  · rename_i hs
    cases a with
    | ok u => exact .released hs (releaseNext_releases _ _ _ _)
    | error e => exact .releaseFailed hs (releaseNext_releases _ _ _ _)
  · rename_i hs
    exact .reclaimed hs
  · exact .idle _

theorem drop_segment {id : CallId} {s : Stage} (tending : Bool) (hs : r.stage? id = some s) :
    Segment r (.drop id tending) ((r.endCall id).dropAt id tending s).1
      ((r.endCall id).dropAt id tending s).2 := by
  cases s with
  | enumerating => exact .dropAlone hs (.inl rfl)
  | listing parts =>
    simp only [dropAt]
    rw [leaveParts_eq]
    exact .dropList hs
  | creating l s =>
    cases s with
    | locking => exact .dropStanding hs (.inl rfl)
    | resolving cell => exact .dropResolving (.inl hs)
    | asking cell => exact .dropResolving (.inr hs)
    | fetching name cell => exact .dropLoading (.inl hs)
    | loading name cell => exact .dropLoading (.inr hs)
    | attaching name b oid => exact .dropStanding hs (.inr (.inl ⟨_, _, _, rfl⟩))
    | undoing b h =>
      cases tending with
      | true => exact .dropUndoing hs
      | false => exact .dropUntended hs
  | removing oid l d => exact .dropStanding hs (.inr (.inr (.inl ⟨_, _, rfl⟩)))
  | draining l rest => exact .dropStanding hs (.inr (.inr (.inr (.inl ⟨_, rfl⟩))))
  | releasing oid l d rest errors =>
    exact .dropStanding hs (.inr (.inr (.inr (.inr ⟨_, _, _, _, rfl⟩))))
  | unloading b cells errors => exact .dropAlone hs (.inr (.inl ⟨_, _, _, rfl⟩))
  | reclaiming b h d => exact .dropAlone hs (.inr (.inr ⟨_, _, _, rfl⟩))

/-- Every step is a segment of a call. -/
theorem step_segment (r : Registry) (e : Event) : Segment r e (r.step e).1 (r.step e).2 := by
  cases e with
  | start c => exact start_segment c
  | resume t =>
    simp only [step]
    split
    · rename_i s hs
      exact resume_segment hs
    · exact .idle _
  | enumerated id a =>
    simp only [step]
    split
    · rename_i hs
      exact .enumerated hs (listProgress_lists _ _ _)
    · rename_i hs
      exact .enumerateFailed hs
    · exact .idle _
  | resolved t a => exact resolved_segment t a
  | loaded id a =>
    simp only [step]
    split
    · rename_i hs
      cases a with
      | ok u => exact .loaded hs
      | error e => exact .loadFailed hs
    · exact .idle _
  | attached id a now =>
    simp only [step]
    split
    · rename_i l name b oid hs
      cases a with
      | error e => exact .attachFailed hs
      | ok h =>
        simp only [createAttached]
        split
        · rename_i hc
          exact .attachedLate hs hc
        · rename_i ho
          exact .committed hs (by simpa using ho)
    · exact .idle _
  | detached id a => exact detached_segment id a
  | unloaded id a =>
    simp only [step]
    split
    · rename_i hs
      cases a with
      | ok u => exact .unloaded hs (unloadNext_unloads _ _ _ _)
      | error e => exact .unloadFailed hs (unloadNext_unloads _ _ _ _)
    · exact .idle _
  | drop id tending =>
    simp only [step]
    split
    · rename_i s hs
      exact drop_segment tending hs
    · exact .idle _
  | reset => exact .reset

end Registry

end SlotBroker
