import SlotBroker.Proofs.Client.Exchange
import SlotBroker.Proofs.Client.Failure

/-!
# Clients see the registry

Clients of the service and direct callers of the registry go through the same run: at every moment
the registry is the same, and a client sees what a direct caller is told (`served_as_direct`).

What a call of the registry returns can be told in messages, since it was read from texts
(`Contents.tells`), and it is a reply to the operation, since a call returns what it was made for
(`AskedFor.answers`). So `Tracks` follows the calls that were made for operations, and each step of
the one way is a step of the other (`Tracks.step`).
-/

namespace SlotBroker

namespace Client

variable {id : Identity} {o : Operation} {c : Call} {r : Registry}

theorem read_ok {μ α : Type} {oid : Option Oid} {check : μ → Except MessageError α} {m : μ} {a : α}
    (h : check m = .ok a) : read oid check (.ok m) = .ok a := by
  rw [read]
  split
  · rename_i h'
    rw [h] at h'
    cases h'
    rfl
  · rename_i h'
    rw [h] at h'
    cases h'

/-- What comes back to an operation is what its call has returned. -/
theorem result_reply (id : Identity) {outcome : Outcome} (hc : o.call? = some c)
    (ha : outcome.Answers c) (hs : outcome.Sound) :
    result o (Service.reply outcome) = seen id o (.returned outcome) := by
  cases o with
  | list =>
    cases hc
    cases outcome with
    | listed r =>
      cases r with
      | error e => rfl
      | ok m => exact congrArg Result.listed (read_ok (Message.Listing.toDomain_ofDomain hs))
    | _ => cases ha
  | create text =>
    rw [Operation.call?] at hc
    split at hc
    · cases hc
      cases outcome with
      | created r =>
        cases r with
        | error e => rfl
        | ok s => exact congrArg Result.created (read_ok (Message.Session.toDomain_ofDomain hs))
      | _ => cases ha
    · cases hc
  | remove oid =>
    cases hc
    cases outcome with
    | removed r =>
      cases r with
      | error e => rfl
      | ok u => rfl
    | _ => cases ha
  | _ => cases hc

theorem brokerStatus_describe (hid : id.startedAt.isLeapSecond = false) (r : Registry) :
    brokerStatus (Service.describe id r) = .ok ⟨id.instanceId, id.version, r.adapter,
      id.startedAt.wholeMillis, UInt64.ofNat r.sessionCount⟩ := by
  rw [brokerStatus, Service.describe, Adapter.ofNumber_number, Time.Instant.ofMessage_millis hid]
  rfl

/-- The service begins what a direct caller begins, and answers at once what it is answered. -/
theorem starts_served (hr : r.Contents)
    (hid : o = .info → id.startedAt.isLeapSecond = false) :
    (served id).starts r o = (direct.starts r o).map (seen id o) := by
  cases o with
  | create text =>
    simp only [served, direct, request, Service.handle]
    cases Location.parse text <;> rfl
  | get oid =>
    have hg : result (.get oid) (Service.replyWith
        (fun i => .found (Message.ModuleInfo.ofDomain i)) (r.moduleInfo oid)) =
          .found (perceive (some oid) ModuleInfo.wholeMillis (r.moduleInfo oid)) := by
      cases hi : r.moduleInfo oid with
      | error e => rfl
      | ok i =>
        have hs : i.session.Sound := hr.moduleInfo hi
        exact congrArg Result.found (read_ok (Message.ModuleInfo.toDomain_ofDomain hs))
    exact congrArg Beginning.told hg
  | sessions =>
    have hs : ∀ s ∈ r.sessionList, s.Sound := hr.sessionList
    refine congrArg Beginning.told (congrArg Result.sessions ?_)
    exact read_ok (Message.SessionList.toDomain_ofDomain hs)
  | info =>
    refine congrArg Beginning.told (congrArg Result.info (read_ok ?_))
    exact brokerStatus_describe (hid rfl) r
  | _ => rfl

/-! ## Both ways over one run -/

variable {e : Event}

namespace Exchange

/-- What is the case at every moment of an exchange. -/
structure Tracks (x : Exchange) : Prop where
  orderly : x.registry.Orderly
  placed : x.registry.Placed
  contents : x.registry.Contents
  calls : ∀ {i n o}, Assoc.get? i x.calls = some (n, o) →
    ∃ c, o.call? = some c ∧ x.registry.AskedFor i c

variable {x : Exchange} {os : List Occurrence}

/-- In a step of the registry the calls that were made for operations stay so, and of what returns a
client sees what a direct caller is told. The step may make one more such call. -/
theorem Tracks.happen (id : Identity) (ho : x.registry.Orderly) (hp : x.registry.Placed)
    (hc : x.registry.Contents) (he : e.Sound)
    (hs : ∀ {i n o}, Assoc.get? i x.calls = some (n, o) →
      ∃ c, o.call? = some c ∧ (x.registry.AskedFor i c ∨ x.registry.Makes c i e)) :
    Tracks (x.happen direct e).1 ∧
      x.happen (served id) e
        = ((x.happen direct e).1, (x.happen direct e).2.map (Answer.seen id)) := by
  refine ⟨⟨ho.segment (Registry.step_segment _ e), ?_, hc.step ho hp he, fun hi => ?_⟩, ?_⟩
  · exact hp.resolves (Registry.step_resolves ho e)
  · obtain ⟨c, hcall, h⟩ := hs hi
    exact ⟨c, hcall, .step ho h⟩
  · have htell : ∀ y ∈ (x.registry.step e).2,
        tell (served id) x.calls y = (tell direct x.calls y).map (Answer.seen id) := by
      intro y hy
      cases y with
      | reply i outcome =>
        cases hi : Assoc.get? i x.calls with
        | none => simp [tell, hi]
        | some p =>
          obtain ⟨c, hcall, h⟩ := hs (n := p.1) (o := p.2) hi
          have ha := Registry.AskedFor.answers ho h hy
          have hres := result_reply id hcall ha (hc.tells ho he hy)
          simp only [tell, hi, Option.map_some]
          exact congrArg (fun res : Result => some (Answer.mk p.1 p.2 res)) hres
      | _ => rfl
    simp only [Exchange.happen, List.map_filterMap, List.filterMap_congr htell]

theorem starts_direct {r : Registry} {o : Operation} {c : Call} (h : direct.starts r o = .call c) :
    o.call? = some c := by
  cases o with
  | create text =>
    simp only [direct] at h
    rw [Operation.call?]
    split at h
    · cases h
      rfl
    · cases h
  | list | remove =>
    cases h
    rfl
  | _ => cases h

theorem sound_of_call? {o : Operation} {c : Call} (h : o.call? = some c) :
    (Event.start c).Sound := by
  cases o with
  | create text =>
    rw [Operation.call?] at h
    split at h
    · rename_i hl
      cases h
      exact ⟨text, hl⟩
    · cases h
  | list | remove =>
    cases h
    trivial
  | _ => cases h

theorem Tracks.step (h : Tracks x) {o : Occurrence} (ho : o.Sound)
    (hid : o = .ask .info → id.startedAt.isLeapSecond = false) : Tracks (x.step direct o).1 ∧
      x.step (served id) o
        = ((x.step direct o).1, (x.step direct o).2.map (Answer.seen id)) := by
  cases o with
  | happens e =>
    refine Tracks.happen id h.orderly h.placed h.contents ho fun hi => ?_
    obtain ⟨c, hcall, hc⟩ := h.calls hi
    exact ⟨c, hcall, .inl hc⟩
  | ask o =>
    have hst := starts_served h.contents fun hi => hid (congrArg Occurrence.ask hi)
    simp only [Exchange.step, ask]
    rw [hst]
    cases hd : direct.starts x.registry o with
    | told a => exact ⟨⟨h.orderly, h.placed, h.contents, h.calls⟩, rfl⟩
    | reset a =>
      let y : Exchange := { x with asked := x.asked + 1 }
      have hy : Tracks (y.happen direct .reset).1 := by
        have hs : Event.reset.Sound := trivial
        refine (Tracks.happen id (x := y) h.orderly h.placed h.contents hs fun hi => ?_).1
        obtain ⟨c, hcall, hc⟩ := h.calls hi
        exact ⟨c, hcall, .inl hc⟩
      exact ⟨hy, rfl⟩
    | call c =>
      have hcall := starts_direct hd
      refine Tracks.happen id h.orderly h.placed h.contents (sound_of_call? hcall)
        fun {i n o'} hi => ?_
      simp only [Assoc.get?_put] at hi
      split at hi
      · rename_i hnew
        cases hi
        exact ⟨c, hcall, .inr ⟨rfl, hnew⟩⟩
      · obtain ⟨c', hcall', hc'⟩ := h.calls hi
        exact ⟨c', hcall', .inl hc'⟩

theorem Tracks.run (h : Tracks x) (hos : ∀ o ∈ os, o.Sound)
    (hid : .ask .info ∈ os → id.startedAt.isLeapSecond = false) :
    x.run (served id) os
      = ((x.run direct os).1, (x.run direct os).2.map (Answer.seen id)) := by
  induction os generalizing x with
  | nil => rfl
  | cons o os ih =>
    obtain ⟨hx, hstep⟩ := h.step (hos o List.mem_cons_self)
      fun ho => hid (ho ▸ List.mem_cons_self)
    have hrest := ih hx (fun o' ho' => hos o' (List.mem_cons_of_mem o ho'))
      fun ho' => hid (List.mem_cons_of_mem o ho')
    simp only [Exchange.run_cons, hstep, hrest, List.map_append]

theorem tracks_new (adapter : Adapter) (policy : Policy) (order : CallId → Arrangement Location)
    (t : BackendTable) :
    Tracks (new (.new adapter policy order t)) where
  orderly := Registry.orderly_new adapter policy order t
  placed := Registry.placed_new adapter policy order t
  contents := Registry.contents_new adapter policy order t
  calls hi := by cases hi

end Exchange

/-! ## No malformed response -/

/-- The reply to an operation made no sense to the client. -/
def Result.Malformed : Result → Prop
  | listed r => ∃ d, r = .error (.malformedResponse d)
  | created r => ∃ d, r = .error (.malformedResponse d)
  | removed r => ∃ d, r = .error (.malformedResponse d)
  | found r => ∃ d, r = .error (.malformedResponse d)
  | sessions r => ∃ d, r = .error (.malformedResponse d)
  | reset r => ∃ d, r = .error (.malformedResponse d)
  | info r => ∃ d, r = .error (.malformedResponse d)

theorem perceive_ne_malformed {α β : Type} {oid : Option Oid} {kept : α → β}
    {r : Except BrokerError α} : ¬ ∃ d, perceive oid kept r = .error (.malformedResponse d) := by
  rintro ⟨d, h⟩
  cases r with
  | ok a => cases h
  | error e =>
    rw [perceive, ClientError.ofStatus_toStatus] at h
    cases e <;> cases oid <;> cases h

theorem seen_not_malformed (id : Identity) (o : Operation) (t : Told) :
    ¬ (seen id o t).Malformed := by
  cases t with
  | refused | found => exact perceive_ne_malformed
  | returned outcome => cases outcome <;> exact perceive_ne_malformed
  | sessions | reset | info =>
    rintro ⟨d, h⟩
    cases h

theorem ask_refused (x : Exchange) {text : String} {e : LocationError}
    (h : Location.parse text = .error e) :
    x.ask (served id) (.create text) = ({ x with asked := x.asked + 1 },
      [⟨x.asked, .create text, .created (.error (.rpcStatus
        ⟨.invalidArgument, "Invalid argument: " ++ e.message, some "invalid_argument"⟩))⟩]) := by
  have hs : (served id).starts x.registry (.create text) = .told (.created (.error (.ofStatus
      (BrokerError.invalidArgument e.message).toStatus none))) := by
    simp only [served, request, Service.handle, h]
    rfl
  simp only [Exchange.ask, hs, ClientError.ofStatus_toStatus]
  rfl

/-- Clients of the service and direct callers have one registry between them, and clients see what
direct callers are told. No reply is malformed, and a text that is no location is refused before the
registry is called. -/
structure Agrees (id : Identity) (x : Exchange) (os : List Occurrence) : Prop where
  state : (x.run (served id) os).1 = (x.run direct os).1
  answers : (x.run (served id) os).2 = (x.run direct os).2.map (Answer.seen id)
  well_formed : ∀ a ∈ (x.run (served id) os).2, ¬ a.result.Malformed
  refused : ∀ text e, Location.parse text = .error e →
    let y := (x.run (served id) os).1
    y.ask (served id) (.create text) = ({ y with asked := y.asked + 1 },
      [⟨y.asked, .create text, .created (.error (.rpcStatus
        ⟨.invalidArgument, "Invalid argument: " ++ e.message, some "invalid_argument"⟩))⟩])

/-- Over every run of a registry, clients of the service fare as direct callers of the registry do,
whatever else happens to it. -/
theorem served_as_direct (adapter : Adapter) (policy : Policy)
    (order : CallId → Arrangement Location) (t : BackendTable) (id : Identity)
    (os : List Occurrence) (hos : ∀ o ∈ os, o.Sound)
    (hid : .ask .info ∈ os → id.startedAt.isLeapSecond = false) :
    Agrees id (.new (.new adapter policy order t)) os := by
  have h := (Exchange.tracks_new adapter policy order t).run hos hid
  refine ⟨by rw [h], by rw [h], fun a ha => ?_, fun text e he => ask_refused _ he⟩
  rw [h] at ha
  obtain ⟨b, -, rfl⟩ := List.mem_map.1 ha
  exact seen_not_malformed id b.operation b.result

/-- A client lists the modules and creates a session, another user is about to remove it, and two
more operations fail before the broker is asked about itself. -/
def sessionExchanged : List Occurrence :=
  [.ask .list, .happens (.enumerated 0 (.ok [⟨"slot1"⟩])), .happens (.resume ⟨0, 0⟩),
    .happens (.resume ⟨0, 0⟩), .happens (.resolved ⟨0, 0⟩ (.ok ⟨"vendor"⟩)),
    .ask (.create " slot1"), .happens (.resume ⟨1, 0⟩), .happens (.resume ⟨1, 0⟩),
    .happens (.resume ⟨1, 0⟩), .happens (.loaded 1 (.ok ())),
    .happens (.attached 1 (.ok ⟨7⟩) .epoch), .ask .sessions, .happens (.start (.remove ⟨1⟩)),
    .ask (.create "slot 1"), .ask (.get ⟨2⟩), .ask .info]

theorem sessionExchanged_sound : ∀ o ∈ sessionExchanged, o.Sound := by
  have hl : Location.Parsed ⟨"slot1"⟩ := ⟨"slot1", by decide⟩
  have hb : BackendName.Given ⟨"vendor"⟩ := ⟨"vendor", by decide⟩
  have ht : Time.Instant.epoch.isLeapSecond = false := by decide
  simp [sessionExchanged, Occurrence.Sound, Event.Sound, hl, hb, ht]

theorem sessionExchanged_as_direct :
    (∀ o ∈ sessionExchanged, o.Sound) ∧ Time.Instant.epoch.isLeapSecond = false ∧
      Agrees ⟨"broker", brokerVersion, .epoch⟩ (.new (.unused .asPut .static .strict [] (some 0)))
        sessionExchanged :=
  ⟨sessionExchanged_sound, by decide, served_as_direct _ _ _ _
    ⟨"broker", brokerVersion, .epoch⟩ sessionExchanged sessionExchanged_sound fun _ => by decide⟩

end Client

end SlotBroker
