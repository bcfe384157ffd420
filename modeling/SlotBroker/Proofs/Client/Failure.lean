import SlotBroker.Client.Error

/-!
# Failures on their way to the caller

A failure of the broker travels as a status, and the caller reads the status back. Two tables meet
there: which code and kind the broker gives a failure, and what the caller takes a code and a kind
for. `ofStatus_tells_apart` says what is left of a failure at the other end. A failure with a name
at the caller arrives under that name with the message of the status, an unknown oid as the oid that
the request was about, and any other failure as the whole status.

The kind is what tells a failure of the broker from a failure on the way to it: every kind is
readable (`readableTag_toStatus`), and only a status without a readable one can mean that the broker
was not reached (`isTransport_ofStatus`).
-/

namespace SlotBroker

/-- The texts stand in `s` one after the other, in this order and without overlap. -/
def HoldsInOrder : List String → String → Prop
  | [], _ => True
  | t :: ts, s => ∃ before rest, s = before ++ t ++ rest ∧ HoldsInOrder ts rest

namespace HoldsInOrder

theorem append_left (u : String) {ts : List String} {s : String} (h : HoldsInOrder ts s) :
    HoldsInOrder ts (u ++ s) := by
  cases ts with
  | nil => trivial
  | cons t ts =>
    obtain ⟨before, rest, hs, hr⟩ := h
    refine ⟨u ++ before, rest, ?_, hr⟩
    rw [hs, String.append_assoc, String.append_assoc, String.append_assoc]

theorem intercalate (sep : String) (ts : List String) : HoldsInOrder ts (sep.intercalate ts) := by
  induction ts with
  | nil => trivial
  | cons t ts ih =>
    cases ts with
    | nil =>
      refine ⟨"", "", ?_, trivial⟩
      rw [String.intercalate_singleton, String.empty_append, String.append_empty]
    | cons t' ts =>
      refine ⟨"", sep ++ sep.intercalate (t' :: ts), ?_, ih.append_left sep⟩
      rw [String.intercalate_cons_cons, String.empty_append, String.append_assoc]

end HoldsInOrder

namespace BrokerError

/-- The caller has a name for this failure. It has one for an unknown oid only if its request was
about an oid. -/
def Named (oid : Option Oid) : BrokerError → Prop
  | unknownLocation _ => True
  | unknownOid _ => oid ≠ none
  | locationBusy _ _ => True
  | probe _ => True
  | backend _ => True
  | _ => False

theorem readableTag_toStatus (e : BrokerError) : e.toStatus.readableTag = some e.kind := by
  have hk : e.kind.toList.all (fun c => decide (c.toNat < 127)) = true := by
    cases e <;> simp [kind]
  rw [Status.readableTag, toStatus]
  exact Option.filter_some_pos hk

end BrokerError

namespace ClientError

/-- What a failure comes to at the caller of a request about `oid`. -/
def ofFailure (e : BrokerError) (oid : Option Oid) : ClientError :=
  match e, oid with
  | .unknownLocation _, _ => unknownLocation e.statusMessage
  | .unknownOid _, some o => unknownOid o
  | .locationBusy _ _, _ => locationBusy e.statusMessage
  | .probe _, _ => probe e.statusMessage
  | .backend _, _ => backend e.statusMessage
  | _, _ => rpcStatus e.toStatus

theorem ofStatus_toStatus (e : BrokerError) (oid : Option Oid) :
    ofStatus e.toStatus oid = ofFailure e oid := by
  unfold ofStatus
  rw [e.readableTag_toStatus]
  cases e with
  | unknownOid o => cases oid <;> simp [BrokerError.kind, ofFailure]
  | _ => simp [BrokerError.kind, BrokerError.toStatus, ofFailure]

/-- What the caller of a request about `oid` has of a failure, if the failure comes to `c`. -/
structure Received (e : BrokerError) (oid : Option Oid) (c : ClientError) : Prop where
  reached : c.isTransport = false
  unknownLocation : ∀ d, c = .unknownLocation d
    ↔ (∃ l, e = .unknownLocation l) ∧ d = e.statusMessage
  unknownOid : ∀ o, c = .unknownOid o ↔ (∃ o', e = .unknownOid o') ∧ oid = some o
  locationBusy : ∀ d, c = .locationBusy d
    ↔ (∃ l o, e = .locationBusy l o) ∧ d = e.statusMessage
  probe : ∀ d, c = .probe d ↔ (∃ p, e = .probe p) ∧ d = e.statusMessage
  backend : ∀ d, c = .backend d ↔ (∃ b, e = .backend b) ∧ d = e.statusMessage
  other : ∀ s, c = .rpcStatus s
    ↔ ¬ e.Named oid ∧ s = ⟨e.code, e.statusMessage, some e.kind⟩
  causes : ∀ es, e = .shutdownFailed es →
    HoldsInOrder (es.map BrokerError.message) e.statusMessage

theorem received_ofFailure (e : BrokerError) (oid : Option Oid) :
    Received e oid (ofFailure e oid) where
  reached := by cases e <;> cases oid <;> rfl
  unknownLocation d := by cases e <;> cases oid <;> simp [ofFailure, eq_comm]
  unknownOid o := by cases e <;> cases oid <;> simp [ofFailure]
  locationBusy d := by cases e <;> cases oid <;> simp [ofFailure, eq_comm]
  probe d := by cases e <;> cases oid <;> simp [ofFailure, eq_comm]
  backend d := by cases e <;> cases oid <;> simp [ofFailure, eq_comm]
  other s := by
    cases e <;> cases oid <;> simp [ofFailure, BrokerError.Named, BrokerError.toStatus, eq_comm]
  causes es he := by
    subst he
    exact (HoldsInOrder.intercalate "; " (es.map BrokerError.message)).append_left
      "Shutdown failed: "

theorem isTransport_ofStatus (s : Status) (oid : Option Oid) :
    (ofStatus s oid).isTransport = true ↔ s.code = .unavailable ∧ s.readableTag = none := by
  unfold ofStatus
  split
  case h_7 ht =>
    by_cases hc : s.code = .unavailable
    · simp [hc, ht, isTransport]
    · simp [hc, isTransport]
  case h_2 ht => cases oid <;> simp [ht, isTransport]
  all_goals simp [isTransport, *]

/-- Every failure of the broker is told apart from a failure to reach it, and comes to what the
caller has for it. The other way round, a status of any origin means that the broker was not reached
exactly if it says so and names no kind that can be read. -/
theorem ofStatus_tells_apart :
    (∀ (e : BrokerError) (oid : Option Oid), Received e oid (ofStatus e.toStatus oid))
      ∧ ∀ (s : Status) (oid : Option Oid),
        (ofStatus s oid).isTransport = true ↔ s.code = .unavailable ∧ s.readableTag = none := by
  constructor
  · intro e oid
    rw [ofStatus_toStatus]
    exact received_ofFailure e oid
  · exact isTransport_ofStatus

end ClientError

end SlotBroker
