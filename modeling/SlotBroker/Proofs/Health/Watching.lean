import Mathlib.Data.List.Induction
import Mathlib.Tactic.ByContra
import SlotBroker.Rpc.Health

/-!
# A watch registers what it watches

A history of the health service is the list of the calls it served. What a check is meant to answer
is read off the history without the service: the status that was set last, or else that the server
as a whole serves, or else that the service is not known. A watch is not meant to matter for that,
so the history with its watches left out should give the same answers.

It does, with one exception, which `check_after` states together with the rule. The first watch of
a name enters a status for it, so a name other than the empty one that was watched and never set is
no longer an unknown service: it is one whose status is "service unknown". `watched_unset_known` is
the shortest history in which that happens.
-/

namespace SlotBroker

inductive HealthCall
  | set (service : String) (s : ServingStatus)
  | check (service : String)
  | watch (service : String)
  deriving DecidableEq, Repr

namespace HealthCall

def setting? (service : String) : HealthCall → Option ServingStatus
  | set service' s => if service' = service then some s else none
  | _ => none

def isWatch : HealthCall → Bool
  | watch _ => true
  | _ => false

end HealthCall

namespace HealthService

/-- A service after one more call. A check only looks. -/
def serve (h : HealthService) : HealthCall → HealthService
  | .set service s => h.setStatus service s
  | .check _ => h
  | .watch service => (h.watch service).1

def after (cs : List HealthCall) : HealthService := cs.foldl serve empty

/-- The status that was set last for a service. -/
def lastSet? (service : String) (cs : List HealthCall) : Option ServingStatus :=
  cs.reverse.findSome? (HealthCall.setting? service)

/-- What a check is meant to answer after a history. -/
def answer (service : String) (cs : List HealthCall) : Except Status ServingStatus :=
  match lastSet? service cs with
  | some s => .ok s
  | none =>
    if service = "" then .ok .serving
    else .error (.plain .notFound s!"Unknown service: {service}")

/-- A history with its watches left out. -/
def unwatched (cs : List HealthCall) : List HealthCall := cs.filter fun c => !c.isWatch

/-! ## What a service knows -/

section steps

variable (service service' : String) (s : ServingStatus) (h : HealthService) {k k' : Nat}

theorem channel?_send : (h.send k s).channel? service = h.channel? service := rfl

theorem channels_send : (h.send k s).channels[k']? =
    if k = k' then (h.channels[k']?).map fun c => ⟨s, c.version + 1⟩ else h.channels[k']? := by
  rw [send, List.getElem?_modify]
  split <;> simp

theorem channel?_register : (h.register service' s).channel? service =
    if service' = service then some h.channels.length else h.channel? service := by
  split
  · rename_i he
    exact he ▸ Assoc.get?_put_self _ _ _
  · rename_i he
    exact Assoc.get?_put_of_ne he _ _

theorem channels_register (hk : k < h.channels.length) :
    (h.register service' s).channels[k]? = h.channels[k]? :=
  List.getElem?_append_left hk

theorem channels_registered : (h.register service' s).channels[h.channels.length]? = some ⟨s, 0⟩ :=
  List.getElem?_concat_length

variable {service service' h}

theorem exists_channel (hk : h.channel? service = some k) : ∃ c, h.channels[k]? = some c :=
  ⟨_, List.getElem?_eq_getElem (h.opened hk)⟩

theorem status?_of_channel? (hk : h.channel? service = some k) :
    h.status? service = (h.channels[k]?).map HealthChannel.status := by
  rw [status?, hk, Option.bind_some]

theorem status?_of_none (hk : h.channel? service = none) : h.status? service = none := by
  rw [status?, hk, Option.bind_none, Option.map_none]

theorem status?_isSome (hk : h.channel? service = some k) : ∃ s, h.status? service = some s := by
  obtain ⟨c, hc⟩ := exists_channel hk
  exact ⟨c.status, by rw [status?_of_channel? hk, hc, Option.map_some]⟩

theorem status?_send (hk : h.channel? service' = some k) : (h.send k s).status? service =
    if service' = service then some s else h.status? service := by
  have hs := channel?_send service s h (k := k)
  cases hc : h.channel? service with
  | none =>
    have hne : service' ≠ service := by
      rintro rfl
      cases hk.symm.trans hc
    rw [if_neg hne, status?_of_none (hs.trans hc), status?_of_none hc]
  | some k' =>
    rw [status?_of_channel? (hs.trans hc), status?_of_channel? hc, channels_send]
    by_cases he : service' = service
    · subst he
      obtain rfl : k = k' := Option.some.inj (hk.symm.trans hc)
      obtain ⟨c, hc⟩ := exists_channel hk
      simp [hc]
    · have hne : k ≠ k' := by
        rintro rfl
        exact he (h.apart hk hc)
      rw [if_neg hne, if_neg he]

theorem status?_register : (h.register service' s).status? service =
    if service' = service then some s else h.status? service := by
  have hr := channel?_register service service' s h
  by_cases he : service' = service
  · rw [if_pos he] at hr ⊢
    rw [status?_of_channel? hr, channels_registered, Option.map_some]
  · rw [if_neg he] at hr ⊢
    cases hc : h.channel? service with
    | none => rw [status?_of_none (hr.trans hc), status?_of_none hc]
    | some k =>
      rw [status?_of_channel? (hr.trans hc), status?_of_channel? hc,
        channels_register _ _ _ (h.opened hc)]

variable (service service' h)

theorem status?_setStatus :
    (h.setStatus service' s).status? service
      = if service' = service then some s else h.status? service := by
  rw [setStatus]
  split
  · exact status?_send s ‹_›
  · exact status?_register s

theorem status?_watch :
    (h.watch service').1.status? service
      = (h.status? service).or
          (if service' = service then some (initialStatus service) else none) := by
  rw [watch]
  split
  · rename_i k hk
    by_cases he : service' = service
    · obtain ⟨s, hs⟩ := status?_isSome hk
      simp [← he, hs]
    · simp [he]
  · rename_i hn
    dsimp only
    rw [status?_register]
    by_cases he : service' = service
    · subst he
      simp [status?_of_none hn]
    · simp [he]

end steps

section histories

variable (service : String) (cs : List HealthCall) (c : HealthCall)

theorem after_concat : after (cs ++ [c]) = (after cs).serve c := by
  simp [after, List.foldl_append]

theorem lastSet?_concat :
    lastSet? service (cs ++ [c]) = (c.setting? service).or (lastSet? service cs) := by
  rw [lastSet?, List.reverse_append, List.reverse_singleton, List.singleton_append,
    List.findSome?_cons]
  cases c.setting? service <;> rfl

/-- What was set counts most, and a watch enters a status only where there is none. -/
theorem status?_after :
    (after cs).status? service
      = (lastSet? service cs).or
          (if .watch service ∈ cs then some (initialStatus service) else none) := by
  induction cs using List.reverseRecOn with
  | nil => rfl
  | append_singleton cs c ih =>
    rw [after_concat, lastSet?_concat]
    cases c with
    | set service' s =>
      rw [serve, status?_setStatus, ih]
      by_cases he : service' = service <;> simp [HealthCall.setting?, he]
    | check service' => simp [serve, HealthCall.setting?, ih]
    | watch service' =>
      rw [serve, status?_watch, ih]
      by_cases he : service' = service
      · subst he
        cases lastSet? service' cs <;> by_cases hw : .watch service' ∈ cs <;>
          simp [HealthCall.setting?, hw]
      · simp [HealthCall.setting?, he, Ne.symm he]

theorem lastSet?_unwatched : lastSet? service (unwatched cs) = lastSet? service cs := by
  induction cs using List.reverseRecOn with
  | nil => rfl
  | append_singleton cs c ih =>
    rw [lastSet?_concat, unwatched, List.filter_append]
    cases c with
    | set | check => rw [← ih]; exact lastSet?_concat service (unwatched cs) _
    | watch service' =>
      have hf : [HealthCall.watch service'].filter (fun c => !c.isWatch) = [] := rfl
      rw [hf, List.append_nil]
      exact ih

theorem watch_not_mem_unwatched : .watch service ∉ unwatched cs := by
  simp [unwatched, HealthCall.isWatch]

theorem status?_unwatched : (after (unwatched cs)).status? service = lastSet? service cs := by
  rw [status?_after, if_neg (watch_not_mem_unwatched service cs), lastSet?_unwatched,
    Option.or_none]

theorem check_unwatched : (after (unwatched cs)).check service = answer service cs := by
  rw [check, status?_unwatched, answer]
  cases lastSet? service cs <;> simp

/-- A name that was watched and never set, and that is not the name of the server as a whole. -/
def WatchedOnly : Prop := lastSet? service cs = none ∧ service ≠ "" ∧ .watch service ∈ cs

instance : Decidable (WatchedOnly service cs) := by unfold WatchedOnly; infer_instance

theorem check_of_watchedOnly (hw : WatchedOnly service cs) :
    (after cs).check service = .ok .serviceUnknown := by
  obtain ⟨hs, hne, hm⟩ := hw
  rw [check, status?_after, hs, if_pos hm]
  simp [initialStatus, hne]

theorem check_of_not_watchedOnly (hw : ¬ WatchedOnly service cs) :
    (after cs).check service = answer service cs := by
  rw [check, status?_after, answer]
  cases hs : lastSet? service cs with
  | some s => rfl
  | none =>
    by_cases hm : .watch service ∈ cs
    · have he : service = "" := by
        by_contra hne
        exact hw ⟨hs, hne, hm⟩
      subst he
      simp [hm, initialStatus]
    · simp [hm]

theorem answer_ne_serviceUnknown (hs : lastSet? service cs = none) :
    answer service cs ≠ .ok .serviceUnknown := by
  rw [answer, hs]
  by_cases he : service = "" <;> simp [he]

end histories

/-- After any history, a check answers what it is meant to, or the service was only watched: then it
answers that the status is "service unknown". The watches of a history show in a check exactly for
the services that were only watched, and in the status that is kept exactly for those that were
watched and never set. -/
theorem check_after (cs : List HealthCall) (service : String) :
    (after cs).check service
        = (if WatchedOnly service cs then .ok .serviceUnknown else answer service cs)
      ∧ (after (unwatched cs)).check service = answer service cs
      ∧ ((after cs).check service = (after (unwatched cs)).check service
          ↔ ¬ WatchedOnly service cs)
      ∧ ((after cs).status? service = (after (unwatched cs)).status? service
          ↔ lastSet? service cs ≠ none ∨ .watch service ∉ cs) := by
  have hc := check_unwatched service cs
  refine ⟨?_, hc, ?_, ?_⟩
  · by_cases hw : WatchedOnly service cs
    · rw [if_pos hw, check_of_watchedOnly service cs hw]
    · rw [if_neg hw, check_of_not_watchedOnly service cs hw]
  · rw [hc]
    constructor
    · intro he hw
      rw [check_of_watchedOnly service cs hw] at he
      exact answer_ne_serviceUnknown service cs hw.1 he.symm
    · exact check_of_not_watchedOnly service cs
  · rw [status?_after, status?_unwatched]
    cases lastSet? service cs <;> by_cases hm : .watch service ∈ cs <;> simp [hm]

/-- A caller watches a service of which nothing was said, and a check no longer says that the
service is unknown. -/
theorem watched_unset_known :
    (after [.watch "x"]).check "x" = .ok .serviceUnknown
      ∧ answer "x" [.watch "x"] = .error (.plain .notFound "Unknown service: x")
      ∧ (after [.watch "x"]).status? "x" ≠ (after (unwatched [.watch "x"])).status? "x" := by
  refine ⟨check_of_watchedOnly "x" _ (by decide), rfl, ?_⟩
  rw [status?_after, status?_unwatched]
  decide

end HealthService

end SlotBroker
