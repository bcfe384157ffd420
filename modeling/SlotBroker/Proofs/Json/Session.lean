import Mathlib.Data.Fintype.Basic
import Mathlib.Tactic.FinCases
import SlotBroker.Json.Session
import SlotBroker.Proofs.Json.Agreement

/-!
# Keys of locations in JSON

The JSON form of a location is its key, and a key is taken as it is written: no reader here asks
whether a location could have that key. So a value has the keys that stand at their places in the
JSON it was read from (`Descriptor.agrees_reader` and its likes), and any text at all is read as a
key (`Location.document_toJson`).
-/

namespace SlotBroker

namespace Json.Reader

/-! ## Quoted texts -/

/-- A control character is read from its two hexadecimal digits. -/
theorem readQuoted_control (n : Fin 32) (cs : List Char) :
    readQuoted .plain ('\\' :: 'u' :: '0' :: '0' :: Text.digitChar (n / 16) ::
      Text.digitChar (n % 16) :: cs) = prepend (Char.ofNat n) (readQuoted .plain cs) := by
  fin_cases n <;> rfl

theorem readQuoted_escapeChar (c : Char) (cs : List Char) :
    readQuoted .plain (escapeChar c ++ cs) = prepend c (readQuoted .plain cs) := by
  unfold escapeChar
  split_ifs with hq hb hn hr ht hbs hff hc
  iterate 7
    · subst c
      rfl
  · have h := readQuoted_control ⟨c.toNat, hc⟩ cs
    rwa [Char.ofNat_toNat] at h
  · rw [List.singleton_append, readQuoted, if_neg hq, if_neg hb, if_neg hc]

theorem readQuoted_quoted (t rest : List Char) :
    readQuoted .plain (t.flatMap escapeChar ++ '"' :: rest) = .ok (t, rest) := by
  induction t with
  | nil => rfl
  | cons c t ih => rw [List.flatMap_cons, List.append_assoc, readQuoted_escapeChar, ih, prepend]

theorem text_quote (t : String) : text (quote t) = .ok (t, []) :=
  text_eq_ok_iff.2 ⟨_, _, rfl, readQuoted_quoted t.toList [], String.ofList_toList.symm⟩

end Json.Reader

open Json.Reader

/-! ## Parts -/

theorem Location.agrees_reader : Agrees Location.reader fun j l => j = l.toJson :=
  agrees_text.map fun _ _ h => h

/-- Every text is read as a key, whether a location can have it or not. -/
theorem Location.document_toJson (l : Location) : document reader l.toJson.render = .ok l := by
  unfold document
  rw [toJson, Json.render, Json.writeValue, String.toList_ofList, reader, map, text_quote]
  rfl

theorem BackendName.agrees_reader : Agrees BackendName.reader fun j b => j = b.toJson :=
  agrees_text.map fun _ _ h => h

theorem agrees_word64Reader : Agrees word64Reader fun j _ => ∃ n : Nat, j = .int n :=
  (agrees_natBelow _).map fun _ n h => ⟨n, h⟩

theorem Oid.agrees_reader : Agrees Oid.reader fun j _ => ∃ n : Nat, j = .int n :=
  agrees_word64Reader.map fun _ _ h => h

theorem Handle.agrees_reader :
    Agrees Handle.reader fun j _ => ∃ v, j.place? "id" 0 = some v ∧ ∃ n : Nat, v = .int n := by
  have hg : Gives members "id" (fun s => s) fun j _ => ∃ n : Nat, j = .int n :=
    .cons .nil agrees_word64Reader fun _ _ => rfl
  refine hg.record 0 Handle.id rfl (by decide) rfl ?_ fun _ _ v hv hn => ⟨v, hv, hn⟩
  intro s h hs
  obtain ⟨n, rfl, rfl⟩ := Option.map_eq_some_iff.1 hs
  rfl

theorem Adapter.agrees_reader :
    Agrees Adapter.reader fun j a =>
      ∃ t, ofLabel? t = some a ∧ (j = .text t ∨ j = .record [(t, .null)]) :=
  agrees_label

theorem Time.Instant.agrees_reader :
    Agrees Time.Instant.reader fun j t => ∃ s, j = .text s ∧ parse? s = some t :=
  agrees_text.filterMap fun _ s _ h ht => ⟨s, h, ht⟩

/-! ## Modules and sessions -/

namespace Descriptor

theorem gives_location : Gives members "location" Draft.location fun j l => j = l.toJson := by
  refine .cons ?_ Location.agrees_reader fun _ _ => rfl
  exact .cons_of_ne .nil BackendName.agrees_reader (by decide) fun _ _ => rfl

theorem Draft.location_of_finish {s : Draft} {d : Descriptor} (h : s.finish = some d) :
    s.location = some d.location := by
  obtain ⟨_ | l, _ | b⟩ := s
  all_goals cases h
  rfl

theorem agrees_reader :
    Agrees reader fun j d => j.place? "location" 0 = some d.location.toJson := by
  refine gives_location.record 0 Descriptor.location rfl (by decide) rfl ?_ ?_
  · exact fun _ _ => Draft.location_of_finish
  · rintro j d _ hv rfl
    exact hv

end Descriptor

namespace Session

theorem gives_location : Gives members "location" Draft.location fun j l => j = l.toJson := by
  refine .cons_of_ne ?_ Oid.agrees_reader (by decide) fun _ _ => rfl
  refine .cons ?_ Location.agrees_reader fun _ _ => rfl
  refine .cons_of_ne ?_ BackendName.agrees_reader (by decide) fun _ _ => rfl
  refine .cons_of_ne ?_ Handle.agrees_reader (by decide) fun _ _ => rfl
  exact .cons_of_ne .nil Time.Instant.agrees_reader (by decide) fun _ _ => rfl

theorem Draft.location_of_finish {s : Draft} {a : Session} (h : s.finish = some a) :
    s.location = some a.location := by
  obtain ⟨_ | o, _ | l, _ | b, _ | i, _ | t⟩ := s
  all_goals cases h
  rfl

theorem agrees_reader :
    Agrees reader fun j s => j.place? "location" 1 = some s.location.toJson := by
  refine gives_location.record 1 Session.location rfl (by decide) rfl ?_ ?_
  · exact fun _ _ => Draft.location_of_finish
  · rintro j s _ hv rfl
    exact hv

end Session

namespace ModuleInfo

theorem gives_session :
    Gives members "session" Draft.session fun j s =>
      j.place? "location" 1 = some s.location.toJson := by
  refine .cons ?_ Session.agrees_reader fun _ _ => rfl
  exact .cons_of_ne .nil Adapter.agrees_reader (by decide) fun _ _ => rfl

theorem Draft.session_of_finish {s : Draft} {i : ModuleInfo} (h : s.finish = some i) :
    s.session = some i.session := by
  obtain ⟨_ | s, _ | a⟩ := s
  all_goals cases h
  rfl

theorem agrees_reader :
    Agrees reader fun j i =>
      ∃ v, j.place? "session" 0 = some v ∧ v.place? "location" 1 = some i.session.location.toJson :=
  gives_session.record 0 ModuleInfo.session rfl (by decide) rfl
    (fun _ _ => Draft.session_of_finish) fun _ _ v hv hs => ⟨v, hv, hs⟩

end ModuleInfo

namespace Listing

theorem gives_entries :
    Gives members "entries" (fun s => s) fun j ds => ∃ js, j = .list js ∧
      List.Forall₂ (fun j d => j.place? "location" 0 = some d.location.toJson) js ds :=
  .cons .nil Descriptor.agrees_reader.list fun _ _ => rfl

theorem agrees_reader :
    Agrees reader fun j l => ∃ js, j.place? "entries" 0 = some (.list js) ∧
      List.Forall₂ (fun j d => j.place? "location" 0 = some d.location.toJson) js l.entries := by
  refine gives_entries.record 0 Listing.entries rfl (by decide) rfl ?_ ?_
  · intro s l h
    obtain ⟨ds, rfl, rfl⟩ := Option.map_eq_some_iff.1 h
    rfl
  · rintro j l _ hv ⟨js, rfl, hjs⟩
    exact ⟨js, hv, hjs⟩

end Listing

end SlotBroker
