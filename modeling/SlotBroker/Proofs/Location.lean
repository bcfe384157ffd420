import SlotBroker.Location
import SlotBroker.Proofs.Text.Blank

/-!
# What reads as a location

A text reads as a location if what trimming leaves of it is not empty and has no blank inside, and
that is the location's key (`Location.parse_eq_ok_iff`). So a location's own text reads as the
location.
-/

namespace SlotBroker.Location

theorem toList_trimmed (raw : String) : (Text.trimmed raw).toList = Text.trim raw.toList :=
  String.toList_ofList

theorem parse_eq_ok_iff {raw : String} {l : Location} :
    parse raw = .ok l ↔ l.text = Text.trimmed raw ∧ l.WellFormed := by
  constructor
  · intro h
    unfold parse at h
    simp only at h
    split at h
    · cases h
    · rename_i hn
      split at h
      · cases h
      · rename_i hb
        cases h
        refine ⟨rfl, ?_, ?_⟩ <;> rw [String.toList_ofList]
        · simpa using hn
        · simpa using hb
  · rintro ⟨ht, hn, hb⟩
    rw [ht, toList_trimmed] at hn hb
    unfold parse
    simp only
    rw [if_neg (by simpa using hn), if_neg (by simpa using hb), ← Text.trimmed, ← ht]

theorem parse_trimmed (raw : String) : parse (Text.trimmed raw) = parse raw := by
  unfold parse
  rw [toList_trimmed, Text.trim_trim]

theorem WellFormed.parse_text {l : Location} (h : l.WellFormed) : parse l.text = .ok l := by
  rw [parse_eq_ok_iff]
  exact ⟨by rw [Text.trimmed, Text.trim_of_not_blank h.2, String.ofList_toList], h⟩

/-- The locations that reading gives. -/
def Parsed (l : Location) : Prop := ∃ raw, parse raw = .ok l

theorem Parsed.parse_text {l : Location} (h : l.Parsed) : parse l.text = .ok l := by
  obtain ⟨raw, h⟩ := h
  exact (parse_eq_ok_iff.1 h).2.parse_text

end SlotBroker.Location
