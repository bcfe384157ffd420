import SlotBroker.Text.Blank

/-!
# Locations

A location names a physical module slot, as the probe reports it. Reading one trims the text and
then asks for at least one character and no white space.
-/

namespace SlotBroker

/-- The key of a module slot. -/
structure Location where
  text : String
  deriving DecidableEq, Hashable, Repr, Inhabited

/-- Why a text is no location. -/
inductive LocationError
  | empty
  | blankInside (key : String)
  deriving DecidableEq, Repr

namespace LocationError

def message : LocationError → String
  | empty => "location key is empty"
  | blankInside key => s!"location key '{key}' contains whitespace"

end LocationError

namespace Location

/-- A key that reading can give: not empty, and without white space. -/
def WellFormed (l : Location) : Prop :=
  l.text.toList ≠ [] ∧ ∀ c ∈ l.text.toList, Text.isBlank c = false

instance (l : Location) : Decidable l.WellFormed :=
  @instDecidableAnd _ _ (inferInstanceAs (Decidable (¬ l.text.toList = [])))
    (List.decidableBAll _ _)

/-- Read a location: the trimmed text, if it is not empty and has no white space inside. -/
def parse (raw : String) : Except LocationError Location :=
  let key := Text.trim raw.toList
  if key.isEmpty then .error .empty
  else if key.any Text.isBlank then .error (.blankInside (String.ofList key))
  else .ok ⟨String.ofList key⟩

instance : ToString Location := ⟨Location.text⟩

end Location

end SlotBroker
