import SlotBroker.Decimal.Shortest

/-!
# TOML values

What a TOML document holds. Of dates and times only that they are there is kept.
-/

namespace SlotBroker.Toml

inductive Value
  | bool (b : Bool)
  | int (i : Int)
  | float (d : Decimal.Double)
  | text (s : String)
  | moment
  | list (items : List Value)
  | table (members : List (String × Value))
  deriving Repr, Inhabited

namespace Value

mutual

/-- Values are compared as they are built, their items and members one by one. -/
def decEq (v w : Value) : Decidable (v = w) :=
  if h : v.ctorIdx = w.ctorIdx then
    match v, w, h with
    | .bool a, .bool b, _ => decidable_of_iff (a = b) (by simp)
    | .int a, .int b, _ => decidable_of_iff (a = b) (by simp)
    | .float a, .float b, _ => decidable_of_iff (a = b) (by simp)
    | .text a, .text b, _ => decidable_of_iff (a = b) (by simp)
    | .moment, .moment, _ => isTrue rfl
    | .list vs, .list ws, _ =>
      have := decItems vs ws
      decidable_of_iff (vs = ws) (by simp)
    | .table vs, .table ws, _ =>
      have := decMembers vs ws
      decidable_of_iff (vs = ws) (by simp)
  else isFalse fun he => h (he ▸ rfl)

def decItems : (vs ws : List Value) → Decidable (vs = ws)
  | [], [] => isTrue rfl
  | v :: vs, w :: ws =>
    have := decEq v w
    have := decItems vs ws
    decidable_of_iff (v = w ∧ vs = ws) (by simp)
  | [], _ :: _ => isFalse nofun
  | _ :: _, [] => isFalse nofun

def decMembers : (vs ws : List (String × Value)) → Decidable (vs = ws)
  | [], [] => isTrue rfl
  | (k, v) :: vs, (l, w) :: ws =>
    have := decEq v w
    have := decMembers vs ws
    decidable_of_iff ((k = l ∧ v = w) ∧ vs = ws) (by simp)
  | [], _ :: _ => isFalse nofun
  | _ :: _, [] => isFalse nofun

end

instance : DecidableEq Value := decEq

end Value

end SlotBroker.Toml
