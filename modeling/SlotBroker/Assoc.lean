/-!
# Association lists

Finite maps as lists of pairs, in the order in which the keys were first put. `get?` reads the
first pair of a key, and `put` writes there or at the end, so no operation here makes a key occur
twice.

Who goes through all entries of a map need not meet them in that order. An `Arrangement` says in
which order they come.
-/

namespace SlotBroker

/-- A finite map, in the order of first insertion. -/
abbrev Assoc (κ ν : Type) := List (κ × ν)

namespace Assoc

variable {κ ν : Type} [DecidableEq κ]

def get? (k : κ) : Assoc κ ν → Option ν
  | [] => none
  | (k', v) :: m => if k' = k then some v else get? k m

def put (k : κ) (v : ν) : Assoc κ ν → Assoc κ ν
  | [] => [(k, v)]
  | (k', v') :: m => if k' = k then (k, v) :: m else (k', v') :: put k v m

def erase (k : κ) : Assoc κ ν → Assoc κ ν
  | [] => []
  | (k', v) :: m => if k' = k then erase k m else (k', v) :: erase k m

/-- Change the value of a key that is present. -/
def modify (k : κ) (f : ν → ν) : Assoc κ ν → Assoc κ ν
  | [] => []
  | (k', v) :: m => if k' = k then (k', f v) :: m else (k', v) :: modify k f m

def keys (m : Assoc κ ν) : List κ := m.map Prod.fst

@[simp] theorem get?_nil (k : κ) : get? k ([] : Assoc κ ν) = none := rfl

@[simp] theorem get?_put_self (k : κ) (v : ν) (m : Assoc κ ν) : get? k (put k v m) = some v := by
  induction m with
  | nil => simp [put, get?]
  | cons p m ih => by_cases h : p.1 = k <;> simp [put, get?, h, ih]

theorem get?_put_of_ne {k k' : κ} (h : k' ≠ k) (v : ν) (m : Assoc κ ν) :
    get? k (put k' v m) = get? k m := by
  induction m with
  | nil => simp [put, get?, h]
  | cons p m ih =>
    by_cases h₁ : p.1 = k'
    · simp [put, get?, h₁, h]
    · by_cases h₂ : p.1 = k <;> simp_all [put, get?]

@[simp] theorem get?_erase_self (k : κ) (m : Assoc κ ν) : get? k (erase k m) = none := by
  induction m with
  | nil => rfl
  | cons p m ih => by_cases h : p.1 = k <;> simp [erase, get?, h, ih]

theorem get?_erase_of_ne {k k' : κ} (h : k' ≠ k) (m : Assoc κ ν) :
    get? k (erase k' m) = get? k m := by
  induction m with
  | nil => rfl
  | cons p m ih =>
    by_cases h₁ : p.1 = k'
    · simp [erase, get?, h₁, h, ih]
    · by_cases h₂ : p.1 = k <;> simp_all [erase, get?]

end Assoc

/-- The order in which the entries of a map come when all of them are gone through: any order, but
every entry once. -/
structure Arrangement (α : Type) where
  arrange : List α → List α
  perm : ∀ xs, (arrange xs).Perm xs

namespace Arrangement

variable {α : Type}

/-- The order in which the entries were put. -/
def asPut : Arrangement α := ⟨id, fun _ => .refl _⟩

/-- The latest entry first. -/
def latestFirst : Arrangement α := ⟨List.reverse, List.reverse_perm⟩

instance : Inhabited (Arrangement α) := ⟨asPut⟩

@[simp] theorem mem_arrange {o : Arrangement α} {xs : List α} {x : α} :
    x ∈ o.arrange xs ↔ x ∈ xs := (o.perm xs).mem_iff

end Arrangement

end SlotBroker
