import SlotBroker.Backend
import SlotBroker.Once

/-!
# The backend table

The table finds the loaded backend for a name and has it loaded on first use: by the factory
registered for the name, else by the fallback, else not at all. Callers that need the same name
share one load. Unloading takes the cells of the table away at once and then goes through those
that hold a backend, in an order that nobody can rely on: it is a parameter of the table. A cell
that was taken away never comes back, so one order of cells gives every unloading an order of its
own.

Backends are known by the order in which their loads succeeded.
-/

namespace SlotBroker

/-- Names one call of the broker among those in progress. -/
abbrev CallId := Nat

/-- Names a factory. -/
abbrev FactoryId := Nat

/-- Names a loaded backend: how many were loaded before it. -/
abbrev InstanceId := Nat

structure BackendTable where
  factories : Assoc BackendName FactoryId
  fallback : Option FactoryId
  loads : OnceMap BackendName CallId InstanceId
  loadCount : Nat
  /-- The order in which cells are taken out of the table. -/
  order : Arrangement Nat
  deriving Inhabited

/-- What a caller who needs a backend learns. -/
inductive LoadTurn
  | wait
  | load (factory : FactoryId)
  | done (result : Except BackendError InstanceId)

namespace BackendTable

def empty (order : Arrangement Nat) (fallback : Option FactoryId) : BackendTable :=
  ⟨[], fallback, OnceMap.empty, 0, order⟩

/-- Use a factory for a name from now on. A backend loaded before stays. -/
def register (name : BackendName) (f : FactoryId) (t : BackendTable) : BackendTable :=
  { t with factories := Assoc.put name f t.factories }

def factoryFor? (name : BackendName) (t : BackendTable) : Option FactoryId :=
  (Assoc.get? name t.factories).or t.fallback

/-- Stand in the line for a name; the cell is the place to ask at. -/
def join (w : CallId) (name : BackendName) (t : BackendTable) : BackendTable × Nat :=
  let r := t.loads.join w name
  ({ t with loads := r.1 }, r.2)

def leave (w : CallId) (cell : Nat) (t : BackendTable) : BackendTable :=
  { t with loads := t.loads.leave w cell }

/-- Ask at a cell whether the backend is there, or the load is ours to start. -/
def turn (w : CallId) (name : BackendName) (cell : Nat) (t : BackendTable) :
    BackendTable × LoadTurn :=
  match t.loads.turn w cell with
  | .ready i => (t, .done (.ok i))
  | .wait => (t, .wait)
  | .compute =>
    match t.factoryFor? name with
    | some f => (t, .load f)
    | none => (t.leave w cell, .done (.error (BackendError.unsupported name)))

/-- A load has ended. -/
def loaded (w : CallId) (cell : Nat) (r : Except BackendError Unit) (t : BackendTable) :
    BackendTable × Except BackendError InstanceId :=
  match r with
  | .ok () =>
    ({ t with loads := t.loads.fill cell t.loadCount, loadCount := t.loadCount + 1 },
      .ok t.loadCount)
  | .error e => (t.leave w cell, .error e)

/-- The names of the loaded backends, in ascending order. -/
def loadedNames (t : BackendTable) : List BackendName :=
  t.loads.computed.mergeSort fun a b => decide (a.text ≤ b.text)

/-- Take all cells out of the table, to be unloaded one after another. -/
def takeAll (t : BackendTable) : BackendTable × List Nat :=
  ({ t with loads := t.loads.clear }, t.order.arrange (t.loads.index.map Prod.snd))

theorem takeAll_perm (t : BackendTable) : t.takeAll.2.Perm (t.loads.index.map Prod.snd) :=
  t.order.perm _

theorem mem_takeAll {c : Nat} {t : BackendTable} :
    c ∈ t.takeAll.2 ↔ c ∈ t.loads.index.map Prod.snd := t.takeAll_perm.mem_iff

theorem takeAll_of_index_nil {t : BackendTable} (h : t.loads.index = []) : t.takeAll.2 = [] := by
  have hp := t.takeAll_perm
  rw [h] at hp
  exact hp.eq_nil

/-- The first of the cells that holds a backend, and the cells after it. -/
def nextLoaded (t : BackendTable) : List Nat → Option (InstanceId × List Nat)
  | [] => none
  | c :: cs =>
    match t.loads.valueAt? c with
    | some i => some (i, cs)
    | none => nextLoaded t cs

end BackendTable

end SlotBroker
