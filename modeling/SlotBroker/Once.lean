import SlotBroker.Assoc

/-!
# Values computed once

A cell holds a value that is computed at most once. Whoever needs it stands in line, and the head
of the line computes. When the computation succeeds the value stays and everybody reads it; when it
fails, or is given up, the next in line computes again.

A cache is a family of cells by key. Clearing it forgets which cell belongs to which key, so that
the next request gets a new cell; those who stand at an old cell stay there.
-/

namespace SlotBroker

/-- A value computed at most once, and the line of those who wait for it. -/
structure Once (ω α : Type) where
  value : Option α
  line : List ω
  deriving Repr, Inhabited

/-- What someone who waits at a cell can do. -/
inductive Turn (α : Type)
  | ready (value : α)
  | compute
  | wait
  deriving DecidableEq, Repr

namespace Once

variable {ω α : Type} [DecidableEq ω]

def empty : Once ω α := ⟨none, []⟩

/-- Stand in line, unless the value is there. -/
def join (w : ω) (c : Once ω α) : Once ω α :=
  if c.value.isSome then c else { c with line := c.line ++ [w] }

def turn (w : ω) (c : Once ω α) : Turn α :=
  match c.value with
  | some a => .ready a
  | none => if c.line.head? = some w then .compute else .wait

/-- The value is there, and nobody has to wait any more. -/
def fill (a : α) (_ : Once ω α) : Once ω α := ⟨some a, []⟩

def leave (w : ω) (c : Once ω α) : Once ω α := { c with line := c.line.erase w }

end Once

/-- Cells by key: every cell ever made, by number, and the present cell of each key. -/
structure OnceMap (κ ω α : Type) where
  cells : List (Once ω α)
  index : Assoc κ Nat
  deriving Repr, Inhabited

namespace OnceMap

variable {κ ω α : Type} [DecidableEq κ] [DecidableEq ω]

def empty : OnceMap κ ω α := ⟨[], []⟩

/-- The number of the present cell of a key. -/
def cellOf? (k : κ) (m : OnceMap κ ω α) : Option Nat := Assoc.get? k m.index

/-- The value in a cell, if it has been computed. -/
def valueAt? (cell : Nat) (m : OnceMap κ ω α) : Option α := m.cells[cell]? |>.bind Once.value

/-- The value of a key, if it has been computed since the cache was last cleared. -/
def get? (k : κ) (m : OnceMap κ ω α) : Option α := (m.cellOf? k).bind fun c => m.valueAt? c

def modifyCell (cell : Nat) (f : Once ω α → Once ω α) (m : OnceMap κ ω α) : OnceMap κ ω α :=
  { m with cells := m.cells.modify cell f }

/-- Go to the present cell of a key, which is made if there is none, and stand in its line. -/
def join (w : ω) (k : κ) (m : OnceMap κ ω α) : OnceMap κ ω α × Nat :=
  match m.cellOf? k with
  | some cell => (m.modifyCell cell (Once.join w), cell)
  | none =>
    (⟨m.cells ++ [Once.join w Once.empty], Assoc.put k m.cells.length m.index⟩, m.cells.length)

def turn (w : ω) (cell : Nat) (m : OnceMap κ ω α) : Turn α :=
  match m.cells[cell]? with
  | some c => c.turn w
  | none => .wait

def fill (cell : Nat) (a : α) (m : OnceMap κ ω α) : OnceMap κ ω α :=
  m.modifyCell cell (Once.fill a)

def leave (w : ω) (cell : Nat) (m : OnceMap κ ω α) : OnceMap κ ω α :=
  m.modifyCell cell (Once.leave w)

/-- Forget which cell belongs to which key. -/
def clear (m : OnceMap κ ω α) : OnceMap κ ω α := { m with index := [] }

/-- The keys whose value has been computed. -/
def computed (m : OnceMap κ ω α) : List κ :=
  (m.index.filter fun p => (m.valueAt? p.2).isSome).map Prod.fst

end OnceMap

end SlotBroker
