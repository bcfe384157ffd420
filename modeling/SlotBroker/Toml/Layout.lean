import SlotBroker.Assoc
import SlotBroker.Toml.Value

/-!
# The tables of a TOML document

A document puts its values into tables as it goes. Every table is opened once: a table that a header
only passed through may still get a header of its own, a table that a dotted key passed through may
get further dotted keys, and no key is ever set twice.
-/

namespace SlotBroker.Toml

/-- How a table came to be: by a header of its own, on the way to another header, or on the way of a
dotted key. -/
inductive Origin
  | header
  | passed
  | dotted
  deriving DecidableEq, Repr

/-- What a key holds while the document is read. The elements of a list of tables are in order. -/
inductive Item
  | value (v : Value)
  | table (origin : Origin) (items : List (String × Item))
  | tables (elements : List (List (String × Item)))
  deriving Inhabited

abbrev Items := Assoc String Item

namespace Items

/-- Change the last of some tables. -/
def onLast (f : Items → Option Items) (elements : List Items) : Option (List Items) :=
  match elements.getLast? with
  | none => none
  | some e => (f e).map fun e => elements.dropLast ++ [e]

/-- Set a dotted key: the tables on its way are made, or have been made by dotted keys. -/
def set (v : Value) (key : String) : List String → Items → Option Items
  | [], t =>
    match Assoc.get? key t with
    | some _ => none
    | none => some (Assoc.put key (.value v) t)
  | k :: path, t =>
    match Assoc.get? k t with
    | none => (set v key path []).map fun s => Assoc.put k (.table .dotted s) t
    | some (.value _) => none
    | some (.tables es) =>
      if path.isEmpty then none
      else (onLast (set v key path) es).map fun es => Assoc.put k (.tables es) t
    | some (.table o s) =>
      if o = .header || (path.isEmpty && o != .dotted) then none
      else (set v key path s).map fun s => Assoc.put k (.table o s) t

/-- Change the table at the end of a path, through the last element of every list of tables. The
tables on the way are made where there are none. -/
def change (f : Items → Option Items) : List String → Items → Option Items
  | [], t => f t
  | k :: path, t =>
    match Assoc.get? k t with
    | none => (change f path []).map fun s => Assoc.put k (.table .passed s) t
    | some (.value _) => none
    | some (.tables es) => (onLast (change f path) es).map fun es => Assoc.put k (.tables es) t
    | some (.table o s) => (change f path s).map fun s => Assoc.put k (.table o s) t

/-- The header of a table. -/
def openTable (key : String) (t : Items) : Option Items :=
  match Assoc.get? key t with
  | none => some (Assoc.put key (.table .header []) t)
  | some (.table .passed s) => some (Assoc.put key (.table .header s) t)
  | some _ => none

/-- The header of one more element of a list of tables. -/
def openElement (key : String) (t : Items) : Option Items :=
  match Assoc.get? key t with
  | none => some (Assoc.put key (.tables [[]]) t)
  | some (.tables es) => some (Assoc.put key (.tables (es ++ [[]])) t)
  | some _ => none

end Items

mutual

/-- What a key holds in the end. -/
def Item.toValue : Item → Value
  | .value v => v
  | .table _ items => .table (toMembers items)
  | .tables es => .list (toElements es)

def toMembers : List (String × Item) → List (String × Value)
  | [] => []
  | (k, i) :: rest => (k, i.toValue) :: toMembers rest

def toElements : List (List (String × Item)) → List Value
  | [] => []
  | t :: ts => .table (toMembers t) :: toElements ts

end

end SlotBroker.Toml
