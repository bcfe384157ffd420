import SlotBroker.Logging.Basic
import SlotBroker.Text.Blank

/-!
# Filters of the log

A filter is a list of directives. A directive gives a level to the events whose target starts with
a text, or, if it names a span, to everything inside spans of that name. Of the directives that fit
an event the most specific one counts: the one with the longest target, then the one that asks for
the most fields.
-/

namespace SlotBroker

/-- A level, or nothing at all. -/
abbrev LevelFilter := Option LogLevel

/-- The levels by number, none at all at zero. -/
def LevelFilter.ofNumber? : Nat → Option LevelFilter
  | 0 => some none
  | 1 => some (some .error)
  | 2 => some (some .warn)
  | 3 => some (some .info)
  | 4 => some (some .debug)
  | 5 => some (some .trace)
  | _ => none

/-- A level by name or number. -/
def LevelFilter.parse? (s : String) : Option LevelFilter :=
  match Text.readNat 10 UInt64.size s.toList with
  | .ok n => ofNumber? n
  | .error _ =>
    if s.isEmpty then some (some .error)
    else if Text.lowerAscii s = "off" then some none
    else (LogLevel.ofName? (Text.lowerAscii s)).map some

structure Directive where
  level : LevelFilter
  target : Option String
  span : Option String
  /-- The fields asked for, and whether a value is asked for too. -/
  fields : List (String × Bool)
  deriving DecidableEq, Repr, Inhabited

namespace Directive

/-- Where the reading of a directive stands. The numbers are positions. -/
inductive Reading
  | start
  | levelOrTarget (first : Nat)
  | span (first : Nat)
  | field (first : Nat)
  | fields
  | target
  | level (first : Nat)

/-- A letter or a digit of some script. -/
def isWordChar (c : Char) : Bool :=
  let n := c.toNat
  c.isAlphanum || (0x80 ≤ n && (isCasedLetter || isOtherLetter n))
where
  isCasedLetter : Bool := Text.isCased c
  isOtherLetter (n : Nat) : Bool :=
    (0x1BB ≤ n && n ≤ 0x2AF) || (0x5D0 ≤ n && n ≤ 0x64A) || (0x660 ≤ n && n ≤ 0x669)
      || (0x904 ≤ n && n ≤ 0x1FFF) || (0x3041 ≤ n && n ≤ 0x318E) || (0x3400 ≤ n && n ≤ 0x4DBF)
      || (0x4E00 ≤ n && n ≤ 0xA48C) || (0xAC00 ≤ n && n ≤ 0xD7A3) || (0xF900 ≤ n && n ≤ 0xFAD9)
      || (0x20000 ≤ n && n ≤ 0x323AF)

def canStart (c : Char) : Bool := c = '-' || c = ':' || c = '_' || isWordChar c

/-- A field with or without a value. -/
def readField (cs : List Char) : String × Bool :=
  (String.ofList (cs.takeWhile (· != '=')), cs.contains '=')

/-- A level, all levels if nothing is said. -/
def readLevel (cs : List Char) : Option LevelFilter :=
  if cs.isEmpty then some (some .trace) else LevelFilter.parse? (String.ofList cs)

/-- A single word: a level, or a target of which all levels are meant. -/
def readWord (cs : List Char) (d : Directive) : Directive :=
  if cs.isEmpty then { d with level := some .trace, target := none }
  else
    match LevelFilter.parse? (String.ofList cs) with
    | some l => { d with level := l, target := none }
    | none => { d with level := some .trace, target := some (String.ofList cs) }

/-- One character of a directive. `slice` cuts the directive between two positions. -/
def advance (slice : Nat → Nat → List Char) (i : Nat) (c : Char) (s : Reading) (d : Directive) :
    Option (Reading × Directive) :=
  match s with
  | .start =>
    if c = '[' then some (.span (i + 1), d)
    else if canStart c then some (.levelOrTarget i, d)
    else none
  | .levelOrTarget k =>
    if c = '=' then some (.level (i + 1), { d with target := some (String.ofList (slice k i)) })
    else if c = '[' then some (.span (i + 1), { d with target := some (String.ofList (slice k i)) })
    else some (s, d)
  | .span k =>
    if c = ']' then some (.target, { d with span := some (String.ofList (slice k i)) })
    else if c = '\x7b' then
      let name := slice k i
      some (.field (i + 1),
        { d with span := if name.isEmpty then none else some (String.ofList name) })
    else some (s, d)
  | .field k =>
    if c = '\x7d' then
      if (slice k i).isEmpty then none
      else some (.fields, { d with fields := d.fields ++ [readField (slice k i)] })
    else some (s, d)
  | .fields => if c = ']' then some (.target, d) else none
  | .target => if c = '=' then some (.level (i + 1), d) else none
  | .level _ => some (s, d)

def readAll (slice : Nat → Nat → List Char) :
    Nat → List Char → Reading → Directive → Option (Reading × Directive)
  | _, [], s, d => some (s, d)
  | i, c :: cs, s, d =>
    match advance slice i c s d with
    | none => none
    | some (s, d) => readAll slice (i + 1) cs s d

/-- Read a directive. Positions count from the first character that is not blank, and what they cut
out is cut from the whole text. -/
def parse? (cs : List Char) : Option Directive :=
  let slice (i k : Nat) : List Char := (cs.take k).drop i
  match readAll slice 0 (Text.trim cs) .start ⟨some .trace, none, none, []⟩ with
  | some (.levelOrTarget k, d) => some (readWord (cs.drop k) d)
  | some (.level k, d) => (readLevel (cs.drop k)).map fun l => { d with level := l }
  | some (.target, d) => some d
  | _ => none

/-- The directive is about spans. -/
def isDynamic (d : Directive) : Bool := d.span.isSome || !d.fields.isEmpty

/-- The directive is about events. -/
def isStatic (d : Directive) : Bool := d.span.isNone && !d.fields.any Prod.snd

end Directive

/-- The directives in a text, or nothing if one of them cannot be read. -/
def parseFilter (s : String) : Option (List Directive) :=
  ((s.toList.splitOn ',').filter fun cs => !cs.isEmpty).mapM Directive.parse?

/-- Something that can be logged: an event, or a span. -/
structure LogPoint where
  level : LogLevel
  target : String
  fields : List String
  isEvent : Bool
  name : String

namespace LogPoint

def underTarget (p : LogPoint) (d : Directive) : Bool :=
  match d.target with
  | some t => t.toList.isPrefixOf p.target.toList
  | none => true

/-- A directive about events fits. -/
def fits (p : LogPoint) (d : Directive) : Bool :=
  d.isStatic && p.underTarget d
    && (!p.isEvent || d.fields.all fun f => p.fields.contains f.1)

/-- A directive about spans fits. -/
def fitsSpan (p : LogPoint) (d : Directive) : Bool :=
  d.isDynamic && p.underTarget d && d.span.all (· == p.name)
    && d.fields.all fun f => p.fields.contains f.1

end LogPoint

def LevelFilter.shows (f : LevelFilter) (l : LogLevel) : Bool :=
  match f with
  | some m => m.shows l
  | none => false

/-- How specific a directive about events is. -/
def Directive.specificity (d : Directive) : Nat × Nat :=
  (d.target.elim 0 fun t => t.utf8ByteSize + 1, d.fields.length)

/-- The later or more specific of two directives. -/
def Directive.prefer (best d : Directive) : Directive :=
  let a := best.specificity
  let b := d.specificity
  if a.1 < b.1 ∨ (a.1 = b.1 ∧ a.2 ≤ b.2) then d else best

/-- The level that the directives about events give. -/
def staticLevel (ds : List Directive) (p : LogPoint) : LevelFilter :=
  match ds.filter p.fits with
  | [] => none
  | d :: rest => (rest.foldl Directive.prefer d).level

/-- The greater of two levels. -/
def LevelFilter.max (a b : LevelFilter) : LevelFilter :=
  match a, b with
  | some l, some m => if l.shows m then some l else some m
  | some l, none => some l
  | none, b => b

def greatestLevel (ls : List LevelFilter) : LevelFilter := ls.foldl LevelFilter.max none

/-- The level inside a span, if a directive names it. -/
def spanLevel (ds : List Directive) (span : LogPoint) : Option LevelFilter :=
  match ds.filter span.fitsSpan with
  | [] => none
  | found => some (greatestLevel (found.map Directive.level))

/-- A span is recorded. -/
def showsSpan (ds : List Directive) (span : LogPoint) : Bool :=
  ((spanLevel ds span).isSome && (greatestLevel (ds.map Directive.level)).shows span.level)
    || (staticLevel ds span).shows span.level

/-- An event inside a span is recorded. -/
def showsEvent (ds : List Directive) (span event : LogPoint) : Bool :=
  (showsSpan ds span && ((spanLevel ds span).getD none).shows event.level)
    || (staticLevel ds event).shows event.level

end SlotBroker
