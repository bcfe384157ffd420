import SlotBroker.Text.Numeral

/-!
# JSON values

Values and their one written form: no blanks, members in order, and in texts an escape for the
quote, the backslash and the control characters only.
-/

namespace SlotBroker

inductive Json
  | null
  | bool (b : Bool)
  | int (i : Int)
  | real (digits : String)
  | text (s : String)
  | list (items : List Json)
  | record (members : List (String × Json))
  deriving Repr, Inhabited

namespace Json

mutual

/-- Values are compared as they are built, their items and members one by one. -/
def decEq (v w : Json) : Decidable (v = w) :=
  if h : v.ctorIdx = w.ctorIdx then
    match v, w, h with
    | .null, .null, _ => isTrue rfl
    | .bool a, .bool b, _ => decidable_of_iff (a = b) (by simp)
    | .int a, .int b, _ => decidable_of_iff (a = b) (by simp)
    | .real a, .real b, _ => decidable_of_iff (a = b) (by simp)
    | .text a, .text b, _ => decidable_of_iff (a = b) (by simp)
    | .list vs, .list ws, _ =>
      have := decItems vs ws
      decidable_of_iff (vs = ws) (by simp)
    | .record vs, .record ws, _ =>
      have := decMembers vs ws
      decidable_of_iff (vs = ws) (by simp)
  else isFalse fun he => h (he ▸ rfl)

def decItems : (vs ws : List Json) → Decidable (vs = ws)
  | [], [] => isTrue rfl
  | v :: vs, w :: ws =>
    have := decEq v w
    have := decItems vs ws
    decidable_of_iff (v = w ∧ vs = ws) (by simp)
  | [], _ :: _ => isFalse nofun
  | _ :: _, [] => isFalse nofun

def decMembers : (vs ws : List (String × Json)) → Decidable (vs = ws)
  | [], [] => isTrue rfl
  | (k, v) :: vs, (l, w) :: ws =>
    have := decEq v w
    have := decMembers vs ws
    decidable_of_iff ((k = l ∧ v = w) ∧ vs = ws) (by simp)
  | [], _ :: _ => isFalse nofun
  | _ :: _, [] => isFalse nofun

end

instance : DecidableEq Json := decEq

/-- How a character stands in a quoted text. -/
def escapeChar (c : Char) : List Char :=
  if c = '"' then ['\\', '"']
  else if c = '\\' then ['\\', '\\']
  else if c = '\n' then ['\\', 'n']
  else if c = '\r' then ['\\', 'r']
  else if c = '\t' then ['\\', 't']
  else if c = '\x08' then ['\\', 'b']
  else if c = '\x0c' then ['\\', 'f']
  else if c.toNat < 32 then
    ['\\', 'u', '0', '0', Text.digitChar (c.toNat / 16), Text.digitChar (c.toNat % 16)]
  else [c]

def quote (s : String) : List Char := '"' :: (s.toList.flatMap escapeChar ++ ['"'])

mutual

def writeValue : Json → List Char
  | null => "null".toList
  | bool true => "true".toList
  | bool false => "false".toList
  | int i => (Text.signedDecimal i).toList
  | real ds => ds.toList
  | text s => quote s
  | list [] => ['[', ']']
  | list (v :: vs) => '[' :: (writeValue v ++ writeItems vs)
  | record [] => ['{', '}']
  | record ((k, v) :: ms) => '{' :: (quote k ++ ':' :: (writeValue v ++ writeMembers ms))

/-- The items after the first, and the bracket. -/
def writeItems : List Json → List Char
  | [] => [']']
  | v :: vs => ',' :: (writeValue v ++ writeItems vs)

/-- The members after the first, and the brace. -/
def writeMembers : List (String × Json) → List Char
  | [] => ['}']
  | (k, v) :: ms => ',' :: (quote k ++ ':' :: (writeValue v ++ writeMembers ms))

end

def render (v : Json) : String := String.ofList (writeValue v)

def nat (n : Nat) : Json := int n

end Json

end SlotBroker
