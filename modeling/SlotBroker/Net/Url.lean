import SlotBroker.Net.Host

/-!
# URLs

Of a URL only its scheme, its host and its port are read. Some schemes are about hosts and always
need one. A port that is the usual one of its scheme counts as not given.
-/

namespace SlotBroker.Net

/-- The beginning of a URL. -/
structure Url where
  scheme : String
  host : Option Host
  port : Option UInt16
  deriving DecidableEq

namespace Url

/-- Schemes that are about hosts, the scheme of files, and all others. -/
inductive SchemeKind
  | hosts (usualPort : UInt16)
  | file
  | other
  deriving DecidableEq, Repr

def SchemeKind.ofScheme (scheme : List Char) : SchemeKind :=
  match String.ofList scheme with
  | "http" => hosts 80
  | "ws" => hosts 80
  | "https" => hosts 443
  | "wss" => hosts 443
  | "ftp" => hosts 21
  | "file" => file
  | _ => other

/-- A backslash is a slash. -/
def SchemeKind.readsBackslash : SchemeKind → Bool
  | other => false
  | _ => true

def isControlOrSpace (c : Char) : Bool := c.toNat ≤ 0x20

/-- The text without control characters at its ends, and without tabs and line ends. -/
def cleaned (cs : List Char) : List Char :=
  let trimmed := ((cs.dropWhile isControlOrSpace).reverse.dropWhile isControlOrSpace).reverse
  trimmed.filter fun c => !(c = '\t' || c = '\n' || c = '\r')

def isSchemeChar (c : Char) : Bool := c.isAlphanum || c = '+' || c = '-' || c = '.'

/-- The scheme in lower case and what stands after its colon. -/
def splitScheme (cs : List Char) : Option (List Char × List Char) :=
  match cs.takeWhile isSchemeChar, cs.dropWhile isSchemeChar with
  | c :: scheme, ':' :: rest =>
    if c.isAlpha then some ((c :: scheme).map Char.toLower, rest) else none
  | _, _ => none

/-- A character that ends the part with the host. -/
def endsAuthority (backslash : Bool) (c : Char) : Bool :=
  c = '/' || c = '?' || c = '#' || (backslash && c = '\\')

/-- What stands before the last at sign, if there is one, and what stands after it. -/
def splitUser (cs : List Char) : Option (List Char) × List Char :=
  if cs.contains '@' then
    let after := (cs.reverse.takeWhile (· != '@')).reverse
    (some (cs.take (cs.length - after.length - 1)), after)
  else (none, cs)

/-- The host, up to the first colon outside brackets, and what stands after it. -/
def splitHost : Bool → List Char → List Char × List Char
  | _, [] => ([], [])
  | inside, c :: cs =>
    if c = ':' && !inside then ([], c :: cs)
    else
      let rest := splitHost (if c = '[' then true else if c = ']' then false else inside) cs
      (c :: rest.1, rest.2)

/-- The digits of a port. No digits are no port. -/
def readPort (cs : List Char) : Except UrlFault (Option UInt16) :=
  if cs.isEmpty then .ok none
  else if cs.all Char.isDigit then
    match Text.readDigits 10 UInt16.size 0 cs with
    | .ok n => .ok (some (UInt16.ofNat n))
    | .error _ => .error .port
  else .error .port

/-- The port after the host. -/
def portAfter (usual : Option UInt16) : List Char → Except UrlFault (Option UInt16)
  | ':' :: cs =>
    match readPort (cs.takeWhile (· != '\\')) with
    | .ok p => .ok (if p = usual then none else p)
    | .error f => .error f
  | _ => .ok none

/-- A user that is told leaves a trace, unless it is nothing but a colon. -/
def isTrace (user : Option (List Char)) : Bool :=
  match user with
  | none => false
  | some u => u ≠ [] && u ≠ [':']

/-- The rest of a URL of a scheme that is about hosts. -/
def parseWithHost [DomainNames] (scheme : String) (usual : UInt16) (cs : List Char) :
    Except UrlFault Url :=
  let authority := cs.takeWhile fun c => !endsAuthority true c
  let parts := splitHost false (splitUser authority).2
  if parts.1.isEmpty then .error .emptyHost
  else
    match Host.parse parts.1 with
    | .error f => .error f
    | .ok h =>
      match portAfter (some usual) parts.2 with
      | .error f => .error f
      | .ok p => .ok ⟨scheme, some h, p⟩

/-- The rest of a URL of some other scheme, after two slashes. Its host may be empty, but not if a
user or a port is told. -/
def parseOther (scheme : String) (cs : List Char) : Except UrlFault Url :=
  let authority := cs.takeWhile fun c => !endsAuthority false c
  let user := (splitUser authority).1
  let parts := splitHost false (splitUser authority).2
  if user = some [] && parts.1.isEmpty && parts.2.isEmpty && authority.length < cs.length then
    .error .emptyHost
  else if parts.1.isEmpty then
    if isTrace user || !parts.2.isEmpty then .error .emptyHost else .ok ⟨scheme, none, none⟩
  else
    match Host.parseOpaque parts.1 with
    | .error f => .error f
    | .ok h =>
      match portAfter none parts.2 with
      | .error f => .error f
      | .ok p => .ok ⟨scheme, some h, p⟩

def isSlash (c : Char) : Bool := c = '/' || c = '\\'

/-- A letter that names a drive. -/
def isDrive : List Char → Bool
  | [c, d] => c.isAlpha && (d = ':' || d = '|')
  | _ => false

/-- The rest of a URL of a file, which may tell a host after two slashes. -/
def parseFile [DomainNames] (scheme : String) (cs : List Char) : Except UrlFault Url :=
  match cs with
  | a :: b :: rest =>
    let text := rest.takeWhile fun c => !endsAuthority true c
    if !isSlash a || !isSlash b || text.isEmpty || isDrive text then .ok ⟨scheme, none, none⟩
    else (Host.parse text).map fun h => ⟨scheme, some h, none⟩
  | _ => .ok ⟨scheme, none, none⟩

def parse [DomainNames] (cs : List Char) : Except UrlFault Url :=
  match splitScheme (cleaned cs) with
  | none => .error .noScheme
  | some (scheme, rest) =>
    let name := String.ofList scheme
    match SchemeKind.ofScheme scheme with
    | .hosts usual => parseWithHost name usual (rest.dropWhile isSlash)
    | .file => parseFile name rest
    | .other =>
      match rest with
      | '/' :: '/' :: rest => parseOther name rest
      | _ => .ok ⟨name, none, none⟩

end Url

end SlotBroker.Net
