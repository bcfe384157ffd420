import SlotBroker.Client.Error
import SlotBroker.Environment
import SlotBroker.Net.Url
import SlotBroker.Text.Blank

/-!
# Addresses

Where a broker is: a host and a port. A host with a colon in it is an IPv6 address and is written in
brackets.
-/

namespace SlotBroker

structure Address where
  host : String
  port : UInt16
  deriving DecidableEq, Repr, Inhabited

namespace Address

def defaultHost : String := "127.0.0.1"

def defaultPort : UInt16 := 50051

/-- The address of a broker of which nothing is known. -/
def standard : Address := ⟨defaultHost, defaultPort⟩

def render (a : Address) : String :=
  let port := Text.decimal a.port.toNat
  if a.host.toList.contains ':' then s!"[{a.host}]:{port}" else s!"{a.host}:{port}"

def uri (a : Address) : String := "http://" ++ a.render

instance : ToString Address := ⟨render⟩

/-- The variable that names the host of the broker. -/
def hostVariable : String := "MODULE_BROKER_SERVER_ADDRESS"

/-- The variable that names the port of the broker. -/
def portVariable : String := "MODULE_BROKER_SERVER_PORT"

/-- The port that a text names, blanks around it aside. -/
def readPort (s : String) : Option UInt16 :=
  match Text.readNat 10 UInt16.size (Text.trim s.toList) with
  | .ok n => some (UInt16.ofNat n)
  | .error _ => none

/-- The standard address, with what the environment says in its place. A blank host says nothing. -/
def ofEnvironment (env : Environment) : Except ClientError Address :=
  let host :=
    match (env.get? hostVariable).map Text.trimmed with
    | some h => if h.isEmpty then defaultHost else h
    | none => defaultHost
  match env.get? portVariable with
  | none => .ok ⟨host, defaultPort⟩
  | some s =>
    match readPort s with
    | some p => .ok ⟨host, p⟩
    | none => .error (.invalidAddress s!"{portVariable}={s} is not a port")

/-- The text has a scheme of its own, as it seems. -/
def hasScheme : List Char → Bool
  | [] => false
  | ':' :: '/' :: '/' :: _ => true
  | _ :: cs => hasScheme cs

/-- The scheme by which a broker is reached. -/
def scheme : String := "http"

/-- The address in a URL. -/
def ofUrl (u : Net.Url) : Except ClientError Address :=
  if u.scheme ≠ scheme then
    .error (.invalidAddress s!"unsupported scheme '{u.scheme}' (use {scheme})")
  else
    match u.host with
    | some h => .ok ⟨h.render, u.port.getD defaultPort⟩
    | none => .error (.invalidAddress "address must include a host")

/-- Read an address: a URL, or what stands in one after its scheme. -/
def parse [Net.DomainNames] (s : String) : Except ClientError Address :=
  let cs := Text.trim s.toList
  if cs.isEmpty then .error (.invalidAddress "address cannot be empty")
  else
    let url := if hasScheme cs then cs else "http://".toList ++ cs
    match Net.Url.parse url with
    | .error f => .error (.invalidAddress f.message)
    | .ok u => ofUrl u

end Address

end SlotBroker
