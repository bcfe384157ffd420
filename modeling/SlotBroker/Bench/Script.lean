import SlotBroker.Assoc
import SlotBroker.Backend.Simulated
import SlotBroker.Backend.Table
import SlotBroker.Platform.Journal
import SlotBroker.Platform.Probe
import SlotBroker.Platform.StaticMap
import SlotBroker.Session

/-!
# Scripted collaborators

For a bench without hardware the probe, the platform and the backends follow scripts. A script says
how long an operation takes, in milliseconds, and what it comes to. The scripted platform and the
scripted backends count what they are asked.
-/

namespace SlotBroker.Bench

/-! ## Programs -/

/-- What a scripted program does: wait, print, and end. -/
structure Run where
  stdout : List UInt8
  stderr : List UInt8
  status : ExitStatus
  sleepMs : Nat
  deriving Repr, Inhabited

/-- What a scripted program does with each argument, the star standing for every other one. -/
abbrev ProgramScript := Assoc String Run

/-- What the program does with an argument for which there is no script. -/
def Run.silent : Run := ⟨[], [], .code 98, 0⟩

def ProgramScript.runFor (s : ProgramScript) (argument : String) : Run :=
  ((Assoc.get? argument s).or (Assoc.get? "*" s)).getD Run.silent

/-- What lies at the path of a program. -/
inductive Place
  | script
  | missing
  | forbidden
  | notADirectory

/-- The names in a path, without those that stay where they are. -/
def pathNames (path : List Char) : List (List Char) :=
  ((path.splitOn '/').filter fun n => !n.isEmpty).filter fun n => n ≠ ['.']

/-- What a path leads to on the bench, where the program `probe.sh` and the plain file `plain.txt`
lie in the working directory. A bare name is looked for among the installed programs. -/
def placeOf (path : String) : Place :=
  let cs := path.toList
  if cs.isEmpty then .missing
  else if !cs.contains '/' then
    if path = "." ∨ path = ".." then .forbidden else .missing
  else if cs.head? = some '/' then
    if (pathNames cs).isEmpty then .forbidden else .missing
  else
    let names := (pathNames cs).map String.ofList
    let asDirectory := cs.getLast? = some '/' ∨ path.endsWith "/."
    match names with
    | [] => .forbidden
    | [".."] => .forbidden
    | ["probe.sh"] => if asDirectory then .notADirectory else .script
    | ["plain.txt"] => if asDirectory then .notADirectory else .forbidden
    | "probe.sh" :: _ => .notADirectory
    | "plain.txt" :: _ => .notADirectory
    | _ => .missing

/-- The longest argument that a program can be given, in bytes. -/
def longestArgument : Nat := 131071

/-- Running the probe takes a while even if its script does not wait. -/
def startMs : Nat := 3

/-- Run the probe with an argument: what it comes to, and after how long. -/
def execute (p : Probe) (s : ProgramScript) (argument : String) : Execution × Nat :=
  if p.program.toList.contains '\x00' ∨ argument.toList.contains '\x00' then
    (.notStarted "nul byte found in provided data", 0)
  else
    match placeOf p.program with
    | .missing => (.notStarted "No such file or directory (os error 2)", 0)
    | .forbidden => (.notStarted "Permission denied (os error 13)", 0)
    | .notADirectory => (.notStarted "Not a directory (os error 20)", 0)
    | .script =>
      if longestArgument < argument.utf8ByteSize then
        (.notStarted "Argument list too long (os error 7)", 0)
      else
        let run := s.runFor argument
        if p.timeout.millis ≤ run.sleepMs then (.overran, p.timeout.millis)
        else (.ended run.status run.stdout run.stderr, run.sleepMs + startMs)

/-! ## Platforms -/

/-- A platform that answers from a script and counts the questions. -/
structure ScriptedPlatform where
  adapter : Adapter
  locations : Except BrokerError (List Location)
  backends : Assoc String (Except BrokerError BackendName)
  resolveMs : Nat
  enumerateMs : Nat
  enumerations : Nat
  resolutions : Assoc Location Nat

instance : Inhabited ScriptedPlatform := ⟨⟨.static, .ok [], [], 0, 0, 0, []⟩⟩

namespace ScriptedPlatform

def enumerate (p : ScriptedPlatform) : ScriptedPlatform :=
  { p with enumerations := p.enumerations + 1 }

def resolve (l : Location) (p : ScriptedPlatform) :
    ScriptedPlatform × Except BrokerError BackendName :=
  let count := (Assoc.get? l p.resolutions).getD 0 + 1
  ({ p with resolutions := Assoc.put l count p.resolutions },
    (Assoc.get? l.text p.backends).getD (.error (.unknownLocation l)))

end ScriptedPlatform

inductive Platform
  | fixed (map : StaticMap)
  | exec (probe : Probe) (script : ProgramScript)
  | scripted (platform : ScriptedPlatform)

instance : Inhabited Platform := ⟨.fixed ⟨[]⟩⟩

def Platform.adapter : Platform → Adapter
  | .fixed _ => .static
  | .exec _ _ => .exec
  | .scripted p => p.adapter

/-! ## Backends -/

/-- A failure that a scripted backend is told to have. -/
structure ScriptedFault where
  kind : BackendErrorKind
  detail : String
  deriving DecidableEq, Repr

def ScriptedFault.toError (f : ScriptedFault) (name : BackendName) : BackendError :=
  ⟨name.text, f.kind, f.detail⟩

/-- A backend that follows a script. All that is loaded under it share its state. -/
structure Double where
  firstHandle : UInt64
  loadMs : Nat
  attachMs : Nat
  detachMs : Nat
  load : Option ScriptedFault
  attach : Option ScriptedFault
  detach : Option ScriptedFault
  unload : Option ScriptedFault
  loads : Nat
  next : UInt64
  live : List UInt64
  deriving Repr, Inhabited

/-- A change of a scripted backend. -/
inductive DoubleSetting
  | loadMs (ms : Nat)
  | attachMs (ms : Nat)
  | detachMs (ms : Nat)
  | load (fault : Option ScriptedFault)
  | attach (fault : Option ScriptedFault)
  | detach (fault : Option ScriptedFault)
  | unload (fault : Option ScriptedFault)
  deriving Repr

namespace Double

/-- A backend that does everything at once and without failure, from a first handle on. -/
def new (firstHandle : UInt64) : Double :=
  ⟨firstHandle, 0, 0, 0, none, none, none, none, 0, firstHandle, []⟩

def set (d : Double) : DoubleSetting → Double
  | .loadMs ms => { d with loadMs := ms }
  | .attachMs ms => { d with attachMs := ms }
  | .detachMs ms => { d with detachMs := ms }
  | .load f => { d with load := f }
  | .attach f => { d with attach := f }
  | .detach f => { d with detach := f }
  | .unload f => { d with unload := f }

/-- Put a handle among the live ones, in ascending order. -/
def insertHandle (h : UInt64) : List UInt64 → List UInt64
  | [] => [h]
  | x :: xs =>
    if h < x then h :: x :: xs else if h = x then x :: xs else x :: insertHandle h xs

def attachNow (name : BackendName) (d : Double) : Double × Except BackendError Handle :=
  match d.attach with
  | some f => (d, .error (f.toError name))
  | none => ({ d with next := d.next + 1, live := insertHandle d.next d.live }, .ok ⟨d.next⟩)

def detachNow (name : BackendName) (h : Handle) (d : Double) :
    Double × Except BackendError Unit :=
  match d.detach with
  | some f => (d, .error (f.toError name))
  | none => ({ d with live := d.live.filter fun x => x != h.id }, .ok ())

def unloadNow (name : BackendName) (d : Double) : Except BackendError Unit :=
  match d.unload with
  | some f => .error (f.toError name)
  | none => .ok ()

end Double

/-- What loads backends on the bench. -/
inductive Factory
  | simulated (latencyMs : Nat)
  | double (double : Double)
  deriving Inhabited

/-- A loaded backend. A scripted one is known by its factory. -/
inductive Instance
  | simulated (backend : SimulatedBackend)
  | double (factory : FactoryId) (name : BackendName)
  deriving Inhabited

end SlotBroker.Bench
