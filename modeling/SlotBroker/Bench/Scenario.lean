import SlotBroker.Bench.World

/-!
# Scenarios

A scenario is a list of steps on a bench, carried out one after another or several at a time. A step
may be put off for a while, and it may be given up if it takes too long. Steps that are carried out
at a time start in their order, and each is carried on until it waits.
-/

namespace SlotBroker.Bench

/-- What a step does. -/
inductive Action
  | call (c : Call)
  /-- Create a session at the location that a text names. -/
  | create (text : String)
  | get (oid : Oid)
  | info (oid : Oid)
  | sessions
  | count
  | loaded
  | reset
  | sleep (ms : Nat)
  | program (script : ProgramScript)
  | platform (change : ScriptedPlatform → ScriptedPlatform)
  | fault (name : String) (settings : List DoubleSetting)
  | calls
  | double (name : String)
  | unknown

/-- What a step answers. -/
inductive Answer
  | outcome (o : Outcome)
  | session (r : Except BrokerError Session)
  | info (r : Except BrokerError ModuleInfo)
  | sessions (ss : List Session)
  | count (n : Nat)
  | loaded (names : List BackendName)
  | done
  | calls (enumerations : Nat) (resolutions : Assoc Location Nat)
  | double (loads : Nat) (live : List UInt64)
  | noDouble
  | badLocation (e : LocationError)
  | cancelled
  | unknown
  | group (answers : List Answer)

/-- A step: how long it is put off, and after how long it is given up. -/
structure TimedAction where
  afterMs : Nat
  cancelMs : Option Nat
  action : Action

/-- A step by itself, or several steps at a time. -/
inductive Step
  | one (s : TimedAction)
  | together (afterMs : Nat) (cancelMs : Option Nat) (steps : List TimedAction)

/-- Where a step that is being carried out stands. -/
inductive Fiber
  | asleep (wake : Nat) (step : TimedAction)
  | resting (wake : Nat) (deadline : Option Nat)
  | calling (id : CallId) (deadline : Option Nat)
  | finished (answer : Answer)

namespace World

/-- The steps that are answered at once. -/
def answerNow (a : Action) (w : World) : World × Answer :=
  match a with
  | .get oid => (w, .session (w.registry.getSession oid))
  | .info oid => (w, .info (w.registry.moduleInfo oid))
  | .sessions => (w, .sessions w.registry.sessionList)
  | .count => (w, .count w.registry.sessionCount)
  | .loaded => (w, .loaded w.registry.loadedBackends)
  | .reset => (w.happen .reset, .done)
  | .program script =>
    match w.platform with
    | .exec p _ => ({ w with platform := .exec p script }, .done)
    | _ => (w, .done)
  | .platform change =>
    match w.platform with
    | .scripted p => ({ w with platform := .scripted (change p) }, .done)
    | _ => (w, .done)
  | .fault name settings =>
    match w.site.setFault name settings with
    | some site => ({ w with site := site }, .done)
    | none => (w, .noDouble)
  | .calls =>
    match w.platform with
    | .scripted p => (w, .calls p.enumerations p.resolutions)
    | _ => (w, .calls 0 [])
  | .double name =>
    match w.site.namedDouble? name with
    | some d => (w, .double d.loads d.live)
    | none => (w, .noDouble)
  | .call _ | .create _ | .sleep _ => (w, .done)
  | .unknown => (w, .unknown)

/-- Is a call finished, or too late? -/
def settleCall (id : CallId) (deadline : Option Nat) (w : World) : World × Fiber :=
  match Assoc.get? id w.outcomes with
  | some o => (w, .finished (.outcome o))
  | none =>
    match deadline with
    | some d =>
      if d ≤ w.now then (w.drop id true, .finished .cancelled) else (w, .calling id deadline)
    | none => (w, .calling id deadline)

def startCall (c : Call) (deadline : Option Nat) (w : World) : World × Fiber :=
  let r := w.begin c
  r.1.settleCall r.2 deadline

/-- Start a step whose time has come. -/
def startFiber (s : TimedAction) (w : World) : World × Fiber :=
  let deadline := s.cancelMs.map fun ms => w.now + ms
  match s.action with
  | .call c => w.startCall c deadline
  | .create text =>
    match Location.parse text with
    | .ok l => w.startCall (.create l) deadline
    | .error e => (w, .finished (.badLocation e))
  | .sleep ms =>
    if ms = 0 then (w, .finished .done) else (w, .resting (w.now + ms) deadline)
  | a => let r := w.answerNow a; (r.1, .finished r.2)

/-- Carry a step on until it waits. Tells whether anything happened. -/
def advanceFiber (f : Fiber) (w : World) : World × Fiber × Bool :=
  match f with
  | .asleep wake s =>
    if wake ≤ w.now then let r := w.startFiber s; (r.1, r.2, true) else (w, f, false)
  | .resting wake deadline =>
    if wake ≤ w.now then (w, .finished .done, true)
    else if deadline.any fun d => d ≤ w.now then (w, .finished .cancelled, true)
    else (w, f, false)
  | .calling id deadline =>
    let r := w.advance id
    match r.1.settleCall id deadline with
    | (w, .finished a) => (w, .finished a, true)
    | (w, f) => (w, f, r.2)
  | .finished _ => (w, f, false)

def advanceFibers : List Fiber → World → World × List Fiber × Bool
  | [], w => (w, [], false)
  | f :: fs, w =>
    let r := w.advanceFiber f
    let s := advanceFibers fs r.1
    (s.1, r.2.1 :: s.2.1, r.2.2 || s.2.2)

def Fiber.isFinished : Fiber → Bool
  | .finished _ => true
  | _ => false

/-- When a step goes on by itself. -/
def Fiber.wakes : Fiber → List Nat
  | .asleep wake _ => [wake]
  | .resting wake deadline => wake :: deadline.toList
  | .calling _ deadline => deadline.toList
  | .finished _ => []

def earliest : List Nat → Option Nat
  | [] => none
  | t :: ts => some (ts.foldl min t)

/-- The next moment at which anything can happen. -/
def nextMoment (wakes : List Nat) (w : World) : Option Nat :=
  earliest ((wakes ++ w.nextDue.toList).filter fun t => w.now < t)

/-- Give up the calls of the steps that are not finished. -/
def dropFibers (tending : Bool) (fs : List Fiber) (w : World) : World :=
  fs.foldl (fun w f =>
    match f with
    | .calling id _ => w.drop id tending
    | _ => w) w

/-- Carry steps out until all are finished, or until the given moment. -/
def runFibers (until? : Option Nat) : Nat → List Fiber → World → World × List Fiber
  | 0, fs, w => (w, fs)
  | fuel + 1, fs, w =>
    let r := advanceFibers fs w
    if r.2.1.all Fiber.isFinished then (r.1, r.2.1)
    else
      let b := r.1.advanceAll r.1.backgroundCalls
      if r.2.2 || b.2 then runFibers until? fuel r.2.1 b.1
      else if until?.any fun u => u ≤ w.now then (b.1, r.2.1)
      else
        match b.1.nextMoment (until?.toList ++ r.2.1.flatMap Fiber.wakes) with
        | some t => runFibers until? fuel r.2.1 { b.1 with now := t }
        | none => (b.1, r.2.1)

/-- Let time pass while only background calls go on. -/
def pass (ms : Nat) (w : World) : World :=
  if ms = 0 then w
  else (runFibers none stepBound [.resting (w.now + ms) none] w).1

def fiberAnswer : Fiber → Answer
  | .finished a => a
  | _ => .cancelled

def runStep (s : Step) (w : World) : World × Answer :=
  match s with
  | .one s =>
    let w := w.pass s.afterMs
    let r := w.startFiber s
    match r.2 with
    | .finished a => (r.1, a)
    | f =>
      let r := runFibers none stepBound [f] r.1
      (r.1, (r.2.map fiberAnswer).headD .cancelled)
  | .together afterMs cancelMs steps =>
    let w := w.pass afterMs
    let until? := cancelMs.map fun ms => w.now + ms
    let r := runFibers until? stepBound (steps.map fun s => .asleep (w.now + s.afterMs) s) w
    if r.2.all Fiber.isFinished then (r.1, .group (r.2.map fiberAnswer))
    else (r.1.dropFibers true r.2, .cancelled)

def runSteps : List Step → World → World × List Answer
  | [], w => (w, [])
  | s :: ss, w =>
    let r := w.runStep s
    let t := runSteps ss r.1
    (t.1, r.2 :: t.2)

/-- List, then create and some time later shut down; at the given moment both are given up, with
nobody left to tend to what they hold. -/
def abandon (l : Location) (shutdownMs stopMs : Nat) (w : World) : World :=
  let listed := (w.runStep (.one ⟨0, none, .call .list⟩)).1
  let fibers : List Fiber :=
    [.asleep listed.now ⟨0, none, .call (.create l)⟩,
      .asleep (listed.now + shutdownMs) ⟨shutdownMs, none, .call .shutdown⟩]
  let r := runFibers (some (listed.now + stopMs)) stepBound fibers listed
  r.1.dropFibers false r.2

end World

end SlotBroker.Bench
