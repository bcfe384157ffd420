import SlotBroker.Config.Basic
import SlotBroker.Config.Variables
import SlotBroker.Error
import SlotBroker.Toml.Document

/-!
# Loading a configuration

A configuration is read out of the settings of all layers, the lowest of which are the defaults.
Settings that the configuration does not know are passed over. The first setting that does not fit
ends the reading; its key and its layer are told. At the end the configuration must be usable.
-/

namespace SlotBroker

/-- What a setting should have been. -/
inductive Wanted
  | word64
  | word16
  | truth
  | text
  | path
  | ip
  | adapter
  | group (name : String)
  | key
  | nothing
  deriving DecidableEq, Repr

namespace Wanted

def describe : Wanted → String
  | word64 => "u64"
  | word16 => "u16"
  | truth => "a boolean"
  | text => "a string"
  | path => "path string"
  | ip => "IP address"
  | adapter => "enum AdapterKind"
  | group name => s!"struct {name}"
  | key => "enum"
  | nothing => "unit"

end Wanted

/-- Why a setting does not fit. -/
inductive MisfitCause
  | kind (found : String) (wanted : Wanted)
  | value (found : String) (wanted : Wanted)
  | unknownAdapter (label : String)
  | noIp
  deriving DecidableEq, Repr

/-- A setting that does not fit: its key, its layer and why. -/
structure Misfit where
  path : List String
  layer : Layer
  cause : MisfitCause
  deriving DecidableEq, Repr

namespace MisfitCause

def message : MisfitCause → String
  | kind found wanted => s!"invalid type: found {found}, expected {wanted.describe}"
  | value found wanted => s!"invalid value {found}, expected {wanted.describe}"
  | unknownAdapter label =>
    s!"unknown variant: found `{label}`, expected ``exec` or `static``"
  | noIp => "invalid IP address syntax"

end MisfitCause

namespace Misfit

/-- The fault of a member as a fault of its group. -/
def under (key : String) (m : Misfit) : Misfit := { m with path := key :: m.path }

/-- Where the setting comes from. A default always fits. -/
def origin (file : String) : Layer → String
  | .standard => "defaults"
  | .file => file ++ " TOML file"
  | .alias => "environment variable(s)"
  | .variables => s!"`{Setting.variablePrefix}` environment variable(s)"

/-- The key as it is written in its layer. -/
def shownKey (m : Misfit) : String :=
  match m.layer with
  | .standard | .file => ".".intercalate ("default" :: m.path)
  | .alias | .variables => ".".intercalate (m.path.map Text.upperAscii)

def message (file : String) (m : Misfit) : String :=
  let key := if m.path.isEmpty then "" else s!" for key {Text.quoted m.shownKey}"
  m.cause.message ++ key ++ " in " ++ origin file m.layer

end Misfit

/-- Takes a value out of a setting. -/
abbrev SettingReader (α : Type) := Setting → Except Misfit α

namespace SettingReader

/-- The setting is of another kind than wanted. -/
def unfit {α : Type} (wanted : Wanted) (s : Setting) : Except Misfit α :=
  .error ⟨[], s.layer, .kind s.describe wanted⟩

/-- A number from zero on below a bound. -/
def natBelow (bound : Nat) (wanted : Wanted) : SettingReader Nat := fun s =>
  let inBounds (n : Int) : Except Misfit Nat :=
    if 0 ≤ n ∧ n < bound then .ok n.toNat
    else .error ⟨[], s.layer, .value s.describe wanted⟩
  match s with
  | .scalar _ (.signed i) => inBounds i
  | .scalar _ (.unsigned n) => inBounds n
  | s => unfit wanted s

def word64 : SettingReader UInt64 := fun s =>
  (natBelow UInt64.size .word64 s).map UInt64.ofNat

def word16 : SettingReader UInt16 := fun s =>
  (natBelow UInt16.size .word16 s).map UInt16.ofNat

def truth : SettingReader Bool
  | .scalar _ (.bool b) => .ok b
  | s => unfit .truth s

/-- A text, or a letter as a text. -/
def textFor (wanted : Wanted) : SettingReader String
  | .scalar _ (.text t) => .ok t
  | .scalar _ (.letter c) => .ok (String.singleton c)
  | s => unfit wanted s

def ip : SettingReader Net.Ip := fun s =>
  match textFor .ip s with
  | .error m => .error m
  | .ok t =>
    match Net.Ip.parse? t with
    | some a => .ok a
    | none => .error ⟨[], s.layer, .noIp⟩

/-- The first member of a group by its key. -/
def firstMember : List (String × Setting) → Option (String × Setting)
  | [] => none
  | m :: ms =>
    match firstMember ms with
    | some n => some (if n.1 < m.1 then n else m)
    | none => some m

def adapterOf (layer : Layer) (label : String) : Except Misfit Adapter :=
  match Adapter.ofLabel? label with
  | some a => .ok a
  | none => .error ⟨[], layer, .unknownAdapter label⟩

/-- An adapter by its label. The label may also be the key of a group, but no value fits it there.
-/
def adapter : SettingReader Adapter
  | .scalar l (.text t) => adapterOf l t
  | .group l ms =>
    match firstMember ms with
    | none => .error ⟨[], l, .kind (Setting.group l ms).describe .key⟩
    | some (k, v) =>
      match adapterOf l k with
      | .error m => .error m
      | .ok _ => .error (Misfit.under k ⟨[], v.layer, .kind v.describe .nothing⟩)
  | s => unfit .adapter s

/-- A setting that is a part of a value: its key, and how it changes the value. -/
structure Part (σ : Type) where
  key : String
  read : Setting → σ → Except Misfit σ

def part {σ α : Type} (key : String) (r : SettingReader α) (set : α → σ → σ) : Part σ :=
  ⟨key, fun s c =>
    match r s with
    | .ok a => .ok (set a c)
    | .error m => .error m⟩

/-- The parts of a value that a group holds. -/
def readGrouped {σ : Type} (members : List (String × Setting)) : List (Part σ) → σ → Except Misfit σ
  | [], c => .ok c
  | p :: ps, c =>
    match Assoc.get? p.key members with
    | none => readGrouped members ps c
    | some s =>
      match p.read s c with
      | .ok c => readGrouped members ps c
      | .error m => .error (m.under p.key)

/-- The parts of a value from the items of a list, which are counted from `k` on. -/
def readListed {σ : Type} : Nat → List (Part σ) → List Setting → σ → Except Misfit σ
  | k, p :: ps, s :: ss, c =>
    match p.read s c with
    | .ok c => readListed (k + 1) ps ss c
    | .error m => .error (m.under (Text.decimal k))
  | _, _, _, c => .ok c

/-- A section of the configuration. Its parts are given twice: in the order of their keys, which is
the order of a group, and in the order of a list. -/
def ofSection {σ : Type} (name : String) (byKey inOrder : List (Part σ)) (standard : σ) :
    SettingReader σ
  | .group _ ms => readGrouped ms byKey standard
  | .list _ ss => readListed 0 inOrder ss standard
  | s => unfit (.group name) s

end SettingReader

open SettingReader (part)

namespace PlatformConfig

def parts : List (SettingReader.Part PlatformConfig) :=
  [part "adapter" SettingReader.adapter fun a c => { c with adapter := a },
    part "probe_path" (SettingReader.textFor .path) fun t c => { c with probePath := t },
    part "probe_timeout_ms" SettingReader.word64 fun n c => { c with probeTimeoutMs := n },
    part "static_config" (SettingReader.textFor .path) fun t c => { c with staticConfig := t }]

def ofSetting : SettingReader PlatformConfig :=
  SettingReader.ofSection "PlatformConfig" parts parts standard

end PlatformConfig

namespace Policy

def parts : List (SettingReader.Part Policy) :=
  [part "allow_multiple_sessions" SettingReader.truth
      fun b p => { p with allowMultipleSessions := b },
    part "require_fresh_listing" SettingReader.truth fun b p => { p with requireFreshListing := b }]

def ofSetting : SettingReader Policy :=
  SettingReader.ofSection "RegistryConfig" parts parts strict

end Policy

namespace BackendsConfig

def simulatePart : SettingReader.Part BackendsConfig :=
  part "simulate_unknown" SettingReader.truth fun b c => { c with simulateUnknown := b }

def latencyPart : SettingReader.Part BackendsConfig :=
  part "attach_latency_ms" SettingReader.word64 fun n c => { c with attachLatencyMs := n }

def ofSetting : SettingReader BackendsConfig :=
  SettingReader.ofSection "BackendsConfig" [latencyPart, simulatePart] [simulatePart, latencyPart]
    standard

end BackendsConfig

namespace ServerConfig

def parts : List (SettingReader.Part ServerConfig) :=
  [part "bind_address" SettingReader.ip fun ip c => { c with bindAddress := ip },
    part "port" SettingReader.word16 fun n c => { c with port := n },
    part "shutdown_grace_ms" SettingReader.word64 fun n c => { c with shutdownGraceMs := n }]

def ofSetting : SettingReader ServerConfig :=
  SettingReader.ofSection "ServerConfig" parts parts standard

end ServerConfig

namespace LoggingConfig

def levelPart : SettingReader.Part LoggingConfig :=
  part "level" (SettingReader.textFor .text) fun t c => { c with level := t }

def formatPart : SettingReader.Part LoggingConfig :=
  part "format" (SettingReader.textFor .text) fun t c => { c with format := t }

def ofSetting : SettingReader LoggingConfig :=
  SettingReader.ofSection "LoggingConfig" [formatPart, levelPart] [levelPart, formatPart] standard

end LoggingConfig

/-- Why there is no configuration. -/
inductive LoadError
  | malformedFile
  | misfit (m : Misfit)
  | unusable (f : Config.Fault)
  deriving DecidableEq, Repr

/-- What is told of a failed load. The fault in a malformed file is not told apart. -/
def LoadError.message (file : String) : LoadError → String
  | malformedFile => "malformed TOML in " ++ Misfit.origin file .file
  | misfit m => m.message file
  | unusable f => f.message

def LoadError.toBrokerError (file : String) (e : LoadError) : BrokerError :=
  .config (e.message file)

namespace Config

def sections : List (SettingReader.Part Config) :=
  [part "backends" BackendsConfig.ofSetting fun b c => { c with backends := b },
    part "logging" LoggingConfig.ofSetting fun l c => { c with logging := l },
    part "platform" PlatformConfig.ofSetting fun p c => { c with platform := p },
    part "registry" Policy.ofSetting fun p c => { c with registry := p },
    part "server" ServerConfig.ofSetting fun s c => { c with server := s }]

/-- The configuration that settings describe. -/
def ofSetting : SettingReader Config :=
  SettingReader.ofSection "BrokerConfig" sections sections standard

/-- A configuration as the settings that describe it. -/
def toSetting (c : Config) : Setting :=
  let group (ms : List (String × Setting)) := Setting.group .standard ms
  let text (t : String) := Setting.scalar .standard (.text t)
  let nat (n : Nat) := Setting.scalar .standard (.unsigned n)
  let truth (b : Bool) := Setting.scalar .standard (.bool b)
  group
    [("platform", group
        [("adapter", text c.platform.adapter.label), ("probe_path", text c.platform.probePath),
          ("probe_timeout_ms", nat c.platform.probeTimeoutMs.toNat),
          ("static_config", text c.platform.staticConfig)]),
      ("registry", group
        [("allow_multiple_sessions", truth c.registry.allowMultipleSessions),
          ("require_fresh_listing", truth c.registry.requireFreshListing)]),
      ("backends", group
        [("simulate_unknown", truth c.backends.simulateUnknown),
          ("attach_latency_ms", nat c.backends.attachLatencyMs.toNat)]),
      ("server", group
        [("bind_address", text c.server.bindAddress.render), ("port", nat c.server.port.toNat),
          ("shutdown_grace_ms", nat c.server.shutdownGraceMs.toNat)]),
      ("logging", group
        [("level", text c.logging.level), ("format", text c.logging.format)])]

/-- The layers, the lowest first. -/
def layers (file : List (String × Toml.Value)) (env : Environment) : List Setting :=
  standard.toSetting :: Setting.ofToml (.table file) :: Setting.environmentLayers env

/-- The settings of all layers together. -/
def settings (file : List (String × Toml.Value)) (env : Environment) : Setting :=
  Setting.mergeAll (layers file env)

/-- The configuration that a file and the environment describe. No file says nothing. -/
def extract (content : Option String) (env : Environment) : Except LoadError Config :=
  match content.elim (some []) Toml.parse? with
  | none => .error .malformedFile
  | some file =>
    match ofSetting (settings file env) with
    | .error m => .error (.misfit m)
    | .ok c => .ok c

/-- A configuration that can be used. -/
def load (content : Option String) (env : Environment) : Except LoadError Config :=
  match extract content env with
  | .error e => .error e
  | .ok c =>
    match c.validate with
    | .error f => .error (.unusable f)
    | .ok () => .ok c

end Config

end SlotBroker
