import SlotBroker.Config.Basic
import SlotBroker.Json.Session

/-!
# Configurations in JSON

A configuration is a record of its sections, and a section a record of its settings. Whatever is
left out has its default.
-/

namespace SlotBroker

open Json.Reader (Member)

/-- Values of which some members have been read, by key. -/
structure Partly (α : Type) where
  value : α
  read : List String

namespace Partly

variable {α : Type}

/-- A member that replaces a part of a value. -/
def member {β : Type} (key : String) (r : Json.Reader β) (set : β → α → α) : Member (Partly α) :=
  ⟨key, fun p => p.read.contains key,
    fun p => Json.Reader.map r fun b => ⟨set b p.value, key :: p.read⟩⟩

/-- A record in which each member may be left out. -/
def reader (ms : List (Member (Partly α))) (standard : α) : Json.Reader α :=
  Json.Reader.record ms ⟨standard, []⟩ fun p => some p.value

end Partly

def word16Reader : Json.Reader UInt16 :=
  Json.Reader.map (Json.Reader.natBelow UInt16.size) UInt16.ofNat

namespace PlatformConfig

def toJson (c : PlatformConfig) : Json :=
  .record [("adapter", c.adapter.toJson), ("probe_path", .text c.probePath),
    ("probe_timeout_ms", .nat c.probeTimeoutMs.toNat), ("static_config", .text c.staticConfig)]

def reader : Json.Reader PlatformConfig :=
  Partly.reader
    [Partly.member "adapter" Adapter.reader fun a c => { c with adapter := a },
      Partly.member "probe_path" Json.Reader.text fun t c => { c with probePath := t },
      Partly.member "probe_timeout_ms" word64Reader fun n c => { c with probeTimeoutMs := n },
      Partly.member "static_config" Json.Reader.text fun t c => { c with staticConfig := t }]
    standard

end PlatformConfig

namespace Policy

def toJson (p : Policy) : Json :=
  .record [("allow_multiple_sessions", .bool p.allowMultipleSessions),
    ("require_fresh_listing", .bool p.requireFreshListing)]

def reader : Json.Reader Policy :=
  Partly.reader
    [Partly.member "allow_multiple_sessions" Json.Reader.bool
        fun b p => { p with allowMultipleSessions := b },
      Partly.member "require_fresh_listing" Json.Reader.bool
        fun b p => { p with requireFreshListing := b }]
    strict

end Policy

namespace BackendsConfig

def toJson (c : BackendsConfig) : Json :=
  .record [("simulate_unknown", .bool c.simulateUnknown),
    ("attach_latency_ms", .nat c.attachLatencyMs.toNat)]

def reader : Json.Reader BackendsConfig :=
  Partly.reader
    [Partly.member "simulate_unknown" Json.Reader.bool fun b c => { c with simulateUnknown := b },
      Partly.member "attach_latency_ms" word64Reader fun n c => { c with attachLatencyMs := n }]
    standard

end BackendsConfig

namespace ServerConfig

def toJson (c : ServerConfig) : Json :=
  .record [("bind_address", .text c.bindAddress.render), ("port", .nat c.port.toNat),
    ("shutdown_grace_ms", .nat c.shutdownGraceMs.toNat)]

def reader : Json.Reader ServerConfig :=
  Partly.reader
    [Partly.member "bind_address" (Json.Reader.filterMap Json.Reader.text Net.Ip.parse?)
        fun ip c => { c with bindAddress := ip },
      Partly.member "port" word16Reader fun n c => { c with port := n },
      Partly.member "shutdown_grace_ms" word64Reader fun n c => { c with shutdownGraceMs := n }]
    standard

end ServerConfig

namespace LoggingConfig

def toJson (c : LoggingConfig) : Json :=
  .record [("level", .text c.level), ("format", .text c.format)]

def reader : Json.Reader LoggingConfig :=
  Partly.reader
    [Partly.member "level" Json.Reader.text fun t c => { c with level := t },
      Partly.member "format" Json.Reader.text fun t c => { c with format := t }]
    standard

end LoggingConfig

namespace Config

def toJson (c : Config) : Json :=
  .record [("platform", c.platform.toJson), ("registry", c.registry.toJson),
    ("backends", c.backends.toJson), ("server", c.server.toJson), ("logging", c.logging.toJson)]

def reader : Json.Reader Config :=
  Partly.reader
    [Partly.member "platform" PlatformConfig.reader fun p c => { c with platform := p },
      Partly.member "registry" Policy.reader fun p c => { c with registry := p },
      Partly.member "backends" BackendsConfig.reader fun b c => { c with backends := b },
      Partly.member "server" ServerConfig.reader fun s c => { c with server := s },
      Partly.member "logging" LoggingConfig.reader fun l c => { c with logging := l }]
    standard

end Config

end SlotBroker
