import SlotBroker.Net.Ip
import SlotBroker.Registry.Basic
import SlotBroker.Text.Lowercase

/-!
# Configurations

What a broker is set up with, in five sections, with a default for every setting. Not every
configuration is usable: the level and the format of the log must be known, the probe must be given
time, and there must be a port and some time to shut down. `Config.validate` tells the first fault.
-/

namespace SlotBroker

structure PlatformConfig where
  adapter : Adapter
  probePath : String
  probeTimeoutMs : UInt64
  staticConfig : String
  deriving DecidableEq, Inhabited

structure BackendsConfig where
  simulateUnknown : Bool
  attachLatencyMs : UInt64
  deriving DecidableEq, Inhabited

structure ServerConfig where
  bindAddress : Net.Ip
  port : UInt16
  shutdownGraceMs : UInt64
  deriving DecidableEq, Inhabited

structure LoggingConfig where
  level : String
  format : String
  deriving DecidableEq, Inhabited

structure Config where
  platform : PlatformConfig
  registry : Policy
  backends : BackendsConfig
  server : ServerConfig
  logging : LoggingConfig
  deriving DecidableEq, Inhabited

namespace PlatformConfig

def standard : PlatformConfig := ⟨.exec, "/etc/tai/mux/exec.sh", 10000, "/etc/tai/mux/static.json"⟩

def probeTimeout (c : PlatformConfig) : Time.Span := Time.Span.ofMillis c.probeTimeoutMs.toNat

end PlatformConfig

namespace BackendsConfig

def standard : BackendsConfig := ⟨true, 0⟩

def attachLatency (c : BackendsConfig) : Time.Span := Time.Span.ofMillis c.attachLatencyMs.toNat

end BackendsConfig

namespace ServerConfig

def standard : ServerConfig := ⟨.v4 ⟨127, 0, 0, 1⟩, 50051, 5000⟩

def shutdownGrace (c : ServerConfig) : Time.Span := Time.Span.ofMillis c.shutdownGraceMs.toNat

/-- The address and the port to listen at. -/
def socket (c : ServerConfig) : String := c.bindAddress.renderWithPort c.port

end ServerConfig

def LoggingConfig.standard : LoggingConfig := ⟨"info", "pretty"⟩

namespace Config

/-- The configuration of a broker that was told nothing. -/
def standard : Config := ⟨.standard, .strict, .standard, .standard, .standard⟩

/-- What makes a configuration unusable. -/
inductive Fault
  | level (text : String)
  | format (text : String)
  | probeTimeout (ms : UInt64)
  | port
  | shutdownGrace
  deriving DecidableEq, Repr

def levelNames : List String := ["trace", "debug", "info", "warn", "error"]

def formatNames : List String := ["pretty", "compact", "json"]

/-- The least time that a probe must be given, in milliseconds. -/
def leastProbeTimeoutMs : UInt64 := 1000

def Fault.message : Fault → String
  | level t => s!"Invalid logging.level '{t}'. Must be one of: " ++ ", ".intercalate levelNames
  | format t => s!"Invalid logging.format '{t}'. Must be one of: " ++ ", ".intercalate formatNames
  | probeTimeout ms =>
    s!"platform.probe_timeout_ms {Text.decimal ms.toNat} is too short; " ++
      s!"probes may take seconds (minimum {Text.decimal leastProbeTimeoutMs.toNat})"
  | port => "server.port must be non-zero"
  | shutdownGrace => "server.shutdown_grace_ms must be positive"

def validate (c : Config) : Except Fault Unit :=
  if !levelNames.contains (Text.lowercase c.logging.level) then .error (.level c.logging.level)
  else if !formatNames.contains (Text.lowercase c.logging.format) then
    .error (.format c.logging.format)
  else if c.platform.probeTimeoutMs < leastProbeTimeoutMs then
    .error (.probeTimeout c.platform.probeTimeoutMs)
  else if c.server.port = 0 then .error .port
  else if c.server.shutdownGraceMs = 0 then .error .shutdownGrace
  else .ok ()

end Config

end SlotBroker
