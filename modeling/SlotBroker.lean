import SlotBroker.Bench.Description
import SlotBroker.Bench.Terminal
import SlotBroker.Config.Json
import SlotBroker.Main
import SlotBroker.Message.Json
import SlotBroker.Platform.ProbeStub
import SlotBroker.Proofs.Registry.Creation
import SlotBroker.Proofs.Registry.Roster
import SlotBroker.Proofs.Registry.Exclusion
import SlotBroker.Proofs.Registry.Shutdown
import SlotBroker.Proofs.Cells
import SlotBroker.Proofs.Registry.Loads
import SlotBroker.Proofs.Registry.Calls
import SlotBroker.Proofs.Registry.Numbering
import SlotBroker.Proofs.Registry.Answers
import SlotBroker.Proofs.Registry.Lifecycle
import SlotBroker.Proofs.Registry.Unloading
import SlotBroker.Proofs.Registry.Closing
import SlotBroker.Proofs.Registry.Releasing
import SlotBroker.Proofs.Registry.Holding
import SlotBroker.Proofs.Simulation.Held
import SlotBroker.Proofs.Simulation.Basic
import SlotBroker.Proofs.Simulation.Correspondence
import SlotBroker.Proofs.Registry.Moments
import SlotBroker.Proofs.Registry.Listing
import SlotBroker.Proofs.Registry.Admission
import SlotBroker.Proofs.Registry.Questions
import SlotBroker.Proofs.Registry.Answering
import SlotBroker.Proofs.Registry.Resolution
import SlotBroker.Proofs.Registry.Favour
import SlotBroker.Proofs.Registry.Contention
import SlotBroker.Proofs.Registry.Sharing
import SlotBroker.Proofs.Registry.Withdrawal
import SlotBroker.Proofs.Registry.FanOut
import SlotBroker.Proofs.Client.Exchange
import SlotBroker.Proofs.Client.Failure
import SlotBroker.Proofs.Client.Serving
import SlotBroker.Proofs.Health.Watching
import SlotBroker.Proofs.Registry.Sequential
import SlotBroker.Proofs.Registry.Purpose
import SlotBroker.Proofs.Registry.Discovery
import SlotBroker.Proofs.Registry.Contents
import SlotBroker.Proofs.Message.Fidelity
import SlotBroker.Proofs.Health.Polling
import SlotBroker.Proofs.Registry.Clearance
import SlotBroker.Proofs.Server.Stopping
import SlotBroker.Proofs.Config.Layering
import SlotBroker.Proofs.Location
import SlotBroker.Proofs.Platform.Probe
import SlotBroker.Proofs.Json.Members
import SlotBroker.Proofs.Platform.StaticMap
import SlotBroker.Proofs.Net.Host
import SlotBroker.Proofs.Client.Port
import SlotBroker.Proofs.Registry.Solitude
import SlotBroker.Proofs.Registry.Failure
import SlotBroker.Proofs.Platform.Requests
import SlotBroker.Proofs.Message.NormalForm
import SlotBroker.Proofs.Provenance
import SlotBroker.Proofs.Oid
import SlotBroker.Proofs.Client.ReadBack
import SlotBroker.Proofs.Backend.OneLoad
import SlotBroker.Proofs.Backend.NoEscape
import SlotBroker.Proofs.Backend.Handles
import SlotBroker.Proofs.Message.Codec
import SlotBroker.Proofs.Logging.Acceptance
import SlotBroker.Proofs.Registry.Critical
import SlotBroker.Proofs.Json.RoundTrip
