import Heartbeat.Api
import Heartbeat.Archive.Index
import Heartbeat.Cache.Shared
import Heartbeat.Main
import Heartbeat.Proofs.Pipeline.Conservation
import Heartbeat.Proofs.Pipeline.Lossless
import Heartbeat.Proofs.Resolve.Race
import Heartbeat.Proofs.Sweep.Exact
import Heartbeat.Store.Thread
import Heartbeat.Proofs.Api.Admission
import Heartbeat.Proofs.Cache.Authority
import Heartbeat.Proofs.Cache.Coherence
import Heartbeat.Proofs.Sweep.Fleet
import Heartbeat.Proofs.Json.Numeral
import Heartbeat.Proofs.Record.Version
import Heartbeat.Proofs.Archive.Ledger
import Heartbeat.Proofs.Archive.Counters
import Heartbeat.Proofs.Archive.Batches
import Heartbeat.Proofs.Store.History
import Heartbeat.Proofs.Json.Whole
import Heartbeat.Proofs.Tracker.Windows
import Heartbeat.Proofs.Archive.Framing
import Heartbeat.Proofs.Pipeline.Blind
import Heartbeat.Proofs.Store.ReadBack
import Heartbeat.Proofs.Store.Schema
import Heartbeat.Proofs.Store.Rollback
import Heartbeat.Proofs.Store.Selection
import Heartbeat.Proofs.Store.Transitions
import Heartbeat.Proofs.Sweep.Recovery
import Heartbeat.Proofs.Archive.Acceptance
import Heartbeat.Proofs.Process.Footprint
import Heartbeat.Proofs.Store.Serial
import Heartbeat.Proofs.Archive.Looks
import Heartbeat.Proofs.Archive.Outcomes
import Heartbeat.Proofs.Record.Heartbeats
import Heartbeat.Proofs.Record.Wire
import Heartbeat.Proofs.Resolve.Illegible
import Heartbeat.Proofs.Config.Precedence
import Heartbeat.Proofs.Config.Partial
import Heartbeat.Proofs.Cache.Redaction
import Heartbeat.Proofs.Cache.Freshness
import Heartbeat.Proofs.Sim.Tick
import Heartbeat.Proofs.Cache.Cuts
import Heartbeat.Proofs.Sim.Pool
import Heartbeat.Proofs.Config.Startup
