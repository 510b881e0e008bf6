import Offload.Main
import Offload.Proofs.Endings
import Offload.Proofs.Custody
import Offload.Proofs.Emulated.Bookkeeping
import Offload.Proofs.Marks
import Offload.Proofs.Release
import Offload.Proofs.Report
import Offload.Recorder
import Offload.Session.Staging
import Offload.Toolchain.Build
import Offload.Proofs.Emulated.Buffers
import Offload.Proofs.Requests
import Offload.Proofs.Tracking
import Offload.Proofs.RoundTrip
import Offload.Proofs.Boundary
import Offload.Proofs.KernelUnits
import Offload.Proofs.Isolation
import Offload.Proofs.Emulated.Threads
import Offload.Proofs.Emulated.Batching
import Offload.Proofs.Diagnostics
import Offload.Proofs.Numerals
import Offload.Proofs.CommandLine
import Offload.Proofs.Json.Text
import Offload.Proofs.Json.Spellings
import Offload.Proofs.Architectures
import Offload.Proofs.PhaseTimes
import Offload.Proofs.Refusals
import Offload.Proofs.Headroom
import Offload.Proofs.Panics
import Offload.Proofs.AffineUnit
import Offload.Proofs.Settings
import Offload.Proofs.UnitAccounts
import Offload.Proofs.StagedArrays
import Offload.Proofs.FaultPlans
import Offload.Proofs.InjectedFaults
import Offload.Proofs.Fallback
import Offload.Proofs.Toolkits
import Offload.Proofs.Elements
import Offload.Proofs.ByteTotals
import Offload.Proofs.TimingRecords
