import Switchboard.Config.Load
import Switchboard.Config.Report
import Switchboard.Deployment.Life
import Switchboard.Metrics.Report
import Switchboard.Store.Repair
import Switchboard.Wire.Report
import Switchboard.Wire.Targeting
import Switchboard.Proofs.Layer.Backing
import Switchboard.Proofs.Store.Overrides
import Switchboard.Proofs.Time.Progress
import Switchboard.Proofs.CacheKeys
import Switchboard.Proofs.Layer.Reads
import Switchboard.Proofs.Layer.Writes
import Switchboard.Proofs.Deployment.Answers
import Switchboard.Proofs.Transparency.FaultyCache
import Switchboard.Proofs.Layer.Freshness
import Switchboard.Proofs.Transparency.SequentialRuns
import Switchboard.Proofs.Versions.FlagStatements
import Switchboard.Proofs.Resolution.Resolving
import Switchboard.Proofs.Versions.FlagHistory
import Switchboard.Proofs.Layer.Histories
import Switchboard.Proofs.Interleaving.Errands
import Switchboard.Proofs.Deployment.Contents
import Switchboard.Proofs.Interleaving.Floor
import Switchboard.Proofs.Interleaving.Fills
import Switchboard.Proofs.Interleaving.ShownVersions
import Switchboard.Proofs.Interleaving.OwnWrites
import Switchboard.Proofs.Bus
import Switchboard.Proofs.Store.Readable
import Switchboard.Proofs.Coherence.Members
import Switchboard.Proofs.Coherence.Deliveries
import Switchboard.Proofs.Coherence.Listeners
import Switchboard.Proofs.Coherence.Joining
import Switchboard.Proofs.Coherence.Entries
import Switchboard.Proofs.Coherence.Invariant
import Switchboard.Proofs.Coherence.CaughtUp
import Switchboard.Proofs.Deployment.FailedWrites
import Switchboard.Proofs.Staleness.Answers
import Switchboard.Proofs.Exposure.Shutdown
import Switchboard.Proofs.Store.LastWrite
import Switchboard.Proofs.Deployment.Sweeps
import Switchboard.Proofs.CacheHistory
import Switchboard.Proofs.Exposure.Conservation
import Switchboard.Proofs.Wire.Messages
import Switchboard.Proofs.Layer.Announcements
import Switchboard.Proofs.Guarding.Refusals
import Switchboard.Proofs.Batch.Answers
import Switchboard.Proofs.Batch.Instants
import Switchboard.Proofs.Validity.Runs
import Switchboard.Proofs.Staleness.FlagAnswers
import Switchboard.Proofs.Targeting.Edits
import Switchboard.Proofs.Targeting.Aspects
import Switchboard.Proofs.Config.Layering
import Switchboard.Proofs.Config.Limits
import Switchboard.Proofs.Store.Activity
import Switchboard.Proofs.Coherence.Keys
import Switchboard.Proofs.Targeting.Matching
import Switchboard.Proofs.Versions.Conflicts
import Switchboard.Proofs.Patching.Merging
import Switchboard.Proofs.Exposure.Waking
import Switchboard.Proofs.BusHistory
import Switchboard.Proofs.Accounting.Batches
import Switchboard.Proofs.Time.StoredForm
