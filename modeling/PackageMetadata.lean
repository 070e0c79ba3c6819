import PackageMetadata.Cache.Request
import PackageMetadata.Config.Toml
import PackageMetadata.OrderedMap.Lemmas
import PackageMetadata.Regeneration
import PackageMetadata.Slots.Release
import PackageMetadata.Slots.Request
import PackageMetadata.Store.Plain
import PackageMetadata.Store.Rehearsed
import PackageMetadata.Store.Request
import PackageMetadata.Proofs.Blocked
import PackageMetadata.Proofs.Durability
import PackageMetadata.Proofs.Migration
import PackageMetadata.Proofs.Roster
import PackageMetadata.Proofs.CoordinateGrammar
import PackageMetadata.Proofs.OverlayRuns
import PackageMetadata.Proofs.Pending
import PackageMetadata.Proofs.RecordLines
import PackageMetadata.Proofs.Occupancy
import PackageMetadata.Proofs.Stranded
import PackageMetadata.Proofs.Admission
import PackageMetadata.Proofs.ReadOnly
import PackageMetadata.Proofs.SealedCommits
import PackageMetadata.Proofs.Tally
import PackageMetadata.Proofs.FailedChanges
import PackageMetadata.Proofs.GreedyPlan
import PackageMetadata.Proofs.Interleaving
import PackageMetadata.Proofs.Clearing
import PackageMetadata.Proofs.SchemaClosed
import PackageMetadata.Proofs.TextualRecords
import PackageMetadata.Proofs.Backtracking
import PackageMetadata.Proofs.Batches
import PackageMetadata.Proofs.BriefLayout
import PackageMetadata.Proofs.CoordinateText
import PackageMetadata.Proofs.EntryLines
import PackageMetadata.Proofs.SlotText
