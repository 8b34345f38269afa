import LightStream.Proofs.Pagination
import LightStream.Proofs.Checkpoints
import LightStream.Proofs.Drain
import LightStream.Proofs.ExportOnce
import LightStream.Proofs.FencedPublish
import LightStream.Proofs.Fetch
import LightStream.Proofs.LeaseBudget
import LightStream.Proofs.LeaseClock
import LightStream.Proofs.MutationRetries
import LightStream.Proofs.PrefixSum
import LightStream.Proofs.RaftOnly
import LightStream.Proofs.Replacement
import LightStream.Proofs.ExportEnd
import LightStream.Proofs.ExportFormat
import LightStream.Proofs.Agreement
import LightStream.Proofs.PolicyEvolution
import LightStream.Proofs.PublishSchedule
import LightStream.Proofs.MutationDeadlines
import LightStream.Proofs.SnapshotRuns
import LightStream.Proofs.PolicyFreshness
import LightStream.Proofs.PrincipalRuns
import LightStream.Proofs.BatchFormation
import LightStream.Proofs.ActiveExports
import LightStream.Proofs.ErrorWire
import LightStream.Proofs.CommittedResults
import LightStream.Proofs.SnapshotCanonical
import LightStream.Proofs.ReplacementLaws
import LightStream.Server.Lifecycle
import LightStream.Proofs.LifecycleRuns
import LightStream.Server.ExportProposals
import LightStream.Proofs.ExportProposalRuns
import LightStream.Proofs.BoundedReclaim
import LightStream.Proofs.ProtectedReplay
import LightStream.Proofs.LogHydration
import LightStream.Proofs.MigrationRuns
import LightStream.Proofs.SnapshotCopies
import LightStream.Proofs.RetentionDriver
import LightStream.Proofs.ExportDigest
import LightStream.Proofs.LeaderSearch
import LightStream.Proofs.ExportDownload
import LightStream.Proofs.WireRoundTrip
import LightStream.Proofs.StateKeys
import LightStream.Proofs.CatalogRuns
import LightStream.Proofs.DataHistory
import LightStream.Proofs.ControlHistory
import LightStream.Proofs.Administrations
import LightStream.Proofs.PolicyRuns
import LightStream.Proofs.PublishPlain
import LightStream.Proofs.ProducerTable
import LightStream.Proofs.Acknowledgements
import LightStream.Proofs.ProducerCalls
