import RoozDataCloud.KeyedTable
import RoozDataCloud.FallibleSteps
import RoozDataCloud.LeaseBoard
import RoozDataCloud.ReadCommitted
import RoozDataCloud.ExecutionModels
import RoozDataCloud.ExecutionRecovery
import RoozDataCloud.CancellationConvergence
import RoozDataCloud.LeaseReaper
import RoozDataCloud.WorkClaims
import RoozDataCloud.LeaseRequests
import RoozDataCloud.RunRequests
import RoozDataCloud.ExecutionSystem
import RoozDataCloud.ExecutionMoves
import RoozDataCloud.LeaseAccounting
import RoozDataCloud.ExecutionSteps
import RoozDataCloud.SourceLeaseCorrespondence
import RoozDataCloud.LeaseFinality
import RoozDataCloud.SecretGrantFencing
import RoozDataCloud.ClaimIsolation
import RoozDataCloud.RunLifecycle
import RoozDataCloud.RunLifecycleSteps
import RoozDataCloud.RunOutcomes
import RoozDataCloud.RunInterleavings
import RoozDataCloud.Permissions
import RoozDataCloud.IdentityTenancy
import RoozDataCloud.KeyAuthority
import RoozDataCloud.OwnerRetention
import RoozDataCloud.KeyValueStores
import RoozDataCloud.KeyValueTotals
import RoozDataCloud.RequestQueues
import RoozDataCloud.QueueCounts
import RoozDataCloud.LeaseEdits
import RoozDataCloud.AdmissionLimits
import RoozDataCloud.SessionSteps
import RoozDataCloud.NumberedLog
import RoozDataCloud.WebhookModels
import RoozDataCloud.RunCreation
import RoozDataCloud.RunCreationFailures
import RoozDataCloud.Schedules
import RoozDataCloud.ScheduleFailures
import RoozDataCloud.IdempotencyRecords
import RoozDataCloud.ScheduleHistory
import RoozDataCloud.VersionedCommits
import RoozDataCloud.VersionedResources
import RoozDataCloud.OptimisticConcurrency
import RoozDataCloud.Datasets
import RoozDataCloud.DatasetAppends
import RoozDataCloud.GaplessLog
import RoozDataCloud.RunEventStream
import RoozDataCloud.StreamDelivery
import RoozDataCloud.SourceUploads
import RoozDataCloud.SourceRejections
import RoozDataCloud.WebhookLifecycle
import RoozDataCloud.WebhookActivation
import RoozDataCloud.StatusChains
import RoozDataCloud.WebhookMoves
import RoozDataCloud.WebhookDisabling
import RoozDataCloud.WebhookDeliveries
import RoozDataCloud.VersionedMap
import RoozDataCloud.KeyValueProtocol
import RoozDataCloud.KeyValueVaults
import RoozDataCloud.KeyValueRefinement
import RoozDataCloud.QueueLifecycle
import RoozDataCloud.SerialCommits
import RoozDataCloud.JsonDocuments
import RoozDataCloud.SandboxSettings
import RoozDataCloud.WorkerCapabilities
import RoozDataCloud.CapabilityChecks
import RoozDataCloud.EgressBindings
import RoozDataCloud.CanaryActivation
import RoozDataCloud.RunIntents
import RoozDataCloud.CapabilityAgreement
import RoozDataCloud.WorkerCalls
import RoozDataCloud.CapabilityBounds
import RoozDataCloud.LockWaits
import RoozDataCloud.ExecutionLocks
import RoozDataCloud.WebhookLocks
import RoozDataCloud.ExceptionalRuns
import RoozDataCloud.WorkerEgress
import RoozDataCloud.EgressBroker
import RoozDataCloud.BrokerContainment
import RoozDataCloud.JsonTexts
import RoozDataCloud.Base64
import RoozDataCloud.Cursors
import RoozDataCloud.CursorSeparation
import RoozDataCloud.RunReplays
import RoozDataCloud.RuntimeLimits
import RoozDataCloud.WebFetchContract
import RoozDataCloud.QueueWorkerProtocol
import RoozDataCloud.HostNames
import RoozDataCloud.DocumentMembers
import RoozDataCloud.KeyValueReads
import RoozDataCloud.KeyValueRoundTrip
import RoozDataCloud.WebhookClaims
import RoozDataCloud.WebhookVerification
import RoozDataCloud.KeysetPages
import RoozDataCloud.KeyValueListing
import RoozDataCloud.HostTexts
import RoozDataCloud.HostNormalForms
import RoozDataCloud.HostCeilings
import RoozDataCloud.PythonValues
import RoozDataCloud.MutationErrors
import RoozDataCloud.CanonicalJson
import RoozDataCloud.DatedListings
import RoozDataCloud.DatasetExports
import RoozDataCloud.LeaseTiming
import RoozDataCloud.ObjectLineage
import RoozDataCloud.SignIns
