import CachePilot.Proofs.Invalidation
import CachePilot.Proofs.RealRequests
import CachePilot.Proofs.QueuedWarms
import CachePilot.Proofs.StateMachine
import CachePilot.Proofs.Registry
import CachePilot.Proofs.CircuitBreaker
import CachePilot.Proofs.TouchEvidence
import CachePilot.Proofs.WarmBudget
import CachePilot.Proofs.IdentitySwitch
import CachePilot.Proofs.FailedRequests
import CachePilot.Proofs.RequestEnds
import CachePilot.Proofs.IdleAge
import CachePilot.Proofs.FailedObservations
import CachePilot.Proofs.WarmReplay
import CachePilot.Proofs.ConversationWarms
import CachePilot.Proofs.Credentials
import CachePilot.Proofs.Deadlines
import CachePilot.Proofs.SimulatedProvider
import CachePilot.Proofs.TtlProfiles
import CachePilot.Proofs.TargetCounts
import CachePilot.Proofs.SubagentPairing
import CachePilot.Proofs.ProcessTargets
import CachePilot.Lib.RefCounts
import CachePilot.Hermes.CommandSignature
import CachePilot.Hermes.Targets
import CachePilot.Hermes.ToolMiddleware
import CachePilot.Core.Storage
import CachePilot.Proofs.LeaseRows
import CachePilot.Relay.Persistence
import CachePilot.Proofs.SnapshotLifetime
import CachePilot.Proofs.PersistedLeases
import CachePilot.Relay.Observer
import CachePilot.Relay.Exchanges
import CachePilot.Proofs.ProfileKeys
import CachePilot.Core.Churn
import CachePilot.Proofs.FlatHashes
import CachePilot.Lib.NestedText
import CachePilot.Core.Topology
import CachePilot.Proofs.StoredTopology
import CachePilot.Proofs.TtlEstimates
import CachePilot.Proofs.WarmDeadlines
import CachePilot.Proofs.WarmDecisions
import CachePilot.Core.Usage
import CachePilot.Proofs.UsageTotality
import CachePilot.Proofs.CacheTelemetry
import CachePilot.Core.Survival
import CachePilot.Lib.ProductLimit
import CachePilot.Proofs.SurvivalCurves
import CachePilot.Core.Settings
import CachePilot.Relay.Config
import CachePilot.Proofs.EnvironmentSettings
import CachePilot.Proofs.ChurnBodies
import CachePilot.Hermes.LlmMiddleware
import CachePilot.Proofs.SessionAttribution
import CachePilot.Hermes.DurationHistory
import CachePilot.Proofs.CommandValues
import CachePilot.Core.VolatilePatterns
import CachePilot.Core.TelemetryStore
import CachePilot.Proofs.PrefixLoss
import CachePilot.Proofs.VolatileBoundary
import CachePilot.Proofs.RecordRoundTrip
import CachePilot.Proofs.StoreRoundTrip
import CachePilot.Cli.Leases
import CachePilot.Proofs.LeaseListing
import CachePilot.Core.TopologyReport
import CachePilot.Proofs.TopologyAccounting
import CachePilot.Proofs.ToolOrdering
import CachePilot.Proofs.EndpointIdentity
import CachePilot.Proofs.HeaderPassThrough
import CachePilot.Hermes.LearnedDurations
import CachePilot.Lib.Interpolation
import CachePilot.Proofs.DurationRestarts
import CachePilot.Proofs.TargetReconciliation
import CachePilot.Proofs.RequestTargets
import CachePilot.Proofs.WildcardBinds
import CachePilot.Proofs.ProfileSeparation
import CachePilot.Proofs.StoredTimes
import CachePilot.Core.RouteAffinity
import CachePilot.Relay.RouteAffinity
import CachePilot.Proofs.AffinityPins
import CachePilot.Lib.LockRoom
import CachePilot.Proofs.Quiescence
import CachePilot.Core.StoreQueries
import CachePilot.Core.StoredLearner
import CachePilot.Relay.Recording
import CachePilot.Proofs.LearnedTables
import CachePilot.Proofs.RefoldedProfiles
import CachePilot.Proofs.RecordedHistory
import CachePilot.Proofs.StoreReports
import CachePilot.Proofs.RecorderRefinement
import CachePilot.Proofs.PlainRelay
import CachePilot.Relay.Correlation
import CachePilot.Proofs.AgentTargets
import CachePilot.Relay.WarmExecutor
import CachePilot.Proofs.KeptWarm
import CachePilot.Proofs.PricedWarms
import CachePilot.Proofs.WarmSavings
