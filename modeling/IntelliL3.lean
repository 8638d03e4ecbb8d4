import IntelliL3.Lib.Trie
import IntelliL3.Core.Reference
import IntelliL3.Core.Reopen
import IntelliL3.Core.FailedWrites
import IntelliL3.Core.PairInterleaving
import IntelliL3.Core.Listing
import IntelliL3.Core.PrefixIndex
import IntelliL3.Core.S3Agreement
import IntelliL3.Core.OneType
import IntelliL3.Agent.ToolCacheMap
import IntelliL3.Agent.NewestArtifact
import IntelliL3.Agent.Recovery
import IntelliL3.Agent.PlanIndex
import IntelliL3.Agent.PlanResults
import IntelliL3.Core.SemanticIndex
import IntelliL3.SemanticCache.RefusedEntries
import IntelliL3.SemanticCache.Capacity
import IntelliL3.SemanticCache.ExactCache
import IntelliL3.SemanticCache.Provenance
import IntelliL3.SemanticCache.Restart
import IntelliL3.Api.Prefetch
import IntelliL3.Metadata.StepOrder
import IntelliL3.Metadata.StepDistance
import IntelliL3.Metadata.PrefixSearch
import IntelliL3.Metadata.LabelRecycling
import IntelliL3.Agent.ToolCallId
import IntelliL3.Policies.EstimatorRestore
import IntelliL3.Policies.BlocksApart
import IntelliL3.Policies.PendingPrefetches
import IntelliL3.Policies.RetentionAccounting
import IntelliL3.Policies.LatencyBounds
import IntelliL3.Policies.PrefetchSelection
import IntelliL3.Policies.PrefetchFeedback
import IntelliL3.Policies.SessionIsolation
import IntelliL3.Policies.AdaptivePrefetch
import IntelliL3.Core.Isolation
import IntelliL3.Core.PrefetchKeys
import IntelliL3.Policies.LRUEviction
import IntelliL3.Policies.ReuseScores
import IntelliL3.Policies.WorkflowProximity
import IntelliL3.Agent.ToolAccounting
import IntelliL3.Agent.PlanCompleteness
import IntelliL3.Metadata.PrefixInvariant
import IntelliL3.Embeddings.CacheTransparency
import IntelliL3.Workloads.RetailReplay
import IntelliL3.Workloads.ReturnWindow
import IntelliL3.Workloads.RagReproducible
import IntelliL3.Workloads.RagValidator
import IntelliL3.Workloads.RetailValidator
import IntelliL3.Measurement.RunSummary
import IntelliL3.Baselines.RetailProfiles
import IntelliL3.Baselines.AgentLRU
import IntelliL3.Metadata.BloomArray
import IntelliL3.Lib.Pointwise
import IntelliL3.Runners.BenchmarkRunner
import IntelliL3.Baselines.AgenticAnswers
import IntelliL3.Runners.JobTimes
import IntelliL3.Runners.PrefetchMetrics
import IntelliL3.Runners.FullAgentic
import IntelliL3.Lib.Numbered
import IntelliL3.Workloads.AgenticWorkflow
import IntelliL3.Workloads.AgenticTraces
import IntelliL3.Runners.GeneratedHits
import IntelliL3.Runners.GeneratedJobs
import IntelliL3.Baselines.RealStorage
import IntelliL3.Runners.PreparedRequests
import IntelliL3.Runners.SeededStore
import IntelliL3.Runners.StorageHits
import IntelliL3.Runners.StorageVictim
