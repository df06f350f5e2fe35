import LiquidationBot.Library.AsyncPool
import LiquidationBot.Library.InsertionMap
import LiquidationBot.Library.Prefixes
import LiquidationBot.Library.Window
import LiquidationBot.AaveEvents
import LiquidationBot.WsEventLayer
import LiquidationBot.IngestionOnce
import LiquidationBot.LocalPositionModel
import LiquidationBot.LedgerFrames
import LiquidationBot.AccountEvents
import LiquidationBot.Library.Accrual
import LiquidationBot.IndexAccrual
import LiquidationBot.SnapshotReplay
import LiquidationBot.TieredConfirmQueue
import LiquidationBot.EventPurityStack
import LiquidationBot.UrgentReads
import LiquidationBot.NonceManager
import LiquidationBot.SafeTransactionExecutor
import LiquidationBot.ExecutorRequests
import LiquidationBot.NonceProtocol
import LiquidationBot.NonceWorld
import LiquidationBot.NonceConservation
import LiquidationBot.Library.Apart
import LiquidationBot.NonceUniqueness
import LiquidationBot.Library.Expiry
import LiquidationBot.BorrowerCooldown
import LiquidationBot.LiquidationExecutionAdapter
import LiquidationBot.LiquidationHfPreflight
import LiquidationBot.BorrowerCache
import LiquidationBot.SnapshotSeeding
import LiquidationBot.CacheBounds
import LiquidationBot.FirstTouch
import LiquidationBot.FirstTouchConvergence
import LiquidationBot.SeededFlags
import LiquidationBot.IndexBaselines
import LiquidationBot.ReserveRefresh
import LiquidationBot.Library.EventLogs
import LiquidationBot.PoolLogs
import LiquidationBot.CacheDeliveries
import LiquidationBot.PipelineOrchestrator
import LiquidationBot.PipelineProtocol
import LiquidationBot.CandidateSearch
import LiquidationBot.PipelineWorld
import LiquidationBot.CooldownRuns
import LiquidationBot.BroadcastOverlap
import LiquidationBot.EventPurityTrigger
import LiquidationBot.Library.Batches
import LiquidationBot.Library.AbiWords
import LiquidationBot.Library.Throwing
import LiquidationBot.Library.NumberText
import LiquidationBot.ConfirmReads
import LiquidationBot.ConfirmedRows
import LiquidationBot.BootstrapSweep
import LiquidationBot.HealthPolicyTiers
import LiquidationBot.LiquidationFlashReceiver
import LiquidationBot.LiquidationRoute
import LiquidationBot.TypedAssetMath
import LiquidationBot.ProfitabilityEngine
import LiquidationBot.FlashLoanProviderRouter
import LiquidationBot.GracefulShutdownCoordinator
import LiquidationBot.HybridDetectionPipeline
import LiquidationBot.FlashLoanFees
import LiquidationBot.Library.FirstGreatest
import LiquidationBot.RouteSelections
import LiquidationBot.LiquidationEconomics
import LiquidationBot.Library.Spacing
import LiquidationBot.HealthFactorMonitor
import LiquidationBot.ScanCandidates
import LiquidationBot.SingleInstanceLock
import LiquidationBot.SingleInstanceProtocol
import LiquidationBot.SingleInstanceWorld
import LiquidationBot.SingleInstanceTakeover
import LiquidationBot.SingleInstanceExclusion
import LiquidationBot.PegSync
import LiquidationBot.HealthPolicyOrder
import LiquidationBot.RoundOrder
import LiquidationBot.AaveOraclePrice
import LiquidationBot.HolderSettlement
import LiquidationBot.Library.ScaledSums
import LiquidationBot.HealthFactorUnits
import LiquidationBot.SilentMoves
import LiquidationBot.CheckpointWriters
import LiquidationBot.CheckpointProtocol
import LiquidationBot.CheckpointSoundness
import LiquidationBot.LogSubscriptions
import LiquidationBot.SubscriptionGap
import LiquidationBot.Library.AsyncRuns
import LiquidationBot.BroadcastGates
import LiquidationBot.ReplacementPrices
import LiquidationBot.ParallelBroadcastClient
import LiquidationBot.ApprovalSoundness
import LiquidationBot.QuoteEngine
import LiquidationBot.ArbitrageScanner
import LiquidationBot.CycleAccounting
import LiquidationBot.DetectionAdapter
import LiquidationBot.SnapshotRoundTrip
import LiquidationBot.SimFailureCircuitBreaker
import LiquidationBot.MultiWsEventSource
import LiquidationBot.PriceOracleCache
import LiquidationBot.OracleProtocol
import LiquidationBot.FeedDecimals
import LiquidationBot.OracleFreshness
import LiquidationBot.EventDrivenWatchlist
import LiquidationBot.WatchlistCursor
import LiquidationBot.ReachableModels
import LiquidationBot.BootstrapSnapshotStore
import LiquidationBot.RestoredPositions
import LiquidationBot.SnapshotLossless
import LiquidationBot.PressureEviction
import LiquidationBot.NoncePool
import LiquidationBot.BaseGasModel
import LiquidationBot.Library.Memo
import LiquidationBot.LiquidationGasLimits
import LiquidationBot.WatchlistBounds
import LiquidationBot.WatchlistReserveFilter
import LiquidationBot.CacheRuns
import LiquidationBot.BorrowerPages
import LiquidationBot.GapReplay
import LiquidationBot.BatchPrices
import LiquidationBot.Library.Averages
import LiquidationBot.HazardPrediction
import LiquidationBot.NoRegretRanker
import LiquidationBot.OpportunityFeatures
import LiquidationBot.DetectionOutcomes
import LiquidationBot.WatchlistSweeps
import LiquidationBot.Library.AsyncTurns
import LiquidationBot.LiquidationCandidateGate
import LiquidationBot.RefusedCandidates
import LiquidationBot.Library.JsonText
import LiquidationBot.FlashblocksWsClient
import LiquidationBot.FlashblocksFrames
import LiquidationBot.FlashblocksSockets
import LiquidationBot.Library.LeastSquares
import LiquidationBot.HfLinearRegression
import LiquidationBot.ArbitrageExecutionAdapter
import LiquidationBot.SubgraphEnumeration
import LiquidationBot.BotCycle
import LiquidationBot.ScannerPolling
import LiquidationBot.DiskCheckpoints
import LiquidationBot.Library.ScaledFloors
import LiquidationBot.PrecheckUnits
import LiquidationBot.ArbitrageProbes
import LiquidationBot.ApprovedArbitrage
import LiquidationBot.Library.Lately
import LiquidationBot.ProbeSelection
import LiquidationBot.Library.PrefixCodes
import LiquidationBot.Library.JsonWriter
import LiquidationBot.EnvReadings
import LiquidationBot.FeedRegistryText
import LiquidationBot.DeploymentSafetyGate
import LiquidationBot.RuntimeConfig
import LiquidationBot.DryRunReceipts
import LiquidationBot.ReceiptCoverage
import LiquidationBot.FixedSizeDedupe
import LiquidationBot.LogRateLimiter
import LiquidationBot.RustHotpath
import LiquidationBot.PegCalls
import LiquidationBot.Library.Latest
import LiquidationBot.ArbitrageOpportunityQueue
import LiquidationBot.NearLiquidationAcceleratedPoller
import LiquidationBot.PoolLogDiscovery
import LiquidationBot.MultiProtocolFlashReceiver
import LiquidationBot.OraclePriceBootstrap
import LiquidationBot.WatchlistColdStart
import LiquidationBot.LiquidationExecutor
import LiquidationBot.BlockRescans
import LiquidationBot.GasPriceOracle
