import SolanaArb.Feed.PoolRuns
import SolanaArb.Feed.VaultPairs
import SolanaArb.Feed.DollarPrices
import SolanaArb.Feed.ConcentratedLiquidity
import SolanaArb.Feed.Discovery
import SolanaArb.Feed.Graduations
import SolanaArb.Sim.RoundTrip
import SolanaArb.Sim.BestRoute
import SolanaArb.Sim.ProfitOrder
import SolanaArb.Sim.ScanPairs
import SolanaArb.Sim.QuotableRegistry
import SolanaArb.Detect.DetectorRuns
import SolanaArb.Detect.Completeness
import SolanaArb.Detect.DedupSpacing
import SolanaArb.Detect.DedupMemory
import SolanaArb.Detect.HashOrder
import SolanaArb.Detect.VolumeTracker
import SolanaArb.Cli.ControlPanel
import SolanaArb.Cli.DiscoveryLoop
import SolanaArb.Feed.CurveReserves
import SolanaArb.Feed.DecoderExactness
import SolanaArb.Feed.RugCheckVerdicts
import SolanaArb.Sim.TokenSides
import SolanaArb.Detect.CleanupInvisible
import SolanaArb.Detect.SpikeRule
import SolanaArb.Cli.KnownTokens
import SolanaArb.Sim.BasisPoints
import SolanaArb.Sim.ScanResults
import SolanaArb.Sim.PoolSelection
import SolanaArb.Detect.PriceDeltas
import SolanaArb.Cli.MainLoop
import SolanaArb.Cli.HandledOnce
import SolanaArb.Cli.Dashboard
import SolanaArb.Cli.LiveFeed
import SolanaArb.Cli.ScanList
import SolanaArb.Sim.RateLimit
import SolanaArb.Store.Queries
import SolanaArb.Feed.ForgeSupervisor
import SolanaArb.Store.PriceHistory
import SolanaArb.Feed.SafetyCache
import SolanaArb.Sim.PoolCache
import SolanaArb.Sim.SwapInstruction
import SolanaArb.Sim.PriceGap
import SolanaArb.Cli.Sniper
import SolanaArb.Cli.Poller
import SolanaArb.Cli.ListedTokens
import SolanaArb.Cli.ScanProgress
import SolanaArb.Feed.WatchedPools
import SolanaArb.Sim.Simulator
