import SolanaProtocols.PassLoop
import SolanaProtocols.BitScan
import SolanaProtocols.CheckedArithmetic
import SolanaProtocols.SolanaTypes
import SolanaProtocols.DlmmState
import SolanaProtocols.DlmmMath
import SolanaProtocols.DlmmBitmap
import SolanaProtocols.DlmmBitmapSearch
import SolanaProtocols.DlmmArraySearch
import SolanaProtocols.ProportionalCharge
import SolanaProtocols.DlmmQuote
import SolanaProtocols.DlmmQuoteTermination
import SolanaProtocols.DlmmQuoteInverse
import SolanaProtocols.LogEntry
import SolanaProtocols.LogAttribution
import SolanaProtocols.LogForest
import SolanaProtocols.LogNoninterference
import SolanaProtocols.SlotHistory
import SolanaProtocols.VersionedStateMap
import SolanaProtocols.HandlerRegistry
import SolanaProtocols.DepResolver
import SolanaProtocols.DepResolverRuns
import SolanaProtocols.PrefixCodec
import SolanaProtocols.PumpConfig
import SolanaProtocols.SingletonConfig
import SolanaProtocols.OptionBool
import SolanaProtocols.InstructionCodec
import SolanaProtocols.PumpInstructions
import SolanaProtocols.KeyClaims
import SolanaProtocols.AccountLayout
import SolanaProtocols.AccountOwnership
import SolanaProtocols.SwapMath
import SolanaProtocols.SwapExactOut
import SolanaProtocols.LogSafety
import SolanaProtocols.HandlerDispatch
import SolanaProtocols.FirstWins
import SolanaProtocols.PoolGraph
import SolanaProtocols.ResolverShutdown
import SolanaProtocols.FileSystem
import SolanaProtocols.SnapshotFile
import SolanaProtocols.SnapshotAtomic
import SolanaProtocols.QuoteAssembly
import SolanaProtocols.QuoteSnapshot
import SolanaProtocols.QuoteBundles
import SolanaProtocols.ConsumedFlags
import SolanaProtocols.TokenBalances
import SolanaProtocols.SwapRecord
import SolanaProtocols.AnchorEvents
import SolanaProtocols.SwapEvents
import SolanaProtocols.SwapAccounts
import SolanaProtocols.SwapExtract
import SolanaProtocols.SwapReading
import SolanaProtocols.Corroboration
import SolanaProtocols.InstructionFlatten
import SolanaProtocols.ExtractTransaction
import SolanaProtocols.SwapOrigins
import SolanaProtocols.DbcFeeFormula
import SolanaProtocols.MachineArithmetic
import SolanaProtocols.ConstantProduct
import SolanaProtocols.RoundedFees
import SolanaProtocols.PumpState
import SolanaProtocols.PumpMath
import SolanaProtocols.PumpfunQuotes
import SolanaProtocols.PumpfunExactOut
import SolanaProtocols.PumpfunTrades
import SolanaProtocols.PumpSwapQuotes
import SolanaProtocols.PumpSwapExactOut
import SolanaProtocols.PumpSwapTrades
import SolanaProtocols.Verify
import SolanaProtocols.VerifyPump
import SolanaProtocols.TaggedLayout
import SolanaProtocols.PoolLayouts
import SolanaProtocols.PoolIdentification
import SolanaProtocols.PoolDiscovery
import SolanaProtocols.InstructionBuilder
import SolanaProtocols.SwapBuilders
import SolanaProtocols.RaydiumSafety
import SolanaProtocols.FeeSplit
import SolanaProtocols.DlmmFees
import SolanaProtocols.DlmmQuoteMonotone
import SolanaProtocols.InPlaceUpdate
import SolanaProtocols.DlmmBinSwap
import SolanaProtocols.DlmmAdvance
import SolanaProtocols.DlmmPosition
import SolanaProtocols.DlmmDistribution
import SolanaProtocols.RangeLoop
import SolanaProtocols.DlmmMetrics
import SolanaProtocols.VerifyTransition
import SolanaProtocols.RateLadder
import SolanaProtocols.PumpSwapLadder
import SolanaProtocols.LogTotality
import SolanaProtocols.NearestBelow
import SolanaProtocols.FlattenedStructure
import SolanaProtocols.CurveLayouts
import SolanaProtocols.Base64
import SolanaProtocols.LogParser
import SolanaProtocols.WriteOnce
import SolanaProtocols.Undecoded
import SolanaProtocols.RegistrySwap
import SolanaProtocols.SwapReaders
import SolanaProtocols.StepProfile
import SolanaProtocols.ClmmSwap
import SolanaProtocols.ClmmWalk
import SolanaProtocols.ClmmReasons
import SolanaProtocols.RoundedPower
import SolanaProtocols.DlmmPrices
import SolanaProtocols.Grouping
import SolanaProtocols.SourceBalances
import SolanaProtocols.SlippageBounds
import SolanaProtocols.TokenAccounts
import SolanaProtocols.NewestWins
import SolanaProtocols.CacheData
import SolanaProtocols.CacheDispatch
import SolanaProtocols.CacheRuns
import SolanaProtocols.CacheQuotes
import SolanaProtocols.SnapshotFormat
import SolanaProtocols.CacheRestart
import SolanaProtocols.CacheHandles
import SolanaProtocols.FixedAccounts
import SolanaProtocols.PoolAccounts
import SolanaProtocols.PoolInstructions
import SolanaProtocols.RegistryEvents
import SolanaProtocols.PoolParsers
import SolanaProtocols.RegistryParsing
import SolanaProtocols.TickArrays
import SolanaProtocols.PoolBuilders
import SolanaProtocols.PoolOrders
import SolanaProtocols.SwapClassification
import SolanaProtocols.ChainEvents
import SolanaProtocols.EventExtract
import SolanaProtocols.KeyTally
import SolanaProtocols.RecordedSwaps
import SolanaProtocols.ExtractReports
import SolanaProtocols.EventOrigins
import SolanaProtocols.CallTree
import SolanaProtocols.ExtractLocality
import SolanaProtocols.TreeExtraction
