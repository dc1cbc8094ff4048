import SolanaArb.Machine

/-! # Shared data types

The records exchanged between the feed, the quoter, the scanner and the detector.
Mints and account addresses are their base58 texts. A timestamp counts
nanoseconds.
-/
namespace SolanaArb

def wsolMint : String := "So11111111111111111111111111111111111111112"
def usdcMint : String := "EPjFWdd5AufqSSqeM2qN1xzybapC8G4wEGGkZwyTDt1v"
def usdtMint : String := "Es9vMFrzaCERmJfrF4H2FYD4KCoNkY11McCe8BenwNYB"

def stablecoinMints : List String := [usdcMint, usdtMint]

def defaultSwapFeeBps : ℚ := 25

abbrev Timestamp := ℤ

inductive Dex
  | raydium | raydiumClmm | orca | jupiter | meteora | pumpFun | pumpSwap | unknown
  deriving DecidableEq, Repr

namespace Dex

def asStr : Dex → String
  | raydium => "raydium"
  | raydiumClmm => "raydium_clmm"
  | orca => "orca"
  | jupiter => "jupiter"
  | meteora => "meteora"
  | pumpFun => "pumpfun"
  | pumpSwap => "pumpswap"
  | unknown => "unknown"

/-- The variant name, as `{:?}` prints it. -/
def debugName : Dex → String
  | raydium => "Raydium"
  | raydiumClmm => "RaydiumClmm"
  | orca => "Orca"
  | jupiter => "Jupiter"
  | meteora => "Meteora"
  | pumpFun => "PumpFun"
  | pumpSwap => "PumpSwap"
  | unknown => "Unknown"

def fromDexscreenerId (id : String) : Dex :=
  if id = "raydium" then raydium
  else if id = "orca" then orca
  else if id = "jupiter" then jupiter
  else if id = "meteora" then meteora
  else if id = "pumpfun" then pumpFun
  else if id = "pumpswap" then pumpSwap
  else unknown

def feeBps : Dex → ℚ
  | raydium => 25
  | raydiumClmm => 25
  | orca => 25
  | meteora => 30
  | pumpFun => 100
  | pumpSwap => 25
  | jupiter | unknown => defaultSwapFeeBps

theorem feeBps_pos (dex : Dex) : 0 < dex.feeBps := by
  cases dex <;> norm_num [feeBps, defaultSwapFeeBps]

end Dex

inductive PriceSource
  | httpPoll | webSocket | forgeStream
  deriving DecidableEq, Repr

inductive SwapDirection
  | buy | sell
  deriving DecidableEq, Repr

structure SwapSignal where
  signature : String
  slot : ℕ
  platform : Dex
  signer : String
  tokenMint : String
  tokenSymbol : Option String
  direction : SwapDirection
  solEquivalent : ℚ
  timestamp : Timestamp
  deriving DecidableEq, Repr

structure PriceQuote where
  dex : Dex
  baseMint : String
  quoteMint : String
  priceUsd : ℚ
  liquidityUsd : ℚ
  poolAddress : Option String
  source : PriceSource
  timestamp : Timestamp
  deriving DecidableEq, Repr

abbrev Uuid := BitVec 128

def Uuid.nil : Uuid := 0

/-- An emitted opportunity. Its random identifier is given where it is used. Bought at a price
of zero it has an infinite spread and profit. -/
structure ArbOpportunity where
  baseMint : String
  tokenSymbol : String
  buyDex : Dex
  buyPrice : ℚ
  buyPool : Option String
  sellDex : Dex
  sellPrice : ℚ
  sellPool : Option String
  grossSpreadBps : WithTop ℚ
  estimatedFeesBps : ℚ
  netSpreadBps : WithTop ℚ
  estimatedProfitUsd : WithTop ℚ
  detectedAt : Timestamp
  detectionLatencyMs : ℕ
  deriving DecidableEq, Repr

/-- A known pool. The two vaults of a Raydium pool are its coin and pc vaults,
those of a PumpSwap pool its base and quote vaults; a PumpFun pool is its curve. -/
structure KnownPool where
  poolAddress : String
  dex : Dex
  baseMint : String
  quoteMint : String
  vaultAddresses : Option (String × String)
  deriving DecidableEq, Repr

structure LocalQuote where
  poolAddress : String
  dex : Dex
  inputMint : String
  inputAmount : UInt64
  outputAmount : UInt64
  feeAmount : UInt64
  priceImpactBps : ℚ
  reserves : UInt64 × UInt64
  deriving DecidableEq, Repr

structure CrossVenueResult where
  tokenMint : String
  tokenSymbol : String
  buyPool : KnownPool
  sellPool : KnownPool
  inputLamports : UInt64
  tokensReceived : UInt64
  outputLamports : UInt64
  grossProfitLamports : Int64
  netProfitLamports : Int64
  profitBps : ℚ
  profitable : Bool
  fixedCostLamports : Int64
  jitoTipLamports : UInt64
  slippageLamports : UInt64
  deriving DecidableEq, Repr

inductive ExecutionMode
  | paper | simulate | live
  deriving DecidableEq, Repr

def ExecutionMode.asStr : ExecutionMode → String
  | paper => "paper"
  | simulate => "simulate"
  | live => "live"

inductive Strategy
  | crossVenueArb | graduationSnipe | backRun | samePoolBackRun
  deriving DecidableEq, Repr

/-- An execution record, without its random identifier. -/
structure ExecutionResult where
  strategy : Strategy
  mode : ExecutionMode
  tokenMint : String
  tokenSymbol : String
  buyDex : Option String
  sellDex : Option String
  inputLamports : Int64
  expectedOutputLamports : Option Int64
  actualOutputLamports : Option Int64
  expectedProfitLamports : Option Int64
  actualProfitLamports : Option Int64
  tipLamports : Option Int64
  txSignature : Option String
  bundleId : Option String
  status : String
  errorMessage : Option String
  simulationUnits : Option Int64
  executedAt : Timestamp
  deriving DecidableEq, Repr

structure RuntimeConfig where
  mode : ExecutionMode
  minSignalSol : ℚ
  minLiquidity : ℚ
  maxLiquidity : ℚ
  minSpreadBps : ℚ
  watchMints : List String
  systemRunning : Bool
  startedAt : Option Timestamp
  deriving DecidableEq, Repr

/-- A mint in place of a symbol: its first four and last four characters. -/
def shortMint (mint : String) : String :=
  String.ofList (mint.toList.take 4) ++ ".." ++
    String.ofList (mint.toList.drop (mint.toList.length - 4))

end SolanaArb
