import SolanaArb.Feed.PoolDecoder
import SolanaArb.General.Except

/-! # The local quoter

Quotes are computed from account bytes fetched in one `getMultipleAccounts` call:
per pool in `quoteSwap`, for a whole list of pools in `quoteAllPools`. The four
vault quoters share one definition, as do the two of the bonding curve, of the
CLMM and of the Whirlpool; each keeps its own name, error texts, direction test
and price impact. The base58 text of a key is a parameter.
-/
namespace SolanaArb.AmmQuoter
open SolanaArb.PoolDecoder SolanaArb.General

abbrev AccountMap := AList (fun _ : String => Bytes)

/-- One returned account: its decoded bytes, or a base64 error. -/
abbrev AccountInfo := Except String Bytes

/-- The answer of the endpoint to a list of addresses: a transport error, a null
result, or one optional account per address. -/
abbrev Rpc := List String → Except String (Option (List (Option AccountInfo)))

/-- Store the accounts that exist; the first undecodable one fails the call. -/
def collectAccounts : List (String × Option AccountInfo) → AccountMap → Except String AccountMap
  | [], accounts => .ok accounts
  | (_, none) :: rest, accounts => collectAccounts rest accounts
  | (address, some info) :: rest, accounts => do
    let data ← info
    collectAccounts rest (accounts.insert address data)

def fetchAccountsWith (nullResult : String) (rpc : Rpc) (addresses : List String) :
    Except String AccountMap :=
  if addresses = [] then .ok ∅
  else do
    let result ← rpc addresses
    let value ← okOr result nullResult
    collectAccounts (addresses.zip value) ∅

def getMultipleAccounts (rpc : Rpc) (addresses : List String) : Except String AccountMap :=
  fetchAccountsWith "RPC returned null result" rpc addresses

def impactOrZero (amountIn reserveIn : UInt64) : ℚ :=
  if 0 < reserveIn then (amountIn.toNat : ℚ) / reserveIn.toNat * 10000 else 0

/-- Price impact of the batch path: an empty input side counts as one unit. -/
def impactOverMax (amountIn reserveIn : UInt64) : ℚ :=
  (amountIn.toNat : ℚ) / (maxU64 reserveIn 1).toNat * 10000

structure VaultQuoter where
  dex : Dex
  missingVaults : String
  missingFirst : String
  missingSecond : String
  paysSecond : KnownPool → String → Bool
  swapOutput : UInt64 → UInt64 → UInt64 → UInt64
  impactBps : UInt64 → UInt64 → ℚ

def quoteVaults (v : VaultQuoter) (load : List String → Except String AccountMap)
    (pool : KnownPool) (inputMint : String) (amountIn : UInt64) : Except String LocalQuote := do
  let (first, second) ← okOr pool.vaultAddresses v.missingVaults
  let accounts ← load [first, second]
  let firstData ← okOr (accounts.lookup first) v.missingFirst
  let secondData ← okOr (accounts.lookup second) v.missingSecond
  let firstBalance ← decodeSplTokenBalance firstData
  let secondBalance ← decodeSplTokenBalance secondData
  let (reserveIn, reserveOut) :=
    if v.paysSecond pool inputMint then (secondBalance, firstBalance)
    else (firstBalance, secondBalance)
  .ok {
    poolAddress := pool.poolAddress
    dex := v.dex
    inputMint := inputMint
    inputAmount := amountIn
    outputAmount := v.swapOutput reserveIn reserveOut amountIn
    feeAmount := amountIn * 25 / 10000
    priceImpactBps := v.impactBps amountIn reserveIn
    reserves := (reserveIn, reserveOut) }

def raydiumVaults : VaultQuoter where
  dex := .raydium
  missingVaults := "Raydium pool missing vault addresses"
  missingFirst := "Failed to fetch coin vault"
  missingSecond := "Failed to fetch pc vault"
  paysSecond pool inputMint := inputMint == pool.quoteMint || inputMint == wsolMint
  swapOutput := raydiumSwapOutput
  impactBps := impactOrZero

def raydiumCachedVaults : VaultQuoter where
  dex := .raydium
  missingVaults := "Missing vaults"
  missingFirst := "Coin vault not in cache"
  missingSecond := "PC vault not in cache"
  paysSecond pool inputMint := inputMint == pool.quoteMint || inputMint == wsolMint
  swapOutput := raydiumSwapOutput
  impactBps := impactOverMax

def pumpswapVaults : VaultQuoter where
  dex := .pumpSwap
  missingVaults := "PumpSwap pool missing vault addresses"
  missingFirst := "Failed to fetch token vault"
  missingSecond := "Failed to fetch SOL vault"
  paysSecond pool inputMint := inputMint == wsolMint || inputMint == pool.quoteMint
  swapOutput := pumpswapSwapOutput
  impactBps := impactOrZero

def pumpswapCachedVaults : VaultQuoter where
  dex := .pumpSwap
  missingVaults := "Missing vaults"
  missingFirst := "Token vault not in cache"
  missingSecond := "SOL vault not in cache"
  paysSecond pool inputMint := inputMint == wsolMint || inputMint == pool.quoteMint
  swapOutput := pumpswapSwapOutput
  impactBps := impactOverMax

def quoteRaydium (rpc : Rpc) := quoteVaults raydiumVaults (getMultipleAccounts rpc)
def quotePumpswap (rpc : Rpc) := quoteVaults pumpswapVaults (getMultipleAccounts rpc)

def quoteRaydiumFromCache (pool : KnownPool) (inputMint : String) (amountIn : UInt64)
    (accounts : AccountMap) : Except String LocalQuote :=
  quoteVaults raydiumCachedVaults (fun _ => .ok accounts) pool inputMint amountIn

def quotePumpswapFromCache (pool : KnownPool) (inputMint : String) (amountIn : UInt64)
    (accounts : AccountMap) : Except String LocalQuote :=
  quoteVaults pumpswapCachedVaults (fun _ => .ok accounts) pool inputMint amountIn

/-- A bonding curve quote on the virtual reserves; a graduated curve has none. -/
def quoteCurve (missing graduated : String) (impactBps : UInt64 → UInt64 → ℚ)
    (load : List String → Except String AccountMap)
    (pool : KnownPool) (inputMint : String) (amountIn : UInt64) : Except String LocalQuote := do
  let accounts ← load [pool.poolAddress]
  let curveData ← okOr (accounts.lookup pool.poolAddress) missing
  let state ← decodePumpfunState curveData
  if state.complete then .error graduated
  else
    let (output, fee, reserves) :=
      if inputMint == wsolMint then
        (pumpfunBuyOutput state amountIn, amountIn / 100,
          (state.virtualSolReserves, state.virtualTokenReserves))
      else
        let out := pumpfunSellOutput state amountIn
        (out, out / 100, (state.virtualTokenReserves, state.virtualSolReserves))
    .ok {
      poolAddress := pool.poolAddress
      dex := .pumpFun
      inputMint := inputMint
      inputAmount := amountIn
      outputAmount := output
      feeAmount := fee
      priceImpactBps := impactBps amountIn reserves.1
      reserves := reserves }

def quotePumpfun (rpc : Rpc) :=
  quoteCurve "Failed to fetch PumpFun bonding curve"
    "PumpFun curve is graduated (complete), use PumpSwap pool instead"
    impactOrZero (getMultipleAccounts rpc)

def quotePumpfunFromCache (pool : KnownPool) (inputMint : String) (amountIn : UInt64)
    (accounts : AccountMap) : Except String LocalQuote :=
  quoteCurve "Bonding curve not in cache" "Curve graduated" impactOverMax
    (fun _ => .ok accounts) pool inputMint amountIn

section Base58
variable (bs58 : Bytes → String)

def quoteClmm (missing : String) (load : List String → Except String AccountMap)
    (pool : KnownPool) (inputMint : String) (amountIn : UInt64) : Except String LocalQuote := do
  let accounts ← load [pool.poolAddress]
  let poolData ← okOr (accounts.lookup pool.poolAddress) missing
  let state ← decodeRaydiumClmm poolData
  let is0To1 := inputMint == bs58 state.mint0
  let feeBps := pool.dex.feeBps
  .ok {
    poolAddress := pool.poolAddress
    dex := .raydiumClmm
    inputMint := inputMint
    inputAmount := amountIn
    outputAmount := clmmSwapOutput state amountIn feeBps is0To1
    feeAmount := f64ToU64 (amountIn.toNat * feeBps / 10000)
    priceImpactBps := 0
    reserves := (0, 0) }

def quoteRaydiumClmm (rpc : Rpc) :=
  quoteClmm bs58 "Failed to fetch CLMM pool account" (getMultipleAccounts rpc)

def quoteClmmFromCache (pool : KnownPool) (inputMint : String) (amountIn : UInt64)
    (accounts : AccountMap) : Except String LocalQuote :=
  quoteClmm bs58 "CLMM pool not in cache" (fun _ => .ok accounts) pool inputMint amountIn

def quoteWhirlpool (missing : String) (load : List String → Except String AccountMap)
    (pool : KnownPool) (inputMint : String) (amountIn : UInt64) : Except String LocalQuote := do
  let accounts ← load [pool.poolAddress]
  let poolData ← okOr (accounts.lookup pool.poolAddress) missing
  let sqrtPrice ← decodeWhirlpoolSqrtPrice poolData
  let liquidity ← decodeWhirlpoolLiquidity poolData
  let feeBps ← decodeWhirlpoolFeeBps poolData
  let mintA ← decodeWhirlpoolMintA poolData
  let isAToB := inputMint == bs58 mintA
  .ok {
    poolAddress := pool.poolAddress
    dex := .orca
    inputMint := inputMint
    inputAmount := amountIn
    outputAmount := whirlpoolSwapOutput sqrtPrice liquidity amountIn feeBps isAToB
    feeAmount := f64ToU64 (amountIn.toNat * feeBps / 10000)
    priceImpactBps := 0
    reserves := (0, 0) }

def quoteOrca (rpc : Rpc) :=
  quoteWhirlpool bs58 "Failed to fetch Whirlpool account" (getMultipleAccounts rpc)

def quoteOrcaFromCache (pool : KnownPool) (inputMint : String) (amountIn : UInt64)
    (accounts : AccountMap) : Except String LocalQuote :=
  quoteWhirlpool bs58 "Whirlpool not in cache" (fun _ => .ok accounts) pool inputMint amountIn

def quoteSwap (rpc : Rpc) (pool : KnownPool) (inputMint : String) (amountIn : UInt64) :
    Except String LocalQuote :=
  match pool.dex with
  | .raydium => quoteRaydium rpc pool inputMint amountIn
  | .pumpSwap => quotePumpswap rpc pool inputMint amountIn
  | .pumpFun => quotePumpfun rpc pool inputMint amountIn
  | .raydiumClmm => quoteRaydiumClmm bs58 rpc pool inputMint amountIn
  | .orca => quoteOrca bs58 rpc pool inputMint amountIn
  | other => .error s!"Local quoting not supported for {other.debugName}"

def batchAddresses (pool : KnownPool) : List String :=
  match pool.dex with
  | .raydium | .pumpSwap =>
    match pool.vaultAddresses with
    | some (a, b) => [a, b]
    | none => []
  | .pumpFun | .orca | .raydiumClmm => [pool.poolAddress]
  | _ => []

def quoteFromCache (accounts : AccountMap) (inputMint : String) (amountIn : UInt64)
    (pool : KnownPool) : Except String LocalQuote :=
  match pool.dex with
  | .raydium => quoteRaydiumFromCache pool inputMint amountIn accounts
  | .pumpSwap => quotePumpswapFromCache pool inputMint amountIn accounts
  | .pumpFun => quotePumpfunFromCache pool inputMint amountIn accounts
  | .raydiumClmm => quoteClmmFromCache bs58 pool inputMint amountIn accounts
  | .orca => quoteOrcaFromCache bs58 pool inputMint amountIn accounts
  | other => .error s!"Unsupported DEX: {other.debugName}"

def quoteAllPools (rpc : Rpc) (pools : List KnownPool) (inputMint : String) (amountIn : UInt64) :
    List (Except String LocalQuote) :=
  match getMultipleAccounts rpc (pools.flatMap batchAddresses) with
  | .error _ => pools.map (fun _ => .error "RPC batch failed")
  | .ok accounts => pools.map (quoteFromCache bs58 accounts inputMint amountIn)

end Base58

end SolanaArb.AmmQuoter
