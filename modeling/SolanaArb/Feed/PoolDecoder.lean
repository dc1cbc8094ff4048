import SolanaArb.Types

/-! # Account decoders and swap output functions

The pure functions of the pool decoder: fixed-offset reads of token, Raydium,
PumpFun, PumpSwap, CLMM and Whirlpool accounts, and the local swap formulas. The
constant-product formula runs in wrapping 128-bit arithmetic; the concentrated
liquidity approximation runs on exact rationals.
-/
namespace SolanaArb.PoolDecoder

def splTokenAccountLen : ℕ := 165
def splTokenAmountOffset : ℕ := 64

def decodeSplTokenBalance (data : Bytes) : Except String UInt64 :=
  if splTokenAccountLen ≤ data.length then .ok (readU64 data splTokenAmountOffset)
  else .error s!"SPL Token account too short: {data.length}"

def raydiumPoolLen : ℕ := 752
def raydiumCoinVaultOffset : ℕ := 0x128
def raydiumPcVaultOffset : ℕ := 0x148

def decodeRaydiumPoolVaults (data : Bytes) : Except String (Bytes × Bytes) :=
  if raydiumPoolLen ≤ data.length then
    .ok (slice data raydiumCoinVaultOffset 32, slice data raydiumPcVaultOffset 32)
  else .error s!"Raydium pool too short: {data.length}"

def raydiumPriceFromVaults (coinBalance pcBalance : UInt64) (coinDecimals pcDecimals : UInt8) :
    Except String ℚ :=
  if coinBalance = 0 then .error "Raydium coin vault is empty"
  else
    let coinAdj : ℚ := coinBalance.toNat / 10^coinDecimals.toNat
    let pcAdj : ℚ := pcBalance.toNat / 10^pcDecimals.toNat
    .ok (pcAdj / coinAdj)

def raydiumClmmLen : ℕ := 1544
def clmmMint0Offset : ℕ := 73
def clmmMint1Offset : ℕ := 105
def clmmVault0Offset : ℕ := 137
def clmmVault1Offset : ℕ := 169
def clmmDecimals0Offset : ℕ := 233
def clmmDecimals1Offset : ℕ := 234
def clmmLiquidityOffset : ℕ := 237
def clmmSqrtPriceOffset : ℕ := 253
def clmmTickCurrentOffset : ℕ := 269

structure RaydiumClmmState where
  mint0 : Bytes
  mint1 : Bytes
  vault0 : Bytes
  vault1 : Bytes
  decimals0 : UInt8
  decimals1 : UInt8
  liquidity : U128
  sqrtPriceX64 : U128
  tickCurrent : Int32
  deriving DecidableEq

def decodeRaydiumClmm (data : Bytes) : Except String RaydiumClmmState :=
  if raydiumClmmLen ≤ data.length then
    let sqrtPrice := readU128 data clmmSqrtPriceOffset
    if sqrtPrice = 0 then .error "CLMM sqrt_price is zero"
    else .ok {
      mint0 := slice data clmmMint0Offset 32
      mint1 := slice data clmmMint1Offset 32
      vault0 := slice data clmmVault0Offset 32
      vault1 := slice data clmmVault1Offset 32
      decimals0 := data.getD clmmDecimals0Offset 0
      decimals1 := data.getD clmmDecimals1Offset 0
      liquidity := readU128 data clmmLiquidityOffset
      sqrtPriceX64 := sqrtPrice
      tickCurrent := Int32.ofNat (leNat (slice data clmmTickCurrentOffset 4)) }
  else .error s!"CLMM pool too short: {data.length} (need {raydiumClmmLen})"

def whirlpoolSqrtPriceOffset : ℕ := 65
def whirlpoolMintAOffset : ℕ := 101
def whirlpoolFeeRateOffset : ℕ := 45
def whirlpoolLiquidityOffset : ℕ := 49

def decodeWhirlpoolSqrtPrice (data : Bytes) : Except String U128 :=
  if whirlpoolSqrtPriceOffset + 16 ≤ data.length then
    let sp := readU128 data whirlpoolSqrtPriceOffset
    if sp = 0 then .error "Whirlpool sqrt_price is zero" else .ok sp
  else .error s!"Whirlpool too short: {data.length}"

def sqrtPriceToPrice (sqrtPrice : U128) (decimalsA decimalsB : UInt8) : ℚ :=
  let sqrtF : ℚ := sqrtPrice.toNat / 2^64
  sqrtF * sqrtF * (10 : ℚ)^((decimalsA.toNat : ℤ) - decimalsB.toNat)

def decodeWhirlpoolPrice (data : Bytes) (decimalsA decimalsB : UInt8) : Except String ℚ := do
  let sp ← decodeWhirlpoolSqrtPrice data
  pure (sqrtPriceToPrice sp decimalsA decimalsB)

def decodeWhirlpoolMintA (data : Bytes) : Except String Bytes :=
  if whirlpoolMintAOffset + 32 ≤ data.length then .ok (slice data whirlpoolMintAOffset 32)
  else .error "Whirlpool too short for mint_a"

/-- The fee in basis points; the account stores hundredths of one. -/
def decodeWhirlpoolFeeBps (data : Bytes) : Except String ℚ :=
  if whirlpoolFeeRateOffset + 2 ≤ data.length then
    .ok ((leNat (slice data whirlpoolFeeRateOffset 2) : ℚ) / 100)
  else .error "Whirlpool too short for fee_rate"

def decodeWhirlpoolLiquidity (data : Bytes) : Except String U128 :=
  if whirlpoolLiquidityOffset + 16 ≤ data.length then .ok (readU128 data whirlpoolLiquidityOffset)
  else .error "Whirlpool too short for liquidity"

/-- Output of a concentrated-liquidity swap at the current price, less a flat
10 bps for tick crossing. -/
def whirlpoolSwapOutput (sqrtPrice liquidity : U128) (amountIn : UInt64) (feeBps : ℚ)
    (isAToB : Bool) : UInt64 :=
  if sqrtPrice = 0 ∨ liquidity = 0 ∨ amountIn = 0 then 0
  else
    let feeFraction := feeBps / 10000
    let netInput := amountIn.toNat * (1 - feeFraction)
    let sqrtP : ℚ := sqrtPrice.toNat / 2^64
    let price := sqrtP * sqrtP
    if isAToB then
      let output := netInput * price
      f64ToU64 (output - output * (1/1000))
    else if price ≤ 0 then 0
    else
      let output := netInput / price
      f64ToU64 (output - output * (1/1000))

def clmmSwapOutput (state : RaydiumClmmState) (amountIn : UInt64) (feeBps : ℚ) (is0To1 : Bool) :
    UInt64 :=
  whirlpoolSwapOutput state.sqrtPriceX64 state.liquidity amountIn feeBps is0To1

def pumpfunVirtualTokenOffset : ℕ := 8
def pumpfunVirtualSolOffset : ℕ := 16
def pumpfunRealTokenOffset : ℕ := 24
def pumpfunRealSolOffset : ℕ := 32
def pumpfunCompleteOffset : ℕ := 48
def pumpfunMinLen : ℕ := 49

structure PumpFunState where
  virtualTokenReserves : UInt64
  virtualSolReserves : UInt64
  realTokenReserves : UInt64
  realSolReserves : UInt64
  complete : Bool
  deriving DecidableEq, Repr

def decodePumpfunState (data : Bytes) : Except String PumpFunState :=
  if pumpfunMinLen ≤ data.length then .ok {
    virtualTokenReserves := readU64 data pumpfunVirtualTokenOffset
    virtualSolReserves := readU64 data pumpfunVirtualSolOffset
    realTokenReserves := readU64 data pumpfunRealTokenOffset
    realSolReserves := readU64 data pumpfunRealSolOffset
    complete := data.getD pumpfunCompleteOffset 0 != 0 }
  else .error s!"PumpFun too short: {data.length} (need {pumpfunMinLen})"

def pumpfunPriceInSol (state : PumpFunState) : Except String ℚ :=
  if state.virtualTokenReserves = 0 then .error "PumpFun virtual_token_reserves is zero"
  else
    let sol : ℚ := state.virtualSolReserves.toNat / 10^9
    let tokens : ℚ := state.virtualTokenReserves.toNat / 10^6
    .ok (sol / tokens)

def pumpswapPoolLen : ℕ := 301
def pumpswapBaseMintOffset : ℕ := 43
def pumpswapQuoteMintOffset : ℕ := 75
def pumpswapBaseVaultOffset : ℕ := 139
def pumpswapQuoteVaultOffset : ℕ := 171

structure PumpSwapPoolState where
  baseMint : Bytes
  quoteMint : Bytes
  baseVault : Bytes
  quoteVault : Bytes
  deriving DecidableEq

def decodePumpswapPool (data : Bytes) : Except String PumpSwapPoolState :=
  if pumpswapPoolLen ≤ data.length then .ok {
    baseMint := slice data pumpswapBaseMintOffset 32
    quoteMint := slice data pumpswapQuoteMintOffset 32
    baseVault := slice data pumpswapBaseVaultOffset 32
    quoteVault := slice data pumpswapQuoteVaultOffset 32 }
  else .error s!"PumpSwap pool too short: {data.length} (need {pumpswapPoolLen})"

/-- The constant-product swap, the fee taken from the input. The `u128` products
and sums wrap, and the cast back keeps the low 64 bits. -/
def constantProductSwap (reserveIn reserveOut amountIn feeBps : UInt64) : UInt64 :=
  if reserveIn = 0 ∨ reserveOut = 0 ∨ amountIn = 0 then 0
  else
    let feeFactor : U128 := 10000 - widen feeBps
    let numerator := widen amountIn * feeFactor * widen reserveOut
    let denominator := widen reserveIn * 10000 + widen amountIn * feeFactor
    if denominator = 0 then 0 else narrow (numerator / denominator)

def raydiumSwapOutput (reserveIn reserveOut amountIn : UInt64) : UInt64 :=
  constantProductSwap reserveIn reserveOut amountIn 25

def pumpswapSwapOutput (reserveIn reserveOut amountIn : UInt64) : UInt64 :=
  constantProductSwap reserveIn reserveOut amountIn 25

def pumpfunNetSol (solInLamports : UInt64) : UInt64 :=
  saturatingSub solInLamports (solInLamports / 100)

def pumpfunBuyOutput (state : PumpFunState) (solInLamports : UInt64) : UInt64 :=
  if state.virtualSolReserves = 0 ∨ state.virtualTokenReserves = 0 then 0
  else constantProductSwap state.virtualSolReserves state.virtualTokenReserves
    (pumpfunNetSol solInLamports) 0

/-- Bonding curve sell: tokens in, SOL out, the 1% fee taken from the output. -/
def pumpfunSellOutput (state : PumpFunState) (tokensIn : UInt64) : UInt64 :=
  if state.virtualSolReserves = 0 ∨ state.virtualTokenReserves = 0 then 0
  else
    let grossSol :=
      constantProductSwap state.virtualTokenReserves state.virtualSolReserves tokensIn 0
    saturatingSub grossSol (grossSol / 100)

def decodeMintDecimals (data : Bytes) : Except String UInt8 :=
  if 45 ≤ data.length then .ok (data.getD 44 0)
  else .error s!"Mint account too short: {data.length}"

end SolanaArb.PoolDecoder
