import SolanaArb.Feed.PoolDecoder

/-! # Account decoders with checked indexing

The decoders once more, each read of the source an indexing that may panic. They never
do: the length test before the reads covers every range, and what they return is what
the truncating reads of the decoders return.
-/
namespace SolanaArb.PoolDecoder

/-- `data[off..off + len]`; an index out of range panics, as `none`. -/
def indexRange (data : Bytes) (off len : ℕ) : Option Bytes :=
  if off + len ≤ data.length then some (slice data off len) else none

def indexU64 (data : Bytes) (off : ℕ) : Option UInt64 :=
  (indexRange data off 8).map fun bytes => UInt64.ofNat (leNat bytes)

def indexU128 (data : Bytes) (off : ℕ) : Option U128 :=
  (indexRange data off 16).map fun bytes => BitVec.ofNat 128 (leNat bytes)

theorem indexRange_eq {data : Bytes} {off len : ℕ} (h : off + len ≤ data.length) :
    indexRange data off len = some (slice data off len) := if_pos h

theorem indexU64_eq {data : Bytes} {off : ℕ} (h : off + 8 ≤ data.length) :
    indexU64 data off = some (readU64 data off) := by
  rw [indexU64, indexRange_eq h]
  rfl

theorem indexU128_eq {data : Bytes} {off : ℕ} (h : off + 16 ≤ data.length) :
    indexU128 data off = some (readU128 data off) := by
  rw [indexU128, indexRange_eq h]
  rfl

theorem indexByte_eq {data : Bytes} {off : ℕ} (h : off < data.length) :
    data[off]? = some (data.getD off 0) := by
  rw [List.getD_eq_getElem?_getD, List.getElem?_eq_getElem h]
  rfl

def checkedSplTokenBalance (data : Bytes) : Option (Except String UInt64) :=
  if splTokenAccountLen ≤ data.length then do
    let amount ← indexU64 data splTokenAmountOffset
    some (.ok amount)
  else some (.error s!"SPL Token account too short: {data.length}")

theorem checkedSplTokenBalance_eq (data : Bytes) :
    checkedSplTokenBalance data = some (decodeSplTokenBalance data) := by
  unfold checkedSplTokenBalance decodeSplTokenBalance
  split
  · next h =>
    have hlen : 165 ≤ data.length := h
    rw [indexU64_eq (by unfold splTokenAmountOffset; omega)]
    rfl
  · rfl

def checkedRaydiumPoolVaults (data : Bytes) : Option (Except String (Bytes × Bytes)) :=
  if raydiumPoolLen ≤ data.length then do
    let coin ← indexRange data raydiumCoinVaultOffset 32
    let pc ← indexRange data raydiumPcVaultOffset 32
    some (.ok (coin, pc))
  else some (.error s!"Raydium pool too short: {data.length}")

theorem checkedRaydiumPoolVaults_eq (data : Bytes) :
    checkedRaydiumPoolVaults data = some (decodeRaydiumPoolVaults data) := by
  unfold checkedRaydiumPoolVaults decodeRaydiumPoolVaults
  split
  · next h =>
    have hlen : 752 ≤ data.length := h
    rw [indexRange_eq (by unfold raydiumCoinVaultOffset; omega),
      indexRange_eq (by unfold raydiumPcVaultOffset; omega)]
    rfl
  · rfl

def checkedRaydiumClmm (data : Bytes) : Option (Except String RaydiumClmmState) :=
  if raydiumClmmLen ≤ data.length then do
    let sqrtPrice ← indexU128 data clmmSqrtPriceOffset
    if sqrtPrice = 0 then some (.error "CLMM sqrt_price is zero")
    else do
      let liquidity ← indexU128 data clmmLiquidityOffset
      let tickCurrent ← indexRange data clmmTickCurrentOffset 4
      let mint0 ← indexRange data clmmMint0Offset 32
      let mint1 ← indexRange data clmmMint1Offset 32
      let vault0 ← indexRange data clmmVault0Offset 32
      let vault1 ← indexRange data clmmVault1Offset 32
      let decimals0 ← data[clmmDecimals0Offset]?
      let decimals1 ← data[clmmDecimals1Offset]?
      some (.ok {
        mint0 := mint0
        mint1 := mint1
        vault0 := vault0
        vault1 := vault1
        decimals0 := decimals0
        decimals1 := decimals1
        liquidity := liquidity
        sqrtPriceX64 := sqrtPrice
        tickCurrent := Int32.ofNat (leNat tickCurrent) })
  else some (.error s!"CLMM pool too short: {data.length} (need {raydiumClmmLen})")

theorem checkedRaydiumClmm_eq (data : Bytes) :
    checkedRaydiumClmm data = some (decodeRaydiumClmm data) := by
  unfold checkedRaydiumClmm decodeRaydiumClmm
  split
  · next h =>
    have hlen : 1544 ≤ data.length := h
    rw [indexU128_eq (by unfold clmmSqrtPriceOffset; omega),
      indexU128_eq (by unfold clmmLiquidityOffset; omega),
      indexRange_eq (by unfold clmmTickCurrentOffset; omega),
      indexRange_eq (by unfold clmmMint0Offset; omega),
      indexRange_eq (by unfold clmmMint1Offset; omega),
      indexRange_eq (by unfold clmmVault0Offset; omega),
      indexRange_eq (by unfold clmmVault1Offset; omega),
      indexByte_eq (by unfold clmmDecimals0Offset; omega),
      indexByte_eq (by unfold clmmDecimals1Offset; omega)]
    simp only [Option.bind_eq_bind, Option.bind_some]
    split
    · rfl
    · rfl
  · rfl

def checkedWhirlpoolSqrtPrice (data : Bytes) : Option (Except String U128) :=
  if whirlpoolSqrtPriceOffset + 16 ≤ data.length then do
    let sp ← indexU128 data whirlpoolSqrtPriceOffset
    if sp = 0 then some (.error "Whirlpool sqrt_price is zero") else some (.ok sp)
  else some (.error s!"Whirlpool too short: {data.length}")

theorem checkedWhirlpoolSqrtPrice_eq (data : Bytes) :
    checkedWhirlpoolSqrtPrice data = some (decodeWhirlpoolSqrtPrice data) := by
  unfold checkedWhirlpoolSqrtPrice decodeWhirlpoolSqrtPrice
  split
  · next h =>
    rw [indexU128_eq h]
    simp only [Option.bind_eq_bind, Option.bind_some]
    split
    · rfl
    · rfl
  · rfl

def checkedWhirlpoolMintA (data : Bytes) : Option (Except String Bytes) :=
  if whirlpoolMintAOffset + 32 ≤ data.length then do
    let mintA ← indexRange data whirlpoolMintAOffset 32
    some (.ok mintA)
  else some (.error "Whirlpool too short for mint_a")

theorem checkedWhirlpoolMintA_eq (data : Bytes) :
    checkedWhirlpoolMintA data = some (decodeWhirlpoolMintA data) := by
  unfold checkedWhirlpoolMintA decodeWhirlpoolMintA
  split
  · next h =>
    rw [indexRange_eq h]
    rfl
  · rfl

def checkedWhirlpoolFeeBps (data : Bytes) : Option (Except String ℚ) :=
  if whirlpoolFeeRateOffset + 2 ≤ data.length then do
    let feeRate ← indexRange data whirlpoolFeeRateOffset 2
    some (.ok ((leNat feeRate : ℚ) / 100))
  else some (.error "Whirlpool too short for fee_rate")

theorem checkedWhirlpoolFeeBps_eq (data : Bytes) :
    checkedWhirlpoolFeeBps data = some (decodeWhirlpoolFeeBps data) := by
  unfold checkedWhirlpoolFeeBps decodeWhirlpoolFeeBps
  split
  · next h =>
    rw [indexRange_eq h]
    rfl
  · rfl

def checkedWhirlpoolLiquidity (data : Bytes) : Option (Except String U128) :=
  if whirlpoolLiquidityOffset + 16 ≤ data.length then do
    let liquidity ← indexU128 data whirlpoolLiquidityOffset
    some (.ok liquidity)
  else some (.error "Whirlpool too short for liquidity")

theorem checkedWhirlpoolLiquidity_eq (data : Bytes) :
    checkedWhirlpoolLiquidity data = some (decodeWhirlpoolLiquidity data) := by
  unfold checkedWhirlpoolLiquidity decodeWhirlpoolLiquidity
  split
  · next h =>
    rw [indexU128_eq h]
    rfl
  · rfl

def checkedPumpfunState (data : Bytes) : Option (Except String PumpFunState) :=
  if pumpfunMinLen ≤ data.length then do
    let virtualToken ← indexU64 data pumpfunVirtualTokenOffset
    let virtualSol ← indexU64 data pumpfunVirtualSolOffset
    let realToken ← indexU64 data pumpfunRealTokenOffset
    let realSol ← indexU64 data pumpfunRealSolOffset
    let complete ← data[pumpfunCompleteOffset]?
    some (.ok {
      virtualTokenReserves := virtualToken
      virtualSolReserves := virtualSol
      realTokenReserves := realToken
      realSolReserves := realSol
      complete := complete != 0 })
  else some (.error s!"PumpFun too short: {data.length} (need {pumpfunMinLen})")

theorem checkedPumpfunState_eq (data : Bytes) :
    checkedPumpfunState data = some (decodePumpfunState data) := by
  unfold checkedPumpfunState decodePumpfunState
  split
  · next h =>
    have hlen : 49 ≤ data.length := h
    rw [indexU64_eq (by unfold pumpfunVirtualTokenOffset; omega),
      indexU64_eq (by unfold pumpfunVirtualSolOffset; omega),
      indexU64_eq (by unfold pumpfunRealTokenOffset; omega),
      indexU64_eq (by unfold pumpfunRealSolOffset; omega),
      indexByte_eq (by unfold pumpfunCompleteOffset; omega)]
    rfl
  · rfl

def checkedPumpswapPool (data : Bytes) : Option (Except String PumpSwapPoolState) :=
  if pumpswapPoolLen ≤ data.length then do
    let baseMint ← indexRange data pumpswapBaseMintOffset 32
    let quoteMint ← indexRange data pumpswapQuoteMintOffset 32
    let baseVault ← indexRange data pumpswapBaseVaultOffset 32
    let quoteVault ← indexRange data pumpswapQuoteVaultOffset 32
    some (.ok {
      baseMint := baseMint
      quoteMint := quoteMint
      baseVault := baseVault
      quoteVault := quoteVault })
  else some (.error s!"PumpSwap pool too short: {data.length} (need {pumpswapPoolLen})")

theorem checkedPumpswapPool_eq (data : Bytes) :
    checkedPumpswapPool data = some (decodePumpswapPool data) := by
  unfold checkedPumpswapPool decodePumpswapPool
  split
  · next h =>
    have hlen : 301 ≤ data.length := h
    rw [indexRange_eq (by unfold pumpswapBaseMintOffset; omega),
      indexRange_eq (by unfold pumpswapQuoteMintOffset; omega),
      indexRange_eq (by unfold pumpswapBaseVaultOffset; omega),
      indexRange_eq (by unfold pumpswapQuoteVaultOffset; omega)]
    rfl
  · rfl

def checkedMintDecimals (data : Bytes) : Option (Except String UInt8) :=
  if 45 ≤ data.length then do
    let decimals ← data[44]?
    some (.ok decimals)
  else some (.error s!"Mint account too short: {data.length}")

theorem checkedMintDecimals_eq (data : Bytes) :
    checkedMintDecimals data = some (decodeMintDecimals data) := by
  unfold checkedMintDecimals decodeMintDecimals
  split
  · rw [indexByte_eq (by omega)]
    rfl
  · rfl

end SolanaArb.PoolDecoder
