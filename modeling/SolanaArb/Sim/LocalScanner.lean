import SolanaArb.Sim.PoolRegistry
import SolanaArb.Sim.CostModel

/-! # The cross-venue scanners

Three searches over the pools of one token: the periodic scan of every ordered
pair of venues at 1 SOL, the scan triggered by a swap at a size taken from it, and
the back-run on the pool that was just moved. The quoter is a parameter that stays
fixed during one scan; log lines are left out.
-/
namespace SolanaArb.LocalScanner
open SolanaArb.AmmQuoter SolanaArb.General

/-- The two quoting paths as one scan sees them. -/
structure Quoter where
  quoteSwap : KnownPool → String → UInt64 → Except String LocalQuote
  quoteAllPools : List KnownPool → String → UInt64 → List (Except String LocalQuote)

def ammQuoter (bs58 : Bytes → String) (rpc : Rpc) : Quoter where
  quoteSwap := AmmQuoter.quoteSwap bs58 rpc
  quoteAllPools := AmmQuoter.quoteAllPools bs58 rpc

def dexSet (pools : List KnownPool) : List Dex := (pools.map KnownPool.dex).dedup

def crossVenueResult (m : CostModel) (tokenMint tokenSymbol : String)
    (buyPool sellPool : KnownPool) (tradeLamports tokensReceived solOut : UInt64) :
    CrossVenueResult :=
  let econ := m.compute tradeLamports solOut
  { tokenMint := tokenMint
    tokenSymbol := tokenSymbol
    buyPool := buyPool
    sellPool := sellPool
    inputLamports := tradeLamports
    tokensReceived := tokensReceived
    outputLamports := econ.realisticOutputLamports
    grossProfitLamports := econ.grossProfitLamports
    netProfitLamports := econ.netProfitLamports
    profitBps := econ.profitBps
    profitable := decide (0 < econ.netProfitLamports)
    fixedCostLamports := econ.fixedCostLamports
    jitoTipLamports := econ.jitoTipLamports
    slippageLamports := econ.slippageLamports }

/-- A buy quote that returned tokens, with the index of its pool. -/
def boughtTokens {ι : Type} (i : ι) (quote : Except String LocalQuote) : Option (ι × UInt64) :=
  match quote with
  | .ok q => if 0 < q.outputAmount then some (i, q.outputAmount) else none
  | .error _ => none

section Scan
variable (m : CostModel) (quoter : Quoter) (tokenMint tokenSymbol : String)

/-- The sell leg of one route: no result when the quote fails, returns nothing, or
returns more than five times the input. -/
def sellResult (buyPool sellPool : KnownPool) (tradeLamports tokensReceived : UInt64) :
    Option CrossVenueResult :=
  match quoter.quoteSwap sellPool tokenMint tokensReceived with
  | .ok q =>
    if 0 < q.outputAmount then
      if tradeLamports * 5 < q.outputAmount then none
      else some (crossVenueResult m tokenMint tokenSymbol buyPool sellPool tradeLamports
        tokensReceived q.outputAmount)
    else none
  | .error _ => none

def trackBest (best : Option CrossVenueResult) (result : CrossVenueResult) :
    Option CrossVenueResult :=
  match best with
  | none => some result
  | some prev =>
    if prev.netProfitLamports < result.netProfitLamports then some result else some prev

def scanAt (pools : List KnownPool) (tradeLamports : UInt64) : Except String CrossVenueResult :=
  let uniqueDexes := (dexSet pools).length
  if uniqueDexes < 2 then
    .error s!"Need pools on 2+ different DEXs, found {uniqueDexes} DEX(es) for {tokenSymbol}"
  else
    let buyQuotes := (List.finRange pools.length).filterMap (fun i =>
      boughtTokens i (quoter.quoteSwap (pools.get i) wsolMint tradeLamports))
    let bestResult := buyQuotes.foldl (fun best (buyIdx, tokensReceived) =>
      (List.finRange pools.length).foldl (fun best sellIdx =>
        if sellIdx = buyIdx ∨ (pools.get sellIdx).dex = (pools.get buyIdx).dex then best
        else
          match sellResult m quoter tokenMint tokenSymbol (pools.get buyIdx) (pools.get sellIdx)
            tradeLamports tokensReceived with
          | none => best
          | some result => trackBest best result) best) none
    okOr bestResult s!"No valid cross-venue routes for {tokenSymbol}"

def scanToken (pools : List KnownPool) : Except String CrossVenueResult :=
  scanAt m quoter tokenMint tokenSymbol pools 1000000000

/-- 20% of the triggering swap, between 0.1 and 2 SOL. -/
def triggeredTradeLamports (signalSol : ℚ) : UInt64 :=
  f64ToU64 (clamp (signalSol * (1/5)) (1/10) 2 * 10^9)

/-- The end of the triggered loop body. It runs in `Except`, whose error is the
early `return Ok(result)` at a profitable result. -/
def exitOrTrack (best : Option CrossVenueResult) :
    Option CrossVenueResult → Except CrossVenueResult (Option CrossVenueResult)
  | none => .ok best
  | some result => if result.profitable then .error result else .ok (trackBest best result)

def scanTriggered (pools : List KnownPool) (signalSol : ℚ) : Except String CrossVenueResult :=
  let tradeLamports := triggeredTradeLamports signalSol
  let dexes := (dexSet pools).length
  if dexes < 2 then
    .error s!"Need pools on 2+ different DEXs, found {dexes} for {tokenSymbol}"
  else
    let quotes := quoter.quoteAllPools pools wsolMint tradeLamports
    let buyQuotes := (List.finRange pools.length).filterMap (fun i =>
      (quotes[i.val]?).bind (boughtTokens i))
    let search : Except CrossVenueResult (Option CrossVenueResult) :=
      buyQuotes.foldlM (fun best (buyIdx, tokensReceived) =>
        let sellPools := ((List.finRange pools.length).filter (fun i =>
          i ≠ buyIdx ∧ (pools.get i).dex ≠ (pools.get buyIdx).dex)).map (fun i => pools.get i)
        sellPools.foldlM (fun best sellPool => exitOrTrack best
          (sellResult m quoter tokenMint tokenSymbol (pools.get buyIdx) sellPool
            tradeLamports tokensReceived)) best) none
    match search with
    | .error result => .ok result
    | .ok best => okOr best s!"No valid cross-venue routes for {tokenSymbol}"

def backrunTradeLamports (signalSol : ℚ) : UInt64 :=
  f64ToU64 (clamp (signalSol * (1/10)) (1/20) 1 * 10^9)

/-- The round trip through the pool of the triggering DEX; buy triggers are skipped. -/
def scanSamePoolBackrun (pools : List KnownPool) (triggerDex : Dex)
    (triggerDirection : SwapDirection) (signalSol : ℚ) : Except String CrossVenueResult := do
  let tradeLamports := backrunTradeLamports signalSol
  let pool ← okOr (pools.find? (fun p => p.dex = triggerDex))
    s!"No {triggerDex.asStr} pool found for {tokenSymbol} (have {pools.length} pools on other DEXs)"
  if triggerDirection = .buy then
    .error s!"Same-pool back-run on BUY trigger requires token inventory — skipping {tokenSymbol} for now"
  else
    let leg1 ← quoter.quoteSwap pool wsolMint tradeLamports
    if leg1.outputAmount = 0 then
      .error s!"Leg 1 quote returned 0 tokens for {tokenSymbol}"
    else
      let leg2 ← quoter.quoteSwap pool tokenMint leg1.outputAmount
      if tradeLamports * 5 < leg2.outputAmount then
        .error s!"Same-pool sanity fail for {tokenSymbol}"
      else
        .ok (crossVenueResult m tokenMint tokenSymbol pool pool tradeLamports
          leg1.outputAmount leg2.outputAmount)

end Scan

def withPools (bs58 : Bytes → String) (reg : PoolRegistry) (tokenMint : String) (d : Discovery)
    (scan : List KnownPool → Except String CrossVenueResult) :
    Except String CrossVenueResult × PoolRegistry :=
  match getOrDiscoverPools bs58 reg tokenMint d with
  | (.error e, reg') => (.error e, reg')
  | (.ok pools, reg') => (scan pools, reg')

end SolanaArb.LocalScanner
