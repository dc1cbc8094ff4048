import SolanaArb.Types

/-! # Quotes from DexScreener

The pairs of a token as the HTTP client reads them. A response is given by the fields
the client reads, a price text by the number it parses to. The pairs of unknown DEXs
and those with too little liquidity give no quote.
-/
namespace SolanaArb.DexScreener

structure DexPair where
  dexId : String
  /-- `priceUsd`, absent, or a text that may not parse. -/
  priceUsd : Option (Option ℚ)
  /-- `liquidity.usd`, either level may be absent. -/
  liquidity : Option (Option ℚ)
  pairAddress : Option String
  /-- `baseToken.symbol` and `quoteToken.address`, either level may be absent. -/
  baseSymbol : Option (Option String)
  quoteAddress : Option (Option String)
  deriving DecidableEq, Repr

/-- The `pairs` of a response that arrives and parses. -/
abbrev Response := Except String (Option (List DexPair))

def quoteOfPair (mint : String) (minLiquidity : ℚ) (now : Timestamp) (pair : DexPair) :
    Option PriceQuote := do
  let price ← pair.priceUsd.join
  let liquidity ← pair.liquidity
  let dex := Dex.fromDexscreenerId pair.dexId
  if liquidity.getD 0 < minLiquidity then none
  else if dex = .unknown then none
  else some {
    dex := dex
    baseMint := mint
    quoteMint := (pair.quoteAddress.join).getD ""
    priceUsd := price
    liquidityUsd := liquidity.getD 0
    poolAddress := pair.pairAddress
    source := .httpPoll
    timestamp := now }

def getAllPairs (mint : String) (minLiquidity : ℚ) (now : Timestamp) (response : Response) :
    Except String (List PriceQuote) :=
  response.map (fun pairs => (pairs.getD []).filterMap (quoteOfPair mint minLiquidity now))

/-- The symbol of the first pair's base token. -/
def getTokenSymbol (response : Response) : Except String (Option String) :=
  response.map (fun pairs => pairs.bind (fun l => l.head?.bind (fun pair => pair.baseSymbol.join)))

variable {mint : String} {minLiquidity : ℚ} {now : Timestamp} {pair : DexPair} {q : PriceQuote}

/-- Every quote carries the mint asked for, the parsed price and enough liquidity. -/
theorem quoteOfPair_spec (h : quoteOfPair mint minLiquidity now pair = some q) :
    q.baseMint = mint ∧ pair.priceUsd = some (some q.priceUsd) ∧ minLiquidity ≤ q.liquidityUsd ∧
      q.dex ≠ .unknown := by
  unfold quoteOfPair at h
  obtain ⟨price, hprice, h⟩ := Option.bind_eq_some_iff.mp h
  obtain ⟨liquidity, _, h⟩ := Option.bind_eq_some_iff.mp h
  simp only [Option.ite_none_left_eq_some, not_lt, Option.some.injEq] at h
  obtain ⟨hliq, hdex, rfl⟩ := h
  exact ⟨rfl, Option.join_eq_some_iff.mp hprice, hliq, hdex⟩

end SolanaArb.DexScreener
