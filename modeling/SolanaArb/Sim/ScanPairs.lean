import SolanaArb.Sim.ScanRoutes
import SolanaArb.Sim.Candidates
import SolanaArb.Sim.QuoteOrientation

/-! # The pairs behind a reported route

Nothing between the discovery and a quote looks at the mints of a pool. A scan
reports WSOL routes only, on every endpoint, exactly when each pool it may use and
can quote pairs WSOL with the token.
-/
namespace SolanaArb.LocalScanner
open SolanaArb.PoolDecoder SolanaArb.AmmQuoter SolanaArb.General

/-- The pool trades WSOL against the token. -/
def TradesPair (pool : KnownPool) (tokenMint : String) : Prop :=
  (pool.baseMint = wsolMint ∧ pool.quoteMint = tokenMint) ∨
    (pool.baseMint = tokenMint ∧ pool.quoteMint = wsolMint)

/-- The quoter supports the DEX and knows the vaults where it needs them. -/
def Quotable (pool : KnownPool) : Prop :=
  quotableDex pool.dex = true ∧
    (pool.dex = .raydium ∨ pool.dex = .pumpSwap → pool.vaultAddresses.isSome = true)

/-- The three scans with the part of their trigger that matters to them. -/
inductive Scan
  | token
  | triggered (signalSol : ℚ)
  | samePoolBackrun (triggerDex : Dex) (triggerDirection : SwapDirection) (signalSol : ℚ)

def Scan.run (scan : Scan) (m : CostModel) (quoter : Quoter) (tokenMint tokenSymbol : String)
    (pools : List KnownPool) : Except String CrossVenueResult :=
  match scan with
  | token => scanToken m quoter tokenMint tokenSymbol pools
  | triggered signalSol => scanTriggered m quoter tokenMint tokenSymbol pools signalSol
  | samePoolBackrun triggerDex dir signalSol =>
    scanSamePoolBackrun m quoter tokenMint tokenSymbol pools triggerDex dir signalSol

section Quotable
variable {bs58 : Bytes → String} {rpc : Rpc} {pool : KnownPool} {inputMint : String}
  {amountIn : UInt64} {q : LocalQuote}

theorem vaults_of_quoteVaults {v : VaultQuoter} {load : List String → Except String AccountMap}
    (h : quoteVaults v load pool inputMint amountIn = .ok q) :
    pool.vaultAddresses.isSome = true := by
  obtain ⟨vaults, hvaults, -⟩ := bind_eq_ok.mp h
  rw [okOr_eq_ok.mp hvaults]
  rfl

/-- Of the DEXs the quoter knows, only two need the vaults. -/
theorem quotable_of_known (hknown : pool.dex ∉ [Dex.jupiter, .meteora, .unknown])
    (hvaults : pool.dex = .raydium ∨ pool.dex = .pumpSwap → pool.vaultAddresses.isSome = true) :
    Quotable pool := by
  refine ⟨?_, hvaults⟩
  revert hknown
  cases pool.dex <;> simp [quotableDex]

theorem quotable_of_quoteSwap (h : quoteSwap bs58 rpc pool inputMint amountIn = .ok q) :
    Quotable pool := by
  unfold quoteSwap at h
  apply quotable_of_known
  · simp only [List.mem_cons, List.not_mem_nil, or_false]
    rintro (hdex | hdex | hdex) <;> simp [hdex] at h
  · rintro (hdex | hdex)
    · rw [hdex] at h
      exact vaults_of_quoteVaults h
    · rw [hdex] at h
      exact vaults_of_quoteVaults h

theorem quotable_of_quoteFromCache {accounts : AccountMap}
    (h : quoteFromCache bs58 accounts inputMint amountIn pool = .ok q) : Quotable pool := by
  unfold quoteFromCache at h
  apply quotable_of_known
  · simp only [List.mem_cons, List.not_mem_nil, or_false]
    rintro (hdex | hdex | hdex) <;> simp [hdex] at h
  · rintro (hdex | hdex)
    · rw [hdex] at h
      exact vaults_of_quoteVaults h
    · rw [hdex] at h
      exact vaults_of_quoteVaults h

theorem quotable_of_batch {pools : List KnownPool} {i : ℕ} (hi : i < pools.length)
    (h : (quoteAllPools bs58 rpc pools inputMint amountIn)[i]? = some (.ok q)) :
    Quotable pools[i] := by
  obtain ⟨accounts, hq⟩ := quoteAllPools_ok (List.getElem?_eq_getElem hi) h
  exact quotable_of_quoteFromCache hq

theorem Scan.run_quotable {scan : Scan} {m : CostModel} {tokenMint tokenSymbol : String}
    {pools : List KnownPool} {r : CrossVenueResult}
    (h : scan.run m (ammQuoter bs58 rpc) tokenMint tokenSymbol pools = .ok r) :
    (r.buyPool ∈ pools ∧ Quotable r.buyPool) ∧ r.sellPool ∈ pools ∧ Quotable r.sellPool := by
  cases scan with
  | token =>
    obtain ⟨i, j, t, q, hbuy, hsell, hi, hj⟩ := mem_search (mem_routes_of_scanAt h)
    obtain ⟨i', _, hq⟩ := List.mem_filterMap.mp hbuy
    obtain ⟨rfl, hq, _⟩ := boughtTokens_eq_some.mp hq
    obtain ⟨q', hq', _⟩ := quotedOutput_eq_some.mp hq
    rw [hi, hj]
    exact ⟨⟨List.getElem_mem _, quotable_of_quoteSwap hq'⟩, List.getElem_mem _,
      quotable_of_quoteSwap hsell⟩
  | triggered signalSol =>
    obtain ⟨i, j, t, q, hbuy, hsell, hi, hj⟩ := mem_search (mem_batchRoutes_of_scanTriggered h)
    obtain ⟨i', _, hq⟩ := List.mem_filterMap.mp hbuy
    obtain ⟨quote, hquote, hq⟩ := Option.bind_eq_some_iff.mp hq
    obtain ⟨rfl, hq, _⟩ := boughtTokens_eq_some.mp hq
    obtain ⟨q', rfl, _⟩ := quotedOutput_eq_some.mp hq
    rw [hi, hj]
    exact ⟨⟨List.getElem_mem _, quotable_of_batch i'.isLt hquote⟩, List.getElem_mem _,
      quotable_of_quoteSwap hsell⟩
  | samePoolBackrun triggerDex dir signalSol =>
    obtain ⟨pool, leg1, leg2, hfind, h1, _, _, rfl⟩ := scanSamePoolBackrun_eq_ok h
    have hmem := List.mem_of_find?_eq_some hfind
    exact ⟨⟨hmem, quotable_of_quoteSwap h1⟩, hmem, quotable_of_quoteSwap h1⟩

end Quotable

section Level
variable {pool : KnownPool}

def levelBalance : Bytes := [0, 0, 0, 0, 0, 1, 0, 0]

def levelLiquidityAndPrice : Bytes :=
  [1, 0, 0, 0, 0, 0, 0, 0, 0, 0, 0, 0, 0, 0, 0, 0, 0, 0, 0, 0, 0, 0, 0, 0, 1, 0, 0, 0, 0, 0, 0, 0]

def levelAccount : Dex → Bytes
  | .raydium | .pumpSwap => tokenAccount (List.replicate 32 0) levelBalance
  | .pumpFun => curveAccount levelBalance levelBalance
  | .raydiumClmm => List.replicate 237 0 ++ levelLiquidityAndPrice ++ List.replicate 1275 0
  | .orca => List.replicate 49 0 ++ levelLiquidityAndPrice ++ List.replicate 52 0
  | _ => []

def levelChain (dex : Dex) : Chain := fun _ => some (levelAccount dex)

def levelCurve : PumpFunState := ⟨2^40, 2^40, 0, 0, false⟩

def levelOutput (dex : Dex) (side : Bool) (amountIn : UInt64) : UInt64 :=
  match dex with
  | .raydium | .pumpSwap => constantProductSwap (2^40) (2^40) amountIn 25
  | .pumpFun =>
    if side then pumpfunBuyOutput levelCurve amountIn else pumpfunSellOutput levelCurve amountIn
  | .raydiumClmm => whirlpoolSwapOutput (2^64) 1 amountIn 25 side
  | .orca => whirlpoolSwapOutput (2^64) 1 amountIn 0 side
  | _ => 0

theorem levelOutput_bounds {dex : Dex} (h : quotableDex dex = true) (side side' : Bool) :
    levelOutput dex side 1000000000 ≠ 0 ∧
      ¬ 1000000000 * 5 < levelOutput dex side' (levelOutput dex side 1000000000) := by
  cases dex <;> first | exact absurd h (by decide) | (cases side <;> cases side' <;> decide +kernel)

theorem level_vaults {dex : Dex} (hdex : dex = .raydium ∨ dex = .pumpSwap)
    (hv : pool.vaultAddresses.isSome = true) :
    vaultBalances (levelChain dex) pool = some (2^40, 2^40) := by
  have hbalance : decodeSplTokenBalance (levelAccount dex) = .ok (2^40) := by
    rcases hdex with rfl | rfl <;> decide +kernel
  obtain ⟨⟨first, second⟩, hv⟩ := Option.isSome_iff_exists.mp hv
  simp [vaultBalances, hv, levelChain, hbalance]

theorem level_openCurve : openCurve (levelChain .pumpFun) pool = some levelCurve := by
  have hcurve : decodePumpfunState (levelAccount .pumpFun) = .ok levelCurve := by decide +kernel
  simp [openCurve, levelChain, hcurve, levelCurve]

theorem level_clmmState (pool : KnownPool) :
    ∃ state, clmmState (levelChain .raydiumClmm) pool = some state ∧
      state.sqrtPriceX64 = 2^64 ∧ state.liquidity = 1 := by
  have hclmm : (decodeRaydiumClmm (levelAccount .raydiumClmm)).toOption.map
      (fun state => (state.sqrtPriceX64, state.liquidity)) = some (2^64, 1) := by decide +kernel
  obtain ⟨state, hstate, heq⟩ := Option.map_eq_some_iff.mp hclmm
  obtain ⟨hprice, hliquidity⟩ := Prod.mk.inj heq
  refine ⟨state, ?_, hprice, hliquidity⟩
  simp only [clmmState, levelChain, Option.bind_eq_bind, Option.bind_some, hstate]

theorem level_whirlpoolView (pool : KnownPool) : ∃ mintA,
    whirlpoolView (levelChain .orca) pool = some ⟨2^64, 1, 0, mintA⟩ := by
  have hprice : decodeWhirlpoolSqrtPrice (levelAccount .orca) = .ok (2^64) := by decide +kernel
  have hliquidity : decodeWhirlpoolLiquidity (levelAccount .orca) = .ok 1 := by decide +kernel
  have hfee : decodeWhirlpoolFeeBps (levelAccount .orca) = .ok 0 := by decide +kernel
  have hmint : decodeWhirlpoolMintA (levelAccount .orca) = .ok (List.replicate 32 0) := by
    decide +kernel
  refine ⟨List.replicate 32 0, ?_⟩
  simp only [whirlpoolView, levelChain, Option.bind_eq_bind, Option.bind_some, hprice, hliquidity,
    hfee, hmint, toOption_ok]

/-- Whatever mint is paid in, a quotable pool is quoted on its level chain. -/
theorem level_chainQuote (bs58 : Bytes → String) (h : Quotable pool) (inputMint : String)
    (amountIn : UInt64) :
    ∃ side q, chainQuote bs58 impactOrZero (levelChain pool.dex) pool inputMint amountIn = some q ∧
      q.outputAmount = levelOutput pool.dex side amountIn := by
  obtain ⟨hquotable, hvaults⟩ := h
  cases hdex : pool.dex with
  | raydium =>
    refine ⟨true, _, chainQuote_vaults _ (Or.inl hdex) (level_vaults (Or.inl rfl) ?_), ?_⟩
    · exact hvaults (Or.inl hdex)
    · cases paysSecond pool inputMint <;> rfl
  | pumpSwap =>
    refine ⟨true, _, chainQuote_vaults _ (Or.inr hdex) (level_vaults (Or.inr rfl) ?_), ?_⟩
    · exact hvaults (Or.inr hdex)
    · cases paysSecond pool inputMint <;> rfl
  | pumpFun =>
    refine ⟨decide (inputMint = wsolMint), _,
      by simp only [chainQuote, hdex, level_openCurve, Option.map_some]; rfl, ?_⟩
    simp [curveQuote, curveOutput, levelOutput]
  | raydiumClmm =>
    obtain ⟨state, hstate, hprice, hliquidity⟩ := level_clmmState pool
    refine ⟨inputMint == bs58 state.mint0, _,
      by simp only [chainQuote, hdex, hstate, Option.map_some]; rfl, ?_⟩
    simp [clmmQuote, priceQuote, clmmSwapOutput, levelOutput, hprice, hliquidity, hdex, Dex.feeBps]
  | orca =>
    obtain ⟨mintA, hview⟩ := level_whirlpoolView pool
    refine ⟨inputMint == bs58 mintA, _,
      by simp only [chainQuote, hdex, hview, Option.map_some]; rfl, ?_⟩
    simp [whirlpoolQuote, priceQuote, levelOutput]
  | jupiter => simp [hdex, quotableDex] at hquotable
  | meteora => simp [hdex, quotableDex] at hquotable
  | unknown => simp [hdex, quotableDex] at hquotable

theorem level_quoteSwap (bs58 : Bytes → String) (h : Quotable pool) (inputMint : String)
    (amountIn : UInt64) :
    ∃ side q, quoteSwap bs58 (serve (levelChain pool.dex)) pool inputMint amountIn = .ok q ∧
      q.outputAmount = levelOutput pool.dex side amountIn := by
  obtain ⟨side, q, hq, hout⟩ := level_chainQuote bs58 h inputMint amountIn
  exact ⟨side, q, by rw [← toOption_eq_some, quoteSwap_toOption (serves_serve _), hq], hout⟩

theorem level_backrun (bs58 : Bytes → String) {pools : List KnownPool} (h : Quotable pool)
    (hfind : pools.find? (fun p => p.dex = pool.dex) = some pool) (m : CostModel)
    (tokenMint tokenSymbol : String) :
    ∃ r, scanSamePoolBackrun m (ammQuoter bs58 (serve (levelChain pool.dex))) tokenMint tokenSymbol
      pools pool.dex .sell 10 = .ok r ∧ r.buyPool = pool := by
  have htrade : backrunTradeLamports 10 = 1000000000 := by decide +kernel
  obtain ⟨side, leg1, h1, hout1⟩ := level_quoteSwap bs58 h wsolMint 1000000000
  obtain ⟨side', leg2, h2, hout2⟩ := level_quoteSwap bs58 h tokenMint leg1.outputAmount
  obtain ⟨hpos, hsane⟩ := levelOutput_bounds h.1 side side'
  rw [hout1] at h2 hout2
  refine ⟨crossVenueResult m tokenMint tokenSymbol pool pool 1000000000 leg1.outputAmount
    leg2.outputAmount, ?_, rfl⟩
  unfold scanSamePoolBackrun
  simp only [hfind, okOr_some, htrade, bind, Except.bind, ammQuoter, h1, hout1, h2, hout2,
    if_neg hpos, if_neg hsane]
  simp

end Level

section Pairs
variable (bs58 : Bytes → String) (reg : PoolRegistry) (tokenMint : String) (d : Discovery)

theorem scannedPools_eq {bs58 : Bytes → String} {reg reg' : PoolRegistry} {tokenMint : String}
    {d : Discovery} {pools : List KnownPool}
    (h : getOrDiscoverPools bs58 reg tokenMint d = (.ok pools, reg')) :
    pools = dedupByDex (candidatePools bs58 reg tokenMint d) := by
  rcases getOrDiscoverPools_cases bs58 reg tokenMint d with ⟨e, reg'', herr, _⟩ | ⟨reg'', hok⟩
  · rw [h] at herr
    cases (Prod.mk.inj herr).1
  · rw [h] at hok
    exact Except.ok.inj (Prod.mk.inj hok).1

/-- Every reported result buys and sells on pools of the pair, on every endpoint and
with every cost model; and no other pool among the scanned ones is quoted at all,
for any mint and amount, by either path. -/
structure ReportsPairsOnly : Prop where
  reported : ∀ (rpc : Rpc) (m : CostModel) (tokenSymbol : String) (scan : Scan) r reg',
    withPools bs58 reg tokenMint d (scan.run m (ammQuoter bs58 rpc) tokenMint tokenSymbol) =
      (.ok r, reg') →
    TradesPair r.buyPool tokenMint ∧ TradesPair r.sellPool tokenMint
  quoted : ∀ pools reg', getOrDiscoverPools bs58 reg tokenMint d = (.ok pools, reg') →
    ∀ i, (hi : i < pools.length) → ¬ TradesPair pools[i] tokenMint →
      ∀ (rpc : Rpc) (inputMint : String) (amountIn : UInt64) (q : LocalQuote),
        quoteSwap bs58 rpc pools[i] inputMint amountIn ≠ .ok q ∧
        (quoteAllPools bs58 rpc pools inputMint amountIn)[i]? ≠ some (.ok q)

/-- The scans of a token report WSOL routes only, exactly when the first candidate of
every DEX, if it can be quoted, pairs WSOL with the token. -/
theorem reportsPairsOnly_iff : ReportsPairsOnly bs58 reg tokenMint d ↔
    ∀ before pool after, candidatePools bs58 reg tokenMint d = before ++ pool :: after →
      (∀ p ∈ before, p.dex ≠ pool.dex) → Quotable pool → TradesPair pool tokenMint := by
  constructor
  · intro h before pool after hcand hfirst hquotable
    have hmem : pool ∈ dedupByDex (candidatePools bs58 reg tokenMint d) :=
      mem_dedupByDex.mpr ⟨before, after, hcand, hfirst⟩
    obtain ⟨r, hr, rfl⟩ := level_backrun bs58 hquotable (dedupByDex_find? hmem)
      CostModel.default tokenMint ""
    rcases getOrDiscoverPools_cases bs58 reg tokenMint d with
      ⟨_, _, _, hnil⟩ | ⟨reg', hget⟩
    · rw [hnil] at hcand
      simp at hcand
    · refine (h.reported (serve (levelChain r.buyPool.dex)) CostModel.default ""
        (.samePoolBackrun r.buyPool.dex .sell 10) r reg' ?_).1
      rw [withPools, hget]
      exact congrArg (·, reg') hr
  · intro h
    have hkept {pool : KnownPool} (hmem : pool ∈ dedupByDex (candidatePools bs58 reg tokenMint d))
        (hq : Quotable pool) : TradesPair pool tokenMint := by
      obtain ⟨before, after, hcand, hfirst⟩ := mem_dedupByDex.mp hmem
      exact h before pool after hcand hfirst hq
    constructor
    · intro rpc m tokenSymbol scan r reg' hr
      unfold withPools at hr
      cases hget : getOrDiscoverPools bs58 reg tokenMint d with
      | mk result reg'' =>
        cases result with
        | error e => simp [hget] at hr
        | ok pools =>
          obtain rfl := scannedPools_eq hget
          simp only [hget, Prod.mk.injEq] at hr
          obtain ⟨⟨hbuy, hbuyq⟩, hsell, hsellq⟩ := Scan.run_quotable hr.1
          exact ⟨hkept hbuy hbuyq, hkept hsell hsellq⟩
    · intro pools reg' hget i hi hnot rpc inputMint amountIn q
      obtain rfl := scannedPools_eq hget
      constructor
      · intro hq
        exact hnot (hkept (List.getElem_mem hi) (quotable_of_quoteSwap hq))
      · intro hq
        exact hnot (hkept (List.getElem_mem hi) (quotable_of_batch hi hq))

variable {bs58 reg tokenMint d}

theorem ReportsPairsOnly.scanToken_pair (h : ReportsPairsOnly bs58 reg tokenMint d) {rpc : Rpc}
    {m : CostModel} {tokenSymbol : String} {r : CrossVenueResult}
    (hr : (withPools bs58 reg tokenMint d
      (scanToken m (ammQuoter bs58 rpc) tokenMint tokenSymbol)).1 = .ok r) :
    TradesPair r.buyPool tokenMint :=
  (h.reported rpc m tokenSymbol .token r _ (Prod.ext hr rfl)).1

end Pairs

def usdcDiscovery : Discovery where
  response := .ok (some [
    ⟨"RaydiumPool", "raydium", bonkMint, usdcMint, some (some 5000)⟩,
    ⟨"PumpSwapPool", "pumpswap", bonkMint, wsolMint, some (some 5000)⟩])
  raydiumRpc := serve (fun _ => some (List.replicate 752 0))
  pumpswapRpc := serve (fun _ =>
    some (List.replicate 43 0 ++ bonkKey ++ wsolKey ++ List.replicate 194 0))

/-- The periodic scan pays a billion lamports into the USDC pool and reports the
route. -/
theorem usdcPool_reported :
    (withPools base58Encode ∅ bonkMint usdcDiscovery (scanToken CostModel.default
      (ammQuoter base58Encode (serve (levelChain .raydium))) bonkMint "BONK")).1.toOption.map
      (fun r => (r.buyPool.baseMint, r.buyPool.quoteMint, r.inputLamports)) =
        some (bonkMint, usdcMint, 1000000000) ∧
    ¬ ReportsPairsOnly base58Encode ∅ bonkMint usdcDiscovery := by
  have hrun : (withPools base58Encode ∅ bonkMint usdcDiscovery (scanToken CostModel.default
      (ammQuoter base58Encode (serve (levelChain .raydium))) bonkMint "BONK")).1.toOption.map
      (fun r => (r.buyPool.baseMint, r.buyPool.quoteMint, r.inputLamports)) =
        some (bonkMint, usdcMint, 1000000000) := by decide +kernel
  refine ⟨hrun, ?_⟩
  intro h
  obtain ⟨r, hr, heq⟩ := Option.map_eq_some_iff.mp hrun
  obtain ⟨hbase, hrest⟩ := Prod.mk.inj heq
  obtain ⟨hquote, _⟩ := Prod.mk.inj hrest
  have hpair := h.scanToken_pair (toOption_eq_some.mp hr)
  rw [TradesPair, hbase, hquote] at hpair
  revert hpair
  decide

end SolanaArb.LocalScanner
