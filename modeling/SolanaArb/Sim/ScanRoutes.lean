import SolanaArb.Sim.LocalScanner
import SolanaArb.Sim.ChainQuotes
import SolanaArb.General.BestFold

/-! # The routes of a scan

A route buys on one venue and sells on another. The valid routes of a pool list
form one list in search order; the periodic scan is the running maximum over this
list, and the triggered scan the same search with an exit at the first profit.
-/
namespace SolanaArb.LocalScanner
open SolanaArb.AmmQuoter SolanaArb.General

def quotedOutput (quote : Except String LocalQuote) : Option UInt64 :=
  quote.toOption.map LocalQuote.outputAmount

theorem quotedOutput_eq_some {quote : Except String LocalQuote} {t : UInt64} :
    quotedOutput quote = some t ↔ ∃ q, quote = .ok q ∧ q.outputAmount = t := by
  cases quote <;> simp [quotedOutput]

/-- Buying on pool `i` and selling on pool `j` is a route that a scan accepts: the
DEXs differ, the trade buys `t > 0` tokens, these sell for `s > 0` lamports, and
`s` is at most five times the trade. -/
structure ValidRoute (quoter : Quoter) (tokenMint : String) (pools : List KnownPool)
    (tradeLamports : UInt64) (i j : Fin pools.length) (t s : UInt64) : Prop where
  dex_ne : (pools.get j).dex ≠ (pools.get i).dex
  buy : quotedOutput (quoter.quoteSwap (pools.get i) wsolMint tradeLamports) = some t
  bought : 0 < t
  sell : quotedOutput (quoter.quoteSwap (pools.get j) tokenMint t) = some s
  sold : 0 < s
  sane : s.toNat ≤ 5 * tradeLamports.toNat

theorem boughtTokens_eq {ι : Type} (i : ι) (quote : Except String LocalQuote) :
    boughtTokens i quote =
      (quotedOutput quote).bind (fun t => if 0 < t then some (i, t) else none) := by
  cases quote <;> rfl

theorem boughtTokens_eq_some {ι : Type} {i j : ι} {t : UInt64} {quote : Except String LocalQuote} :
    boughtTokens i quote = some (j, t) ↔ i = j ∧ quotedOutput quote = some t ∧ 0 < t := by
  rw [boughtTokens_eq]
  cases quotedOutput quote with
  | none => simp
  | some u =>
    simp only [Option.bind_some, Option.ite_none_right_eq_some, Option.some.injEq, Prod.mk.injEq]
    constructor
    · rintro ⟨hu, rfl, rfl⟩
      exact ⟨rfl, rfl, hu⟩
    · rintro ⟨rfl, rfl, hu⟩
      exact ⟨hu, rfl, rfl⟩

section Routes
variable (m : CostModel) (quoter : Quoter) (tokenMint tokenSymbol : String)
  (pools : List KnownPool) (tradeLamports : UInt64)

def buyQuotes : List (Fin pools.length × UInt64) :=
  (List.finRange pools.length).filterMap (fun i =>
    boughtTokens i (quoter.quoteSwap (pools.get i) wsolMint tradeLamports))

def sellRoutes (buy : Fin pools.length × UInt64) : List CrossVenueResult :=
  (List.finRange pools.length).filterMap (fun j =>
    if j = buy.1 ∨ (pools.get j).dex = (pools.get buy.1).dex then none
    else sellResult m quoter tokenMint tokenSymbol (pools.get buy.1) (pools.get j) tradeLamports buy.2)

def routes : List CrossVenueResult :=
  (buyQuotes quoter pools tradeLamports).flatMap
    (sellRoutes m quoter tokenMint tokenSymbol pools tradeLamports)

def batchBuyQuotes : List (Fin pools.length × UInt64) :=
  (List.finRange pools.length).filterMap (fun i =>
    ((quoter.quoteAllPools pools wsolMint tradeLamports)[i.val]?).bind (boughtTokens i))

def batchRoutes : List CrossVenueResult :=
  (batchBuyQuotes quoter pools tradeLamports).flatMap
    (sellRoutes m quoter tokenMint tokenSymbol pools tradeLamports)

def netKey (r : CrossVenueResult) : ℤ := r.netProfitLamports.toInt

variable {m quoter tokenMint tokenSymbol pools tradeLamports}

theorem sellResult_eq_some {buyPool sellPool : KnownPool} {t : UInt64} {r : CrossVenueResult}
    (hsmall : tradeLamports.toNat * 5 < 2^64) :
    sellResult m quoter tokenMint tokenSymbol buyPool sellPool tradeLamports t = some r ↔
      ∃ s, quotedOutput (quoter.quoteSwap sellPool tokenMint t) = some s ∧ 0 < s ∧
        s.toNat ≤ 5 * tradeLamports.toNat ∧
        r = crossVenueResult m tokenMint tokenSymbol buyPool sellPool tradeLamports t s := by
  have hfive : (tradeLamports * 5).toNat = 5 * tradeLamports.toNat := by
    rw [UInt64.toNat_mul, show (5 : UInt64).toNat = 5 from rfl, Nat.mod_eq_of_lt hsmall,
      Nat.mul_comm]
  unfold sellResult quotedOutput
  cases quoter.quoteSwap sellPool tokenMint t with
  | error e => simp
  | ok q =>
    have hsane : ¬ tradeLamports * 5 < q.outputAmount ↔
        q.outputAmount.toNat ≤ 5 * tradeLamports.toNat := by
      rw [UInt64.lt_iff_toNat_lt, hfive, Nat.not_lt]
    simp only [toOption_ok, Option.map_some, Option.some.injEq, exists_eq_left',
      Option.ite_none_right_eq_some, Option.ite_none_left_eq_some, hsane]
    simp only [eq_comm]

/-- The listed routes are the valid ones. -/
theorem mem_routes (hsmall : tradeLamports.toNat * 5 < 2^64) {r : CrossVenueResult} :
    r ∈ routes m quoter tokenMint tokenSymbol pools tradeLamports ↔
      ∃ i j t s, ValidRoute quoter tokenMint pools tradeLamports i j t s ∧
        r = crossVenueResult m tokenMint tokenSymbol (pools.get i) (pools.get j) tradeLamports t s := by
  simp only [routes, buyQuotes, sellRoutes, List.mem_flatMap, List.mem_filterMap,
    List.mem_finRange, true_and, Option.ite_none_left_eq_some]
  constructor
  · rintro ⟨⟨i, t⟩, ⟨i', hbuy⟩, j, hne, hsell⟩
    obtain ⟨rfl, hq, ht⟩ := boughtTokens_eq_some.mp hbuy
    obtain ⟨s, hs, hpos, hsane, rfl⟩ := (sellResult_eq_some hsmall).mp hsell
    exact ⟨i', j, t, s, ⟨fun h => hne (Or.inr h), hq, ht, hs, hpos, hsane⟩, rfl⟩
  · rintro ⟨i, j, t, s, hv, rfl⟩
    refine ⟨(i, t), ⟨i, boughtTokens_eq_some.mpr ⟨rfl, hv.buy, hv.bought⟩⟩, j, ?_, ?_⟩
    · rintro (h | h)
      · exact hv.dex_ne (by rw [h])
      · exact hv.dex_ne h
    · exact (sellResult_eq_some hsmall).mpr ⟨s, hv.sell, hv.sold, hv.sane, rfl⟩

theorem exists_route_iff (hsmall : tradeLamports.toNat * 5 < 2^64) :
    routes m quoter tokenMint tokenSymbol pools tradeLamports = [] ↔
      ¬ ∃ i j t s, ValidRoute quoter tokenMint pools tradeLamports i j t s := by
  rw [List.eq_nil_iff_forall_not_mem]
  simp only [mem_routes hsmall]
  constructor
  · rintro h ⟨i, j, t, s, hv⟩
    exact h _ ⟨i, j, t, s, hv, rfl⟩
  · rintro h r ⟨i, j, t, s, hv, _⟩
    exact h ⟨i, j, t, s, hv⟩

theorem ValidRoute.two_dexes {i j : Fin pools.length} {t s : UInt64}
    (h : ValidRoute quoter tokenMint pools tradeLamports i j t s) :
    2 ≤ (dexSet pools).length := by
  rw [dexSet, ← List.card_toFinset]
  refine Finset.one_lt_card.mpr ⟨(pools.get j).dex, ?_, (pools.get i).dex, ?_, h.dex_ne⟩
  · exact List.mem_toFinset.mpr (List.mem_map_of_mem (List.getElem_mem _))
  · exact List.mem_toFinset.mpr (List.mem_map_of_mem (List.getElem_mem _))

theorem trackBest_eq_bestStep : trackBest = bestStep netKey := by
  funext best r
  cases best with
  | none => rfl
  | some prev =>
    unfold trackBest bestStep netKey
    by_cases h : prev.netProfitLamports < r.netProfitLamports
    · have hint := Int64.lt_iff_toInt_lt.mp h
      simp only [h, hint, if_true]
    · have hint : ¬ prev.netProfitLamports.toInt < r.netProfitLamports.toInt :=
        fun h' => h (Int64.lt_iff_toInt_lt.mpr h')
      simp only [h, hint, if_false]

theorem scanAt_eq : scanAt m quoter tokenMint tokenSymbol pools tradeLamports =
    if (dexSet pools).length < 2 then
      .error s!"Need pools on 2+ different DEXs, found {(dexSet pools).length} DEX(es) for {tokenSymbol}"
    else okOr (bestOf netKey (routes m quoter tokenMint tokenSymbol pools tradeLamports))
      s!"No valid cross-venue routes for {tokenSymbol}" := by
  unfold scanAt
  simp only [bestOf, routes, buyQuotes, sellRoutes, List.foldl_flatMap, List.foldl_filterMap,
    ← trackBest_eq_bestStep]
  congr 3
  funext best i
  cases boughtTokens i (quoter.quoteSwap (pools.get i) wsolMint tradeLamports) with
  | none => rfl
  | some buy =>
    simp only
    congr 1
    funext best j
    split
    · rfl
    · cases sellResult m quoter tokenMint tokenSymbol (pools.get buy.1) (pools.get j) tradeLamports buy.2
        <;> rfl

/-- The periodic search fails exactly when there is no route, and otherwise returns
a valid route of maximal net profit. -/
theorem scanAt_maximises (hsmall : tradeLamports.toNat * 5 < 2^64) :
    ((∃ e, scanAt m quoter tokenMint tokenSymbol pools tradeLamports = .error e) ↔
      (dexSet pools).length < 2 ∨
        ¬ ∃ i j t s, ValidRoute quoter tokenMint pools tradeLamports i j t s) ∧
    ∀ r, scanAt m quoter tokenMint tokenSymbol pools tradeLamports = .ok r →
      r ∈ routes m quoter tokenMint tokenSymbol pools tradeLamports ∧
      ∀ r' ∈ routes m quoter tokenMint tokenSymbol pools tradeLamports, netKey r' ≤ netKey r := by
  have hroutes : routes m quoter tokenMint tokenSymbol pools tradeLamports = [] ↔ _ :=
    exists_route_iff hsmall
  rw [scanAt_eq, ← hroutes, ← bestOf_eq_none_iff netKey]
  split
  · next h => exact ⟨by simp [h], by simp⟩
  · next h =>
    cases hbest : bestOf netKey (routes m quoter tokenMint tokenSymbol pools tradeLamports) with
    | none => exact ⟨by simp, by simp⟩
    | some z =>
      refine ⟨by simp [h], ?_⟩
      intro r hr
      cases hr
      exact ⟨bestOf_mem netKey hbest, bestOf_max netKey hbest⟩

/-- The single and the batch path return the same outputs. -/
def Quoter.SameOutputs (quoter : Quoter) : Prop := ∀ pools inputMint amountIn,
  (quoter.quoteAllPools pools inputMint amountIn).map quotedOutput =
    pools.map (fun pool => quotedOutput (quoter.quoteSwap pool inputMint amountIn))

theorem batchBuyQuotes_eq (hq : quoter.SameOutputs) :
    batchBuyQuotes quoter pools tradeLamports = buyQuotes quoter pools tradeLamports := by
  apply List.filterMap_congr
  intro i _
  have hi := congrArg (fun l => l[i.val]?) (hq pools wsolMint tradeLamports)
  simp only [List.getElem?_map, List.getElem?_eq_getElem i.isLt, Option.map_some] at hi
  cases hget : (quoter.quoteAllPools pools wsolMint tradeLamports)[i.val]? with
  | none => simp [hget] at hi
  | some quote =>
    rw [hget, Option.map_some, Option.some.injEq] at hi
    simp only [Option.bind_some, boughtTokens_eq, hi]
    rfl

theorem batchRoutes_eq (hq : quoter.SameOutputs) :
    batchRoutes m quoter tokenMint tokenSymbol pools tradeLamports =
      routes m quoter tokenMint tokenSymbol pools tradeLamports := by
  rw [batchRoutes, routes, batchBuyQuotes_eq hq]

theorem sellLoop_eq (buy : Fin pools.length × UInt64) (best : Option CrossVenueResult) :
    (((List.finRange pools.length).filter (fun i =>
        i ≠ buy.1 ∧ (pools.get i).dex ≠ (pools.get buy.1).dex)).map (fun i => pools.get i)).foldlM
      (fun best sellPool => exitOrTrack best
        (sellResult m quoter tokenMint tokenSymbol (pools.get buy.1) sellPool tradeLamports buy.2)) best =
    (sellRoutes m quoter tokenMint tokenSymbol pools tradeLamports buy).foldlM
      (exitStep netKey CrossVenueResult.profitable) best := by
  simp only [sellRoutes, List.foldlM_map, List.foldlM_filter, List.foldlM_filterMap]
  congr 1
  funext best j
  by_cases hskip : j = buy.1 ∨ (pools.get j).dex = (pools.get buy.1).dex
  · have hkeep : ¬ (j ≠ buy.1 ∧ (pools.get j).dex ≠ (pools.get buy.1).dex) := by rwa [← not_or, not_not]
    rw [if_neg (by simpa using hkeep), if_pos hskip]
  · have hkeep : j ≠ buy.1 ∧ (pools.get j).dex ≠ (pools.get buy.1).dex := not_or.mp hskip
    rw [if_pos (by simpa using hkeep), if_neg hskip]
    cases sellResult m quoter tokenMint tokenSymbol (pools.get buy.1) (pools.get j) tradeLamports buy.2 with
    | none => rfl
    | some r => simp only [exitOrTrack, exitStep, trackBest_eq_bestStep]

/-- The loops of the triggered scan return the first profitable result they run
through, or else the best of all. -/
theorem scanTriggered_eq (signalSol : ℚ) :
    scanTriggered m quoter tokenMint tokenSymbol pools signalSol =
      if (dexSet pools).length < 2 then
        .error s!"Need pools on 2+ different DEXs, found {(dexSet pools).length} for {tokenSymbol}"
      else
        let found :=
          batchRoutes m quoter tokenMint tokenSymbol pools (triggeredTradeLamports signalSol)
        match found.find? CrossVenueResult.profitable with
        | some r => .ok r
        | none => okOr (bestOf netKey found) s!"No valid cross-venue routes for {tokenSymbol}" := by
  have hflat := foldlM_flatMap (exitStep netKey CrossVenueResult.profitable)
    (sellRoutes m quoter tokenMint tokenSymbol pools (triggeredTradeLamports signalSol))
    (batchBuyQuotes quoter pools (triggeredTradeLamports signalSol)) none
  rw [foldlM_exitStep] at hflat
  unfold scanTriggered
  simp only [sellLoop_eq]
  split
  · rfl
  · unfold batchBuyQuotes at hflat
    simp only [← hflat, batchRoutes, batchBuyQuotes]
    cases (((List.finRange pools.length).filterMap (fun i =>
      ((quoter.quoteAllPools pools wsolMint (triggeredTradeLamports signalSol))[i.val]?).bind
        (boughtTokens i))).flatMap (sellRoutes m quoter tokenMint tokenSymbol pools
          (triggeredTradeLamports signalSol))).find? CrossVenueResult.profitable <;> rfl

/-- A result of a search sells for a successful quote on the pool it names, after
one of the buys the search started from. -/
theorem mem_search {buys : List (Fin pools.length × UInt64)} {r : CrossVenueResult}
    (h : r ∈ buys.flatMap (sellRoutes m quoter tokenMint tokenSymbol pools tradeLamports)) :
    ∃ (i j : Fin pools.length) (t : UInt64) (q : LocalQuote), (i, t) ∈ buys ∧
      quoter.quoteSwap (pools.get j) tokenMint t = .ok q ∧
      r.buyPool = pools.get i ∧ r.sellPool = pools.get j := by
  simp only [List.mem_flatMap, sellRoutes, List.mem_filterMap, Option.ite_none_left_eq_some] at h
  obtain ⟨⟨i, t⟩, hbuy, j, _, _, hsell⟩ := h
  unfold sellResult at hsell
  cases hq : quoter.quoteSwap (pools.get j) tokenMint t with
  | error e => simp only [hq] at hsell; cases hsell
  | ok q =>
    simp only [hq, Option.ite_none_right_eq_some, Option.ite_none_left_eq_some] at hsell
    obtain ⟨_, _, hr⟩ := hsell
    cases hr
    exact ⟨i, j, t, q, hbuy, hq, rfl, rfl⟩

theorem mem_routes_of_scanAt {r : CrossVenueResult}
    (h : scanAt m quoter tokenMint tokenSymbol pools tradeLamports = .ok r) :
    r ∈ routes m quoter tokenMint tokenSymbol pools tradeLamports := by
  rw [scanAt_eq] at h
  split at h
  · cases h
  · cases hbest : bestOf netKey (routes m quoter tokenMint tokenSymbol pools tradeLamports) with
    | none => simp [hbest] at h
    | some z =>
      rw [hbest, okOr_some] at h
      cases h
      exact bestOf_mem netKey hbest

theorem mem_batchRoutes_of_scanTriggered {r : CrossVenueResult} {signalSol : ℚ}
    (h : scanTriggered m quoter tokenMint tokenSymbol pools signalSol = .ok r) :
    r ∈ batchRoutes m quoter tokenMint tokenSymbol pools (triggeredTradeLamports signalSol) := by
  rw [scanTriggered_eq] at h
  simp only at h
  split at h
  · cases h
  · split at h
    · next hfind =>
      cases h
      exact List.mem_of_find?_eq_some hfind
    · cases hbest : bestOf netKey
        (batchRoutes m quoter tokenMint tokenSymbol pools (triggeredTradeLamports signalSol)) with
      | none => simp [hbest] at h
      | some z =>
        rw [hbest, okOr_some] at h
        cases h
        exact bestOf_mem netKey hbest

theorem triggeredTradeLamports_le (signalSol : ℚ) :
    (triggeredTradeLamports signalSol).toNat ≤ 2 * 10^9 := by
  obtain ⟨hlo, hhi⟩ := clamp_bounds (signalSol * (1/5)) (show (1/10 : ℚ) ≤ 2 by norm_num)
  have hbounds := f64ToU64_bounds (clamp (signalSol * (1/5)) (1/10) 2 * 10^9) 0 (2 * 10^9)
    (by push_cast; linarith) (by push_cast; linarith) (by norm_num)
  exact hbounds.2

theorem triggeredTradeLamports_small (signalSol : ℚ) :
    (triggeredTradeLamports signalSol).toNat * 5 < 2^64 := by
  have hle := triggeredTradeLamports_le signalSol
  omega

theorem backrunTradeLamports_bounds (signalSol : ℚ) :
    0 < backrunTradeLamports signalSol ∧ (backrunTradeLamports signalSol).toNat ≤ 10^9 := by
  obtain ⟨hlo, hhi⟩ := clamp_bounds (signalSol * (1/10)) (show (1/20 : ℚ) ≤ 1 by norm_num)
  have hbounds := f64ToU64_bounds (clamp (signalSol * (1/10)) (1/20) 1 * 10^9) 1 (10^9)
    (by push_cast; linarith) (by push_cast; linarith) (by norm_num)
  exact ⟨u64_pos.mpr hbounds.1, hbounds.2⟩

theorem scanSamePoolBackrun_eq_ok {m : CostModel} {quoter : Quoter} {tokenSymbol : String}
    {pools : List KnownPool} {triggerDex : Dex} {dir : SwapDirection} {signalSol : ℚ}
    {r : CrossVenueResult}
    (h : scanSamePoolBackrun m quoter tokenMint tokenSymbol pools triggerDex dir signalSol = .ok r) :
    ∃ pool leg1 leg2, pools.find? (fun p => p.dex = triggerDex) = some pool ∧
      quoter.quoteSwap pool wsolMint (backrunTradeLamports signalSol) = .ok leg1 ∧
      quoter.quoteSwap pool tokenMint leg1.outputAmount = .ok leg2 ∧
      ¬ backrunTradeLamports signalSol * 5 < leg2.outputAmount ∧
      r = crossVenueResult m tokenMint tokenSymbol pool pool (backrunTradeLamports signalSol)
        leg1.outputAmount leg2.outputAmount := by
  simp only [scanSamePoolBackrun, bind_eq_ok, okOr_eq_ok] at h
  obtain ⟨pool, hpool, h⟩ := h
  split at h
  · cases h
  · obtain ⟨leg1, h1, h⟩ := bind_eq_ok.mp h
    split at h
    · cases h
    · obtain ⟨leg2, h2, h⟩ := bind_eq_ok.mp h
      split at h
      · cases h
      · next hsane =>
        cases h
        exact ⟨pool, leg1, leg2, hpool, h1, h2, hsane, rfl⟩

end Routes

section Chain
variable {bs58 : Bytes → String} {rpc : Rpc} {chain : Chain}

theorem chainQuote_output_eq (impactBps impactBps' : UInt64 → UInt64 → ℚ) (pool : KnownPool)
    (inputMint : String) (amountIn : UInt64) :
    (chainQuote bs58 impactBps chain pool inputMint amountIn).map LocalQuote.outputAmount =
      (chainQuote bs58 impactBps' chain pool inputMint amountIn).map LocalQuote.outputAmount := by
  unfold chainQuote
  cases pool.dex <;> simp [Function.comp_def, vaultQuote, curveQuote]

/-- Against a fixed chain the program's two quoting paths return the same outputs. -/
theorem ammQuoter_sameOutputs (hs : Serves rpc chain) : (ammQuoter bs58 rpc).SameOutputs := by
  intro pools inputMint amountIn
  obtain ⟨accounts, hbatch, hholds⟩ := quoteAllPools_served bs58 hs pools inputMint amountIn
  simp only [ammQuoter, hbatch, List.map_map]
  apply List.map_congr_left
  intro pool hpool
  simp only [Function.comp_apply, quotedOutput, quoteFromCache_toOption (hholds pool hpool),
    quoteSwap_toOption hs]
  exact chainQuote_output_eq _ _ _ _ _

end Chain

end SolanaArb.LocalScanner
