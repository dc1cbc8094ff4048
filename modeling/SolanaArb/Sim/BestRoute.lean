import SolanaArb.Sim.ScanRoutes
import SolanaArb.Sim.BatchQuotes

/-! # The route a scan returns

The periodic scan returns a valid route of maximal net profit. The triggered scan
leaves at the first profitable route, so it returns a maximum exactly when no route
further on in the search order earns more.
-/
namespace SolanaArb.LocalScanner
open SolanaArb.AmmQuoter SolanaArb.General

section Best
variable {m : CostModel} {quoter : Quoter} {tokenMint tokenSymbol : String}
  {pools : List KnownPool} {tradeLamports : UInt64}

theorem netKey_le {r r' : CrossVenueResult} :
    netKey r ≤ netKey r' ↔ r.netProfitLamports ≤ r'.netProfitLamports :=
  Int64.le_iff_toInt_le.symm

theorem crossVenueResult_net (buyPool sellPool : KnownPool) (t s : UInt64) :
    (crossVenueResult m tokenMint tokenSymbol buyPool sellPool tradeLamports t s).netProfitLamports =
      (m.compute tradeLamports s).netProfitLamports := rfl

theorem maximal_iff (hsmall : tradeLamports.toNat * 5 < 2^64) (r : CrossVenueResult) :
    (∀ y ∈ routes m quoter tokenMint tokenSymbol pools tradeLamports, netKey y ≤ netKey r) ↔
      ∀ i j t s, ValidRoute quoter tokenMint pools tradeLamports i j t s →
        (m.compute tradeLamports s).netProfitLamports ≤ r.netProfitLamports := by
  simp only [netKey_le]
  constructor
  · intro hmax i j t s hv
    have hle := hmax _ ((mem_routes hsmall).mpr ⟨i, j, t, s, hv, rfl⟩)
    rwa [crossVenueResult_net] at hle
  · intro hmax y hy
    obtain ⟨i, j, t, s, hv, rfl⟩ := (mem_routes hsmall).mp hy
    rw [crossVenueResult_net]
    exact hmax i j t s hv

/-- The periodic scan fails exactly when fewer than two DEXs are present or no valid
route exists; what it returns otherwise is the result of a valid route, and no valid
route has a larger net profit. -/
theorem scanToken_maximises (m : CostModel) (quoter : Quoter) (tokenMint tokenSymbol : String)
    (pools : List KnownPool) :
    ((∃ e, scanToken m quoter tokenMint tokenSymbol pools = .error e) ↔
      (pools.map KnownPool.dex).toFinset.card < 2 ∨
        ¬ ∃ i j t s, ValidRoute quoter tokenMint pools 1000000000 i j t s) ∧
    ∀ r, scanToken m quoter tokenMint tokenSymbol pools = .ok r →
      (∃ i j t s, ValidRoute quoter tokenMint pools 1000000000 i j t s ∧
        r = crossVenueResult m tokenMint tokenSymbol (pools.get i) (pools.get j) 1000000000 t s) ∧
      ∀ i j t s, ValidRoute quoter tokenMint pools 1000000000 i j t s →
        (m.compute 1000000000 s).netProfitLamports ≤ r.netProfitLamports := by
  have hsmall : (1000000000 : UInt64).toNat * 5 < 2^64 := by decide
  obtain ⟨hfails, hreturns⟩ :=
    @scanAt_maximises m quoter tokenMint tokenSymbol pools _ hsmall
  rw [List.card_toFinset]
  refine ⟨hfails, ?_⟩
  intro r hr
  obtain ⟨hmem, hmax⟩ := hreturns r hr
  exact ⟨(mem_routes hsmall).mp hmem, (maximal_iff hsmall r).mp hmax⟩

/-- `r` is the result of a valid route of maximal net profit, the one the periodic
search reports at the same trade size. -/
structure BestResult (m : CostModel) (quoter : Quoter) (tokenMint tokenSymbol : String)
    (pools : List KnownPool) (tradeLamports : UInt64) (r : CrossVenueResult) : Prop where
  attained : ∃ i j t s, ValidRoute quoter tokenMint pools tradeLamports i j t s ∧
    r = crossVenueResult m tokenMint tokenSymbol (pools.get i) (pools.get j) tradeLamports t s
  maximal : ∀ i j t s, ValidRoute quoter tokenMint pools tradeLamports i j t s →
    (m.compute tradeLamports s).netProfitLamports ≤ r.netProfitLamports
  periodic : (scanAt m quoter tokenMint tokenSymbol pools tradeLamports).toOption.map
    CrossVenueResult.netProfitLamports = some r.netProfitLamports

/-- Past the first profitable result no result has a larger net profit. -/
def FirstProfitIsBest (found : List CrossVenueResult) : Prop :=
  ∀ before x after, found = before ++ x :: after → (∀ y ∈ before, y.profitable = false) →
    x.profitable = true → ∀ y ∈ after, y.netProfitLamports ≤ x.netProfitLamports

theorem firstProfitIsBest_of_none {found : List CrossVenueResult}
    (hfind : found.find? CrossVenueResult.profitable = none) : FirstProfitIsBest found := by
  rintro before x after rfl _ hx
  exact absurd hx (List.find?_eq_none.mp hfind x (by simp))

/-- The first profitable result is a maximum exactly when nothing after it beats it:
what comes before it earns nothing. -/
theorem first_profit_max_iff {found : List CrossVenueResult} {x : CrossVenueResult}
    (hprofit : ∀ y ∈ found, y.profitable = decide (0 < y.netProfitLamports))
    (hfind : found.find? CrossVenueResult.profitable = some x) :
    (∀ y ∈ found, netKey y ≤ netKey x) ↔ FirstProfitIsBest found := by
  constructor
  · rintro hmax before x' after rfl hbefore hx' y hy
    have hfirst : (before ++ x' :: after).find? CrossVenueResult.profitable = some x' :=
      List.find?_eq_some_iff_append.mpr
        ⟨hx', before, after, rfl, fun z hz => by simp [hbefore z hz]⟩
    obtain rfl : x' = x := Option.some.inj (hfirst.symm.trans hfind)
    exact netKey_le.mp (hmax y (by simp [hy]))
  · obtain ⟨hx, before, after, rfl, hbefore⟩ := List.find?_eq_some_iff_append.mp hfind
    have hbefore' : ∀ y ∈ before, y.profitable = false := fun y hy => by simpa using hbefore y hy
    intro hfirst y hy
    rcases List.mem_append.mp hy with hy | hy
    · have hxpos : 0 < x.netProfitLamports :=
        of_decide_eq_true ((hprofit x (by simp)).symm.trans hx)
      have hynot : ¬ 0 < y.netProfitLamports :=
        of_decide_eq_false ((hprofit y (by simp [hy])).symm.trans (hbefore' y hy))
      exact netKey_le.mpr (Int64.le_of_lt (Int64.lt_of_le_of_lt (Int64.not_lt.mp hynot) hxpos))
    · rcases List.mem_cons.mp hy with rfl | hy
      · exact le_rfl
      · exact netKey_le.mpr (hfirst before x after rfl hbefore' hx y hy)

theorem routes_profitable (hsmall : tradeLamports.toNat * 5 < 2^64) {r : CrossVenueResult}
    (hr : r ∈ routes m quoter tokenMint tokenSymbol pools tradeLamports) :
    r.profitable = decide (0 < r.netProfitLamports) := by
  obtain ⟨i, j, t, s, _, rfl⟩ := (mem_routes hsmall).mp hr
  rfl

theorem bestResult_iff (hsmall : tradeLamports.toNat * 5 < 2^64)
    (hdexes : ¬ (dexSet pools).length < 2) {r : CrossVenueResult}
    (hr : r ∈ routes m quoter tokenMint tokenSymbol pools tradeLamports) :
    BestResult m quoter tokenMint tokenSymbol pools tradeLamports r ↔
      ∀ y ∈ routes m quoter tokenMint tokenSymbol pools tradeLamports, netKey y ≤ netKey r := by
  refine ⟨fun hbest => (maximal_iff hsmall r).mpr hbest.maximal, ?_⟩
  intro hmax
  refine ⟨(mem_routes hsmall).mp hr, (maximal_iff hsmall r).mp hmax, ?_⟩
  rw [scanAt_eq, if_neg hdexes]
  cases hbest : bestOf netKey (routes m quoter tokenMint tokenSymbol pools tradeLamports) with
  | none =>
    rw [(bestOf_eq_none_iff netKey).mp hbest] at hr
    exact absurd hr List.not_mem_nil
  | some z =>
    have hle : netKey z ≤ netKey r := hmax z (bestOf_mem netKey hbest)
    have hge : netKey r ≤ netKey z := bestOf_max netKey hbest r hr
    have hnet : z.netProfitLamports = r.netProfitLamports :=
      Int64.toInt_inj.mp (le_antisymm hle hge)
    rw [okOr_some, toOption_ok, Option.map_some, hnet]

/-- Whatever the triggered scan returns is a best result exactly when, in search
order, no route after the first profitable one has a larger net profit. -/
theorem scanTriggered_best_iff (m : CostModel) (quoter : Quoter) (hq : quoter.SameOutputs)
    (tokenMint tokenSymbol : String) (pools : List KnownPool) (signalSol : ℚ) :
    (∀ r, scanTriggered m quoter tokenMint tokenSymbol pools signalSol = .ok r →
      BestResult m quoter tokenMint tokenSymbol pools (triggeredTradeLamports signalSol) r) ↔
    FirstProfitIsBest
      (routes m quoter tokenMint tokenSymbol pools (triggeredTradeLamports signalSol)) := by
  have hsmall := triggeredTradeLamports_small signalSol
  rw [scanTriggered_eq, batchRoutes_eq hq]
  by_cases hdexes : (dexSet pools).length < 2
  · have hnil : routes m quoter tokenMint tokenSymbol pools
        (triggeredTradeLamports signalSol) = [] := by
      apply (exists_route_iff hsmall).mpr
      rintro ⟨i, j, t, s, hv⟩
      exact absurd hv.two_dexes (by omega)
    simp [hdexes, hnil, FirstProfitIsBest]
  · simp only [hdexes, if_false]
    cases hfind : (routes m quoter tokenMint tokenSymbol pools
        (triggeredTradeLamports signalSol)).find? CrossVenueResult.profitable with
    | none =>
      refine ⟨fun _ => firstProfitIsBest_of_none hfind, ?_⟩
      intro _ r hr
      cases hbest : bestOf netKey
        (routes m quoter tokenMint tokenSymbol pools (triggeredTradeLamports signalSol)) with
      | none => simp [hbest] at hr
      | some z =>
        simp only [hbest, okOr_some, Except.ok.injEq] at hr
        subst hr
        exact (bestResult_iff hsmall hdexes (bestOf_mem netKey hbest)).mpr (bestOf_max netKey hbest)
    | some x =>
      have hmem := List.mem_of_find?_eq_some hfind
      rw [← first_profit_max_iff (fun y hy => routes_profitable hsmall hy) hfind]
      simp only [Except.ok.injEq, forall_eq']
      exact bestResult_iff hsmall hdexes hmem

end Best

def threeVenueChain : Chain := fun address =>
  if address = "RaydiumCoinVault" then some (tokenAccount bonkKey [0, 0, 0, 0, 0, 1, 0, 0])
  else if address = "RaydiumPcVault" then some (tokenAccount wsolKey [0, 0, 0, 0, 0, 1, 0, 0])
  else if address = "PumpSwapBaseVault" then some (tokenAccount bonkKey [0, 0, 0, 0, 0, 1, 0, 0])
  else if address = "PumpSwapQuoteVault" then some (tokenAccount wsolKey [0, 0, 0, 0, 64, 1, 0, 0])
  else if address = "Curve" then
    some (curveAccount [0, 0, 0, 0, 0, 1, 0, 0] [0, 0, 0, 0, 128, 1, 0, 0])
  else none

def tokenPool (dex : Dex) (address : String) (vaults : Option (String × String)) : KnownPool where
  poolAddress := address
  dex := dex
  baseMint := bonkMint
  quoteMint := wsolMint
  vaultAddresses := vaults

def threeVenues : List KnownPool :=
  [tokenPool .raydium "Raydium" (some ("RaydiumCoinVault", "RaydiumPcVault")),
    tokenPool .pumpSwap "PumpSwap" (some ("PumpSwapBaseVault", "PumpSwapQuoteVault")),
    tokenPool .pumpFun "Curve" none]

def threeVenueQuoter : Quoter := ammQuoter base58Encode (serve threeVenueChain)

def twinVenues : List KnownPool :=
  [tokenPool .raydium "Raydium" (some ("RaydiumCoinVault", "RaydiumPcVault")),
    tokenPool .pumpSwap "Twin" (some ("RaydiumCoinVault", "RaydiumPcVault"))]

theorem scanTriggered_best_iff_twins :
    threeVenueQuoter.SameOutputs ∧
    (scanTriggered CostModel.default threeVenueQuoter bonkMint "BONK" twinVenues 5).toOption.isSome ∧
    ∀ r, scanTriggered CostModel.default threeVenueQuoter bonkMint "BONK" twinVenues 5 = .ok r →
      BestResult CostModel.default threeVenueQuoter bonkMint "BONK" twinVenues
        (triggeredTradeLamports 5) r := by
  have hq : threeVenueQuoter.SameOutputs := ammQuoter_sameOutputs (serves_serve _)
  refine ⟨hq, by decide +kernel, ?_⟩
  exact (scanTriggered_best_iff CostModel.default threeVenueQuoter hq bonkMint "BONK" twinVenues
    5).mpr (firstProfitIsBest_of_none (by decide +kernel))

/-- With all three venues the triggered scan stops at the second venue, where the
periodic scan of the same size goes on to twice the profit on the third. -/
theorem scanTriggered_stops_early :
    threeVenueQuoter.SameOutputs ∧ triggeredTradeLamports 5 = 1000000000 ∧
    (scanTriggered CostModel.default threeVenueQuoter bonkMint "BONK" threeVenues 5).toOption.map
      CrossVenueResult.netProfitLamports = some 108635222 ∧
    (scanToken CostModel.default threeVenueQuoter bonkMint "BONK" threeVenues).toOption.map
      CrossVenueResult.netProfitLamports = some 226590817 ∧
    ¬ ∀ r, scanTriggered CostModel.default threeVenueQuoter bonkMint "BONK" threeVenues 5 = .ok r →
      BestResult CostModel.default threeVenueQuoter bonkMint "BONK" threeVenues
        (triggeredTradeLamports 5) r := by
  have htrade : triggeredTradeLamports 5 = 1000000000 := by decide +kernel
  have htriggered : (scanTriggered CostModel.default threeVenueQuoter bonkMint "BONK" threeVenues
      5).toOption.map CrossVenueResult.netProfitLamports = some 108635222 := by decide +kernel
  have hperiodic : (scanToken CostModel.default threeVenueQuoter bonkMint "BONK"
      threeVenues).toOption.map CrossVenueResult.netProfitLamports = some 226590817 := by
    decide +kernel
  refine ⟨ammQuoter_sameOutputs (serves_serve _), htrade, htriggered, hperiodic, ?_⟩
  intro hbest
  obtain ⟨r, hr, hnet⟩ := Option.map_eq_some_iff.mp htriggered
  have hsame := (hbest r (toOption_eq_some.mp hr)).periodic
  rw [htrade, hnet] at hsame
  exact absurd (hperiodic.symm.trans hsame) (by decide)

end SolanaArb.LocalScanner
