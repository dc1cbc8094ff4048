import SolanaArb.Sim.ScanRoutes
import SolanaArb.Sim.BatchQuotes
import SolanaArb.Feed.SwapExactness

/-! # Round trips through constant-product pools

A trip buys tokens with SOL on one pool and sells them on another, or on the same
one. Raydium V4 and PumpSwap take their fee from the input of either leg, a bonding
curve from the SOL side of both. No placement of the fees and no rounding turns a
price that is not better on the selling pool into a profit.
-/
namespace SolanaArb.RoundTrip
open SolanaArb.General SolanaArb.PoolDecoder SolanaArb.AmmQuoter SolanaArb.LocalScanner

inductive CpPool
  | raydium (sol token : UInt64)
  | pumpSwap (sol token : UInt64)
  | pumpFun (state : PumpFunState)
  deriving DecidableEq, Repr

namespace CpPool

def sol : CpPool → UInt64
  | raydium sol _ => sol
  | pumpSwap sol _ => sol
  | pumpFun state => state.virtualSolReserves

def token : CpPool → UInt64
  | raydium _ token => token
  | pumpSwap _ token => token
  | pumpFun state => state.virtualTokenReserves

def buy : CpPool → UInt64 → UInt64
  | raydium sol token, a => raydiumSwapOutput sol token a
  | pumpSwap sol token, a => pumpswapSwapOutput sol token a
  | pumpFun state, a => pumpfunBuyOutput state a

def sell : CpPool → UInt64 → UInt64
  | raydium sol token, o => raydiumSwapOutput token sol o
  | pumpSwap sol token, o => pumpswapSwapOutput token sol o
  | pumpFun state, o => pumpfunSellOutput state o

def BuyFits : CpPool → UInt64 → Prop
  | raydium sol token, a => SwapFits sol token a 25
  | pumpSwap sol token, a => SwapFits sol token a 25
  | pumpFun state, a =>
    SwapFits state.virtualSolReserves state.virtualTokenReserves (pumpfunNetSol a) 0

def SellFits : CpPool → UInt64 → Prop
  | raydium sol token, o => SwapFits token sol o 25
  | pumpSwap sol token, o => SwapFits token sol o 25
  | pumpFun state, o => SwapFits state.virtualTokenReserves state.virtualSolReserves o 0

def IsAmm : CpPool → Prop
  | pumpFun _ => False
  | _ => True

/-- The part of the input, in basis points, that the formula itself keeps. -/
def factor : CpPool → ℕ
  | pumpFun _ => 10000
  | _ => 9975

theorem factor_le (p : CpPool) : p.factor ≤ 10000 := by cases p <;> simp [factor]

theorem IsAmm.factor_eq {p : CpPool} (h : p.IsAmm) : p.factor = 9975 := by
  cases p with
  | pumpFun state => exact absurd h id
  | raydium sol token => rfl
  | pumpSwap sol token => rfl

end CpPool

section Legs
variable {x y a fee : UInt64}

theorem swap_eq_cpOut (hfee : fee ≤ 10000) (hfits : SwapFits x y a fee)
    (ho : 0 < (constantProductSwap x y a fee).toNat) :
    0 < a.toNat ∧ (constantProductSwap x y a fee).toNat =
      cpOut 10000 (10000 - fee.toNat) x.toNat y.toNat a.toNat := by
  rw [constantProductSwap_eq_exactSwap hfee hfits, exactSwap] at ho ⊢
  split at ho
  · omega
  · next h => exact ⟨by omega, by rw [if_neg h]⟩

theorem swap_spot_lt (hfee : fee < 10000) (hfits : SwapFits x y a fee)
    (ho : 0 < (constantProductSwap x y a fee).toNat) :
    (constantProductSwap x y a fee).toNat * (x.toNat * 10000) <
      a.toNat * ((10000 - fee.toNat) * y.toNat) := by
  have hfee' : fee.toNat < 10000 := UInt64.lt_iff_toNat_lt.mp hfee
  obtain ⟨ha, heq⟩ := swap_eq_cpOut (UInt64.le_of_lt hfee) hfits ho
  rw [heq] at ho ⊢
  exact cpOut_spot_lt ha (by omega) ho

theorem swap_spot_le (hfee : fee < 10000) (hfits : SwapFits x y a fee) :
    (constantProductSwap x y a fee).toNat * (x.toNat * 10000) ≤
      a.toNat * ((10000 - fee.toNat) * y.toNat) := by
  rcases Nat.eq_zero_or_pos (constantProductSwap x y a fee).toNat with h | h
  · rw [h, Nat.zero_mul]
    exact Nat.zero_le _
  · exact (swap_spot_lt hfee hfits h).le

end Legs

section Trip
variable {p buyPool sellPool : CpPool} {a o : UInt64}

theorem buy_spot_lt (hfits : p.BuyFits a) (ho : 0 < (p.buy a).toNat) :
    (p.buy a).toNat * (p.sol.toNat * 10000) < a.toNat * (p.factor * p.token.toNat) := by
  cases p with
  | raydium sol token => exact swap_spot_lt (show (25 : UInt64) < 10000 by decide) hfits ho
  | pumpSwap sol token => exact swap_spot_lt (show (25 : UInt64) < 10000 by decide) hfits ho
  | pumpFun state =>
    have hnet : (pumpfunNetSol a).toNat ≤ a.toNat := saturatingSub_le _ _
    simp only [CpPool.buy, pumpfunBuyOutput] at ho ⊢
    split at ho
    · simp at ho
    · next h =>
      rw [if_neg h]
      exact (swap_spot_lt (show (0 : UInt64) < 10000 by decide) hfits ho).trans_le
        (Nat.mul_le_mul_right _ hnet)

theorem sell_spot_le (hfits : p.SellFits o) :
    (p.sell o).toNat * (p.token.toNat * 10000) ≤ o.toNat * (p.factor * p.sol.toNat) := by
  cases p with
  | raydium sol token => exact swap_spot_le (show (25 : UInt64) < 10000 by decide) hfits
  | pumpSwap sol token => exact swap_spot_le (show (25 : UInt64) < 10000 by decide) hfits
  | pumpFun state =>
    simp only [CpPool.sell, pumpfunSellOutput]
    split
    · simp
    · exact (Nat.mul_le_mul_right _ (saturatingSub_le _ _)).trans
        (swap_spot_le (show (0 : UInt64) < 10000 by decide) hfits)

theorem sell_of_no_tokens (h : p.token = 0 ∨ o = 0) : p.sell o = 0 := by
  cases p with
  | raydium sol token => rcases h with rfl | rfl <;> simp [CpPool.sell, raydiumSwapOutput]
  | pumpSwap sol token => rcases h with rfl | rfl <;> simp [CpPool.sell, pumpswapSwapOutput]
  | pumpFun state =>
    have hz : saturatingSub 0 (0 / 100) = 0 := by decide
    rcases h with h | rfl <;> simp_all [CpPool.sell, CpPool.token, pumpfunSellOutput]

/-- The trip loses as soon as the two rates, each with the fee of its leg, do not
multiply above one. -/
theorem trip_lt (ha : 0 < a) (hbuy : buyPool.BuyFits a) (hsell : sellPool.SellFits (buyPool.buy a))
    (hrates : buyPool.factor * sellPool.factor * (sellPool.sol.toNat * buyPool.token.toNat) ≤
      10000 * 10000 * (buyPool.sol.toNat * sellPool.token.toNat)) :
    (sellPool.sell (buyPool.buy a)).toNat < a.toNat := by
  have hpos : 0 < a.toNat := u64_pos.mp ha
  by_cases hz : sellPool.token = 0 ∨ buyPool.buy a = 0
  · rw [sell_of_no_tokens hz]
    exact hpos
  · obtain ⟨htoken, hbought⟩ := not_or.mp hz
    have ht : 0 < sellPool.token.toNat * 10000 := Nat.mul_pos (u64_ne_zero.mp htoken) (by norm_num)
    apply two_legs_lt ht (buy_spot_lt hbuy (u64_ne_zero.mp hbought)) (sell_spot_le hsell)
    calc buyPool.factor * buyPool.token.toNat * (sellPool.factor * sellPool.sol.toNat)
        = buyPool.factor * sellPool.factor * (sellPool.sol.toNat * buyPool.token.toNat) := by ring
      _ ≤ 10000 * 10000 * (buyPool.sol.toNat * sellPool.token.toNat) := hrates
      _ = buyPool.sol.toNat * 10000 * (sellPool.token.toNat * 10000) := by ring

theorem trip_lt_of_price_le (ha : 0 < a) (hbuy : buyPool.BuyFits a)
    (hsell : sellPool.SellFits (buyPool.buy a))
    (hprice : sellPool.sol.toNat * buyPool.token.toNat ≤
      buyPool.sol.toNat * sellPool.token.toNat) :
    (sellPool.sell (buyPool.buy a)).toNat < a.toNat :=
  trip_lt ha hbuy hsell
    (Nat.mul_le_mul (Nat.mul_le_mul buyPool.factor_le sellPool.factor_le) hprice)

theorem trip_same_pool_lt (ha : 0 < a) (hbuy : p.BuyFits a) (hsell : p.SellFits (p.buy a)) :
    (p.sell (p.buy a)).toNat < a.toNat :=
  trip_lt_of_price_le ha hbuy hsell le_rfl

theorem trip_default_neg (ha : 0 < a) (hle : a.toNat ≤ 10^9) (hbuy : p.BuyFits a)
    (hsell : p.SellFits (p.buy a)) :
    (CostModel.default.compute a (p.sell (p.buy a))).grossProfitLamports < 0 ∧
      (CostModel.default.compute a (p.sell (p.buy a))).netProfitLamports < 0 :=
  CostModel.compute_default_neg hle (trip_same_pool_lt ha hbuy hsell)

end Trip

section Backrun
variable {bs58 : Bytes → String} {rpc : Rpc} {chain : Chain} {pool : KnownPool}
  {tokenMint : String} {p : CpPool}

/-- The constant-product pool a known pool is on the chain, with the reserve the
quoters pay WSOL into as its SOL side. -/
def cpPoolOf (chain : Chain) (pool : KnownPool) : Option CpPool :=
  match pool.dex with
  | .raydium => (vaultBalances chain pool).map (fun b => .raydium b.2 b.1)
  | .pumpSwap => (vaultBalances chain pool).map (fun b => .pumpSwap b.2 b.1)
  | .pumpFun => (openCurve chain pool).map .pumpFun
  | _ => none

/-- The token leg is quoted with the two sides of the WSOL leg swapped. -/
def SidesSwapped (pool : KnownPool) (tokenMint : String) : Prop :=
  tokenMint ≠ wsolMint ∧ (pool.dex ≠ .pumpFun → tokenMint ≠ pool.quoteMint)

theorem chainQuote_outputs (bs58 : Bytes → String) (tokenMint : String)
    (hp : cpPoolOf chain pool = some p) (impactBps : UInt64 → UInt64 → ℚ) :
    (∀ a, (chainQuote bs58 impactBps chain pool wsolMint a).map LocalQuote.outputAmount =
      some (p.buy a)) ∧
    (SidesSwapped pool tokenMint → ∀ o,
      (chainQuote bs58 impactBps chain pool tokenMint o).map LocalQuote.outputAmount =
        some (p.sell o)) := by
  unfold cpPoolOf at hp
  cases hdex : pool.dex with
  | raydium =>
    simp only [hdex, Option.map_eq_some_iff] at hp
    obtain ⟨b, hb, rfl⟩ := hp
    constructor
    · intro a
      simp [chainQuote, hdex, hb, vaultQuote, orient, paysSecond, CpPool.buy, raydiumSwapOutput]
    · intro hsides o
      simp [chainQuote, hdex, hb, vaultQuote, orient, paysSecond, hsides.1,
        hsides.2 (by simp [hdex]), CpPool.sell, raydiumSwapOutput]
  | pumpSwap =>
    simp only [hdex, Option.map_eq_some_iff] at hp
    obtain ⟨b, hb, rfl⟩ := hp
    constructor
    · intro a
      simp [chainQuote, hdex, hb, vaultQuote, orient, paysSecond, CpPool.buy, pumpswapSwapOutput]
    · intro hsides o
      simp [chainQuote, hdex, hb, vaultQuote, orient, paysSecond, hsides.1,
        hsides.2 (by simp [hdex]), CpPool.sell, pumpswapSwapOutput]
  | pumpFun =>
    simp only [hdex, Option.map_eq_some_iff] at hp
    obtain ⟨state, hstate, rfl⟩ := hp
    constructor
    · intro a
      simp [chainQuote, hdex, hstate, curveQuote, curveOutput, CpPool.buy]
    · intro hsides o
      simp [chainQuote, hdex, hstate, curveQuote, curveOutput, CpPool.sell, hsides.1]
  | raydiumClmm => simp [hdex] at hp
  | orca => simp [hdex] at hp
  | jupiter => simp [hdex] at hp
  | meteora => simp [hdex] at hp
  | unknown => simp [hdex] at hp

theorem quoteSwap_output {inputMint : String} {a o : UInt64} {q : LocalQuote}
    (hs : Serves rpc chain) (hq : quoteSwap bs58 rpc pool inputMint a = .ok q)
    (hc : (chainQuote bs58 impactOrZero chain pool inputMint a).map LocalQuote.outputAmount =
      some o) : q.outputAmount = o := by
  rw [← quoteSwap_toOption hs, hq, toOption_ok, Option.map_some, Option.some.injEq] at hc
  exact hc

/-- A reported back-run is the round trip of its pool, and loses. -/
theorem backrun_neg (hs : Serves rpc chain) {tokenSymbol : String} {pools : List KnownPool}
    {triggerDex : Dex} {dir : SwapDirection} {signalSol : ℚ} {r : CrossVenueResult}
    (hfind : pools.find? (fun q => q.dex = triggerDex) = some pool)
    (hp : cpPoolOf chain pool = some p) (hsides : SidesSwapped pool tokenMint)
    (hbuy : p.BuyFits (backrunTradeLamports signalSol))
    (hsell : p.SellFits (p.buy (backrunTradeLamports signalSol)))
    (hr : scanSamePoolBackrun CostModel.default (ammQuoter bs58 rpc) tokenMint tokenSymbol pools
      triggerDex dir signalSol = .ok r) :
    r.grossProfitLamports < 0 ∧ r.netProfitLamports < 0 ∧ r.profitable = false := by
  obtain ⟨pool', leg1, leg2, hfind', h1, h2, _, rfl⟩ := scanSamePoolBackrun_eq_ok hr
  obtain rfl : pool = pool' := Option.some.inj (hfind.symm.trans hfind')
  obtain ⟨hbuys, hsells⟩ := chainQuote_outputs bs58 tokenMint hp impactOrZero
  have hleg1 : leg1.outputAmount = p.buy _ := quoteSwap_output hs h1 (hbuys _)
  have hleg2 : leg2.outputAmount = p.sell _ := quoteSwap_output hs h2 (hsells hsides _)
  obtain ⟨hpos, hle⟩ := backrunTradeLamports_bounds signalSol
  rw [hleg1] at hleg2
  obtain ⟨hgross, hnet⟩ := trip_default_neg hpos hle hbuy hsell
  rw [← hleg2] at hgross hnet
  have hnot : ¬ 0 < (CostModel.default.compute (backrunTradeLamports signalSol)
      leg2.outputAmount).netProfitLamports := by
    intro hgain
    exact absurd (Int64.lt_trans hgain hnet) Int64.lt_irrefl
  exact ⟨hgross, hnet, decide_eq_false hnot⟩

end Backrun

/-- No round trip gains at a price that is not better on the selling pool, none on
a single pool, and no back-run reports a gain. -/
theorem roundTrip_never_gains :
    (∀ (buyPool sellPool : CpPool) (a : UInt64), 0 < a → buyPool.BuyFits a →
      sellPool.SellFits (buyPool.buy a) →
      (sellPool.sol.toNat * buyPool.token.toNat ≤ buyPool.sol.toNat * sellPool.token.toNat →
        sellPool.sell (buyPool.buy a) < a) ∧
      (buyPool.IsAmm → sellPool.IsAmm →
        9975 * 9975 * (sellPool.sol.toNat * buyPool.token.toNat) ≤
          10000 * 10000 * (buyPool.sol.toNat * sellPool.token.toNat) →
        sellPool.sell (buyPool.buy a) < a)) ∧
    (∀ (p : CpPool) (a : UInt64), 0 < a → a.toNat ≤ 10^9 → p.BuyFits a → p.SellFits (p.buy a) →
      (CostModel.default.compute a (p.sell (p.buy a))).grossProfitLamports < 0 ∧
      (CostModel.default.compute a (p.sell (p.buy a))).netProfitLamports < 0) ∧
    (∀ (bs58 : Bytes → String) (rpc : Rpc) (chain : Chain), Serves rpc chain →
      ∀ (tokenMint tokenSymbol : String) (pools : List KnownPool) (triggerDex : Dex)
        (dir : SwapDirection) (signalSol : ℚ) (pool : KnownPool) (p : CpPool)
        (r : CrossVenueResult),
      pools.find? (fun q => q.dex = triggerDex) = some pool → cpPoolOf chain pool = some p →
      SidesSwapped pool tokenMint → p.BuyFits (backrunTradeLamports signalSol) →
      p.SellFits (p.buy (backrunTradeLamports signalSol)) →
      scanSamePoolBackrun CostModel.default (ammQuoter bs58 rpc) tokenMint tokenSymbol pools
        triggerDex dir signalSol = .ok r →
      r.grossProfitLamports < 0 ∧ r.netProfitLamports < 0 ∧ r.profitable = false) := by
  refine ⟨?_, ?_, ?_⟩
  · intro buyPool sellPool a ha hbuy hsell
    constructor
    · intro hprice
      exact UInt64.lt_iff_toNat_lt.mpr (trip_lt_of_price_le ha hbuy hsell hprice)
    · intro h1 h2 hrates
      refine UInt64.lt_iff_toNat_lt.mpr (trip_lt ha hbuy hsell ?_)
      rw [h1.factor_eq, h2.factor_eq]
      exact hrates
  · intro p a ha hle hbuy hsell
    exact trip_default_neg ha hle hbuy hsell
  · intro bs58 rpc chain hs tokenMint tokenSymbol pools triggerDex dir signalSol pool p r
      hfind hp hsides hbuy hsell hr
    exact backrun_neg hs hfind hp hsides hbuy hsell hr

def backrunChain : Chain := sampleChain [0, 0, 0, 0, 0, 2, 0, 0] [0, 0, 0, 0, 16, 0, 0, 0]

theorem roundTrip_never_gains_sample :
    (CpPool.raydium 68719476736 2199023255552).sell
      ((CpPool.pumpSwap 68719476736 2199023255552).buy 500000000) < 500000000 ∧
    (CostModel.default.compute 500000000 ((CpPool.raydium 68719476736 2199023255552).sell
      ((CpPool.raydium 68719476736 2199023255552).buy 500000000))).netProfitLamports < 0 ∧
    (scanSamePoolBackrun CostModel.default (ammQuoter base58Encode (serve backrunChain)) bonkMint
      "BONK" [samplePool .raydium] .raydium .sell 5).toOption.isSome ∧
    ∀ r, scanSamePoolBackrun CostModel.default (ammQuoter base58Encode (serve backrunChain))
      bonkMint "BONK" [samplePool .raydium] .raydium .sell 5 = .ok r → r.profitable = false := by
  obtain ⟨htrip, hone, hback⟩ := roundTrip_never_gains
  have hfits : (CpPool.raydium 68719476736 2199023255552).BuyFits 500000000 :=
    show SwapFits _ _ _ _ by decide
  have hfits' : (CpPool.raydium 68719476736 2199023255552).SellFits
      ((CpPool.raydium 68719476736 2199023255552).buy 500000000) :=
    show SwapFits _ _ _ _ by decide +kernel
  refine ⟨?_, ?_, by decide +kernel, ?_⟩
  · exact (htrip (.pumpSwap 68719476736 2199023255552) (.raydium 68719476736 2199023255552)
      500000000 (by decide) hfits hfits').1 (by decide)
  · exact (hone _ _ (by decide) (by decide) hfits hfits').2
  · intro r hr
    have htrade : backrunTradeLamports 5 = 500000000 := by decide +kernel
    refine (hback base58Encode (serve backrunChain) backrunChain (serves_serve _) bonkMint "BONK"
      [samplePool .raydium] .raydium .sell 5 (samplePool .raydium)
      (.raydium 68719476736 2199023255552) r rfl (by decide +kernel)
      ⟨by decide, fun _ => by decide⟩ ?_ ?_ hr).2.2
    · rw [htrade]
      exact hfits
    · rw [htrade]
      exact hfits'

end SolanaArb.RoundTrip
