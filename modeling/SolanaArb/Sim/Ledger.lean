import SolanaArb.Sim.ScanRoutes

/-! # The ledger of a scan

The economics of a round trip account for every lamport of the raw output, and the
stored row re-labels them. The words stay in range because a scan trades at most
2 SOL and drops outputs of more than five times the trade.
-/
namespace SolanaArb
open SolanaArb.LocalScanner SolanaArb.AmmQuoter

/-- The row of a simulation. Its random identifier is given where it is stored. -/
structure SimResult where
  opportunityId : Uuid
  inputAmount : Int64
  inputMint : String
  simulatedOutput : Option Int64
  outputMint : String
  simulatedProfitLamports : Option Int64
  txFeeLamports : Option Int64
  priorityFeeLamports : Option Int64
  simulationSuccess : Bool
  errorMessage : Option String
  simulatedAt : Timestamp
  deriving DecidableEq, Repr

/-- The row that every scan loop stores. -/
def simResult (r : CrossVenueResult) (now : Timestamp) : SimResult where
  opportunityId := Uuid.nil
  inputAmount := r.inputLamports.toInt64
  inputMint := wsolMint
  simulatedOutput := some r.outputLamports.toInt64
  outputMint := wsolMint
  simulatedProfitLamports := some r.netProfitLamports
  txFeeLamports := some r.fixedCostLamports
  priorityFeeLamports := some r.jitoTipLamports.toInt64
  simulationSuccess := true
  errorMessage := none
  simulatedAt := now

namespace CostModel

def feePerTx (m : CostModel) : UInt64 := m.baseFeeLamports + m.priorityFeeLamportsPerTx

/-- The fixed cost on integers. -/
def fixedTotal (m : CostModel) : ℕ :=
  (m.baseFeeLamports.toNat + m.priorityFeeLamportsPerTx.toNat) * m.numTxs.toNat

structure InRange (m : CostModel) : Prop where
  penalty : 0 ≤ m.executionPenaltyBps ∧ m.executionPenaltyBps ≤ 10000
  fraction : 0 ≤ m.jitoTipFraction ∧ m.jitoTipFraction ≤ 1
  fixed : m.fixedTotal < 2^61
  minTip : m.minJitoTipLamports.toNat < 2^61

/-- The two truncated products of `compute`. -/
def slippageTotal (m : CostModel) (raw : UInt64) : ℤ :=
  (raw.toNat * m.executionPenaltyBps / 10000).floor

def tipTotal (m : CostModel) (gross : Int64) : ℤ := (gross.toInt * m.jitoTipFraction).floor

/-- The operations of `compute` after the sum of the two fees, each with the value it
has on integers. -/
structure NoWrap (m : CostModel) (input raw : UInt64) : Prop where
  product : (m.feePerTx * m.numTxs).toNat = m.feePerTx.toNat * m.numTxs.toNat
  fixedCast : m.fixedCosts.toInt = (m.feePerTx * m.numTxs).toNat
  slippageCast : ((m.slippageLamports raw).toNat : ℤ) = m.slippageTotal raw
  realistic : (m.slippageLamports raw).toNat ≤ raw.toNat ∧
    (m.compute input raw).realisticOutputLamports.toNat =
      raw.toNat - (m.slippageLamports raw).toNat
  realisticCast : (m.compute input raw).realisticOutputLamports.toInt64.toInt =
    (m.compute input raw).realisticOutputLamports.toNat
  inputCast : input.toInt64.toInt = input.toNat
  gross : (m.compute input raw).grossProfitLamports.toInt =
    (m.compute input raw).realisticOutputLamports.toInt64.toInt - input.toInt64.toInt
  tipScaled : 0 < (m.compute input raw).grossProfitLamports.toInt →
    ((f64ToU64 ((m.compute input raw).grossProfitLamports.toInt * m.jitoTipFraction)).toNat : ℤ) =
      m.tipTotal (m.compute input raw).grossProfitLamports
  tipCast : (m.compute input raw).jitoTipLamports.toInt64.toInt =
    (m.compute input raw).jitoTipLamports.toNat
  afterFixed : ((m.compute input raw).grossProfitLamports - m.fixedCosts).toInt =
    (m.compute input raw).grossProfitLamports.toInt - m.fixedCosts.toInt
  net : (m.compute input raw).netProfitLamports.toInt =
    ((m.compute input raw).grossProfitLamports - m.fixedCosts).toInt -
      (m.compute input raw).jitoTipLamports.toInt64.toInt

section Ranges
variable {m : CostModel} {input raw : UInt64}

theorem InRange.feePerTx_eq (h : m.InRange) (hpos : 0 < m.numTxs.toNat) :
    m.feePerTx.toNat = m.baseFeeLamports.toNat + m.priorityFeeLamportsPerTx.toNat := by
  have hle : m.baseFeeLamports.toNat + m.priorityFeeLamportsPerTx.toNat ≤ m.fixedTotal :=
    Nat.le_mul_of_pos_right _ hpos
  have hlt := hle.trans_lt h.fixed
  rw [feePerTx, UInt64.toNat_add]
  exact Nat.mod_eq_of_lt (by omega)

/-- The sum of the two fees can only wrap when no transaction pays it. -/
theorem InRange.feePerTx_iff (h : m.InRange) :
    m.feePerTx.toNat = m.baseFeeLamports.toNat + m.priorityFeeLamportsPerTx.toNat ↔
      m.numTxs ≠ 0 ∨ m.baseFeeLamports.toNat + m.priorityFeeLamportsPerTx.toNat < 2^64 := by
  constructor
  · intro heq
    exact Or.inr (heq ▸ m.feePerTx.toNat_lt)
  · rintro (hne | hlt)
    · exact h.feePerTx_eq (u64_ne_zero.mp hne)
    · rw [feePerTx, UInt64.toNat_add]
      exact Nat.mod_eq_of_lt hlt

/-- Without transactions the product is zero, whatever the sum of the fees. -/
theorem InRange.product_eq (h : m.InRange) :
    m.feePerTx.toNat * m.numTxs.toNat = m.fixedTotal := by
  rcases Nat.eq_zero_or_pos m.numTxs.toNat with hzero | hpos
  · rw [fixedTotal, hzero, Nat.mul_zero, Nat.mul_zero]
  · rw [fixedTotal, h.feePerTx_eq hpos]

theorem InRange.product_toNat (h : m.InRange) :
    (m.feePerTx * m.numTxs).toNat = m.feePerTx.toNat * m.numTxs.toNat := by
  have hfixed := h.fixed
  rw [UInt64.toNat_mul]
  exact Nat.mod_eq_of_lt (by rw [h.product_eq]; omega)

theorem InRange.fixedCosts_toInt (h : m.InRange) : m.fixedCosts.toInt = m.fixedTotal := by
  have hfixed := h.fixed
  have hproduct : (m.feePerTx * m.numTxs).toNat = m.fixedTotal :=
    h.product_toNat.trans h.product_eq
  rw [fixedCosts, ← feePerTx, toInt64_toInt (by rw [hproduct]; omega), hproduct]

/-- The penalty takes at most the whole output. -/
theorem InRange.slippage (h : m.InRange) (raw : UInt64) :
    ((m.slippageLamports raw).toNat : ℤ) = m.slippageTotal raw ∧
      (m.slippageLamports raw).toNat ≤ raw.toNat := by
  obtain ⟨hlo, hhi⟩ := h.penalty
  have hraw : (0 : ℚ) ≤ raw.toNat := Nat.cast_nonneg _
  have hnonneg : (0 : ℚ) ≤ raw.toNat * m.executionPenaltyBps / 10000 := by positivity
  have hle : raw.toNat * m.executionPenaltyBps / 10000 ≤ (raw.toNat : ℚ) := by
    rw [div_le_iff₀ (by norm_num)]
    exact mul_le_mul_of_nonneg_left hhi hraw
  obtain ⟨_, hbound⟩ := f64ToU64_bounds _ 0 raw.toNat (by simpa using hnonneg) hle raw.toNat_lt
  refine ⟨?_, hbound⟩
  have hlt : raw.toNat * m.executionPenaltyBps / 10000 < 2^64 :=
    hle.trans_lt (by exact_mod_cast raw.toNat_lt)
  have hfloor : 0 ≤ (raw.toNat * m.executionPenaltyBps / 10000).floor := Int.floor_nonneg.mpr hnonneg
  rw [slippageLamports, slippageTotal, f64ToU64_toNat hlt]
  exact Int.toNat_of_nonneg hfloor

/-- A share of a gross profit is at most the profit. -/
theorem InRange.tipScaled (h : m.InRange) {gross : Int64} (hpos : 0 < gross.toInt) :
    ((f64ToU64 (gross.toInt * m.jitoTipFraction)).toNat : ℤ) = m.tipTotal gross ∧
      ((f64ToU64 (gross.toInt * m.jitoTipFraction)).toNat : ℤ) ≤ gross.toInt := by
  obtain ⟨hlo, hhi⟩ := h.fraction
  have hgross : (0 : ℚ) ≤ gross.toInt := by exact_mod_cast hpos.le
  have hnonneg : (0 : ℚ) ≤ gross.toInt * m.jitoTipFraction := mul_nonneg hgross hlo
  have hle : (gross.toInt : ℚ) * m.jitoTipFraction ≤ gross.toInt := by
    simpa using mul_le_mul_of_nonneg_left hhi hgross
  have hlt : (gross.toInt : ℚ) * m.jitoTipFraction < 2^64 := by
    have hint : gross.toInt < 2^64 := gross.toInt_lt.trans (by norm_num)
    exact hle.trans_lt (by exact_mod_cast hint)
  have hfloor : 0 ≤ (gross.toInt * m.jitoTipFraction : ℚ).floor := Int.floor_nonneg.mpr hnonneg
  have hfloor_le : (gross.toInt * m.jitoTipFraction : ℚ).floor ≤ gross.toInt := by
    have hcast := (Int.floor_le (gross.toInt * m.jitoTipFraction : ℚ)).trans hle
    exact_mod_cast hcast
  rw [f64ToU64_toNat hlt, Int.toNat_of_nonneg hfloor]
  exact ⟨rfl, hfloor_le⟩

theorem InRange.tip_bounds (h : m.InRange) (gross : Int64) :
    m.minJitoTipLamports.toNat ≤ (m.jitoTipLamports gross).toNat ∧
      ((m.jitoTipLamports gross).toNat : ℤ) ≤ max gross.toInt m.minJitoTipLamports.toNat := by
  by_cases hpos : gross.toInt ≤ 0
  · rw [jitoTipLamports_of_nonpos hpos]
    exact ⟨le_rfl, le_max_right _ _⟩
  · obtain ⟨_, hle⟩ := h.tipScaled (not_le.mp hpos)
    have hne : ¬ gross ≤ 0 := fun hg => hpos (Int64.le_iff_toInt_le.mp hg)
    rw [jitoTipLamports, if_neg hne, maxU64_toNat]
    refine ⟨le_max_right _ _, ?_⟩
    omega

theorem output_le (hin : input.toNat ≤ 2 * 10^9) (hsane : ¬ input * 5 < raw) :
    raw.toNat ≤ 10^10 := by
  have hfive : (input * 5).toNat = input.toNat * 5 := by
    rw [UInt64.toNat_mul, show (5 : UInt64).toNat = 5 from rfl]
    exact Nat.mod_eq_of_lt (by omega)
  have hle : raw.toNat ≤ (input * 5).toNat := UInt64.le_iff_toNat_le.mp (UInt64.not_lt.mp hsane)
  omega

/-- No word of `compute` wraps for amounts below `2^60`. -/
theorem InRange.noWrap_of_lt (h : m.InRange) (hin : input.toNat < 2^60)
    (hraw : raw.toNat < 2^60) : m.NoWrap input raw := by
  have hfixed := h.fixed
  have hminTip := h.minTip
  have hcosts := h.fixedCosts_toInt
  obtain ⟨hslip, hslip_le⟩ := h.slippage raw
  have hreal : (m.compute input raw).realisticOutputLamports.toNat =
      raw.toNat - (m.slippageLamports raw).toNat := saturatingSub_toNat _ _
  have hrealCast := toInt64_toInt
    (show (m.compute input raw).realisticOutputLamports.toNat < 2^63 by omega)
  have hinCast := toInt64_toInt (show input.toNat < 2^63 by omega)
  have hgross := compute_gross_toInt (m := m) (show input.toNat < 2^63 by omega)
    (show raw.toNat < 2^63 by omega)
  have htip : (m.compute input raw).jitoTipLamports =
      m.jitoTipLamports (m.compute input raw).grossProfitLamports := rfl
  obtain ⟨_, htip_le⟩ := h.tip_bounds (m.compute input raw).grossProfitLamports
  rw [← htip] at htip_le
  have htipCast := toInt64_toInt
    (show (m.compute input raw).jitoTipLamports.toNat < 2^63 by omega)
  have hafter : ((m.compute input raw).grossProfitLamports - m.fixedCosts).toInt =
      (m.compute input raw).grossProfitLamports.toInt - m.fixedCosts.toInt :=
    int64_sub_toInt (by omega) (by omega)
  have hnet : ((m.compute input raw).grossProfitLamports - m.fixedCosts -
      (m.compute input raw).jitoTipLamports.toInt64).toInt =
      ((m.compute input raw).grossProfitLamports - m.fixedCosts).toInt -
        (m.compute input raw).jitoTipLamports.toInt64.toInt :=
    int64_sub_toInt (by omega) (by omega)
  exact {
    product := h.product_toNat
    fixedCast := by rw [hcosts, h.product_toNat, h.product_eq]
    slippageCast := hslip
    realistic := ⟨hslip_le, hreal⟩
    realisticCast := hrealCast
    inputCast := hinCast
    gross := by rw [hgross, hrealCast, hinCast]
    tipScaled := fun hpos => (h.tipScaled hpos).1
    tipCast := htipCast
    afterFixed := hafter
    net := hnet }

theorem InRange.noWrap (h : m.InRange) (hin : input.toNat ≤ 2 * 10^9)
    (hsane : ¬ input * 5 < raw) : m.NoWrap input raw := by
  have hraw := output_le hin hsane
  exact h.noWrap_of_lt (by omega) (by omega)

end Ranges

/-- The raw output is what came back of the input, the costs and the penalty. -/
structure Balanced (m : CostModel) (input raw : UInt64) : Prop where
  identity : (raw.toNat : ℤ) = input.toNat + (m.compute input raw).netProfitLamports.toInt +
    (m.compute input raw).fixedCostLamports.toInt + (m.compute input raw).jitoTipLamports.toNat +
    (m.compute input raw).slippageLamports.toNat
  fixed : (m.compute input raw).fixedCostLamports.toInt = m.fixedTotal
  minTip : m.minJitoTipLamports ≤ (m.compute input raw).jitoTipLamports
  tip : 0 < (m.compute input raw).netProfitLamports.toInt →
    ((m.compute input raw).jitoTipLamports.toNat : ℤ) ≤
      (m.compute input raw).grossProfitLamports.toInt

theorem InRange.balanced {m : CostModel} {input raw : UInt64} (h : m.InRange)
    (hin : input.toNat ≤ 2 * 10^9) (hsane : ¬ input * 5 < raw) : m.Balanced input raw := by
  have hw := h.noWrap hin hsane
  have hcosts := h.fixedCosts_toInt
  obtain ⟨hslip_le, hreal⟩ := hw.realistic
  have hgross := hw.gross
  have hnet := hw.net
  rw [hw.realisticCast, hw.inputCast] at hgross
  rw [hw.afterFixed, hw.tipCast] at hnet
  have hslip : (m.compute input raw).slippageLamports = m.slippageLamports raw := rfl
  have hfixed : (m.compute input raw).fixedCostLamports = m.fixedCosts := rfl
  constructor
  · rw [hslip, hfixed]
    omega
  · rw [hfixed]
    exact hcosts
  · exact UInt64.le_iff_toNat_le.mpr (h.tip_bounds _).1
  · intro hpos
    omega

end CostModel

/-- The stored profit is the stored output less the three stored outlays, and the
result counts as profitable when it is positive. -/
def RowBalanced (row : SimResult) (profitable : Bool) : Prop :=
  ∃ output profit fee tip, row.simulatedOutput = some output ∧
    row.simulatedProfitLamports = some profit ∧ row.txFeeLamports = some fee ∧
    row.priorityFeeLamports = some tip ∧
    profit.toInt = output.toInt - row.inputAmount.toInt - fee.toInt - tip.toInt ∧
    (profitable = true ↔ 0 < profit.toInt)

theorem simResult_balanced {m : CostModel} {input raw : UInt64} (hw : m.NoWrap input raw)
    (tokenMint tokenSymbol : String) (buyPool sellPool : KnownPool) (tokens : UInt64)
    (now : Timestamp) :
    RowBalanced (simResult (crossVenueResult m tokenMint tokenSymbol buyPool sellPool input tokens
      raw) now)
      (crossVenueResult m tokenMint tokenSymbol buyPool sellPool input tokens raw).profitable := by
  have hnet := hw.net
  rw [hw.afterFixed, hw.gross] at hnet
  refine ⟨_, _, _, _, rfl, rfl, rfl, rfl, ?_, ?_⟩
  · change (m.compute input raw).netProfitLamports.toInt =
      (m.compute input raw).realisticOutputLamports.toInt64.toInt - input.toInt64.toInt -
        m.fixedCosts.toInt - (m.compute input raw).jitoTipLamports.toInt64.toInt
    omega
  · simp only [crossVenueResult, decide_eq_true_eq, Int64.lt_iff_toInt_lt, Int64.toInt_zero]

/-- The ledger of every scan balances: nothing wraps but, with no transactions at all,
the sum of the two fees, which the product then discards. -/
theorem ledger_balances (m : CostModel) (hm : m.InRange) (input raw : UInt64)
    (hin : input.toNat ≤ 2 * 10^9) (hsane : ¬ input * 5 < raw)
    (tokenMint tokenSymbol : String) (buyPool sellPool : KnownPool) (tokens : UInt64)
    (now : Timestamp) :
    (m.feePerTx.toNat = m.baseFeeLamports.toNat + m.priorityFeeLamportsPerTx.toNat ↔
      m.numTxs ≠ 0 ∨ m.baseFeeLamports.toNat + m.priorityFeeLamportsPerTx.toNat < 2^64) ∧
    m.NoWrap input raw ∧ m.Balanced input raw ∧
    RowBalanced (simResult (crossVenueResult m tokenMint tokenSymbol buyPool sellPool input tokens
      raw) now)
      (crossVenueResult m tokenMint tokenSymbol buyPool sellPool input tokens raw).profitable := by
  have hw := hm.noWrap hin hsane
  exact ⟨hm.feePerTx_iff, hw, hm.balanced hin hsane,
    simResult_balanced hw tokenMint tokenSymbol buyPool sellPool tokens now⟩

def ledgerPool (dex : Dex) : KnownPool := ⟨"Pool", dex, "Token", wsolMint, none⟩

/-- 1 SOL in, 1.05 SOL out under the default costs. -/
theorem ledger_balances_default :
    CostModel.default.InRange ∧ CostModel.default.Balanced 1000000000 1050000000 := by
  have hm : CostModel.default.InRange :=
    ⟨by decide +kernel, by decide +kernel, by decide +kernel, by decide +kernel⟩
  exact ⟨hm, (ledger_balances CostModel.default hm 1000000000 1050000000 (by decide) (by decide)
    "Token" "TKN" (ledgerPool .raydium) (ledgerPool .pumpSwap) 1 0).2.2.1⟩

def hugeFees : CostModel where
  baseFeeLamports := 9223372036854775808
  priorityFeeLamportsPerTx := 9223372036854775808
  numTxs := 0
  executionPenaltyBps := 0
  minJitoTipLamports := 0
  jitoTipFraction := 0

/-- With no transactions the fixed cost is 0, yet the sum of the two fees wraps to 0. -/
theorem hugeFees_wrap : hugeFees.InRange ∧ hugeFees.fixedTotal = 0 ∧
    hugeFees.feePerTx.toNat = 0 ∧
    hugeFees.baseFeeLamports.toNat + hugeFees.priorityFeeLamportsPerTx.toNat = 2^64 :=
  ⟨⟨by decide +kernel, by decide +kernel, by decide +kernel, by decide +kernel⟩,
    by decide +kernel, by decide +kernel, by decide +kernel⟩

namespace LocalScanner

section Scanners
variable {m : CostModel} {quoter : Quoter} {tokenMint tokenSymbol : String}
  {pools : List KnownPool} {r : CrossVenueResult}

/-- A result of a trade of at most 2 SOL whose output passed the sanity check. -/
def FromTrade (m : CostModel) (r : CrossVenueResult) : Prop :=
  ∃ tokenMint tokenSymbol buyPool sellPool input tokens raw, input.toNat ≤ 2 * 10^9 ∧
    ¬ input * 5 < raw ∧
    r = crossVenueResult m tokenMint tokenSymbol buyPool sellPool input tokens raw

theorem FromTrade.row_balanced (hm : m.InRange) (h : FromTrade m r) (now : Timestamp) :
    RowBalanced (simResult r now) r.profitable := by
  obtain ⟨tokenMint, tokenSymbol, buyPool, sellPool, input, tokens, raw, hin, hsane, rfl⟩ := h
  exact simResult_balanced (hm.noWrap hin hsane) tokenMint tokenSymbol buyPool sellPool tokens now

theorem fromTrade_of_sellRoutes {tradeLamports : UInt64} {buy : Fin pools.length × UInt64}
    (hin : tradeLamports.toNat ≤ 2 * 10^9)
    (h : r ∈ sellRoutes m quoter tokenMint tokenSymbol pools tradeLamports buy) : FromTrade m r := by
  simp only [sellRoutes, List.mem_filterMap, Option.ite_none_left_eq_some] at h
  obtain ⟨j, _, _, hsell⟩ := h
  unfold sellResult at hsell
  cases hq : quoter.quoteSwap (pools.get j) tokenMint buy.2 with
  | error e => simp only [hq] at hsell; cases hsell
  | ok q =>
    simp only [hq, Option.ite_none_right_eq_some, Option.ite_none_left_eq_some,
      Option.some.injEq] at hsell
    obtain ⟨_, hsane, rfl⟩ := hsell
    exact ⟨tokenMint, tokenSymbol, pools.get buy.1, pools.get j, tradeLamports, buy.2,
      q.outputAmount, hin, hsane, rfl⟩

theorem scanToken_fromTrade (h : scanToken m quoter tokenMint tokenSymbol pools = .ok r) :
    FromTrade m r := by
  obtain ⟨buy, _, hsell⟩ := List.mem_flatMap.mp (mem_routes_of_scanAt h)
  exact fromTrade_of_sellRoutes (by decide) hsell

theorem scanTriggered_fromTrade {signalSol : ℚ}
    (h : scanTriggered m quoter tokenMint tokenSymbol pools signalSol = .ok r) :
    FromTrade m r := by
  obtain ⟨buy, _, hsell⟩ := List.mem_flatMap.mp (mem_batchRoutes_of_scanTriggered h)
  exact fromTrade_of_sellRoutes (triggeredTradeLamports_le signalSol) hsell

theorem scanSamePoolBackrun_fromTrade {triggerDex : Dex} {dir : SwapDirection} {signalSol : ℚ}
    (h : scanSamePoolBackrun m quoter tokenMint tokenSymbol pools triggerDex dir signalSol = .ok r) :
    FromTrade m r := by
  have hle := (backrunTradeLamports_bounds signalSol).2
  obtain ⟨pool, leg1, leg2, _, _, _, hsane, rfl⟩ := scanSamePoolBackrun_eq_ok h
  exact ⟨tokenMint, tokenSymbol, pool, pool, backrunTradeLamports signalSol, leg1.outputAmount,
    leg2.outputAmount, by omega, hsane, rfl⟩

/-- Whatever the pools and their quotes, the row of every scan result balances. -/
theorem scan_row_balanced (hm : m.InRange) (signalSol : ℚ) (triggerDex : Dex) (dir : SwapDirection)
    (h : scanToken m quoter tokenMint tokenSymbol pools = .ok r ∨
      scanTriggered m quoter tokenMint tokenSymbol pools signalSol = .ok r ∨
      scanSamePoolBackrun m quoter tokenMint tokenSymbol pools triggerDex dir signalSol = .ok r)
    (now : Timestamp) : RowBalanced (simResult r now) r.profitable := by
  rcases h with h | h | h
  · exact (scanToken_fromTrade h).row_balanced hm now
  · exact (scanTriggered_fromTrade h).row_balanced hm now
  · exact (scanSamePoolBackrun_fromTrade h).row_balanced hm now

end Scanners
end LocalScanner
end SolanaArb
