import SolanaArb.Types
import Mathlib.Tactic.Linarith
import Mathlib.Tactic.Positivity

/-! # Execution costs of a round trip

Fixed transaction costs, a slippage penalty on the raw output and a tip that is a
fraction of the gross profit with a floor. The `i64` profit fields come from
casts and wrapping subtractions of `u64` amounts.
-/
namespace SolanaArb

structure CostModel where
  baseFeeLamports : UInt64
  priorityFeeLamportsPerTx : UInt64
  numTxs : UInt64
  executionPenaltyBps : ℚ
  minJitoTipLamports : UInt64
  jitoTipFraction : ℚ
  deriving DecidableEq, Repr

structure ScanEconomics where
  inputLamports : UInt64
  rawOutputLamports : UInt64
  slippageLamports : UInt64
  realisticOutputLamports : UInt64
  grossProfitLamports : Int64
  fixedCostLamports : Int64
  jitoTipLamports : UInt64
  netProfitLamports : Int64
  profitBps : ℚ
  deriving DecidableEq, Repr

namespace CostModel

def default : CostModel where
  baseFeeLamports := 5000
  priorityFeeLamportsPerTx := 3000000
  numTxs := 3
  executionPenaltyBps := 50
  minJitoTipLamports := 50000
  jitoTipFraction := 1/2

def fixedCosts (m : CostModel) : Int64 :=
  ((m.baseFeeLamports + m.priorityFeeLamportsPerTx) * m.numTxs).toInt64

def slippageLamports (m : CostModel) (rawOutput : UInt64) : UInt64 :=
  f64ToU64 (rawOutput.toNat * m.executionPenaltyBps / 10000)

def jitoTipLamports (m : CostModel) (grossProfit : Int64) : UInt64 :=
  if grossProfit ≤ 0 then m.minJitoTipLamports
  else maxU64 (f64ToU64 (grossProfit.toInt * m.jitoTipFraction)) m.minJitoTipLamports

def compute (m : CostModel) (inputLamports rawOutput : UInt64) : ScanEconomics :=
  let slippage := m.slippageLamports rawOutput
  let realisticOut := saturatingSub rawOutput slippage
  let gross := realisticOut.toInt64 - inputLamports.toInt64
  let tip := m.jitoTipLamports gross
  let fixed := m.fixedCosts
  let net := gross - fixed - tip.toInt64
  let profitBps : ℚ :=
    if 0 < inputLamports then (gross.toInt : ℚ) / inputLamports.toNat * 10000 else 0
  { inputLamports := inputLamports
    rawOutputLamports := rawOutput
    slippageLamports := slippage
    realisticOutputLamports := realisticOut
    grossProfitLamports := gross
    fixedCostLamports := fixed
    jitoTipLamports := tip
    netProfitLamports := net
    profitBps := profitBps }

variable {m : CostModel} {input raw : UInt64}

theorem compute_realistic_le (m : CostModel) (input raw : UInt64) :
    (m.compute input raw).realisticOutputLamports.toNat ≤ raw.toNat := saturatingSub_le _ _

/-- Below `2^63` the two casts and the subtraction of the gross profit are exact. -/
theorem compute_gross_toInt (hin : input.toNat < 2^63) (hraw : raw.toNat < 2^63) :
    (m.compute input raw).grossProfitLamports.toInt =
      (m.compute input raw).realisticOutputLamports.toNat - input.toNat := by
  have hle := compute_realistic_le m input raw
  have hr := toInt64_toInt (lt_of_le_of_lt hle hraw)
  have hi := toInt64_toInt hin
  change ((m.compute input raw).realisticOutputLamports.toInt64 - input.toInt64).toInt = _
  rw [int64_sub_toInt (by omega) (by omega), hr, hi]

theorem compute_gross_neg (hin : input.toNat < 2^63) (hlt : raw.toNat < input.toNat) :
    (m.compute input raw).grossProfitLamports.toInt < 0 := by
  have hle := compute_realistic_le m input raw
  rw [compute_gross_toInt hin (hlt.trans hin)]
  omega

theorem jitoTipLamports_of_nonpos {gross : Int64} (h : gross.toInt ≤ 0) :
    m.jitoTipLamports gross = m.minJitoTipLamports := if_pos (Int64.le_iff_toInt_le.mpr h)

/-- The costs only deepen a loss, as long as they stay below `2^61`. -/
theorem compute_net_le_gross (hin : input.toNat < 2^62) (hlt : raw.toNat < input.toNat)
    (hfixed : 0 ≤ m.fixedCosts.toInt) (hfixed' : m.fixedCosts.toInt < 2^61)
    (htip : m.minJitoTipLamports.toNat < 2^61) :
    (m.compute input raw).netProfitLamports.toInt ≤
      (m.compute input raw).grossProfitLamports.toInt := by
  have hneg := compute_gross_neg (m := m) (by omega) hlt
  have hgross := compute_gross_toInt (m := m) (show input.toNat < 2^63 by omega)
    (show raw.toNat < 2^63 by omega)
  have ht := toInt64_toInt (x := m.minJitoTipLamports) (by omega)
  change ((m.compute input raw).grossProfitLamports - m.fixedCosts -
    (m.jitoTipLamports (m.compute input raw).grossProfitLamports).toInt64).toInt ≤ _
  rw [jitoTipLamports_of_nonpos hneg.le]
  have hsub : ((m.compute input raw).grossProfitLamports - m.fixedCosts).toInt =
      (m.compute input raw).grossProfitLamports.toInt - m.fixedCosts.toInt :=
    int64_sub_toInt (by omega) (by omega)
  rw [int64_sub_toInt (by omega) (by omega), hsub, ht]
  omega

theorem compute_default_neg (hin : input.toNat ≤ 10^9) (hlt : raw.toNat < input.toNat) :
    (default.compute input raw).grossProfitLamports < 0 ∧
    (default.compute input raw).netProfitLamports < 0 := by
  have hgross := compute_gross_neg (m := default) (by omega) hlt
  have hnet := compute_net_le_gross (m := default) (by omega) hlt
    (by decide) (by decide) (by decide)
  simp only [Int64.lt_iff_toInt_lt, Int64.toInt_zero]
  exact ⟨hgross, by omega⟩

end CostModel
end SolanaArb
