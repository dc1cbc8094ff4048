import SolanaArb.Sim.Ledger
import SolanaArb.General.FlooredShare

/-! # Net profit follows the market

On integers the net profit of a trade is the rest of the output after the penalty, less
the input, the fixed cost and the tip. Both roundings and the two branches of the tip
leave it monotone: it grows with the output and falls with the input.
-/
namespace SolanaArb
open SolanaArb.General SolanaArb.LocalScanner

namespace CostModel

def grossTotal (m : CostModel) (input raw : ℤ) : ℤ :=
  rest (m.executionPenaltyBps / 10000) raw - input

def netTotal (m : CostModel) (input raw : ℤ) : ℤ :=
  m.grossTotal input raw - m.fixedTotal -
    charge m.jitoTipFraction m.minJitoTipLamports.toNat (m.grossTotal input raw)

section Totals
variable {m : CostModel}

theorem InRange.netTotal_mono (h : m.InRange) {input input' raw raw' : ℤ} (hin : input' ≤ input)
    (hraw : raw ≤ raw') : m.netTotal input raw ≤ m.netTotal input' raw' := by
  have hpenalty : m.executionPenaltyBps / 10000 ≤ 1 := by
    rw [div_le_one (by norm_num)]
    exact h.penalty.2
  have hrest := rest_mono hpenalty hraw
  have hgross : m.grossTotal input raw ≤ m.grossTotal input' raw' := by
    unfold grossTotal
    omega
  have hfloor : (0 : ℤ) ≤ m.minJitoTipLamports.toNat := Int.natCast_nonneg _
  have hcharge := sub_charge_mono h.fraction.2 hfloor hgross
  unfold netTotal
  omega

end Totals

section Words
variable {m : CostModel} {input raw : UInt64}

theorem slippageTotal_eq_share (m : CostModel) (raw : UInt64) :
    m.slippageTotal raw = share (m.executionPenaltyBps / 10000) raw.toNat := by
  unfold slippageTotal share
  rw [mul_div_assoc]
  norm_cast

theorem InRange.gross_eq (h : m.InRange) (hin : input.toNat < 2^60) (hraw : raw.toNat < 2^60) :
    (m.compute input raw).grossProfitLamports.toInt = m.grossTotal input.toNat raw.toNat := by
  have hw := h.noWrap_of_lt hin hraw
  obtain ⟨hslip_le, hreal⟩ := hw.realistic
  have hslip := hw.slippageCast
  rw [slippageTotal_eq_share] at hslip
  rw [hw.gross, hw.realisticCast, hw.inputCast, grossTotal, rest]
  omega

theorem InRange.tip_eq (h : m.InRange) (gross : Int64) :
    ((m.jitoTipLamports gross).toNat : ℤ) =
      charge m.jitoTipFraction m.minJitoTipLamports.toNat gross.toInt := by
  unfold charge
  by_cases hpos : gross.toInt ≤ 0
  · rw [jitoTipLamports_of_nonpos hpos, if_pos hpos]
  · obtain ⟨hscaled, _⟩ := h.tipScaled (not_le.mp hpos)
    have hne : ¬ gross ≤ 0 := fun hg => hpos (Int64.le_iff_toInt_le.mp hg)
    have hshare : m.tipTotal gross = share m.jitoTipFraction gross.toInt := rfl
    rw [if_neg hpos, jitoTipLamports, if_neg hne, maxU64_toNat, ← hshare, ← hscaled]
    push_cast
    rfl

theorem InRange.net_eq (h : m.InRange) (hin : input.toNat < 2^60) (hraw : raw.toNat < 2^60) :
    (m.compute input raw).netProfitLamports.toInt = m.netTotal input.toNat raw.toNat := by
  have hw := h.noWrap_of_lt hin hraw
  have htip : ((m.compute input raw).jitoTipLamports.toNat : ℤ) =
      charge m.jitoTipFraction m.minJitoTipLamports.toNat
        (m.compute input raw).grossProfitLamports.toInt :=
    h.tip_eq (m.compute input raw).grossProfitLamports
  rw [hw.net, hw.afterFixed, hw.tipCast, htip, h.fixedCosts_toInt, h.gross_eq hin hraw, netTotal]

theorem InRange.net_mono (h : m.InRange) {input' raw' : UInt64} (hin : input' ≤ input)
    (hraw : raw ≤ raw') (hinLt : input.toNat < 2^60) (hrawLt : raw'.toNat < 2^60) :
    (m.compute input raw).netProfitLamports ≤ (m.compute input' raw').netProfitLamports := by
  have hin' : input'.toNat ≤ input.toNat := UInt64.le_iff_toNat_le.mp hin
  have hraw' : raw.toNat ≤ raw'.toNat := UInt64.le_iff_toNat_le.mp hraw
  rw [Int64.le_iff_toInt_le, h.net_eq hinLt (by omega), h.net_eq (by omega) hrawLt]
  exact h.netTotal_mono (by exact_mod_cast hin') (by exact_mod_cast hraw')

/-- The model with its fixed cost as the fee of a single transaction. `compute` reads
the three fee fields only through that cost. -/
def oneFee (m : CostModel) : CostModel :=
  { m with
    baseFeeLamports := m.feePerTx * m.numTxs
    priorityFeeLamportsPerTx := 0
    numTxs := 1 }

theorem oneFee_fixedCosts (m : CostModel) : m.oneFee.fixedCosts = m.fixedCosts := by
  unfold oneFee fixedCosts feePerTx
  rw [UInt64.add_zero, UInt64.mul_one]

theorem oneFee_net (m : CostModel) (input raw : UInt64) :
    (m.oneFee.compute input raw).netProfitLamports = (m.compute input raw).netProfitLamports := by
  unfold compute
  rw [oneFee_fixedCosts]
  rfl

theorem oneFee_inRange (hpenalty : 0 ≤ m.executionPenaltyBps ∧ m.executionPenaltyBps ≤ 10000)
    (hfraction : 0 ≤ m.jitoTipFraction ∧ m.jitoTipFraction ≤ 1)
    (hfixed : (m.feePerTx * m.numTxs).toNat < 2^60) (htip : m.minJitoTipLamports.toNat < 2^60) :
    m.oneFee.InRange where
  penalty := hpenalty
  fraction := hfraction
  fixed := by
    have htotal : m.oneFee.fixedTotal = (m.feePerTx * m.numTxs).toNat := by
      simp [fixedTotal, oneFee]
    omega
  minTip := htip.trans (by norm_num)

end Words

end CostModel

/-- Net profit grows with the output and falls with the input, across every rounding
and both switches of the tip. -/
theorem net_profit_monotone (m : CostModel)
    (hpenalty : 0 ≤ m.executionPenaltyBps ∧ m.executionPenaltyBps ≤ 10000)
    (hfraction : 0 ≤ m.jitoTipFraction ∧ m.jitoTipFraction ≤ 1)
    (hfixed : (m.feePerTx * m.numTxs).toNat < 2^60)
    (htip : m.minJitoTipLamports.toNat < 2^60) :
    (∀ input raw raw' : UInt64, input.toNat < 2^60 → raw'.toNat < 2^60 → raw ≤ raw' →
      (m.compute input raw).netProfitLamports ≤ (m.compute input raw').netProfitLamports) ∧
    (∀ input input' raw : UInt64, input'.toNat < 2^60 → raw.toNat < 2^60 → input ≤ input' →
      (m.compute input' raw).netProfitLamports ≤ (m.compute input raw).netProfitLamports) ∧
    (∀ tokenMint tokenSymbol buyPool sellPool (input tokens tokens' raw raw' : UInt64),
      input.toNat < 2^60 → raw'.toNat < 2^60 → raw ≤ raw' →
      (crossVenueResult m tokenMint tokenSymbol buyPool sellPool input tokens raw).profitable =
        true →
      (crossVenueResult m tokenMint tokenSymbol buyPool sellPool input tokens' raw').profitable =
        true) ∧
    ∀ tokenMint tokenSymbol buyPool sellPool buyPool' sellPool'
      (input tokens tokens' raw raw' : UInt64), input.toNat < 2^60 → raw.toNat < 2^60 →
      (crossVenueResult m tokenMint tokenSymbol buyPool sellPool input tokens
        raw).netProfitLamports <
      (crossVenueResult m tokenMint tokenSymbol buyPool' sellPool' input tokens'
        raw').netProfitLamports → raw < raw' := by
  have hm := CostModel.oneFee_inRange hpenalty hfraction hfixed htip
  have hmono (input input' raw raw' : UInt64) (hin : input' ≤ input) (hraw : raw ≤ raw')
      (hinLt : input.toNat < 2^60) (hrawLt : raw'.toNat < 2^60) :
      (m.compute input raw).netProfitLamports ≤ (m.compute input' raw').netProfitLamports := by
    have hle := hm.net_mono hin hraw hinLt hrawLt
    rwa [CostModel.oneFee_net, CostModel.oneFee_net] at hle
  refine ⟨?_, ?_, ?_, ?_⟩
  · intro input raw raw' hin hraw' hle
    exact hmono input input raw raw' (UInt64.le_refl _) hle hin hraw'
  · intro input input' raw hin hraw hle
    exact hmono input' input raw raw hle (UInt64.le_refl _) hin hraw
  · intro tokenMint tokenSymbol buyPool sellPool input tokens tokens' raw raw' hin hraw' hle hprofit
    have hnet := hmono input input raw raw' (UInt64.le_refl _) hle hin hraw'
    unfold crossVenueResult at hprofit ⊢
    exact decide_eq_true (Int64.lt_of_lt_of_le (of_decide_eq_true hprofit) hnet)
  · intro tokenMint tokenSymbol buyPool sellPool buyPool' sellPool' input tokens tokens' raw raw'
      hin hraw hlt
    refine UInt64.not_le.mp ?_
    intro hle
    have hnet := hmono input input raw' raw (UInt64.le_refl _) hle hin hraw
    exact absurd hlt (Int64.not_lt.mpr hnet)

/-- A round trip of 1 SOL under the default costs, one lamport apart in its output. -/
theorem net_profit_monotone_default :
    (CostModel.default.compute 1000000000 1050000000).netProfitLamports ≤
      (CostModel.default.compute 1000000000 1050000001).netProfitLamports :=
  (net_profit_monotone CostModel.default ⟨by decide +kernel, by decide +kernel⟩
    ⟨by decide +kernel, by decide +kernel⟩ (by decide +kernel) (by decide +kernel)).1
    1000000000 1050000000 1050000001 (by decide) (by decide) (by decide)

end SolanaArb
