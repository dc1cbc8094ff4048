import SolanaArb.Feed.PoolDecoder
import SolanaArb.General.ConstantLiquidity

/-! # Concentrated-liquidity quotes against the pool

The quote is the output at the spot price less a flat 10 bps. It never looks at the
liquidity, so it is covered by the pool for trades up to one part in 999 of it; beyond
that only the fraction of a unit lost in rounding down can cover it.
-/
namespace SolanaArb.PoolDecoder
open SolanaArb.General

section Pool
variable (sqrtPrice liquidity : U128) (amountIn : UInt64) (feeBps : ℚ) (isAToB : Bool)

def sqrtPriceReal : ℚ := sqrtPrice.toNat / 2^64

def netInput : ℚ := amountIn.toNat * (1 - feeBps / 10000)

/-- The output of the pool while its liquidity is constant. -/
def inRangeOutput : ℚ :=
  if isAToB then secondOut (liquidity.toNat : ℚ) (sqrtPriceReal sqrtPrice) (netInput amountIn feeBps)
  else firstOut (liquidity.toNat : ℚ) (sqrtPriceReal sqrtPrice) (netInput amountIn feeBps)

/-- The output at the spot price. -/
def spotOutput : ℚ :=
  if isAToB then netInput amountIn feeBps * (sqrtPriceReal sqrtPrice * sqrtPriceReal sqrtPrice)
  else netInput amountIn feeBps / (sqrtPriceReal sqrtPrice * sqrtPriceReal sqrtPrice)

/-- The size of the trade relative to the pool. -/
def relativeSize : ℚ :=
  if isAToB then netInput amountIn feeBps * sqrtPriceReal sqrtPrice / liquidity.toNat
  else netInput amountIn feeBps / (sqrtPriceReal sqrtPrice * liquidity.toNat)

/-- What the price impact takes of the spot output beyond the flat 10 bps. -/
def excessImpact : ℚ :=
  spotOutput sqrtPrice amountIn feeBps isAToB *
    (relativeSize sqrtPrice liquidity amountIn feeBps isAToB /
      (1 + relativeSize sqrtPrice liquidity amountIn feeBps isAToB) - 1/1000)

end Pool

section Outputs
variable {sqrtPrice liquidity : U128} {amountIn : UInt64} {feeBps : ℚ} {isAToB : Bool}

/-- A rounded amount is covered if what it lacks is lost in rounding. -/
theorem f64ToU64_le_iff {q e : ℚ} (hq : 0 ≤ q) :
    ((f64ToU64 q).toNat : ℚ) ≤ e ↔ q - e ≤ Int.fract q ∨ 2^64 - 1 ≤ e := by
  have hnat : (f64ToU64 q).toNat = min ⌊q⌋.toNat (2^64 - 1) := by
    rw [f64ToU64, UInt64.toNat_ofNat']
    exact Nat.mod_eq_of_lt (by omega)
  have hfloor : ((⌊q⌋.toNat : ℕ) : ℚ) = ⌊q⌋ := by
    exact_mod_cast Int.toNat_of_nonneg (Int.floor_nonneg.mpr hq)
  have hmin : ((f64ToU64 q).toNat : ℚ) = min (⌊q⌋ : ℚ) (2^64 - 1) := by
    rw [hnat, Nat.cast_min, hfloor]
    norm_num
  have hle : (⌊q⌋ : ℚ) ≤ e ↔ q - e ≤ Int.fract q := by
    rw [Int.fract, sub_le_sub_iff_left]
  rw [hmin, min_le_iff, hle]

theorem netInput_nonneg (hfee : feeBps ≤ 10000) : 0 ≤ netInput amountIn feeBps := by
  have hfraction : feeBps / 10000 ≤ 1 := by
    rw [div_le_one (by norm_num)]
    exact hfee
  exact mul_nonneg (Nat.cast_nonneg _) (sub_nonneg.mpr hfraction)

theorem u128_cast_pos {n : U128} (h : n ≠ 0) : (0 : ℚ) < n.toNat := by
  have hpos : 0 < n.toNat := by
    apply Nat.pos_of_ne_zero
    intro hzero
    exact h (BitVec.eq_of_toNat_eq hzero)
  exact_mod_cast hpos

theorem sqrtPriceReal_pos (h : sqrtPrice ≠ 0) : 0 < sqrtPriceReal sqrtPrice :=
  div_pos (u128_cast_pos h) (by norm_num)

/-- The quote is the spot output less its thousandth. -/
theorem whirlpoolSwapOutput_eq (hs : sqrtPrice ≠ 0) (hl : liquidity ≠ 0) :
    whirlpoolSwapOutput sqrtPrice liquidity amountIn feeBps isAToB =
      f64ToU64 ((1 - 1/1000) * spotOutput sqrtPrice amountIn feeBps isAToB) := by
  have hprice : ¬ sqrtPriceReal sqrtPrice * sqrtPriceReal sqrtPrice ≤ 0 :=
    not_le.mpr (mul_pos (sqrtPriceReal_pos hs) (sqrtPriceReal_pos hs))
  unfold whirlpoolSwapOutput spotOutput
  by_cases hzero : amountIn = 0
  · have hnone : netInput amountIn feeBps = 0 := by
      rw [hzero, netInput]
      simp
    rw [if_pos (Or.inr (Or.inr hzero)), hnone]
    have hquote : f64ToU64 0 = 0 := by decide +kernel
    cases isAToB with
    | true => rw [if_pos rfl, zero_mul, mul_zero, hquote]
    | false => rw [if_neg Bool.false_ne_true, zero_div, mul_zero, hquote]
  · rw [if_neg (by tauto)]
    change (if isAToB then _ else if sqrtPriceReal sqrtPrice * sqrtPriceReal sqrtPrice ≤ 0 then _
      else _) = _
    cases isAToB with
    | true =>
      rw [if_pos rfl, if_pos rfl, sub_mul, one_mul, mul_comm (1/1000 : ℚ)]
      rfl
    | false =>
      rw [if_neg Bool.false_ne_true, if_neg Bool.false_ne_true, if_neg hprice, sub_mul, one_mul,
        mul_comm (1/1000 : ℚ)]
      rfl

theorem inRangeOutput_eq (hs : sqrtPrice ≠ 0) (hl : liquidity ≠ 0) (hfee : feeBps ≤ 10000) :
    inRangeOutput sqrtPrice liquidity amountIn feeBps isAToB =
      spotOutput sqrtPrice amountIn feeBps isAToB /
        (1 + relativeSize sqrtPrice liquidity amountIn feeBps isAToB) := by
  have hsqrt := sqrtPriceReal_pos hs
  have hliquidity := u128_cast_pos hl
  have hnet := @netInput_nonneg amountIn feeBps hfee
  unfold inRangeOutput spotOutput relativeSize
  cases isAToB with
  | true => exact secondOut_eq hliquidity hsqrt hnet
  | false => exact firstOut_eq hliquidity hsqrt hnet

theorem spotOutput_nonneg (hs : sqrtPrice ≠ 0) (hfee : feeBps ≤ 10000) :
    0 ≤ spotOutput sqrtPrice amountIn feeBps isAToB := by
  have hsqrt := sqrtPriceReal_pos hs
  have hnet := @netInput_nonneg amountIn feeBps hfee
  unfold spotOutput
  split
  · positivity
  · positivity

theorem relativeSize_nonneg (hs : sqrtPrice ≠ 0) (hfee : feeBps ≤ 10000) :
    0 ≤ relativeSize sqrtPrice liquidity amountIn feeBps isAToB := by
  have hsqrt := sqrtPriceReal_pos hs
  have hnet := @netInput_nonneg amountIn feeBps hfee
  unfold relativeSize
  split
  · positivity
  · positivity

theorem excessImpact_eq (hs : sqrtPrice ≠ 0) (hl : liquidity ≠ 0) (hfee : feeBps ≤ 10000) :
    (1 - 1/1000) * spotOutput sqrtPrice amountIn feeBps isAToB -
        inRangeOutput sqrtPrice liquidity amountIn feeBps isAToB =
      excessImpact sqrtPrice liquidity amountIn feeBps isAToB := by
  rw [inRangeOutput_eq hs hl hfee, spot_div_eq (relativeSize_nonneg hs hfee), excessImpact]
  ring

/-- Up to one part in 999 the flat cut covers the impact. -/
theorem excessImpact_nonpos (hs : sqrtPrice ≠ 0) (hfee : feeBps ≤ 10000)
    (hsize : relativeSize sqrtPrice liquidity amountIn feeBps isAToB ≤ 1/999) :
    excessImpact sqrtPrice liquidity amountIn feeBps isAToB ≤ 0 := by
  have hcut : (1/1000 : ℚ) / (1 - 1/1000) = 1/999 := by norm_num
  have hcovers := (cut_covers_iff (relativeSize_nonneg hs hfee) (by norm_num)).mpr
    (hsize.trans_eq hcut.symm)
  exact mul_nonpos_of_nonneg_of_nonpos (spotOutput_nonneg hs hfee) (sub_nonpos.mpr hcovers)

end Outputs

/-- The quote is at most the output of the pool in range exactly when the price impact
exceeds the flat cut by no more than the rounding takes off, as it does for trades of at
most one part in 999, or when the pool pays at least the largest word. -/
theorem quote_in_range_iff (sqrtPrice liquidity : U128) (hs : sqrtPrice ≠ 0) (hl : liquidity ≠ 0)
    (amountIn : UInt64) (feeBps : ℚ) (hfee : 0 ≤ feeBps ∧ feeBps ≤ 10000) (isAToB : Bool) :
    (((whirlpoolSwapOutput sqrtPrice liquidity amountIn feeBps isAToB).toNat : ℚ) ≤
        inRangeOutput sqrtPrice liquidity amountIn feeBps isAToB ↔
      excessImpact sqrtPrice liquidity amountIn feeBps isAToB ≤
        Int.fract ((1 - 1/1000) * spotOutput sqrtPrice amountIn feeBps isAToB) ∨
      2^64 - 1 ≤ inRangeOutput sqrtPrice liquidity amountIn feeBps isAToB) ∧
    (relativeSize sqrtPrice liquidity amountIn feeBps isAToB ≤ 1/999 →
      excessImpact sqrtPrice liquidity amountIn feeBps isAToB ≤ 0) ∧
    ∀ state : RaydiumClmmState, state.sqrtPriceX64 = sqrtPrice → state.liquidity = liquidity →
      clmmSwapOutput state amountIn feeBps isAToB =
        whirlpoolSwapOutput sqrtPrice liquidity amountIn feeBps isAToB := by
  have hspot := @spotOutput_nonneg sqrtPrice amountIn feeBps isAToB hs hfee.2
  refine ⟨?_, excessImpact_nonpos hs hfee.2, ?_⟩
  · rw [whirlpoolSwapOutput_eq hs hl, f64ToU64_le_iff (mul_nonneg (by norm_num) hspot),
      excessImpact_eq hs hl hfee.2]
  · rintro state rfl rfl
    rfl

/-- Price 1 and no fee: a thousandth of the liquidity is covered. -/
theorem quote_in_range_iff_small :
    ((whirlpoolSwapOutput (2^64) 1000000000 1000000 0 true).toNat : ℚ) ≤
      inRangeOutput (2^64) 1000000000 1000000 0 true := by
  obtain ⟨hiff, hsmall, _⟩ := quote_in_range_iff (2^64) 1000000000 (by decide +kernel)
    (by decide +kernel) 1000000 0 ⟨by norm_num, by norm_num⟩ true
  exact hiff.mpr (Or.inl ((hsmall (by decide +kernel)).trans (Int.fract_nonneg _)))

/-- As much as the liquidity itself is quoted at 999000 where the pool pays 500000. -/
theorem quote_out_of_range :
    (whirlpoolSwapOutput (2^64) 1000000 1000000 0 true).toNat = 999000 ∧
    inRangeOutput (2^64) 1000000 1000000 0 true = 500000 ∧
    ¬ ((whirlpoolSwapOutput (2^64) 1000000 1000000 0 true).toNat : ℚ) ≤
      inRangeOutput (2^64) 1000000 1000000 0 true :=
  ⟨by decide +kernel, by decide +kernel, by decide +kernel⟩

end SolanaArb.PoolDecoder
