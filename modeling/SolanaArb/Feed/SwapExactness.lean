import SolanaArb.Feed.PoolDecoder
import SolanaArb.General.ConstantProduct

/-! # The wrapping swap against the unbounded formula

Fee factor, denominator and quotient always fit their words; the numerator
multiplies two 64-bit values by the fee factor and need not. The swap returns the
unbounded floor exactly when the numerator fits.
-/
namespace SolanaArb.PoolDecoder
open SolanaArb.General

def exactSwap (reserveIn reserveOut amountIn feeBps : ℕ) : ℕ :=
  if reserveIn = 0 ∨ reserveOut = 0 ∨ amountIn = 0 then 0
  else cpOut 10000 (10000 - feeBps) reserveIn reserveOut amountIn

/-- The numerator of the swap fits a `u128`, or is never computed. -/
def SwapFits (reserveIn reserveOut amountIn feeBps : UInt64) : Prop :=
  reserveIn = 0 ∨ amountIn.toNat * (10000 - feeBps.toNat) * reserveOut.toNat < 2^128

instance (reserveIn reserveOut amountIn feeBps : UInt64) :
    Decidable (SwapFits reserveIn reserveOut amountIn feeBps) :=
  inferInstanceAs (Decidable (_ ∨ _))

/-- Every intermediate of a computed swap is in range and the last cast is lossless. -/
structure InRange (reserveIn reserveOut amountIn feeBps : UInt64) : Prop where
  feeFactor : feeBps.toNat ≤ 10000
  product : amountIn.toNat * (10000 - feeBps.toNat) < 2^128
  numerator : amountIn.toNat * (10000 - feeBps.toNat) * reserveOut.toNat < 2^128
  scaled : reserveIn.toNat * 10000 < 2^128
  denominator : reserveIn.toNat * 10000 + amountIn.toNat * (10000 - feeBps.toNat) < 2^128
  quotient : amountIn.toNat * (10000 - feeBps.toNat) * reserveOut.toNat /
    (reserveIn.toNat * 10000 + amountIn.toNat * (10000 - feeBps.toNat)) < 2^64

variable {reserveIn reserveOut amountIn feeBps : UInt64}

theorem feeFactor_toNat (hfee : feeBps ≤ 10000) :
    ((10000 : U128) - widen feeBps).toNat = 10000 - feeBps.toNat := by
  have hle : feeBps.toNat ≤ 10000 := UInt64.le_iff_toNat_le.mp hfee
  have hsub : widen feeBps ≤ (10000 : U128) := by
    rw [BitVec.le_def, widen_toNat]
    simpa using hle
  rw [BitVec.toNat_sub_of_le hsub, widen_toNat]
  rfl

theorem feeProduct_lt (amountIn feeBps : UInt64) :
    amountIn.toNat * (10000 - feeBps.toNat) < 2^64 * 10001 := by
  have ha := amountIn.toNat_lt
  have hf : 10000 - feeBps.toNat < 10001 := by omega
  exact Nat.mul_lt_mul'' ha hf

theorem scaled_lt (reserveIn : UInt64) : reserveIn.toNat * 10000 < 2^64 * 10000 :=
  Nat.mul_lt_mul_of_pos_right reserveIn.toNat_lt (by norm_num)

theorem denominator_lt (reserveIn amountIn feeBps : UInt64) :
    reserveIn.toNat * 10000 + amountIn.toNat * (10000 - feeBps.toNat) < 2^80 :=
  (Nat.add_lt_add (scaled_lt reserveIn) (feeProduct_lt amountIn feeBps)).trans (by norm_num)

theorem u128_tenThousand_toNat : (10000 : U128).toNat = 10000 := rfl

/-- What the wrapping code computes: only the numerator is reduced. -/
theorem constantProductSwap_toNat (hfee : feeBps ≤ 10000) (hin : reserveIn ≠ 0)
    (hout : reserveOut ≠ 0) (ha : amountIn ≠ 0) :
    (constantProductSwap reserveIn reserveOut amountIn feeBps).toNat =
      amountIn.toNat * (10000 - feeBps.toNat) * reserveOut.toNat % 2^128 /
        (reserveIn.toNat * 10000 + amountIn.toNat * (10000 - feeBps.toNat)) % 2^64 := by
  have hp := feeProduct_lt amountIn feeBps
  have hd := denominator_lt reserveIn amountIn feeBps
  have hprod : (widen amountIn * ((10000 : U128) - widen feeBps)).toNat =
      amountIn.toNat * (10000 - feeBps.toNat) := by
    rw [BitVec.toNat_mul, widen_toNat, feeFactor_toNat hfee]
    exact Nat.mod_eq_of_lt (by omega)
  have hscaled : (widen reserveIn * (10000 : U128)).toNat = reserveIn.toNat * 10000 := by
    rw [BitVec.toNat_mul, widen_toNat, u128_tenThousand_toNat]
    exact Nat.mod_eq_of_lt ((scaled_lt reserveIn).trans (by norm_num))
  have hden : (widen reserveIn * (10000 : U128) +
      widen amountIn * ((10000 : U128) - widen feeBps)).toNat =
      reserveIn.toNat * 10000 + amountIn.toNat * (10000 - feeBps.toNat) := by
    rw [BitVec.toNat_add, hprod, hscaled]
    exact Nat.mod_eq_of_lt (by omega)
  have hx : 0 < reserveIn.toNat := u64_ne_zero.mp hin
  have hne : ¬ (widen reserveIn * (10000 : U128) +
      widen amountIn * ((10000 : U128) - widen feeBps)) = 0 := by
    intro h
    have hz : _ = (0 : U128).toNat := congrArg BitVec.toNat h
    rw [hden, show (0 : U128).toNat = 0 from rfl] at hz
    omega
  unfold constantProductSwap
  rw [if_neg (by simp [hin, hout, ha])]
  simp only [hne, if_false, narrow_toNat, BitVec.toNat_udiv, hden]
  rw [BitVec.toNat_mul, hprod, widen_toNat]

@[simp] theorem constantProductSwap_zero_in (y a fee : UInt64) :
    constantProductSwap 0 y a fee = 0 := by simp [constantProductSwap]
@[simp] theorem constantProductSwap_zero_out (x a fee : UInt64) :
    constantProductSwap x 0 a fee = 0 := by simp [constantProductSwap]
@[simp] theorem constantProductSwap_zero_amount (x y fee : UInt64) :
    constantProductSwap x y 0 fee = 0 := by simp [constantProductSwap]

theorem constantProductSwap_eq_exactSwap (hfee : feeBps ≤ 10000)
    (hfits : SwapFits reserveIn reserveOut amountIn feeBps) :
    (constantProductSwap reserveIn reserveOut amountIn feeBps).toNat =
      exactSwap reserveIn.toNat reserveOut.toNat amountIn.toNat feeBps.toNat := by
  by_cases hz : reserveIn = 0 ∨ reserveOut = 0 ∨ amountIn = 0
  · have hz' := hz
    simp only [u64_eq_zero] at hz'
    rw [exactSwap, if_pos hz', constantProductSwap, if_pos hz]
    rfl
  · push Not at hz
    obtain ⟨hin, hout, ha⟩ := hz
    have hnum : amountIn.toNat * (10000 - feeBps.toNat) * reserveOut.toNat < 2^128 :=
      hfits.resolve_left hin
    rw [constantProductSwap_toNat hfee hin hout ha, Nat.mod_eq_of_lt hnum]
    simp only [ne_eq, u64_eq_zero] at hin hout ha
    rw [exactSwap, if_neg (by simp [hin, hout, ha])]
    have hlt : cpOut 10000 (10000 - feeBps.toNat) reserveIn.toNat reserveOut.toNat amountIn.toNat
        < reserveOut.toNat := cpOut_lt (by norm_num) (by omega) (by omega)
    exact Nat.mod_eq_of_lt (hlt.trans reserveOut.toNat_lt)

/-- An overflowing numerator always lowers the quote. -/
theorem constantProductSwap_lt_of_not_fits (hfee : feeBps ≤ 10000)
    (hover : ¬ SwapFits reserveIn reserveOut amountIn feeBps) :
    (constantProductSwap reserveIn reserveOut amountIn feeBps).toNat <
      exactSwap reserveIn.toNat reserveOut.toNat amountIn.toNat feeBps.toNat := by
  rw [SwapFits, not_or, Nat.not_lt] at hover
  obtain ⟨hin, hnum⟩ := hover
  have hout : reserveOut ≠ 0 := by rintro rfl; simp at hnum
  have ha : amountIn ≠ 0 := by rintro rfl; simp at hnum
  rw [constantProductSwap_toNat hfee hin hout ha]
  simp only [ne_eq, u64_eq_zero] at hin hout ha
  rw [exactSwap, if_neg (by simp [hin, hout, ha]), cpOut]
  have hd := denominator_lt reserveIn amountIn feeBps
  generalize hD : reserveIn.toNat * 10000 + amountIn.toNat * (10000 - feeBps.toNat) = D at hd ⊢
  generalize amountIn.toNat * (10000 - feeBps.toNat) * reserveOut.toNat = N at hnum ⊢
  have hpos : 0 < D := by omega
  -- the wrapped numerator misses at least one whole denominator
  have hgap : N % 2^128 + D ≤ N := by omega
  have hquot : N % 2^128 / D + 1 ≤ N / D := by
    rw [← Nat.add_div_right _ hpos]
    exact Nat.div_le_div_right hgap
  exact lt_of_le_of_lt (Nat.mod_le _ _) hquot

theorem SwapFits.inRange (hfee : feeBps ≤ 10000) (hin : reserveIn ≠ 0)
    (hfits : SwapFits reserveIn reserveOut amountIn feeBps) :
    InRange reserveIn reserveOut amountIn feeBps := by
  have hp := feeProduct_lt amountIn feeBps
  have hd := denominator_lt reserveIn amountIn feeBps
  have hx : 0 < reserveIn.toNat := u64_ne_zero.mp hin
  have hquot : cpOut 10000 (10000 - feeBps.toNat) reserveIn.toNat reserveOut.toNat amountIn.toNat
      ≤ reserveOut.toNat := cpOut_le (by norm_num) hx
  exact {
    feeFactor := UInt64.le_iff_toNat_le.mp hfee
    product := by omega
    numerator := hfits.resolve_left hin
    scaled := (scaled_lt reserveIn).trans (by norm_num)
    denominator := hd.trans (by norm_num)
    quotient := lt_of_le_of_lt hquot reserveOut.toNat_lt }

/-- The swap is the unbounded floor, with every intermediate in range, exactly
when its numerator fits; where it does not fit the result itself is wrong. -/
theorem constantProductSwap_exact_iff (reserveIn reserveOut amountIn feeBps : UInt64)
    (hfee : feeBps ≤ 10000) :
    ((constantProductSwap reserveIn reserveOut amountIn feeBps).toNat =
        exactSwap reserveIn.toNat reserveOut.toNat amountIn.toNat feeBps.toNat ∧
      (reserveIn ≠ 0 ∧ reserveOut ≠ 0 ∧ amountIn ≠ 0 →
        InRange reserveIn reserveOut amountIn feeBps) ↔
      SwapFits reserveIn reserveOut amountIn feeBps) ∧
    ((constantProductSwap reserveIn reserveOut amountIn feeBps).toNat =
        exactSwap reserveIn.toNat reserveOut.toNat amountIn.toNat feeBps.toNat →
      SwapFits reserveIn reserveOut amountIn feeBps) := by
  have hback : (constantProductSwap reserveIn reserveOut amountIn feeBps).toNat =
      exactSwap reserveIn.toNat reserveOut.toNat amountIn.toNat feeBps.toNat →
      SwapFits reserveIn reserveOut amountIn feeBps := by
    intro heq
    by_contra hover
    exact absurd heq (constantProductSwap_lt_of_not_fits hfee hover).ne
  refine ⟨⟨fun h => hback h.1, ?_⟩, hback⟩
  intro hfits
  exact ⟨constantProductSwap_eq_exactSwap hfee hfits, fun hne => hfits.inRange hfee hne.1⟩

theorem constantProductSwap_exact_iff_unit_pool :
    (25 : UInt64) ≤ 10000 ∧ SwapFits 1000 2000 100 25 ∧
      (constantProductSwap 1000 2000 100 25).toNat = exactSwap 1000 2000 100 25 :=
  ⟨by decide, by decide,
    ((constantProductSwap_exact_iff 1000 2000 100 25 (by decide)).1.mpr (by decide)).1⟩

/-- A pool of a billion tokens of nine decimals on either side takes ten billion: the
numerator wraps and the quote is a small fraction of the true output. -/
theorem constantProductSwap_wraps :
    (constantProductSwap 1000000000000000000 1000000000000000000 10000000000000000000 25).toNat ≠
      exactSwap 1000000000000000000 1000000000000000000 10000000000000000000 25 := by decide

end SolanaArb.PoolDecoder
