import Mathlib.Algebra.Order.Field.Basic
import Mathlib.Tactic.FieldSimp
import Mathlib.Tactic.Positivity
import Mathlib.Tactic.Linarith
import Mathlib.Tactic.Ring

/-! # Swaps at constant liquidity

Between two ticks the liquidity `L` is constant and a swap moves the square root of the
price from `s`. Paying in the first asset lowers it, `1 / s' = 1 / s + dx / L`, and pays
out `L * (s - s')`; paying in the second raises it, `s' = s + dy / L`, and pays out
`L * (1 / s - 1 / s')`. Either output is the one at the spot price over one plus the size
of the trade relative to the pool.
-/
namespace SolanaArb.General
variable {K : Type*} [Field K]

def sqrtAfterFirst (L s dx : K) : K := 1 / (1 / s + dx / L)
def sqrtAfterSecond (L s dy : K) : K := s + dy / L

def secondOut (L s dx : K) : K := L * (s - sqrtAfterFirst L s dx)
def firstOut (L s dy : K) : K := L * (1 / s - 1 / sqrtAfterSecond L s dy)

variable [LinearOrder K] [IsStrictOrderedRing K] {L s amount : K}

theorem sqrtAfterFirst_eq (hL : 0 < L) (hs : 0 < s) (ha : 0 ≤ amount) :
    sqrtAfterFirst L s amount = s / (1 + amount * s / L) := by
  have hsize : 0 < 1 + amount * s / L := by positivity
  have hsum : 1 / s + amount / L = (1 + amount * s / L) / s := by
    field_simp
  rw [sqrtAfterFirst, hsum, one_div_div]

theorem secondOut_eq (hL : 0 < L) (hs : 0 < s) (ha : 0 ≤ amount) :
    secondOut L s amount = amount * (s * s) / (1 + amount * s / L) := by
  have hsize : 1 + amount * s / L ≠ 0 := by positivity
  rw [secondOut, sqrtAfterFirst_eq hL hs ha, eq_div_iff hsize, mul_assoc, sub_mul,
    div_mul_cancel₀ _ hsize]
  field_simp
  ring

theorem firstOut_eq (hL : 0 < L) (hs : 0 < s) (ha : 0 ≤ amount) :
    firstOut L s amount = amount / (s * s) / (1 + amount / (s * L)) := by
  have hafter : sqrtAfterSecond L s amount = s * (1 + amount / (s * L)) := by
    unfold sqrtAfterSecond
    field_simp
  have hsize : 1 + amount / (s * L) ≠ 0 := by positivity
  rw [firstOut, hafter, eq_div_iff hsize, mul_assoc, sub_mul, ← one_div_mul_one_div, mul_assoc,
    one_div_mul_cancel hsize]
  field_simp
  ring

variable {cut size spot : K}

/-- What a trade of this size leaves of the spot output, and what its impact takes. -/
theorem spot_div_eq (hsize : 0 ≤ size) : spot / (1 + size) = spot - spot * (size / (1 + size)) := by
  have hone : 1 + size ≠ 0 := by positivity
  field_simp
  ring

/-- A flat cut covers the impact of the trade exactly up to the size `cut / (1 - cut)`. -/
theorem cut_covers_iff (hsize : 0 ≤ size) (hcut : cut < 1) :
    size / (1 + size) ≤ cut ↔ size ≤ cut / (1 - cut) := by
  have hone : 0 < 1 + size := by linarith
  have hrest : 0 < 1 - cut := by linarith
  rw [div_le_iff₀ hone, le_div_iff₀ hrest]
  constructor
  · intro h
    linarith
  · intro h
    linarith

end SolanaArb.General
