import Mathlib.Data.Rat.Floor
import Mathlib.Tactic.Linarith

/-! # Floored shares of an integer amount

A share is a fraction of an amount, rounded down; the rest is what it leaves. As long
as the fraction is at most one, the rest grows with the amount: a step of one takes at
most one more.
-/
namespace SolanaArb.General

def share (c : ℚ) (n : ℤ) : ℤ := ⌊n * c⌋

def rest (c : ℚ) (n : ℤ) : ℤ := n - share c n

variable {c : ℚ} {n n' : ℤ}

theorem share_le (hc : c ≤ 1) (hn : 0 ≤ n) : share c n ≤ n := by
  have hle : (n : ℚ) * c ≤ n := mul_le_of_le_one_right (Int.cast_nonneg hn) hc
  have hfloor := (Int.floor_le ((n : ℚ) * c)).trans hle
  exact_mod_cast hfloor

theorem share_step (hc : c ≤ 1) (h : n ≤ n') : share c n' ≤ share c n + (n' - n) := by
  have hdiff : (0 : ℚ) ≤ n' - n := sub_nonneg.mpr (Int.cast_le.mpr h)
  have hscaled : ((n' : ℚ) - n) * c ≤ n' - n := mul_le_of_le_one_right hdiff hc
  have hle : (n' : ℚ) * c ≤ n * c + ((n' - n : ℤ) : ℚ) := by
    push_cast
    linarith
  calc share c n' ≤ ⌊(n : ℚ) * c + ((n' - n : ℤ) : ℚ)⌋ := Int.floor_le_floor hle
    _ = share c n + (n' - n) := Int.floor_add_intCast _ _

theorem rest_mono (hc : c ≤ 1) (h : n ≤ n') : rest c n ≤ rest c n' := by
  have hstep := share_step hc h
  unfold rest
  omega

/-- A charge on a gain: a share of it with a floor, and the floor alone on a loss. -/
def charge (c : ℚ) (floor n : ℤ) : ℤ := if n ≤ 0 then floor else max (share c n) floor

/-- What remains after the charge grows with the gain, also where it turns from a loss
and where the share overtakes the floor. -/
theorem sub_charge_mono (hc : c ≤ 1) {floor : ℤ} (hfloor : 0 ≤ floor) (h : n ≤ n') :
    n - charge c floor n ≤ n' - charge c floor n' := by
  unfold charge
  by_cases hn' : n' ≤ 0
  · rw [if_pos (h.trans hn'), if_pos hn']
    omega
  · rw [if_neg hn']
    have hshare := share_le hc (not_le.mp hn').le
    have hrest := rest_mono hc h
    unfold rest at hrest
    by_cases hn : n ≤ 0
    · rw [if_pos hn]
      omega
    · rw [if_neg hn]
      omega

end SolanaArb.General
