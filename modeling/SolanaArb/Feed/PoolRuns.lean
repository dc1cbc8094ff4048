import SolanaArb.Feed.SwapExactness
import SolanaArb.General.Runs

/-! # A pool under any sequence of swaps

The reserves after each swap are the old input side plus the amount and the old
output side less the quoted output. Directions and fees may change from swap to
swap; a run contains only swaps that overflow neither the `u128` product nor the
`u64` input reserve.
-/
namespace SolanaArb.PoolRuns
open SolanaArb.General SolanaArb.PoolDecoder

structure Reserves where
  x : UInt64
  y : UInt64
  deriving DecidableEq, Repr

/-- One swap; `forward` pays into `x` and takes from `y`. -/
structure Swap where
  forward : Bool
  amount : UInt64
  feeBps : UInt64
  deriving DecidableEq, Repr

def reserveIn (s : Reserves) (e : Swap) : UInt64 := if e.forward then s.x else s.y
def reserveOut (s : Reserves) (e : Swap) : UInt64 := if e.forward then s.y else s.x

def output (s : Reserves) (e : Swap) : UInt64 :=
  constantProductSwap (reserveIn s e) (reserveOut s e) e.amount e.feeBps

def apply (s : Reserves) (e : Swap) : Reserves :=
  if e.forward then ⟨s.x + e.amount, s.y - output s e⟩ else ⟨s.x - output s e, s.y + e.amount⟩

def Step (s : Reserves) (e : Swap) (t : Reserves) : Prop :=
  (e.feeBps = 0 ∨ e.feeBps = 25) ∧
  SwapFits (reserveIn s e) (reserveOut s e) e.amount e.feeBps ∧
  (reserveIn s e).toNat + e.amount.toNat < 2^64 ∧ t = apply s e

instance (s : Reserves) (e : Swap) (t : Reserves) : Decidable (Step s e t) :=
  inferInstanceAs (Decidable (_ ∧ _))

def Positive (s : Reserves) : Prop := 0 < s.x.toNat ∧ 0 < s.y.toNat
def product (s : Reserves) : ℕ := s.x.toNat * s.y.toNat

variable {s t : Reserves} {e : Swap}

theorem Positive.sides (h : Positive s) :
    0 < (reserveIn s e).toNat ∧ 0 < (reserveOut s e).toNat := by
  unfold reserveIn reserveOut
  split
  · exact h
  · exact h.symm

theorem product_eq_sides (s : Reserves) (e : Swap) :
    product s = (reserveIn s e).toNat * (reserveOut s e).toNat := by
  unfold product reserveIn reserveOut
  split
  · rfl
  · exact Nat.mul_comm _ _

theorem Step.fee_le (h : Step s e t) : e.feeBps ≤ 10000 := by
  rcases h.1 with hf | hf <;> rw [hf] <;> decide

theorem Step.output_toNat (h : Step s e t) (hs : Positive s) :
    (output s e).toNat = cpOut 10000 (10000 - e.feeBps.toNat)
      (reserveIn s e).toNat (reserveOut s e).toNat e.amount.toNat := by
  obtain ⟨hin, hout⟩ := hs.sides (e := e)
  rw [output, constantProductSwap_eq_exactSwap h.fee_le h.2.1, exactSwap]
  by_cases ha : e.amount.toNat = 0
  · simp [ha]
  · rw [if_neg (by omega)]

theorem Step.output_lt (h : Step s e t) (hs : Positive s) :
    (output s e).toNat < (reserveOut s e).toNat := by
  obtain ⟨hin, hout⟩ := hs.sides (e := e)
  rw [h.output_toNat hs]
  exact cpOut_lt (by norm_num) hin hout

theorem Step.sides_after (h : Step s e t) (hs : Positive s) :
    (reserveIn t e).toNat = (reserveIn s e).toNat + e.amount.toNat ∧
    (reserveOut t e).toNat = (reserveOut s e).toNat - (output s e).toNat := by
  have hlt := h.output_lt hs
  obtain ⟨_, _, hsum, rfl⟩ := h
  have hle : output s e ≤ reserveOut s e := UInt64.le_iff_toNat_le.mpr hlt.le
  cases hd : e.forward with
  | true =>
    simp only [reserveIn, reserveOut, apply, hd, if_true] at hsum hle ⊢
    exact ⟨by rw [UInt64.toNat_add, Nat.mod_eq_of_lt hsum], UInt64.toNat_sub_of_le _ _ hle⟩
  | false =>
    simp only [reserveIn, reserveOut, apply, hd, Bool.false_eq_true, if_false] at hsum hle ⊢
    exact ⟨by rw [UInt64.toNat_add, Nat.mod_eq_of_lt hsum], UInt64.toNat_sub_of_le _ _ hle⟩

theorem positive_of_sides (hin : 0 < (reserveIn s e).toNat) (hout : 0 < (reserveOut s e).toNat) :
    Positive s := by
  unfold reserveIn at hin
  unfold reserveOut at hout
  cases hd : e.forward with
  | true => exact ⟨by simpa [hd] using hin, by simpa [hd] using hout⟩
  | false => exact ⟨by simpa [hd] using hout, by simpa [hd] using hin⟩

theorem Step.positive (h : Step s e t) (hs : Positive s) : Positive t := by
  have hlt := h.output_lt hs
  obtain ⟨hin, hout⟩ := h.sides_after hs
  have hpos := (hs.sides (e := e)).1
  exact positive_of_sides (e := e) (by omega) (by omega)

theorem Step.product_le (h : Step s e t) (hs : Positive s) : product s ≤ product t := by
  obtain ⟨hin, hout⟩ := h.sides_after hs
  rw [product_eq_sides s e, product_eq_sides t e, hin, hout, h.output_toNat hs]
  exact cpOut_product_le (by norm_num) (Nat.sub_le _ _) (hs.sides (e := e)).1

/-- Along every run from positive reserves both reserves stay positive and their
product never decreases, and whatever swap comes next pays out less than the
reserve it takes from and does not decrease the product either. -/
theorem run_positive_product (s₀ : Reserves) (hs₀ : Positive s₀) (es : List Swap) (s : Reserves)
    (hr : Run Step s₀ es s) :
    Positive s ∧ product s₀ ≤ product s ∧
      ∀ e t, Step s e t → (output s e).toNat < (reserveOut s e).toNat ∧
        Positive t ∧ product s ≤ product t := by
  have hinv : Positive s ∧ product s₀ ≤ product s :=
    hr.invariant (fun _ s => Positive s ∧ product s₀ ≤ product s) ⟨hs₀, le_rfl⟩
      (fun _ _ _ _ _ hI he => ⟨he.positive hI.1, hI.2.trans (he.product_le hI.1)⟩)
  refine ⟨hinv.1, hinv.2, ?_⟩
  intro e t he
  exact ⟨he.output_lt hinv.1, he.positive hinv.1, he.product_le hinv.1⟩

/-- A swap at a fee, and one back without. -/
def thereAndBack : List Swap := [⟨true, 100, 25⟩, ⟨false, 50, 0⟩]

theorem run_positive_product_two_swaps :
    Positive ⟨1000, 2000⟩ ∧ Run Step ⟨1000, 2000⟩ thereAndBack ⟨1071, 1869⟩ ∧
      Positive ⟨1071, 1869⟩ ∧ product ⟨1000, 2000⟩ ≤ product ⟨1071, 1869⟩ := by
  have hp : Positive ⟨1000, 2000⟩ := ⟨by decide, by decide⟩
  have hfirst : Run Step ⟨1000, 2000⟩ ([] ++ [⟨true, 100, 25⟩]) ⟨1100, 1819⟩ :=
    Run.nil.snoc (by decide)
  have hr : Run Step ⟨1000, 2000⟩ thereAndBack ⟨1071, 1869⟩ :=
    hfirst.snoc (show Step ⟨1100, 1819⟩ ⟨false, 50, 0⟩ ⟨1071, 1869⟩ by decide)
  obtain ⟨hpositive, hproduct, _⟩ := run_positive_product _ hp _ _ hr
  exact ⟨hp, hr, hpositive, hproduct⟩

end SolanaArb.PoolRuns
