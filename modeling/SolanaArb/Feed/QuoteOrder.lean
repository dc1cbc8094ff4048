import SolanaArb.Feed.SwapExactness

/-! # How the swap quotes compare

A quote grows with the amount and with the reserve it is paid from, and falls with the
reserve it is paid into; splitting an order over two swaps of one pool pays no more
than the whole. Both are facts of the floored formula, carried to the wrapping code as
long as the largest numerator fits.
-/
namespace SolanaArb.PoolDecoder
open SolanaArb.General

variable {reserveIn reserveOut amountIn feeBps : UInt64}

theorem SwapFits.mono (hfits : SwapFits reserveIn reserveOut amountIn feeBps) {out a : UInt64}
    (hout : out ≤ reserveOut) (ha : a ≤ amountIn) : SwapFits reserveIn out a feeBps := by
  refine hfits.imp_right fun hnum => lt_of_le_of_lt ?_ hnum
  exact Nat.mul_le_mul (Nat.mul_le_mul_right _ (UInt64.le_iff_toNat_le.mp ha))
    (UInt64.le_iff_toNat_le.mp hout)

/-- The numerator does not read the input reserve. -/
theorem SwapFits.of_ne_zero (hfits : SwapFits reserveIn reserveOut amountIn feeBps)
    (hin : reserveIn ≠ 0) (x : UInt64) : SwapFits x reserveOut amountIn feeBps :=
  Or.inr (hfits.resolve_left hin)

theorem exactSwap_eq_cpOut {x : ℕ} (hx : 0 < x) (y a fee : ℕ) :
    exactSwap x y a fee = cpOut 10000 (10000 - fee) x y a := by
  unfold exactSwap
  split
  · next hz =>
    obtain h | rfl | rfl := hz
    · omega
    · rw [cpOut_zero_out]
    · rw [cpOut_zero_input]
  · rfl

theorem constantProductSwap_eq_cpOut (hfee : feeBps ≤ 10000) (hin : reserveIn ≠ 0)
    (hfits : SwapFits reserveIn reserveOut amountIn feeBps) :
    (constantProductSwap reserveIn reserveOut amountIn feeBps).toNat =
      cpOut 10000 (10000 - feeBps.toNat) reserveIn.toNat reserveOut.toNat amountIn.toNat := by
  rw [constantProductSwap_eq_exactSwap hfee hfits, exactSwap_eq_cpOut (u64_ne_zero.mp hin)]

theorem constantProductSwap_le_reserve (hfee : feeBps ≤ 10000)
    (hfits : SwapFits reserveIn reserveOut amountIn feeBps) :
    constantProductSwap reserveIn reserveOut amountIn feeBps ≤ reserveOut := by
  rw [UInt64.le_iff_toNat_le]
  rcases eq_or_ne reserveIn 0 with rfl | hin
  · rw [constantProductSwap_zero_in]
    exact Nat.zero_le _
  · rw [constantProductSwap_eq_cpOut hfee hin hfits]
    exact cpOut_le (by norm_num) (u64_ne_zero.mp hin)

/-! ## Monotone quotes -/

/-- A quote of an amount against an input and an output reserve keeps the order of its
arguments wherever its numerator fits. -/
structure MonotoneQuote (fits : UInt64 → UInt64 → UInt64 → Prop)
    (quote : UInt64 → UInt64 → UInt64 → UInt64) : Prop where
  amount : ∀ x y a a', a ≤ a' → fits x y a' → quote x y a ≤ quote x y a'
  reserveOut : ∀ x y y' a, y ≤ y' → fits x y' a → quote x y a ≤ quote x y' a
  reserveIn : ∀ x x' y a, 0 < x → x ≤ x' → fits x y a → quote x' y a ≤ quote x y a

theorem MonotoneQuote.constantProductSwap (hfee : feeBps ≤ 10000) :
    MonotoneQuote (fun x y a => SwapFits x y a feeBps)
      (fun x y a => PoolDecoder.constantProductSwap x y a feeBps) where
  amount x y a a' h hfits := by
    rcases eq_or_ne x 0 with rfl | hx
    · rw [constantProductSwap_zero_in]
      exact UInt64.zero_le
    · rw [UInt64.le_iff_toNat_le, constantProductSwap_eq_cpOut hfee hx hfits,
        constantProductSwap_eq_cpOut hfee hx (hfits.mono (UInt64.le_refl y) h)]
      exact cpOut_mono_amount (by norm_num) (u64_ne_zero.mp hx) (UInt64.le_iff_toNat_le.mp h)
  reserveOut x y y' a h hfits := by
    rcases eq_or_ne x 0 with rfl | hx
    · rw [constantProductSwap_zero_in]
      exact UInt64.zero_le
    · rw [UInt64.le_iff_toNat_le, constantProductSwap_eq_cpOut hfee hx hfits,
        constantProductSwap_eq_cpOut hfee hx (hfits.mono h (UInt64.le_refl a))]
      exact cpOut_mono_out (UInt64.le_iff_toNat_le.mp h)
  reserveIn x x' y a hpos h hfits := by
    have hpos' : 0 < x.toNat := u64_pos.mp hpos
    have hle : x.toNat ≤ x'.toNat := UInt64.le_iff_toNat_le.mp h
    have hx : x ≠ 0 := u64_ne_zero.mpr hpos'
    have hx' : x' ≠ 0 := u64_ne_zero.mpr (lt_of_lt_of_le hpos' hle)
    rw [UInt64.le_iff_toNat_le, constantProductSwap_eq_cpOut hfee hx hfits,
      constantProductSwap_eq_cpOut hfee hx' (hfits.of_ne_zero hx x')]
    exact cpOut_anti_in (by norm_num) hpos' hle

variable {fits : UInt64 → UInt64 → UInt64 → Prop} {quote : UInt64 → UInt64 → UInt64 → UInt64}
  {g : UInt64 → UInt64}

/-- A fee taken from the amount before the quote. -/
theorem MonotoneQuote.comp_amount (h : MonotoneQuote fits quote) (hg : ∀ a b, a ≤ b → g a ≤ g b) :
    MonotoneQuote (fun x y a => fits x y (g a)) (fun x y a => quote x y (g a)) where
  amount x y _ _ hle hfits := h.amount x y _ _ (hg _ _ hle) hfits
  reserveOut x y y' a hle hfits := h.reserveOut x y y' (g a) hle hfits
  reserveIn x x' y a hpos hle hfits := h.reserveIn x x' y (g a) hpos hle hfits

/-- A fee taken from the output after the quote. -/
theorem MonotoneQuote.map_output (h : MonotoneQuote fits quote) (hg : ∀ a b, a ≤ b → g a ≤ g b) :
    MonotoneQuote fits (fun x y a => g (quote x y a)) where
  amount x y a a' hle hfits := hg _ _ (h.amount x y a a' hle hfits)
  reserveOut x y y' a hle hfits := hg _ _ (h.reserveOut x y y' a hle hfits)
  reserveIn x x' y a hpos hle hfits := hg _ _ (h.reserveIn x x' y a hpos hle hfits)

theorem pumpfunNetSol_toNat (sol : UInt64) :
    (pumpfunNetSol sol).toNat = sol.toNat - sol.toNat / 100 := by
  rw [pumpfunNetSol, saturatingSub_toNat, UInt64.toNat_div]
  rfl

theorem pumpfunNetSol_mono (a b : UInt64) (h : a ≤ b) : pumpfunNetSol a ≤ pumpfunNetSol b := by
  have hle : a.toNat ≤ b.toNat := UInt64.le_iff_toNat_le.mp h
  rw [UInt64.le_iff_toNat_le, pumpfunNetSol_toNat, pumpfunNetSol_toNat]
  omega

/-- The zero guard of the buy is the one of the swap. -/
theorem pumpfunBuyOutput_eq (state : PumpFunState) (sol : UInt64) :
    pumpfunBuyOutput state sol = constantProductSwap state.virtualSolReserves
      state.virtualTokenReserves (pumpfunNetSol sol) 0 := by
  unfold pumpfunBuyOutput
  split
  · next hz =>
    rcases hz with h | h <;> simp [h]
  · rfl

theorem pumpfunSellOutput_eq (state : PumpFunState) (tokens : UInt64) :
    pumpfunSellOutput state tokens = pumpfunNetSol (constantProductSwap
      state.virtualTokenReserves state.virtualSolReserves tokens 0) := by
  have hzero : pumpfunNetSol 0 = 0 := by decide
  unfold pumpfunSellOutput
  split
  · next hz =>
    rcases hz with h | h <;> simp [h, hzero]
  · rfl

/-- All four quotes keep the order of amount, output reserve and positive input reserve;
the reserves of a bonding curve are its virtual ones, whatever its other fields hold. -/
theorem quotes_monotone (realToken realSol : UInt64) (complete : Bool) :
    MonotoneQuote (fun x y a => SwapFits x y a 25) raydiumSwapOutput ∧
    MonotoneQuote (fun x y a => SwapFits x y a 25) pumpswapSwapOutput ∧
    MonotoneQuote (fun sol token a => SwapFits sol token (pumpfunNetSol a) 0)
      (fun sol token a => pumpfunBuyOutput ⟨token, sol, realToken, realSol, complete⟩ a) ∧
    MonotoneQuote (fun token sol a => SwapFits token sol a 0)
      (fun token sol a => pumpfunSellOutput ⟨token, sol, realToken, realSol, complete⟩ a) := by
  have hfee : (25 : UInt64) ≤ 10000 := by decide
  have hfree : MonotoneQuote (fun x y a => SwapFits x y a 0)
      (fun x y a => constantProductSwap x y a 0) := .constantProductSwap UInt64.zero_le
  refine ⟨.constantProductSwap hfee, .constantProductSwap hfee, ?_, ?_⟩
  · simp only [pumpfunBuyOutput_eq]
    exact hfree.comp_amount pumpfunNetSol_mono
  · simp only [pumpfunSellOutput_eq]
    exact hfree.map_output pumpfunNetSol_mono

/-! ## Split orders -/

/-- Outputs of an order split over two swaps of one pool, the reserves updated between them. -/
def splitOutput (reserveIn reserveOut a b feeBps : UInt64) : ℕ :=
  let first := constantProductSwap reserveIn reserveOut a feeBps
  first.toNat + (constantProductSwap (reserveIn + a) (reserveOut - first) b feeBps).toNat

theorem splitOutput_le (hfee : feeBps ≤ 10000) (hin : reserveIn ≠ 0) {a b : UInt64}
    (hsum : a.toNat + b.toNat < 2^64) (hreserve : reserveIn.toNat + a.toNat < 2^64)
    (hfits : SwapFits reserveIn reserveOut (a + b) feeBps) :
    splitOutput reserveIn reserveOut a b feeBps ≤
      (constantProductSwap reserveIn reserveOut (a + b) feeBps).toNat := by
  have hab : (a + b).toNat = a.toNat + b.toNat := by
    rw [UInt64.toNat_add]
    exact Nat.mod_eq_of_lt hsum
  have hxa : (reserveIn + a).toNat = reserveIn.toNat + a.toNat := by
    rw [UInt64.toNat_add]
    exact Nat.mod_eq_of_lt hreserve
  have hx : 0 < reserveIn.toNat := u64_ne_zero.mp hin
  have hxa_ne : reserveIn + a ≠ 0 := by
    rw [u64_ne_zero]
    omega
  have ha : a ≤ a + b := by
    rw [UInt64.le_iff_toNat_le]
    omega
  have hb : b ≤ a + b := by
    rw [UInt64.le_iff_toNat_le]
    omega
  have hfits_a := hfits.mono (UInt64.le_refl _) ha
  have hfirst := constantProductSwap_le_reserve hfee hfits_a
  have hfits_b : SwapFits (reserveIn + a)
      (reserveOut - constantProductSwap reserveIn reserveOut a feeBps) b feeBps := by
    refine (hfits.mono ?_ hb).of_ne_zero hin _
    rw [UInt64.le_iff_toNat_le, UInt64.toNat_sub_of_le _ _ hfirst]
    exact Nat.sub_le _ _
  rw [splitOutput, constantProductSwap_eq_cpOut hfee hxa_ne hfits_b,
    UInt64.toNat_sub_of_le _ _ hfirst, constantProductSwap_eq_cpOut hfee hin hfits_a,
    constantProductSwap_eq_cpOut hfee hin hfits, hxa, hab]
  exact cpOut_split_le (by norm_num) (Nat.sub_le _ _) hx _

/-- With tokens on the input side, splitting never helps. An empty input side pays the
whole order nothing, and a split one whatever its first part buys for the second. -/
theorem split_order (reserveIn reserveOut a b feeBps : UInt64)
    (hfee : feeBps = 0 ∨ feeBps = 25) (hsum : a.toNat + b.toNat < 2^64)
    (hreserve : reserveIn.toNat + a.toNat < 2^64)
    (hfits : SwapFits reserveIn reserveOut (a + b) feeBps) :
    (reserveIn ≠ 0 → splitOutput reserveIn reserveOut a b feeBps ≤
      (constantProductSwap reserveIn reserveOut (a + b) feeBps).toNat) ∧
    (reserveIn = 0 → constantProductSwap reserveIn reserveOut (a + b) feeBps = 0 ∧
      splitOutput reserveIn reserveOut a b feeBps =
        (constantProductSwap a reserveOut b feeBps).toNat) := by
  have hle : feeBps ≤ 10000 := by
    rcases hfee with rfl | rfl <;> decide
  refine ⟨fun hin => splitOutput_le hle hin hsum hreserve hfits, ?_⟩
  rintro rfl
  exact ⟨constantProductSwap_zero_in _ _ _, by simp [splitOutput]⟩

theorem split_order_deep_pool :
    (splitOutput 1000000 2000000 300 700 25 ≤
        (constantProductSwap 1000000 2000000 (300 + 700) 25).toNat) ∧
      SwapFits 1000000 2000000 (300 + 700) 25 :=
  ⟨(split_order 1000000 2000000 300 700 25 (.inr rfl) (by decide) (by decide) (by decide)).1
    (by decide), by decide⟩

/-- An empty input side quotes a hundred and one units at nothing; one unit first, then
the other hundred, takes out nearly the whole output side. -/
theorem split_order_empty_side :
    (constantProductSwap 0 1000 101 25).toNat < splitOutput 0 1000 1 100 25 := by decide

end SolanaArb.PoolDecoder
