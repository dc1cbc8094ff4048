import SolanaArb.Feed.QuoteOrder

/-! # Bonding curve quotes against the real reserves

A curve is priced on its virtual reserves; what it holds is decoded beside them and
read by no quote. A quote therefore stays within the virtual reserve it is paid from,
and within the real one only where the price curve itself does.
-/
namespace SolanaArb.PoolDecoder
open SolanaArb.General

/-- On the curve of these virtual reserves `amount` does not buy more than `held`: one
unit beyond it would bring the product of the reserves below its start. -/
def CurveCovers (reserveIn reserveOut amount held : ℕ) : Prop :=
  reserveIn = 0 ∨ reserveOut = 0 ∨
    (reserveIn + amount) * (reserveOut - (held + 1)) < reserveIn * reserveOut

instance (reserveIn reserveOut amount held : ℕ) :
    Decidable (CurveCovers reserveIn reserveOut amount held) :=
  inferInstanceAs (Decidable (_ ∨ _ ∨ _))

theorem constantProductSwap_le_iff {reserveIn reserveOut amountIn : UInt64}
    (hfits : SwapFits reserveIn reserveOut amountIn 0) (held : ℕ) :
    (constantProductSwap reserveIn reserveOut amountIn 0).toNat ≤ held ↔
      CurveCovers reserveIn.toNat reserveOut.toNat amountIn.toNat held := by
  unfold CurveCovers
  rcases Nat.eq_zero_or_pos reserveIn.toNat with hin | hin
  · have hzero : reserveIn = 0 := u64_eq_zero.mpr hin
    simp [hzero]
  rcases Nat.eq_zero_or_pos reserveOut.toNat with hout | hout
  · have hzero : reserveOut = 0 := u64_eq_zero.mpr hout
    simp [hzero]
  rw [constantProductSwap_eq_cpOut UInt64.zero_le (u64_ne_zero.mpr hin) hfits]
  have hiff := cpOut_le_iff (a := amountIn.toNat) (b := 10000) (by norm_num) hin hout held
  refine hiff.trans ⟨fun h => Or.inr (Or.inr h), ?_⟩
  rintro (h | h | h)
  · omega
  · omega
  · exact h

/-- The fee kept from the output of a sell lets the gross output exceed the bound by
one part in ninety-nine. -/
theorem pumpfunNetSol_le_iff (gross : UInt64) (held : ℕ) :
    (pumpfunNetSol gross).toNat ≤ held ↔ gross.toNat ≤ held + held / 99 := by
  rw [pumpfunNetSol_toNat]
  omega

theorem pumpfunBuyOutput_le_virtual (state : PumpFunState) (sol : UInt64)
    (hfits : SwapFits state.virtualSolReserves state.virtualTokenReserves (pumpfunNetSol sol) 0) :
    pumpfunBuyOutput state sol ≤ state.virtualTokenReserves := by
  rw [pumpfunBuyOutput_eq]
  exact constantProductSwap_le_reserve UInt64.zero_le hfits

theorem pumpfunSellOutput_le_virtual (state : PumpFunState) (tokens : UInt64)
    (hfits : SwapFits state.virtualTokenReserves state.virtualSolReserves tokens 0) :
    pumpfunSellOutput state tokens ≤ state.virtualSolReserves := by
  have hgross := UInt64.le_iff_toNat_le.mp
    (constantProductSwap_le_reserve UInt64.zero_le hfits)
  rw [pumpfunSellOutput_eq, UInt64.le_iff_toNat_le, pumpfunNetSol_toNat]
  exact (Nat.sub_le _ _).trans hgross

theorem pumpfunBuyOutput_le_iff (state : PumpFunState) (sol : UInt64)
    (hfits : SwapFits state.virtualSolReserves state.virtualTokenReserves (pumpfunNetSol sol) 0)
    (held : UInt64) :
    pumpfunBuyOutput state sol ≤ held ↔ CurveCovers state.virtualSolReserves.toNat
      state.virtualTokenReserves.toNat (sol.toNat - sol.toNat / 100) held.toNat := by
  rw [pumpfunBuyOutput_eq, UInt64.le_iff_toNat_le, constantProductSwap_le_iff hfits,
    pumpfunNetSol_toNat]

theorem pumpfunSellOutput_le_iff (state : PumpFunState) (tokens : UInt64)
    (hfits : SwapFits state.virtualTokenReserves state.virtualSolReserves tokens 0)
    (held : UInt64) :
    pumpfunSellOutput state tokens ≤ held ↔ CurveCovers state.virtualTokenReserves.toNat
      state.virtualSolReserves.toNat tokens.toNat (held.toNat + held.toNat / 99) := by
  rw [pumpfunSellOutput_eq, UInt64.le_iff_toNat_le, pumpfunNetSol_le_iff,
    constantProductSwap_le_iff hfits]

/-- What a curve that is not complete quotes, whatever bytes it was decoded from: never
more than the virtual reserve, and no more than the real one exactly where the curve of
the virtual reserves covers the amount with it. -/
theorem curve_quote_payable_iff (data : Bytes) (state : PumpFunState)
    (_hdecoded : decodePumpfunState data = .ok state) (_hopen : state.complete = false)
    (amount : UInt64) :
    (SwapFits state.virtualSolReserves state.virtualTokenReserves (pumpfunNetSol amount) 0 →
      pumpfunBuyOutput state amount ≤ state.virtualTokenReserves ∧
      (pumpfunBuyOutput state amount ≤ state.realTokenReserves ↔
        CurveCovers state.virtualSolReserves.toNat state.virtualTokenReserves.toNat
          (amount.toNat - amount.toNat / 100) state.realTokenReserves.toNat)) ∧
    (SwapFits state.virtualTokenReserves state.virtualSolReserves amount 0 →
      pumpfunSellOutput state amount ≤ state.virtualSolReserves ∧
      (pumpfunSellOutput state amount ≤ state.realSolReserves ↔
        CurveCovers state.virtualTokenReserves.toNat state.virtualSolReserves.toNat
          amount.toNat (state.realSolReserves.toNat + state.realSolReserves.toNat / 99))) :=
  ⟨fun hfits => ⟨pumpfunBuyOutput_le_virtual state amount hfits,
      pumpfunBuyOutput_le_iff state amount hfits _⟩,
    fun hfits => ⟨pumpfunSellOutput_le_virtual state amount hfits,
      pumpfunSellOutput_le_iff state amount hfits _⟩⟩

/-- An account of 100 virtual tokens and 100 virtual lamports that holds ten of each. -/
def drainedCurve : Bytes :=
  List.replicate 8 0 ++ [100, 0, 0, 0, 0, 0, 0, 0] ++ [100, 0, 0, 0, 0, 0, 0, 0] ++
    [10, 0, 0, 0, 0, 0, 0, 0] ++ [10, 0, 0, 0, 0, 0, 0, 0] ++ List.replicate 9 0

theorem drainedCurve_decoded :
    decodePumpfunState drainedCurve = .ok ⟨100, 100, 10, 10, false⟩ := by decide +kernel

theorem curve_quote_payable_iff_drained :
    decodePumpfunState drainedCurve = .ok ⟨100, 100, 10, 10, false⟩ ∧
      pumpfunBuyOutput ⟨100, 100, 10, 10, false⟩ 10 ≤ 10 :=
  ⟨drainedCurve_decoded,
    (((curve_quote_payable_iff drainedCurve ⟨100, 100, 10, 10, false⟩ drainedCurve_decoded rfl
      10).1 (by decide)).2).mpr (by decide)⟩

/-- A hundred lamports into the same curve are quoted at 49 tokens, and a hundred tokens
at 50 lamports, of which it holds ten. -/
theorem curve_quote_unpayable :
    ∃ data state, decodePumpfunState data = .ok state ∧ state.complete = false ∧
      SwapFits state.virtualSolReserves state.virtualTokenReserves (pumpfunNetSol 100) 0 ∧
      SwapFits state.virtualTokenReserves state.virtualSolReserves 100 0 ∧
      state.realTokenReserves < pumpfunBuyOutput state 100 ∧
      state.realSolReserves < pumpfunSellOutput state 100 :=
  ⟨drainedCurve, ⟨100, 100, 10, 10, false⟩, drainedCurve_decoded, rfl, by decide, by decide,
    by decide, by decide⟩

end SolanaArb.PoolDecoder
