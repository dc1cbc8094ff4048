import SolanaArb.Sim.BatchQuotes

/-! # Basis points in 64-bit words

The vault quoters and the slippage bound of a transaction take basis points of an
amount with a wrapping product. Such a share is the integer one exactly when the
product fits in a word; past that it is too small, never too large.
-/
namespace SolanaArb

theorem mod_div_eq_iff {n m k : ℕ} (hk : 0 < k) (hkm : k ≤ m) : n % m / k = n / k ↔ n < m := by
  constructor
  · intro h
    by_contra hle
    have hsplit : n % m + m * (n / m) = n := Nat.mod_add_div n m
    have hq : 0 < n / m := Nat.div_pos (not_lt.mp hle) (hk.trans_le hkm)
    have hm : m ≤ m * (n / m) := Nat.le_mul_of_pos_right m hq
    have hstep : (n % m + k) / k ≤ n / k := Nat.div_le_div_right (by omega)
    rw [Nat.add_div_right _ hk] at hstep
    omega
  · intro h
    rw [Nat.mod_eq_of_lt h]

theorem basisPoints_toNat (amount bps : UInt64) :
    (amount * bps / 10000).toNat = amount.toNat * bps.toNat % 2^64 / 10000 := by
  rw [UInt64.toNat_div, UInt64.toNat_mul]
  rfl

theorem basisPoints_exact_iff (amount bps : UInt64) :
    (amount * bps / 10000).toNat = amount.toNat * bps.toNat / 10000 ↔
      amount.toNat * bps.toNat < 2^64 := by
  rw [basisPoints_toNat]
  exact mod_div_eq_iff (by decide) (by decide)

theorem basisPoints_le (amount bps : UInt64) :
    (amount * bps / 10000).toNat ≤ amount.toNat * bps.toNat / 10000 := by
  rw [basisPoints_toNat]
  exact Nat.div_le_div_right (Nat.mod_le _ _)

theorem mul_bps_div_le {amount bps : ℕ} (h : bps ≤ 10000) : amount * bps / 10000 ≤ amount :=
  Nat.div_le_of_le_mul (by rw [Nat.mul_comm]; exact Nat.mul_le_mul_right amount h)

namespace TxBuilder

/-- The least output a swap accepts under a slippage tolerance. -/
def applySlippage (expectedOutput slippageBps : UInt64) : UInt64 :=
  let deduction := expectedOutput * slippageBps / 10000
  saturatingSub expectedOutput deduction

variable {expectedOutput slippageBps : UInt64}

theorem applySlippage_toNat : (applySlippage expectedOutput slippageBps).toNat =
    expectedOutput.toNat - (expectedOutput * slippageBps / 10000).toNat :=
  saturatingSub_toNat _ _

theorem applySlippage_exact_iff (h : slippageBps ≤ 10000) :
    (applySlippage expectedOutput slippageBps).toNat =
      expectedOutput.toNat - expectedOutput.toNat * slippageBps.toNat / 10000 ↔
      expectedOutput.toNat * slippageBps.toNat < 2^64 := by
  have hshare : expectedOutput.toNat * slippageBps.toNat / 10000 ≤ expectedOutput.toNat :=
    mul_bps_div_le (UInt64.le_iff_toNat_le.mp h)
  have hle := basisPoints_le expectedOutput slippageBps
  rw [← basisPoints_exact_iff, applySlippage_toNat]
  omega

/-- A wrapped deduction is too small, so the bound stays between the tolerated share and
the expected output. -/
theorem applySlippage_bounds :
    expectedOutput.toNat - expectedOutput.toNat * slippageBps.toNat / 10000 ≤
      (applySlippage expectedOutput slippageBps).toNat ∧
    (applySlippage expectedOutput slippageBps).toNat ≤ expectedOutput.toNat := by
  have hle := basisPoints_le expectedOutput slippageBps
  rw [applySlippage_toNat]
  omega

end TxBuilder

namespace AmmQuoter
open SolanaArb.General

theorem quoteVaults_feeAmount {v : VaultQuoter} {load : List String → Except String AccountMap}
    {pool : KnownPool} {inputMint : String} {amountIn : UInt64} {q : LocalQuote}
    (h : quoteVaults v load pool inputMint amountIn = .ok q) :
    q.feeAmount = amountIn * 25 / 10000 := by
  simp only [quoteVaults, bind_eq_ok] at h
  obtain ⟨vaults, -, accounts, -, firstData, -, secondData, -, first, -, second, -, hq⟩ := h
  cases hq
  rfl

variable {bs58 : Bytes → String} {rpc : Rpc} {pool : KnownPool} {inputMint : String}
  {amountIn : UInt64} {q : LocalQuote}

/-- The two DEXs whose quotes report a fee of 25 basis points of the input. -/
def VaultDex (dex : Dex) : Prop := dex = .raydium ∨ dex = .pumpSwap

theorem quoteSwap_feeAmount (hdex : VaultDex pool.dex)
    (h : quoteSwap bs58 rpc pool inputMint amountIn = .ok q) :
    q.feeAmount = amountIn * 25 / 10000 := by
  rcases hdex with hdex | hdex
  · rw [quoteSwap, hdex] at h
    exact quoteVaults_feeAmount h
  · rw [quoteSwap, hdex] at h
    exact quoteVaults_feeAmount h

theorem quoteFromCache_feeAmount {accounts : AccountMap} (hdex : VaultDex pool.dex)
    (h : quoteFromCache bs58 accounts inputMint amountIn pool = .ok q) :
    q.feeAmount = amountIn * 25 / 10000 := by
  rcases hdex with hdex | hdex
  · rw [quoteFromCache, hdex] at h
    exact quoteVaults_feeAmount h
  · rw [quoteFromCache, hdex] at h
    exact quoteVaults_feeAmount h

theorem quoteAllPools_feeAmount {pools : List KnownPool} {i : ℕ} (hi : pools[i]? = some pool)
    (hdex : VaultDex pool.dex)
    (h : (quoteAllPools bs58 rpc pools inputMint amountIn)[i]? = some (.ok q)) :
    q.feeAmount = amountIn * 25 / 10000 := by
  obtain ⟨accounts, hq⟩ := quoteAllPools_ok hi h
  exact quoteFromCache_feeAmount hdex hq

end AmmQuoter

open AmmQuoter TxBuilder in
/-- The fee of a vault quote is the integer share of the input exactly when 25 times the
input fits in a word, and the slippage bound the integer one exactly when the output
times the tolerance does. -/
theorem basis_points_exact (bs58 : Bytes → String) (rpc : Rpc) (inputMint : String)
    (amountIn expectedOutput slippageBps : UInt64) (hbps : slippageBps ≤ 10000) :
    (∀ pool q, VaultDex pool.dex → quoteSwap bs58 rpc pool inputMint amountIn = .ok q →
      (q.feeAmount.toNat = amountIn.toNat * 25 / 10000 ↔ amountIn.toNat * 25 < 2^64)) ∧
    (∀ pools : List KnownPool, ∀ (i : ℕ) (pool : KnownPool) (q : LocalQuote),
      pools[i]? = some pool → VaultDex pool.dex →
      (quoteAllPools bs58 rpc pools inputMint amountIn)[i]? = some (.ok q) →
      (q.feeAmount.toNat = amountIn.toNat * 25 / 10000 ↔ amountIn.toNat * 25 < 2^64)) ∧
    ((applySlippage expectedOutput slippageBps).toNat =
        expectedOutput.toNat - expectedOutput.toNat * slippageBps.toNat / 10000 ↔
      expectedOutput.toNat * slippageBps.toNat < 2^64) ∧
    expectedOutput.toNat - expectedOutput.toNat * slippageBps.toNat / 10000 ≤
      (applySlippage expectedOutput slippageBps).toNat ∧
    (applySlippage expectedOutput slippageBps).toNat ≤ expectedOutput.toNat := by
  have hfee := basisPoints_exact_iff amountIn 25
  refine ⟨?_, ?_, applySlippage_exact_iff hbps, applySlippage_bounds⟩
  · intro pool q hdex h
    rw [quoteSwap_feeAmount hdex h]
    exact hfee
  · intro pools i pool q hi hdex h
    rw [quoteAllPools_feeAmount hi hdex h]
    exact hfee

section FullPool
open AmmQuoter TxBuilder General

def fullChain : Chain := sampleChain [0, 0, 0, 1, 0, 0, 0, 0] [0, 0, 1, 0, 0, 0, 0, 0]

/-- A million units into a full pool are charged 2500 on both paths; a tenth of a million
is tolerated. -/
theorem basis_points_exact_full_pool :
    (∃ q, quoteSwap base58Encode (serve fullChain) (samplePool .raydium) wsolMint 1000000 = .ok q ∧
      q.feeAmount.toNat = 2500) ∧
    (∃ q, (quoteAllPools base58Encode (serve fullChain) [samplePool .pumpSwap] wsolMint 1000000)[0]?
        = some (.ok q) ∧ q.feeAmount.toNat = 2500) ∧
    (applySlippage 1000000 1000).toNat = 900000 := by
  obtain ⟨hsingle, hbatch, hslip, -⟩ := basis_points_exact base58Encode (serve fullChain) wsolMint
    1000000 1000000 1000 (by decide)
  have hsome : (quoteSwap base58Encode (serve fullChain) (samplePool .raydium) wsolMint
      1000000).toOption.isSome = true := by decide +kernel
  obtain ⟨q, hq⟩ := Option.isSome_iff_exists.mp hsome
  rw [toOption_eq_some] at hq
  have hbatchSome : (((quoteAllPools base58Encode (serve fullChain) [samplePool .pumpSwap] wsolMint
      1000000)[0]?).bind Except.toOption).isSome = true := by decide +kernel
  obtain ⟨q', hq'⟩ := Option.isSome_iff_exists.mp hbatchSome
  obtain ⟨element, helement, hq'⟩ := Option.bind_eq_some_iff.mp hq'
  rw [toOption_eq_some] at hq'
  subst hq'
  exact ⟨⟨q, hq, (hsingle _ q (Or.inl rfl) hq).mpr (by decide)⟩,
    ⟨q', helement, (hbatch [samplePool .pumpSwap] 0 _ q' rfl (Or.inr rfl) helement).mpr
      (by decide)⟩,
    hslip.mpr (by decide)⟩

/-- At `2^60` units every product wraps: the four quotes report a fee of 1037629354146162, not
2882303761517117, and a tolerance of one percent takes off a twenty-fifth of its share. -/
theorem basis_points_wrap :
    (∀ dex ∈ [Dex.raydium, .pumpSwap],
      (quoteSwap base58Encode (serve fullChain) (samplePool dex) wsolMint
        (2^60)).toOption.map (fun q => q.feeAmount.toNat) = some 1037629354146162 ∧
      (quoteAllPools base58Encode (serve fullChain) [samplePool dex] wsolMint
        (2^60)).map (fun r => r.toOption.map (fun q => q.feeAmount.toNat)) =
          [some 1037629354146162]) ∧
    ((2^60 : UInt64).toNat * 25 / 10000 = 2882303761517117) ∧
    (applySlippage (2^60) 100).toNat = 1152460336005004238 ∧
    (2^60 : UInt64).toNat - (2^60 : UInt64).toNat * 100 / 10000 = 1141392289560778507 := by
  decide +kernel

end FullPool
end SolanaArb
