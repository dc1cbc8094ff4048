import SolanaArb.Sim.ChainQuotes
import SolanaArb.General.Base58

/-! # The batch path against the single-pool path

On one fixed set of account contents the two paths succeed on the same pools and
return quotes that differ at most in the price impact. The impact differs exactly
for a positive amount on a constant-product pool whose input side is empty.
-/
namespace SolanaArb.AmmQuoter
open SolanaArb.PoolDecoder SolanaArb.General

/-- The reserves of a constant-product pool that can be quoted, input side first. -/
def constantReserves (chain : Chain) (pool : KnownPool) (inputMint : String) :
    Option (UInt64 × UInt64) :=
  match pool.dex with
  | .raydium | .pumpSwap => (vaultBalances chain pool).map (orient (paysSecond pool inputMint))
  | .pumpFun => (openCurve chain pool).map (curveReserves inputMint)
  | _ => none

theorem impact_eq_iff (amountIn reserveIn : UInt64) :
    impactOrZero amountIn reserveIn = impactOverMax amountIn reserveIn ↔
      amountIn = 0 ∨ reserveIn ≠ 0 := by
  have hmax := maxU64_toNat reserveIn 1
  rw [show (1 : UInt64).toNat = 1 from rfl] at hmax
  by_cases hr : reserveIn = 0
  · have hzero : reserveIn.toNat = 0 := u64_eq_zero.mp hr
    have hpos : ¬ 0 < reserveIn := by rw [u64_pos]; omega
    have hone : (maxU64 reserveIn 1).toNat = 1 := by omega
    rw [impactOrZero, impactOverMax, if_neg hpos, hone]
    simp only [hr, ne_eq, not_true_eq_false, or_false, u64_eq_zero]
    constructor
    · intro h
      have hq : (amountIn.toNat : ℚ) = 0 := by simpa using h.symm
      exact_mod_cast hq
    · intro h
      simp [h]
  · have hne : 0 < reserveIn.toNat := u64_ne_zero.mp hr
    have hpos : 0 < reserveIn := u64_pos.mpr hne
    have hself : (maxU64 reserveIn 1).toNat = reserveIn.toNat := by omega
    simp [impactOrZero, impactOverMax, hpos, hself, hr]

section Base58
variable {bs58 : Bytes → String}

theorem vaultQuote_eq_iff (pool : KnownPool) (inputMint : String) (amountIn : UInt64)
    (reserves : UInt64 × UInt64) :
    vaultQuote impactOrZero pool inputMint amountIn reserves =
      vaultQuote impactOverMax pool inputMint amountIn reserves ↔
      amountIn = 0 ∨ reserves.1 ≠ 0 := by
  simp [vaultQuote, impact_eq_iff]

theorem curveQuote_eq_iff (pool : KnownPool) (inputMint : String) (amountIn : UInt64)
    (state : PumpFunState) :
    curveQuote impactOrZero pool inputMint amountIn state =
      curveQuote impactOverMax pool inputMint amountIn state ↔
      amountIn = 0 ∨ (curveReserves inputMint state).1 ≠ 0 := by
  simp [curveQuote, impact_eq_iff]

/-- On one chain the two conventions give the same quote exactly when nothing is
paid in or the input side is not empty. -/
theorem chainQuote_eq_iff (chain : Chain) (pool : KnownPool) (inputMint : String)
    (amountIn : UInt64) :
    chainQuote bs58 impactOrZero chain pool inputMint amountIn =
      chainQuote bs58 impactOverMax chain pool inputMint amountIn ↔
      amountIn = 0 ∨ (constantReserves chain pool inputMint).map Prod.fst ≠ some 0 := by
  unfold chainQuote constantReserves
  cases pool.dex with
  | raydium => cases vaultBalances chain pool <;> simp [vaultQuote_eq_iff]
  | pumpSwap => cases vaultBalances chain pool <;> simp [vaultQuote_eq_iff]
  | pumpFun => cases openCurve chain pool <;> simp [curveQuote_eq_iff]
  | raydiumClmm => simp
  | orca => simp
  | jupiter => simp
  | meteora => simp
  | unknown => simp

/-- The batch element of a pool and its single quote agree, in success and in every
field, exactly when nothing is paid in or the pool's input side is not empty. -/
theorem quoteAllPools_agrees_iff (bs58 : Bytes → String) (rpc : Rpc) (chain : Chain)
    (hs : Serves rpc chain) (pools : List KnownPool) (inputMint : String) (amountIn : UInt64)
    (i : ℕ) (hi : i < pools.length) :
    ∃ batch, (quoteAllPools bs58 rpc pools inputMint amountIn)[i]? = some batch ∧
      (((∃ q, batch = .ok q) ↔ ∃ q, quoteSwap bs58 rpc pools[i] inputMint amountIn = .ok q) ∧
        (∀ q q', quoteSwap bs58 rpc pools[i] inputMint amountIn = .ok q → batch = .ok q' → q = q') ↔
      amountIn = 0 ∨ (constantReserves chain pools[i] inputMint).map Prod.fst ≠ some 0) := by
  obtain ⟨batch, hget, hbatch⟩ := quoteAllPools_getElem bs58 hs pools inputMint amountIn i hi
  refine ⟨batch, hget, ?_⟩
  rw [← toOption_eq_iff, quoteSwap_toOption hs, hbatch]
  exact chainQuote_eq_iff chain pools[i] inputMint amountIn

end Base58

def tokenAccount (mint balance : Bytes) : Bytes :=
  mint ++ List.replicate 32 0 ++ balance ++ List.replicate 93 0

def curveAccount (virtualToken virtualSol : Bytes) : Bytes :=
  List.replicate 8 0 ++ virtualToken ++ virtualSol ++ List.replicate 25 0

def wsolKey : Bytes :=
  [6, 155, 136, 87, 254, 171, 129, 132, 251, 104, 127, 99, 70, 24, 192, 53,
   218, 196, 57, 220, 26, 235, 59, 85, 152, 160, 240, 0, 0, 0, 0, 1]

def bonkKey : Bytes :=
  [188, 7, 197, 110, 96, 173, 61, 63, 23, 115, 130, 234, 198, 84, 143, 186,
   31, 211, 44, 253, 144, 202, 2, 179, 231, 207, 161, 133, 253, 206, 115, 152]

def bonkMint : String := "DezXAZ8z7PnrnRJjz3wXBoRgixCa6xjnB7YaB1pPB263"

def samplePool (dex : Dex) : KnownPool where
  poolAddress := "SamplePool"
  dex := dex
  baseMint := bonkMint
  quoteMint := wsolMint
  vaultAddresses := some ("SampleCoinVault", "SamplePcVault")

def sampleChain (coin pc : Bytes) : Chain := fun address =>
  if address = "SampleCoinVault" then some (tokenAccount bonkKey coin)
  else if address = "SamplePcVault" then some (tokenAccount wsolKey pc)
  else none

theorem quoteAllPools_agrees_iff_full_pool :
    ∃ batch, (quoteAllPools base58Encode
        (serve (sampleChain [0, 0, 0, 1, 0, 0, 0, 0] [0, 0, 1, 0, 0, 0, 0, 0]))
        [samplePool .raydium] wsolMint 100)[0]? = some batch ∧
      ((∃ q, batch = .ok q) ↔ ∃ q, quoteSwap base58Encode
        (serve (sampleChain [0, 0, 0, 1, 0, 0, 0, 0] [0, 0, 1, 0, 0, 0, 0, 0]))
        (samplePool .raydium) wsolMint 100 = .ok q) := by
  obtain ⟨batch, hget, hiff⟩ := quoteAllPools_agrees_iff base58Encode
    (serve (sampleChain [0, 0, 0, 1, 0, 0, 0, 0] [0, 0, 1, 0, 0, 0, 0, 0]))
    (sampleChain [0, 0, 0, 1, 0, 0, 0, 0] [0, 0, 1, 0, 0, 0, 0, 0]) (serves_serve _)
    [samplePool .raydium] wsolMint 100 0 (by decide)
  exact ⟨batch, hget, (hiff.mpr (Or.inr (by decide +kernel))).1⟩

/-- A Raydium pool with an empty pc vault: the single path reports no impact, the
batch path a million basis points. -/
theorem quoteAllPools_empty_side_differs :
    (quoteSwap base58Encode (serve (sampleChain [5, 0, 0, 0, 0, 0, 0, 0] (List.replicate 8 0)))
        (samplePool .raydium) wsolMint 100).toOption.map LocalQuote.priceImpactBps = some 0 ∧
    (quoteAllPools base58Encode
        (serve (sampleChain [5, 0, 0, 0, 0, 0, 0, 0] (List.replicate 8 0)))
        [samplePool .raydium] wsolMint 100).map
        (fun r => r.toOption.map LocalQuote.priceImpactBps) = [some 1000000] := by
  decide +kernel

end SolanaArb.AmmQuoter
