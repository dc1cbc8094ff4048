import SolanaArb.Sim.BatchQuotes

/-! # Which vault a quote pays into

The two vaults of a Raydium V4 or PumpSwap pool hold the base and the quote mint.
Both quoting paths pay into the vault of the input mint, except when that mint is
WSOL and sits in the base vault: the direction test sends every WSOL input to the
second vault.
-/
namespace SolanaArb.AmmQuoter
open SolanaArb.PoolDecoder SolanaArb.General

section Base58
variable (bs58 : Bytes → String)

/-- The token account at `address` is of `mint` and holds `balance`. -/
def VaultHolds (chain : Chain) (address mint : String) (balance : UInt64) : Prop :=
  ∃ data, chain address = some data ∧ bs58 (slice data 0 32) = mint ∧
    decodeSplTokenBalance data = .ok balance

/-- The balance of the vault holding the input mint, then that of the other vault. -/
def mintSides (pool : KnownPool) (inputMint : String) (balances : UInt64 × UInt64) :
    UInt64 × UInt64 :=
  if inputMint = pool.baseMint then balances else balances.swap

/-- `P` holds of the quote of the single-pool path, and of the quote of the batch
path at every place where the pool occurs in a list. -/
def BothPaths (rpc : Rpc) (pool : KnownPool) (inputMint : String) (amountIn : UInt64)
    (P : LocalQuote → Prop) : Prop :=
  (∃ q, quoteSwap bs58 rpc pool inputMint amountIn = .ok q ∧ P q) ∧
  ∀ pools i, (hi : i < List.length pools) → pools[i] = pool →
    ∃ q, (quoteAllPools bs58 rpc pools inputMint amountIn)[i]? = some (.ok q) ∧ P q

def ComputedOn (amountIn : UInt64) (reserves : UInt64 × UInt64) (q : LocalQuote) : Prop :=
  q.reserves = reserves ∧
    q.outputAmount = constantProductSwap reserves.1 reserves.2 amountIn 25

variable {bs58} {rpc : Rpc} {chain : Chain} {pool : KnownPool} {inputMint : String}
  {amountIn : UInt64} {balances : UInt64 × UInt64}

theorem vaultBalances_of_holds {first second mint₁ mint₂ : String} {b₁ b₂ : UInt64}
    (hv : pool.vaultAddresses = some (first, second)) (h₁ : VaultHolds bs58 chain first mint₁ b₁)
    (h₂ : VaultHolds bs58 chain second mint₂ b₂) :
    vaultBalances chain pool = some (b₁, b₂) := by
  obtain ⟨d₁, hc₁, _, hb₁⟩ := h₁
  obtain ⟨d₂, hc₂, _, hb₂⟩ := h₂
  simp [vaultBalances, hv, hc₁, hc₂, hb₁, hb₂]

theorem chainQuote_vaults (impactBps : UInt64 → UInt64 → ℚ)
    (hdex : pool.dex = .raydium ∨ pool.dex = .pumpSwap)
    (hb : vaultBalances chain pool = some balances) :
    chainQuote bs58 impactBps chain pool inputMint amountIn = some
      (vaultQuote impactBps pool inputMint amountIn (orient (paysSecond pool inputMint) balances)) := by
  rcases hdex with h | h <;> simp [chainQuote, h, hb]

theorem quoteSwap_vaults (hs : Serves rpc chain)
    (hdex : pool.dex = .raydium ∨ pool.dex = .pumpSwap)
    (hb : vaultBalances chain pool = some balances) :
    quoteSwap bs58 rpc pool inputMint amountIn = .ok
      (vaultQuote impactOrZero pool inputMint amountIn
        (orient (paysSecond pool inputMint) balances)) := by
  rw [← toOption_eq_some, quoteSwap_toOption hs]
  exact chainQuote_vaults _ hdex hb

theorem bothPaths_iff (hs : Serves rpc chain)
    (hdex : pool.dex = .raydium ∨ pool.dex = .pumpSwap)
    (hb : vaultBalances chain pool = some balances) (P : LocalQuote → Prop) (P' : Prop)
    (hP : ∀ impactBps, P (vaultQuote impactBps pool inputMint amountIn
      (orient (paysSecond pool inputMint) balances)) ↔ P') :
    BothPaths bs58 rpc pool inputMint amountIn P ↔ P' := by
  constructor
  · rintro ⟨⟨q, hq, hPq⟩, _⟩
    rw [quoteSwap_vaults hs hdex hb] at hq
    cases hq
    exact (hP _).mp hPq
  · intro h
    refine ⟨⟨_, quoteSwap_vaults hs hdex hb, (hP _).mpr h⟩, ?_⟩
    intro pools i hi hpool
    obtain ⟨batch, hget, hbatch⟩ := quoteAllPools_getElem bs58 hs pools inputMint amountIn i hi
    rw [hpool, chainQuote_vaults _ hdex hb, toOption_eq_some] at hbatch
    subst hbatch
    exact ⟨_, hget, (hP _).mpr h⟩

theorem computedOn_vaultQuote (impactBps : UInt64 → UInt64 → ℚ) (reserves sides : UInt64 × UInt64) :
    ComputedOn amountIn sides (vaultQuote impactBps pool inputMint amountIn reserves) ↔
      reserves = sides := by
  constructor
  · exact fun h => h.1
  · rintro rfl
    exact ⟨rfl, rfl⟩

/-- The direction test agrees with the mints exactly off the reversed WSOL case. -/
theorem orient_eq_mintSides_iff (hne : pool.baseMint ≠ pool.quoteMint)
    (hin : inputMint = pool.baseMint ∨ inputMint = pool.quoteMint) :
    orient (paysSecond pool inputMint) balances = mintSides pool inputMint balances ↔
      ¬ (inputMint = wsolMint ∧ pool.baseMint = wsolMint) ∨ balances.1 = balances.2 := by
  have hswap : balances.swap = balances ↔ balances.1 = balances.2 := by
    rw [Prod.ext_iff]
    exact ⟨fun h => h.2, fun h => ⟨h.symm, h⟩⟩
  rcases hin with rfl | rfl
  · by_cases hw : pool.baseMint = wsolMint
    · simp [orient, mintSides, paysSecond, hw, hswap]
    · simp [orient, mintSides, paysSecond, hne, hw]
  · have hne' : pool.quoteMint ≠ pool.baseMint := hne.symm
    have hnot : ¬ (pool.quoteMint = wsolMint ∧ pool.baseMint = wsolMint) :=
      fun h => hne (h.2.trans h.1.symm)
    simp [orient, mintSides, paysSecond, hne', hnot]

/-- A quote pays into the vault holding its input mint, on both paths, exactly when
that mint is not WSOL in the base vault or the vaults cannot be told apart; and the
two directions of a pool are quoted with opposite orientations exactly when its
base mint is not WSOL or, again, the balances are equal. -/
theorem quoteOrientation_iff (bs58 : Bytes → String) (rpc : Rpc) (chain : Chain)
    (hs : Serves rpc chain) (pool : KnownPool) (first second : String) (b₁ b₂ : UInt64)
    (hdex : pool.dex = .raydium ∨ pool.dex = .pumpSwap)
    (hv : pool.vaultAddresses = some (first, second)) (hne : pool.baseMint ≠ pool.quoteMint)
    (h₁ : VaultHolds bs58 chain first pool.baseMint b₁)
    (h₂ : VaultHolds bs58 chain second pool.quoteMint b₂) :
    (∀ inputMint amountIn, inputMint = pool.baseMint ∨ inputMint = pool.quoteMint →
      (BothPaths bs58 rpc pool inputMint amountIn
          (ComputedOn amountIn (mintSides pool inputMint (b₁, b₂))) ↔
        ¬ (inputMint = wsolMint ∧ pool.baseMint = wsolMint) ∨ b₁ = b₂)) ∧
    ∀ amountIn amountIn',
      ((∀ r, BothPaths bs58 rpc pool pool.baseMint amountIn (fun q => q.reserves = r) →
        BothPaths bs58 rpc pool pool.quoteMint amountIn' (fun q => q.reserves = r.swap)) ↔
      pool.baseMint ≠ wsolMint ∨ b₁ = b₂) := by
  have hb := vaultBalances_of_holds hv h₁ h₂
  have hreserves (inputMint : String) (amountIn : UInt64) (r : UInt64 × UInt64) :
      BothPaths bs58 rpc pool inputMint amountIn (fun q => q.reserves = r) ↔
        orient (paysSecond pool inputMint) (b₁, b₂) = r :=
    bothPaths_iff hs hdex hb _ _ (fun _ => Iff.rfl)
  constructor
  · intro inputMint amountIn hin
    rw [bothPaths_iff hs hdex hb _ _ (fun impactBps => computedOn_vaultQuote impactBps _ _)]
    exact orient_eq_mintSides_iff hne hin
  · intro amountIn amountIn'
    simp only [hreserves, forall_eq']
    have hquote : orient (paysSecond pool pool.quoteMint) (b₁, b₂) = (b₂, b₁) := by
      simp [orient, paysSecond]
    rw [hquote]
    by_cases hw : pool.baseMint = wsolMint
    · simp [orient, paysSecond, hw, eq_comm]
    · simp [orient, paysSecond, hne, hw]

end Base58

def sampleBalances : Chain := sampleChain [0, 0, 16, 0, 0, 0, 0, 0] [0, 0, 0, 2, 0, 0, 0, 0]

theorem sampleBalances_coin :
    VaultHolds base58Encode sampleBalances "SampleCoinVault" bonkMint 1048576 :=
  ⟨tokenAccount bonkKey [0, 0, 16, 0, 0, 0, 0, 0], by decide +kernel, by decide +kernel,
    by decide +kernel⟩

theorem sampleBalances_pc :
    VaultHolds base58Encode sampleBalances "SamplePcVault" wsolMint 33554432 :=
  ⟨tokenAccount wsolKey [0, 0, 0, 2, 0, 0, 0, 0], by decide +kernel, by decide +kernel,
    by decide +kernel⟩

theorem quoteOrientation_iff_sample :
    BothPaths base58Encode (serve sampleBalances) (samplePool .raydium) wsolMint 1000
      (ComputedOn 1000 (33554432, 1048576)) :=
  ((quoteOrientation_iff base58Encode (serve sampleBalances) sampleBalances (serves_serve _)
    (samplePool .raydium) "SampleCoinVault" "SamplePcVault" 1048576 33554432 (Or.inl rfl) rfl
    (by decide) sampleBalances_coin sampleBalances_pc).1 wsolMint 1000 (Or.inr rfl)).mpr
    (Or.inl (by decide))

def reversedPool (dex : Dex) : KnownPool where
  poolAddress := "SamplePool"
  dex := dex
  baseMint := wsolMint
  quoteMint := bonkMint
  vaultAddresses := some ("SamplePcVault", "SampleCoinVault")

/-- Paying WSOL into the reversed pool is quoted as if it went into the token vault. -/
theorem reversedPool_wrong_side :
    VaultHolds base58Encode sampleBalances "SamplePcVault" (reversedPool .raydium).baseMint 33554432 ∧
    VaultHolds base58Encode sampleBalances "SampleCoinVault" (reversedPool .raydium).quoteMint
      1048576 ∧
    (quoteSwap base58Encode (serve sampleBalances) (reversedPool .raydium) wsolMint 1000).toOption.map
      LocalQuote.reserves = some (1048576, 33554432) ∧
    mintSides (reversedPool .raydium) wsolMint (33554432, 1048576) = (33554432, 1048576) :=
  ⟨sampleBalances_pc, sampleBalances_coin, by decide +kernel, by decide⟩

end SolanaArb.AmmQuoter
