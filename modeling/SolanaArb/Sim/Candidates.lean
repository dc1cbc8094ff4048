import SolanaArb.Sim.PoolRegistry

/-! # The pools a scan may use

A discovery treats every listed pair on its own: a pool of a supported DEX with
enough liquidity is settled by the two account fetches, independently of the other
pairs. The candidates of a token are its registry entry or else its settled pools;
a scan gets the first candidate of every DEX.
-/
namespace SolanaArb.LocalScanner
open SolanaArb.PoolDecoder SolanaArb.AmmQuoter SolanaArb.General

/-- What a resolution makes of one pool. Without accounts the fetch has failed. -/
def settleVaults (needs : KnownPool → Bool) (resolve : AccountMap → KnownPool → KnownPool)
    (resolved : KnownPool → Bool) (accounts : Option AccountMap) (pool : KnownPool) :
    Option KnownPool :=
  match accounts with
  | none => some pool
  | some accounts =>
    let pool' := if needs pool then resolve accounts pool else pool
    if resolved pool' then some pool' else none

def fetchNeeded (needs : KnownPool → Bool) (rpc : Rpc) (pools : List KnownPool) :
    Option AccountMap :=
  (fetchAccounts rpc ((pools.filter needs).map KnownPool.poolAddress)).toOption

def listedPools (d : Discovery) : List KnownPool :=
  (d.response.toOption.join.getD []).filterMap poolOfPair

section Settle
variable {needs : KnownPool → Bool} {resolve : AccountMap → KnownPool → KnownPool}
  {resolved : KnownPool → Bool} {rpc : Rpc} {pools : List KnownPool} {pool : KnownPool}

theorem settleVaults_of_resolved (accounts : Option AccountMap) (hneeds : needs pool = false)
    (hres : resolved pool = true) :
    settleVaults needs resolve resolved accounts pool = some pool := by
  cases accounts <;> simp [settleVaults, hneeds, hres]

theorem filter_map_eq_filterMap {α : Type*} (f : α → α) (keep : α → Bool) (l : List α) :
    (l.map f).filter keep = l.filterMap (fun x => if keep (f x) then some (f x) else none) := by
  induction l with
  | nil => rfl
  | cons x l ih => by_cases hx : keep (f x) <;> simp [hx, ih]

/-- A resolution works pool by pool, if the pools it leaves alone count as resolved. -/
theorem resolveVaults_eq (hkeep : ∀ p ∈ pools, needs p = false → resolved p = true) :
    resolveVaults needs resolve resolved rpc pools =
      pools.filterMap (settleVaults needs resolve resolved (fetchNeeded needs rpc pools)) := by
  simp only [resolveVaults, fetchNeeded]
  split
  · next hempty =>
    have hneeds : ∀ p ∈ pools, needs p = false := by simpa using hempty
    have hsettle : ∀ p ∈ pools,
        settleVaults needs resolve resolved (fetchNeeded needs rpc pools) p = some p :=
      fun p hp => settleVaults_of_resolved _ (hneeds p hp) (hkeep p hp (hneeds p hp))
    exact ((List.filterMap_congr hsettle).trans List.filterMap_some).symm
  · cases fetchAccounts rpc ((pools.filter needs).map KnownPool.poolAddress) with
    | error e => exact List.filterMap_some.symm
    | ok accounts => exact filter_map_eq_filterMap _ _ _

end Settle

section Base58
variable (bs58 : Bytes → String)

def settleRaydium (d : Discovery) : KnownPool → Option KnownPool :=
  settleVaults needsRaydiumVaults (resolveRaydiumPool bs58) raydiumResolved
    (fetchNeeded needsRaydiumVaults d.raydiumRpc (listedPools d))

def settlePumpswap (d : Discovery) : KnownPool → Option KnownPool :=
  settleVaults needsPumpswapVaults (resolvePumpswapPool bs58) pumpswapResolved
    (fetchNeeded needsPumpswapVaults d.pumpswapRpc ((listedPools d).filterMap (settleRaydium bs58 d)))

def settlePool (d : Discovery) (pool : KnownPool) : Option KnownPool :=
  (settleRaydium bs58 d pool).bind (settlePumpswap bs58 d)

/-- The pools known for a token before the choice of one per DEX. -/
def candidatePools (reg : PoolRegistry) (tokenMint : String) (d : Discovery) : List KnownPool :=
  match (reg.lookup tokenMint).getD [] with
  | p :: ps => p :: ps
  | [] => (listedPools d).filterMap (settlePool bs58 d)

variable {bs58} {d : Discovery} {pool : KnownPool}

theorem fromDexscreenerId_ne_clmm (id : String) : Dex.fromDexscreenerId id ≠ .raydiumClmm := by
  unfold Dex.fromDexscreenerId
  repeat' split
  all_goals decide

/-- A pair that passes the filters is taken over as it is listed, without vaults. -/
theorem poolOfPair_eq {pair : DexScreenerPair} (h : poolOfPair pair = some pool) :
    pool = ⟨pair.pairAddress, Dex.fromDexscreenerId pair.dexId, pair.baseToken, pair.quoteToken,
      none⟩ := by
  simp only [poolOfPair, Option.ite_none_left_eq_some, Option.some.injEq] at h
  exact h.2.2.symm

theorem listedPools_dex_ne (h : pool ∈ listedPools d) : pool.dex ≠ .raydiumClmm := by
  obtain ⟨pair, _, hpair⟩ := List.mem_filterMap.mp h
  obtain rfl := poolOfPair_eq hpair
  exact fromDexscreenerId_ne_clmm pair.dexId

theorem raydiumResolved_of_not_needs (hclmm : pool.dex ≠ .raydiumClmm)
    (h : needsRaydiumVaults pool = false) : raydiumResolved pool = true := by
  simp only [needsRaydiumVaults, Bool.and_eq_false_iff, Option.isNone_eq_false_iff] at h
  simpa [raydiumResolved, hclmm] using h

theorem pumpswapResolved_of_not_needs (h : needsPumpswapVaults pool = false) :
    pumpswapResolved pool = true := by
  simp only [needsPumpswapVaults, Bool.and_eq_false_iff, Option.isNone_eq_false_iff] at h
  simpa [pumpswapResolved] using h

theorem discoverPoolsForToken_toOption (bs58 : Bytes → String) (d : Discovery) :
    (discoverPoolsForToken bs58 d).toOption =
    d.response.toOption.map (fun _ => (listedPools d).filterMap (settlePool bs58 d)) := by
  have hsettle : resolvePumpswapVaults bs58 d.pumpswapRpc
      (resolveRaydiumVaults bs58 d.raydiumRpc (listedPools d)) =
      (listedPools d).filterMap (settlePool bs58 d) := by
    rw [resolveRaydiumVaults, resolveVaults_eq fun p hp =>
      raydiumResolved_of_not_needs (listedPools_dex_ne hp)]
    rw [resolvePumpswapVaults, resolveVaults_eq fun p _ => pumpswapResolved_of_not_needs]
    exact List.filterMap_filterMap
  unfold discoverPoolsForToken
  cases hr : d.response with
  | error e => rfl
  | ok pairs =>
    rw [← hsettle, listedPools, hr]
    rfl

/-- A scan gets the first candidate of every DEX, unless the discovery itself fails,
which leaves no candidates. -/
theorem getOrDiscoverPools_cases (bs58 : Bytes → String) (reg : PoolRegistry) (tokenMint : String)
    (d : Discovery) :
    (∃ e reg', getOrDiscoverPools bs58 reg tokenMint d = (.error e, reg') ∧
      candidatePools bs58 reg tokenMint d = []) ∨
    ∃ reg', getOrDiscoverPools bs58 reg tokenMint d =
      (.ok (dedupByDex (candidatePools bs58 reg tokenMint d)), reg') := by
  unfold getOrDiscoverPools candidatePools
  cases (reg.lookup tokenMint).getD [] with
  | cons p ps => exact Or.inr ⟨reg, rfl⟩
  | nil =>
    have hdisc := discoverPoolsForToken_toOption bs58 d
    cases hfound : discoverPoolsForToken bs58 d with
    | error e =>
      refine Or.inl ⟨e, reg, rfl, ?_⟩
      rw [hfound, toOption_error, eq_comm, Option.map_eq_none_iff] at hdisc
      simp [listedPools, hdisc]
    | ok found =>
      rw [hfound, toOption_ok, eq_comm, Option.map_eq_some_iff] at hdisc
      obtain ⟨_, _, hfound'⟩ := hdisc
      exact Or.inr ⟨_, by rw [← hfound']⟩

theorem dedupByDex_find? {pools : List KnownPool} (h : pool ∈ dedupByDex pools) :
    (dedupByDex pools).find? (fun p => p.dex = pool.dex) = some pool :=
  find?_key_of_nodup KnownPool.dex (firstBy_keys_nodup KnownPool.dex [] pools) h

theorem mem_dedupByDex {pools : List KnownPool} : pool ∈ dedupByDex pools ↔
    ∃ before after, pools = before ++ pool :: after ∧ ∀ p ∈ before, p.dex ≠ pool.dex := by
  simp [dedupByDex, mem_firstBy]

end Base58
end SolanaArb.LocalScanner
