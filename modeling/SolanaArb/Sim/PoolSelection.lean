import SolanaArb.Sim.RegistryTasks

/-! # Which pools are selected, and for how long

One pass keeps the first pool of every DEX. The pools of a discovery stay in the order of
the listed pairs through retyping and removal, so among pairs listed by decreasing
liquidity the kept pool of a DEX is its most liquid one. The selected list selects itself,
and is served until something is stored for its token.
-/
namespace SolanaArb.LocalScanner
open SolanaArb.AmmQuoter SolanaArb.General

/-- The liquidity a pair is filtered by. -/
def liquidityUsd (pair : DexScreenerPair) : ℚ := pair.liquidity.join.getD 0

def listedPairs (d : Discovery) : List DexScreenerPair := d.response.toOption.join.getD []

section Base58
variable (bs58 : Bytes → String)

/-- The pool that becomes of one listed pair, with the pair. -/
def settlePair (d : Discovery) (pair : DexScreenerPair) : Option (DexScreenerPair × KnownPool) :=
  ((poolOfPair pair).bind (settlePool bs58 d)).map (fun pool => (pair, pool))

/-- The surviving pools of a discovery with the pairs they come from. -/
def survivors (d : Discovery) : List (DexScreenerPair × KnownPool) :=
  (listedPairs d).filterMap (settlePair bs58 d)

/-- A call that may write the registry. -/
inductive RegistryCall
  | getOrDiscover (tokenMint : String) (d : Discovery)
  | register (tokenMint : String) (pools : List KnownPool)

def RegistryCall.run (reg : PoolRegistry) : RegistryCall → PoolRegistry
  | getOrDiscover tokenMint d => (getOrDiscoverPools bs58 reg tokenMint d).2
  | register tokenMint pools => registerPools reg tokenMint pools

def RegistryCall.registers (tokenMint : String) : RegistryCall → Prop
  | getOrDiscover _ _ => False
  | register tokenMint' _ => tokenMint' = tokenMint

end Base58

section Survivors
variable {bs58 : Bytes → String} {d : Discovery} {found : List KnownPool}

theorem map_snd_survivors : (survivors bs58 d).map Prod.snd =
    (listedPools d).filterMap (settlePool bs58 d) := by
  rw [survivors, listedPools, List.map_filterMap, List.filterMap_filterMap]
  apply List.filterMap_congr
  intro pair _
  simp [settlePair]

theorem map_fst_survivors_sublist :
    ((survivors bs58 d).map Prod.fst).Sublist (listedPairs d) := by
  unfold survivors
  induction listedPairs d with
  | nil => exact List.Sublist.refl []
  | cons pair pairs ih =>
    cases hpair : settlePair bs58 d pair with
    | none =>
      rw [List.filterMap_cons_none hpair]
      exact ih.cons pair
    | some s =>
      obtain ⟨pool, _, rfl⟩ := Option.map_eq_some_iff.mp hpair
      rw [List.filterMap_cons_some hpair, List.map_cons]
      exact ih.cons_cons pair

theorem survivors_pairwise
    (h : (listedPairs d).Pairwise (fun a b => liquidityUsd b ≤ liquidityUsd a)) :
    (survivors bs58 d).Pairwise (fun s s' => liquidityUsd s'.1 ≤ liquidityUsd s.1) :=
  List.pairwise_map.mp (h.sublist map_fst_survivors_sublist)

theorem found_eq_survivors (h : discoverPoolsForToken bs58 d = .ok found) :
    found = (survivors bs58 d).map Prod.snd := by
  have hoption := discoverPoolsForToken_toOption bs58 d
  rw [h, toOption_ok, eq_comm, Option.map_eq_some_iff] at hoption
  obtain ⟨_, _, hfound⟩ := hoption
  rw [map_snd_survivors, hfound]

theorem settleVaults_address {needs : KnownPool → Bool}
    {resolve : AccountMap → KnownPool → KnownPool} {resolved : KnownPool → Bool}
    {accounts : Option AccountMap} {pool pool' : KnownPool}
    (hresolve : ∀ found, (resolve found pool).poolAddress = pool.poolAddress)
    (h : settleVaults needs resolve resolved accounts pool = some pool') :
    pool'.poolAddress = pool.poolAddress := by
  unfold settleVaults at h
  cases accounts with
  | none =>
    cases h
    rfl
  | some found =>
    simp only [Option.ite_none_right_eq_some, Option.some.injEq] at h
    obtain ⟨_, rfl⟩ := h
    split
    · exact hresolve found
    · rfl

theorem resolveRaydiumPool_address (accounts : AccountMap) (pool : KnownPool) :
    (resolveRaydiumPool bs58 accounts pool).poolAddress = pool.poolAddress := by
  unfold resolveRaydiumPool
  repeat' split
  all_goals rfl

theorem resolvePumpswapPool_address (accounts : AccountMap) (pool : KnownPool) :
    (resolvePumpswapPool bs58 accounts pool).poolAddress = pool.poolAddress := by
  unfold resolvePumpswapPool
  repeat' split
  all_goals rfl

/-- Resolution may change the DEX, the mints and the vaults of a pool, not its address. -/
theorem survivors_address {s : DexScreenerPair × KnownPool} (h : s ∈ survivors bs58 d) :
    s.2.poolAddress = s.1.pairAddress := by
  obtain ⟨pair, _, hpair⟩ := List.mem_filterMap.mp h
  obtain ⟨pool, hsettle, rfl⟩ := Option.map_eq_some_iff.mp hpair
  obtain ⟨listed, hlisted, hsettle⟩ := Option.bind_eq_some_iff.mp hsettle
  obtain ⟨mid, hmid, hpool⟩ := Option.bind_eq_some_iff.mp hsettle
  have hfirst := settleVaults_address (fun found => resolveRaydiumPool_address found listed) hmid
  have hsecond := settleVaults_address (fun found => resolvePumpswapPool_address found mid) hpool
  obtain rfl := poolOfPair_eq hlisted
  exact hsecond.trans hfirst

end Survivors

section Dedup
variable {pools : List KnownPool}

theorem dedupByDex_sublist (pools : List KnownPool) : (dedupByDex pools).Sublist pools :=
  firstBy_sublist KnownPool.dex [] pools

theorem dedupByDex_nodup (pools : List KnownPool) :
    ((dedupByDex pools).map KnownPool.dex).Nodup := firstBy_keys_nodup KnownPool.dex [] pools

theorem dedupByDex_covers {pool : KnownPool} (h : pool ∈ pools) :
    ∃ kept ∈ dedupByDex pools, kept.dex = pool.dex :=
  exists_mem_firstBy KnownPool.dex h List.not_mem_nil

@[simp] theorem dedupByDex_idem (pools : List KnownPool) :
    dedupByDex (dedupByDex pools) = dedupByDex pools := firstBy_idem KnownPool.dex pools

theorem dedupByDex_map_snd (sources : List (DexScreenerPair × KnownPool)) :
    dedupByDex (sources.map Prod.snd) = (firstBy (fun s => s.2.dex) [] sources).map Prod.snd :=
  firstBy_map KnownPool.dex Prod.snd [] sources

/-- Among pools in the order of decreasing liquidity, each kept one has the largest of
its DEX. -/
theorem kept_most_liquid {sources : List (DexScreenerPair × KnownPool)}
    (hsorted : sources.Pairwise (fun s s' => liquidityUsd s'.1 ≤ liquidityUsd s.1))
    {kept other : DexScreenerPair × KnownPool}
    (hkept : kept ∈ firstBy (fun s => s.2.dex) [] sources) (hother : other ∈ sources)
    (hdex : other.2.dex = kept.2.dex) : liquidityUsd other.1 ≤ liquidityUsd kept.1 := by
  have hfirst := firstBy_first (fun s => s.2.dex) hsorted hkept hother hdex
  rcases hfirst with rfl | hle
  · exact le_rfl
  · exact hle

end Dedup

section Served
variable {bs58 : Bytes → String} {reg reg' : PoolRegistry} {tokenMint : String}
  {pools : List KnownPool} {d : Discovery}

/-- The registry has an entry for the token, and these are the pools selected from it. -/
def ServesToken (reg : PoolRegistry) (tokenMint : String) (pools : List KnownPool) : Prop :=
  ∃ entry, reg.lookup tokenMint = some entry ∧ entry ≠ [] ∧ dedupByDex entry = pools

/-- A served token gets its pools, and its discovery is not looked at. -/
theorem ServesToken.get (h : ServesToken reg tokenMint pools) (d : Discovery) :
    getOrDiscoverPools bs58 reg tokenMint d = (.ok pools, reg) := by
  obtain ⟨entry, hentry, hne, rfl⟩ := h
  unfold getOrDiscoverPools
  rw [hentry, Option.getD_some]
  cases entry with
  | nil => exact absurd rfl hne
  | cons pool rest => rfl

theorem ServesToken.of_register (hne : pools ≠ []) :
    ServesToken (registerPools reg tokenMint pools) tokenMint (dedupByDex pools) :=
  ⟨pools, RegistryTasks.registerPools_lookup hne, hne, rfl⟩

theorem ServesToken.register_ne (h : ServesToken reg tokenMint pools) {other : String}
    (hne : other ≠ tokenMint) (pools' : List KnownPool) :
    ServesToken (registerPools reg other pools') tokenMint pools := by
  obtain ⟨entry, hentry, hentryNe, hpools⟩ := h
  exact ⟨entry, (RegistryTasks.registerPools_lookup_ne hne.symm).trans hentry, hentryNe, hpools⟩

theorem getOrDiscoverPools_ok (h : getOrDiscoverPools bs58 reg tokenMint d = (.ok pools, reg')) :
    (ServesToken reg tokenMint pools ∧ reg' = reg) ∨
      ∃ found, discoverPoolsForToken bs58 d = .ok found ∧ pools = dedupByDex found ∧
        reg' = registerPools reg tokenMint pools := by
  unfold getOrDiscoverPools at h
  cases hentry : (reg.lookup tokenMint).getD [] with
  | cons pool rest =>
    rw [hentry] at h
    cases h
    cases hlookup : reg.lookup tokenMint with
    | none => simp [hlookup] at hentry
    | some entry =>
      rw [hlookup, Option.getD_some] at hentry
      subst hentry
      exact Or.inl ⟨⟨_, hlookup, List.cons_ne_nil pool rest, rfl⟩, rfl⟩
  | nil =>
    rw [hentry] at h
    dsimp only at h
    cases hfound : discoverPoolsForToken bs58 d with
    | error e =>
      rw [hfound] at h
      cases h
    | ok found =>
      rw [hfound] at h
      cases h
      exact Or.inr ⟨found, rfl, rfl, rfl⟩

theorem getOrDiscoverPools_registry (bs58 : Bytes → String) (reg : PoolRegistry)
    (tokenMint : String) (d : Discovery) :
    (getOrDiscoverPools bs58 reg tokenMint d).2 = reg ∨
      ∃ pools, (getOrDiscoverPools bs58 reg tokenMint d).2 = registerPools reg tokenMint pools := by
  unfold getOrDiscoverPools
  split
  · exact Or.inl rfl
  · split
    · exact Or.inl rfl
    · exact Or.inr ⟨_, rfl⟩

/-- Found or registered before, the same pools are selected. -/
theorem getOrDiscoverPools_selects {found : List KnownPool}
    (h : discoverPoolsForToken bs58 d = .ok found) :
    ((reg.lookup tokenMint).getD [] = [] →
      (getOrDiscoverPools bs58 reg tokenMint d).1 = .ok (dedupByDex found)) ∧
    (found ≠ [] → ∀ d', (getOrDiscoverPools bs58 (registerPools reg tokenMint found) tokenMint
      d').1 = .ok (dedupByDex found)) := by
  constructor
  · intro hnone
    rw [getOrDiscoverPools, hnone]
    dsimp only
    rw [h]
  · intro hne d'
    rw [(ServesToken.of_register hne).get]

theorem ServesToken.of_get (h : getOrDiscoverPools bs58 reg tokenMint d = (.ok pools, reg'))
    (hne : pools ≠ []) : ServesToken reg' tokenMint pools := by
  rcases getOrDiscoverPools_ok h with ⟨hserves, rfl⟩ | ⟨found, _, rfl, rfl⟩
  · exact hserves
  · have hregistered : ServesToken (registerPools reg tokenMint (dedupByDex found)) tokenMint
        (dedupByDex (dedupByDex found)) := ServesToken.of_register hne
    rwa [dedupByDex_idem] at hregistered

/-- No call writes a served token's entry but its own registration. -/
theorem ServesToken.call (h : ServesToken reg tokenMint pools) {call : RegistryCall}
    (hcall : ¬ call.registers tokenMint) : ServesToken (call.run bs58 reg) tokenMint pools := by
  cases call with
  | register tokenMint' pools' => exact h.register_ne hcall pools'
  | getOrDiscover tokenMint' d =>
    rw [RegistryCall.run]
    by_cases hmint : tokenMint' = tokenMint
    · subst hmint
      rw [h.get]
      exact h
    · rcases getOrDiscoverPools_registry bs58 reg tokenMint' d with hreg | ⟨pools', hreg⟩
      · rw [hreg]
        exact h
      · rw [hreg]
        exact h.register_ne hmint pools'

theorem ServesToken.calls (h : ServesToken reg tokenMint pools) {calls : List RegistryCall}
    (hcalls : ∀ call ∈ calls, ¬ call.registers tokenMint) :
    ServesToken (calls.foldl (RegistryCall.run bs58) reg) tokenMint pools := by
  induction calls generalizing reg with
  | nil => exact h
  | cons call calls ih =>
    exact ih (h.call (hcalls call List.mem_cons_self))
      (fun c hc => hcalls c (List.mem_cons_of_mem call hc))

end Served

/-- The selection is the first pool of every DEX, in order; of a discovery whose pairs are
listed by decreasing liquidity it is the most liquid surviving pool of every DEX; and once
selected, a non-empty list is served until its token is registered. -/
theorem pool_selection_stable (bs58 : Bytes → String) :
    (∀ pools : List KnownPool, (dedupByDex pools).Sublist pools ∧
      (∀ pool, pool ∈ dedupByDex pools ↔
        ∃ before after, pools = before ++ pool :: after ∧ ∀ p ∈ before, p.dex ≠ pool.dex) ∧
      ((dedupByDex pools).map KnownPool.dex).Nodup ∧
      ∀ pool ∈ pools, ∃ kept ∈ dedupByDex pools, kept.dex = pool.dex) ∧
    (∀ d found, discoverPoolsForToken bs58 d = .ok found →
      (listedPairs d).Pairwise (fun a b => liquidityUsd b ≤ liquidityUsd a) →
      found = (survivors bs58 d).map Prod.snd ∧
      (∀ s ∈ survivors bs58 d, s.2.poolAddress = s.1.pairAddress) ∧
      (∀ reg tokenMint, ((reg.lookup tokenMint).getD [] = [] →
          (getOrDiscoverPools bs58 reg tokenMint d).1 = .ok (dedupByDex found)) ∧
        (found ≠ [] → ∀ d', (getOrDiscoverPools bs58 (registerPools reg tokenMint found) tokenMint
          d').1 = .ok (dedupByDex found))) ∧
      ∃ kept : List (DexScreenerPair × KnownPool), kept.Sublist (survivors bs58 d) ∧
        dedupByDex found = kept.map Prod.snd ∧
        ∀ s ∈ kept, ∀ s' ∈ survivors bs58 d, s'.2.dex = s.2.dex →
          liquidityUsd s'.1 ≤ liquidityUsd s.1) ∧
    ∀ reg tokenMint d pools reg', getOrDiscoverPools bs58 reg tokenMint d = (.ok pools, reg') →
      pools ≠ [] → ∀ calls : List RegistryCall, (∀ call ∈ calls, ¬ call.registers tokenMint) →
      ((calls.foldl (RegistryCall.run bs58) reg').lookup tokenMint).getD [] ≠ [] ∧
      ∀ d', getOrDiscoverPools bs58 (calls.foldl (RegistryCall.run bs58) reg') tokenMint d' =
        (.ok pools, calls.foldl (RegistryCall.run bs58) reg') := by
  refine ⟨?_, ?_, ?_⟩
  · intro pools
    exact ⟨dedupByDex_sublist pools, fun pool => mem_dedupByDex, dedupByDex_nodup pools,
      fun pool hpool => dedupByDex_covers hpool⟩
  · intro d found hfound hsorted
    have hsources := found_eq_survivors hfound
    refine ⟨hsources, fun s hs => survivors_address hs,
      fun reg tokenMint => getOrDiscoverPools_selects hfound,
      firstBy (fun s => s.2.dex) [] (survivors bs58 d), firstBy_sublist _ _ _, ?_, ?_⟩
    · rw [hsources, dedupByDex_map_snd]
    · intro s hs s' hs' hdex
      exact kept_most_liquid (survivors_pairwise hsorted) hs hs' hdex
  · intro reg tokenMint d pools reg' hget hne calls hcalls
    have hserves : ServesToken (calls.foldl (RegistryCall.run bs58) reg') tokenMint pools :=
      (ServesToken.of_get hget hne).calls hcalls
    refine ⟨?_, fun d' => hserves.get d'⟩
    obtain ⟨entry, hentry, hentryNe, _⟩ := hserves
    rw [hentry]
    exact hentryNe

def listedPair (address dexId : String) (usd : ℚ) : DexScreenerPair :=
  ⟨address, dexId, "TokenMint", wsolMint, some (some usd)⟩

/-- Two Orca pools around a bonding curve. -/
def orcaAndCurve : Discovery where
  response := .ok (some [listedPair "DeepOrca" "orca" 9000, listedPair "Curve" "pumpfun" 6000,
    listedPair "ShallowOrca" "orca" 5000])
  raydiumRpc := fun _ => .error "timeout"
  pumpswapRpc := fun _ => .error "timeout"

def orcaCurvePools : List KnownPool :=
  [⟨"DeepOrca", .orca, "TokenMint", wsolMint, none⟩,
    ⟨"Curve", .pumpFun, "TokenMint", wsolMint, none⟩]

theorem pool_selection_stable_orca_curve :
    (∃ kept : List (DexScreenerPair × KnownPool), orcaCurvePools = kept.map Prod.snd ∧
      ∀ s ∈ kept, ∀ s' ∈ survivors base58Encode orcaAndCurve, s'.2.dex = s.2.dex →
        liquidityUsd s'.1 ≤ liquidityUsd s.1) ∧
    ∀ d', (getOrDiscoverPools base58Encode
      (registerPools (getOrDiscoverPools base58Encode ∅ "TokenMint" orcaAndCurve).2 "OtherMint"
        orcaCurvePools) "TokenMint" d').1 = .ok orcaCurvePools := by
  obtain ⟨_, hliquid, hserved⟩ := pool_selection_stable base58Encode
  have hfound : discoverPoolsForToken base58Encode orcaAndCurve =
      .ok (orcaCurvePools ++ [⟨"ShallowOrca", .orca, "TokenMint", wsolMint, none⟩]) := by
    decide +kernel
  have hsorted : (listedPairs orcaAndCurve).Pairwise
      (fun a b => liquidityUsd b ≤ liquidityUsd a) := by decide +kernel
  obtain ⟨_, _, _, kept, _, hkept, hmost⟩ := hliquid orcaAndCurve _ hfound hsorted
  have hfirst : (getOrDiscoverPools base58Encode ∅ "TokenMint" orcaAndCurve).1 =
      .ok orcaCurvePools := by decide +kernel
  have hcalls : ∀ call ∈ [RegistryCall.register "OtherMint" orcaCurvePools],
      ¬ call.registers "TokenMint" := by
    intro call hcall
    obtain rfl := List.mem_singleton.mp hcall
    change ¬ "OtherMint" = "TokenMint"
    decide
  have hserves := (hserved ∅ "TokenMint" orcaAndCurve orcaCurvePools _ (Prod.ext hfirst rfl)
    (by decide) [.register "OtherMint" orcaCurvePools] hcalls).2
  refine ⟨⟨kept, ?_, hmost⟩, fun d' => congrArg Prod.fst (hserves d')⟩
  rw [← hkept]
  decide +kernel

end SolanaArb.LocalScanner

namespace SolanaArb.RegistryTasks
open SolanaArb.LocalScanner SolanaArb.General

/-- The event does not end a discovery of this token. -/
def Quiet (tokenMint : String) (w : World) (e : Event) : Prop :=
  ∀ task raydiumRpc pumpswapRpc f, e = .finish task raydiumRpc pumpswapRpc →
    w.flights.lookup task = some f → f.tokenMint ≠ tokenMint

/-- In every interleaving a served token keeps its pools while no discovery of it ends. -/
theorem run_serves {bs58 : Bytes → String} {tokenMint : String} {pools : List KnownPool}
    {w w' : World} {es : List Event}
    (hr : Run (fun w e w' => Step bs58 w e w' ∧ Quiet tokenMint w e) w es w')
    (h : ServesToken w.registry tokenMint pools) : ServesToken w'.registry tokenMint pools := by
  apply hr.invariant (fun _ w => ServesToken w.registry tokenMint pools) h
  rintro _ s e t _ hserves ⟨hstep, hquiet⟩
  obtain ⟨_, ⟨hreg, _⟩ | ⟨task, r, p, f, _, stored, he, hf, _, hreg, _⟩⟩ := hstep.cases
  · rw [hreg]
    exact hserves
  · rw [hreg]
    exact hserves.register_ne (hquiet task r p f he hf) stored

end SolanaArb.RegistryTasks
