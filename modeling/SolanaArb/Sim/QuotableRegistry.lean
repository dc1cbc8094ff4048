import SolanaArb.Sim.RegistryTasks

/-! # Whether registered pools can be quoted

Raydium, CLMM and PumpSwap pools are quoted from their vaults. A discovery drops the
pools it cannot resolve, except when the fetch of their accounts fails as a whole:
then it keeps all of them as listed, without vaults, and they are stored.
-/
namespace SolanaArb.LocalScanner
open SolanaArb.PoolDecoder SolanaArb.AmmQuoter SolanaArb.General

def NeedsVaults (dex : Dex) : Prop := dex = .raydium ∨ dex = .raydiumClmm ∨ dex = .pumpSwap

def HasVaults (pool : KnownPool) : Prop := NeedsVaults pool.dex → pool.vaultAddresses.isSome

/-- The two account fetches of a discovery succeed. Fetching no accounts does. -/
def FetchesSucceed (d : Discovery) : Prop :=
  (fetchNeeded needsRaydiumVaults d.raydiumRpc (listedPools d)).isSome ∧
  (fetchNeeded needsPumpswapVaults d.pumpswapRpc (listedPools d)).isSome

instance (d : Discovery) : Decidable (FetchesSucceed d) := inferInstanceAs (Decidable (_ ∧ _))

section Settle
variable {bs58 : Bytes → String} {d : Discovery} {pool pool' : KnownPool}

/-- A pool that needs vaults stays as it is after a failed fetch; after a successful one
it is kept only once resolved. -/
theorem settleVaults_cases {needs : KnownPool → Bool} {resolve : AccountMap → KnownPool → KnownPool}
    {resolved : KnownPool → Bool} {accounts : Option AccountMap} (hneeds : needs pool = true)
    (h : settleVaults needs resolve resolved accounts pool = some pool') :
    (accounts = none ∧ pool' = pool) ∨
      ∃ found, accounts = some found ∧ pool' = resolve found pool ∧ resolved pool' = true := by
  unfold settleVaults at h
  cases accounts with
  | none => exact Or.inl ⟨rfl, (Option.some.inj h).symm⟩
  | some found =>
    simp only [hneeds, if_true, Option.ite_none_right_eq_some, Option.some.injEq] at h
    obtain ⟨hres, rfl⟩ := h
    exact Or.inr ⟨found, rfl, rfl, hres⟩

theorem resolveRaydiumPool_dex (accounts : AccountMap) (h : pool.dex = .raydium) :
    (resolveRaydiumPool bs58 accounts pool).dex = .raydium ∨
      (resolveRaydiumPool bs58 accounts pool).dex = .raydiumClmm := by
  unfold resolveRaydiumPool
  cases accounts.lookup pool.poolAddress with
  | none => exact Or.inl h
  | some data =>
    dsimp only
    split
    · cases decodeRaydiumPoolVaults data with
      | error e => exact Or.inl h
      | ok vaults => exact Or.inl h
    · split
      · cases decodeRaydiumClmm data with
        | error e => exact Or.inl h
        | ok state => exact Or.inr rfl
      · exact Or.inl h

/-- Listed pools come without vaults. -/
theorem listedPools_vaults (h : pool ∈ listedPools d) : pool.vaultAddresses = none := by
  obtain ⟨pair, _, hpair⟩ := List.mem_filterMap.mp h
  obtain rfl := poolOfPair_eq hpair
  rfl

theorem needsRaydiumVaults_iff (h : pool ∈ listedPools d) :
    needsRaydiumVaults pool = true ↔ pool.dex = .raydium := by
  simp [needsRaydiumVaults, listedPools_vaults h]

theorem needsPumpswapVaults_iff (h : pool ∈ listedPools d) :
    needsPumpswapVaults pool = true ↔ pool.dex = .pumpSwap := by
  simp [needsPumpswapVaults, listedPools_vaults h]

/-- The Raydium step leaves every other listed pool as it is. -/
theorem settleRaydium_other (h : pool ∈ listedPools d) (hdex : pool.dex ≠ .raydium) :
    settleRaydium bs58 d pool = some pool := by
  have hneeds : needsRaydiumVaults pool = false :=
    Bool.eq_false_of_not_eq_true (fun hn => hdex ((needsRaydiumVaults_iff h).mp hn))
  exact settleVaults_of_resolved _ hneeds (raydiumResolved_of_not_needs (listedPools_dex_ne h) hneeds)

/-- A Raydium pool stays one or becomes a CLMM pool, with its vaults unless the fetch
failed. -/
theorem settleRaydium_spec (h : pool ∈ listedPools d) (hdex : pool.dex = .raydium)
    (hs : settleRaydium bs58 d pool = some pool') :
    (pool'.dex = .raydium ∨ pool'.dex = .raydiumClmm) ∧
      ((fetchNeeded needsRaydiumVaults d.raydiumRpc (listedPools d)).isSome →
        pool'.vaultAddresses.isSome) := by
  have hneeds := (needsRaydiumVaults_iff h).mpr hdex
  rcases settleVaults_cases hneeds hs with ⟨hfail, rfl⟩ | ⟨accounts, _, rfl, hres⟩
  · rw [hfail]
    exact ⟨Or.inl hdex, fun hsome => by cases hsome⟩
  · have hdex' : (resolveRaydiumPool bs58 accounts pool).dex = .raydium ∨
        (resolveRaydiumPool bs58 accounts pool).dex = .raydiumClmm :=
      resolveRaydiumPool_dex accounts hdex
    refine ⟨hdex', fun _ => ?_⟩
    unfold raydiumResolved at hres
    rcases hdex' with hd | hd
    · simpa [hd] using hres
    · simpa [hd] using hres

/-- Only a listed PumpSwap pool is one after the Raydium step. -/
theorem settleRaydium_ne_pumpSwap (h : pool ∈ listedPools d) (hdex : pool.dex ≠ .pumpSwap)
    (hs : settleRaydium bs58 d pool = some pool') : pool'.dex ≠ .pumpSwap := by
  by_cases hray : pool.dex = .raydium
  · rcases (settleRaydium_spec h hray hs).1 with hd | hd
    · rw [hd]
      decide
    · rw [hd]
      decide
  · rw [settleRaydium_other h hray] at hs
    obtain rfl := Option.some.inj hs
    exact hdex

theorem filter_filterMap_of_kept {α : Type*} {f : α → Option α} {keep : α → Bool} {l : List α}
    (hkeep : ∀ x ∈ l, keep x = true → f x = some x)
    (hdrop : ∀ x ∈ l, keep x = false → ∀ y, f x = some y → keep y = false) :
    (l.filterMap f).filter keep = l.filter keep := by
  rw [List.filter_filterMap, ← List.filterMap_eq_filter]
  apply List.filterMap_congr
  intro x hx
  cases hk : keep x with
  | true => simp [hkeep x hx hk, Option.guard, hk]
  | false =>
    cases hf : f x with
    | none => simp [Option.guard, hk]
    | some y => simp [Option.filter, Option.guard, hdrop x hx hk y hf, hk]

/-- The PumpSwap accounts fetched are those of the listed PumpSwap pools. -/
theorem fetchNeeded_pumpswap (bs58 : Bytes → String) (d : Discovery) :
    fetchNeeded needsPumpswapVaults d.pumpswapRpc
      ((listedPools d).filterMap (settleRaydium bs58 d)) =
    fetchNeeded needsPumpswapVaults d.pumpswapRpc (listedPools d) := by
  unfold fetchNeeded
  rw [filter_filterMap_of_kept]
  · intro pool hpool hneeds
    have hdex := (needsPumpswapVaults_iff hpool).mp hneeds
    exact settleRaydium_other hpool (by rw [hdex]; decide)
  · intro pool hpool hneeds pool' hs
    have hdex : pool.dex ≠ .pumpSwap := by
      intro hpump
      rw [(needsPumpswapVaults_iff hpool).mpr hpump] at hneeds
      cases hneeds
    simp [needsPumpswapVaults, settleRaydium_ne_pumpSwap hpool hdex hs]

theorem settlePumpswap_other (hdex : pool.dex ≠ .pumpSwap) :
    settlePumpswap bs58 d pool = some pool := by
  have hneeds : needsPumpswapVaults pool = false := by simp [needsPumpswapVaults, hdex]
  exact settleVaults_of_resolved _ hneeds (pumpswapResolved_of_not_needs hneeds)

theorem resolvePumpswapPool_dex (accounts : AccountMap) (pool : KnownPool) :
    (resolvePumpswapPool bs58 accounts pool).dex = pool.dex := by
  unfold resolvePumpswapPool
  cases accounts.lookup pool.poolAddress with
  | none => rfl
  | some data =>
    dsimp only
    cases decodePumpswapPool data with
    | error e => rfl
    | ok state => rfl

theorem settlePumpswap_spec (h : pool ∈ listedPools d) (hdex : pool.dex = .pumpSwap)
    (hs : settlePumpswap bs58 d pool = some pool') :
    pool'.dex = .pumpSwap ∧
      ((fetchNeeded needsPumpswapVaults d.pumpswapRpc (listedPools d)).isSome →
        pool'.vaultAddresses.isSome) := by
  have hneeds := (needsPumpswapVaults_iff h).mpr hdex
  rw [← fetchNeeded_pumpswap bs58]
  rcases settleVaults_cases hneeds hs with ⟨hfail, rfl⟩ | ⟨accounts, _, rfl, hres⟩
  · rw [hfail]
    exact ⟨hdex, fun hsome => by cases hsome⟩
  · have hdex' : (resolvePumpswapPool bs58 accounts pool).dex = .pumpSwap :=
      (resolvePumpswapPool_dex accounts pool).trans hdex
    refine ⟨hdex', fun _ => ?_⟩
    simpa [pumpswapResolved, hdex'] using hres

theorem settleRaydium_of_failed (pool : KnownPool)
    (hfail : fetchNeeded needsRaydiumVaults d.raydiumRpc (listedPools d) = none) :
    settleRaydium bs58 d pool = some pool := by
  unfold settleRaydium
  rw [hfail]
  rfl

theorem settlePumpswap_of_failed (pool : KnownPool)
    (hfail : fetchNeeded needsPumpswapVaults d.pumpswapRpc (listedPools d) = none) :
    settlePumpswap bs58 d pool = some pool := by
  unfold settlePumpswap
  rw [fetchNeeded_pumpswap, hfail]
  rfl

end Settle

section Found
variable {bs58 : Bytes → String} {d : Discovery} {pool pool' : KnownPool} {found : List KnownPool}

/-- Every found pool is one of the listed ones after both steps. -/
theorem mem_found (h : discoverPoolsForToken bs58 d = .ok found) : pool' ∈ found ↔
    ∃ pool ∈ listedPools d, ∃ mid, settleRaydium bs58 d pool = some mid ∧
      settlePumpswap bs58 d mid = some pool' := by
  have hoption := discoverPoolsForToken_toOption bs58 d
  rw [h, toOption_ok, eq_comm, Option.map_eq_some_iff] at hoption
  obtain ⟨_, _, rfl⟩ := hoption
  simp only [List.mem_filterMap, settlePool, Option.bind_eq_some_iff]

theorem settled_hasVaults (hd : FetchesSucceed d) (hpool : pool ∈ listedPools d) {mid : KnownPool}
    (h1 : settleRaydium bs58 d pool = some mid) (h2 : settlePumpswap bs58 d mid = some pool') :
    HasVaults pool' := by
  by_cases hray : pool.dex = .raydium
  · obtain ⟨_, hvaults⟩ := settleRaydium_spec hpool hray h1
    have hother : mid.dex ≠ .pumpSwap :=
      settleRaydium_ne_pumpSwap hpool (by rw [hray]; decide) h1
    rw [settlePumpswap_other hother] at h2
    obtain rfl := Option.some.inj h2
    exact fun _ => hvaults hd.1
  · rw [settleRaydium_other hpool hray] at h1
    obtain rfl := Option.some.inj h1
    by_cases hpump : pool.dex = .pumpSwap
    · exact fun _ => (settlePumpswap_spec hpool hpump h2).2 hd.2
    · rw [settlePumpswap_other hpump] at h2
      obtain rfl := Option.some.inj h2
      intro hneeds
      rcases hneeds with hdex | hdex | hdex
      · exact absurd hdex hray
      · exact absurd hdex (listedPools_dex_ne hpool)
      · exact absurd hdex hpump

theorem exists_needed {needs : KnownPool → Bool} {rpc : Rpc} {pools : List KnownPool}
    (h : fetchNeeded needs rpc pools = none) : ∃ pool ∈ pools, needs pool = true := by
  by_contra hnone
  have hfilter : pools.filter needs = [] := by
    rw [List.filter_eq_nil_iff]
    intro pool hpool hneeds
    exact hnone ⟨pool, hpool, hneeds⟩
  rw [fetchNeeded, hfilter] at h
  cases h

/-- A failed fetch leaves the listed pools it was for without vaults. -/
theorem found_pumpswap_unresolved (h : discoverPoolsForToken bs58 d = .ok found)
    (hfail : fetchNeeded needsPumpswapVaults d.pumpswapRpc (listedPools d) = none) :
    (∃ pool ∈ found, pool.dex = .pumpSwap) ∧
      ∀ pool ∈ found, pool.dex = .pumpSwap → pool.vaultAddresses = none := by
  constructor
  · obtain ⟨pool, hpool, hneeds⟩ := exists_needed hfail
    have hdex := (needsPumpswapVaults_iff hpool).mp hneeds
    have hother : pool.dex ≠ .raydium := by
      rw [hdex]
      decide
    have hfound : pool ∈ found := (mem_found h).mpr
      ⟨pool, hpool, pool, settleRaydium_other hpool hother, settlePumpswap_of_failed pool hfail⟩
    exact ⟨pool, hfound, hdex⟩
  · intro pool' hpool' hdex'
    obtain ⟨pool, hpool, mid, h1, h2⟩ := (mem_found h).mp hpool'
    rw [settlePumpswap_of_failed mid hfail] at h2
    obtain rfl := Option.some.inj h2
    by_cases hpump : pool.dex = .pumpSwap
    · rw [settleRaydium_other hpool (by rw [hpump]; decide)] at h1
      obtain rfl := Option.some.inj h1
      exact listedPools_vaults hpool
    · exact absurd hdex' (settleRaydium_ne_pumpSwap hpool hpump h1)

theorem found_raydium_unresolved (h : discoverPoolsForToken bs58 d = .ok found)
    (hfail : fetchNeeded needsRaydiumVaults d.raydiumRpc (listedPools d) = none) :
    (∃ pool ∈ found, pool.dex = .raydium) ∧
      ∀ pool ∈ found, pool.dex = .raydium → pool.vaultAddresses = none := by
  constructor
  · obtain ⟨pool, hpool, hneeds⟩ := exists_needed hfail
    have hdex := (needsRaydiumVaults_iff hpool).mp hneeds
    have hother : pool.dex ≠ .pumpSwap := by
      rw [hdex]
      decide
    have hfound : pool ∈ found := (mem_found h).mpr
      ⟨pool, hpool, pool, settleRaydium_of_failed pool hfail, settlePumpswap_other hother⟩
    exact ⟨pool, hfound, hdex⟩
  · intro pool' hpool' hdex'
    obtain ⟨pool, hpool, mid, h1, h2⟩ := (mem_found h).mp hpool'
    rw [settleRaydium_of_failed pool hfail] at h1
    obtain rfl := Option.some.inj h1
    by_cases hpump : pool.dex = .pumpSwap
    · have hsame := (settlePumpswap_spec hpool hpump h2).1
      rw [hdex'] at hsame
      cases hsame
    · rw [settlePumpswap_other hpump] at h2
      obtain rfl := Option.some.inj h2
      exact listedPools_vaults hpool

/-- When a fetch fails, the pools of some venue are found without vaults, all of them. -/
theorem found_unresolved (h : discoverPoolsForToken bs58 d = .ok found)
    (hd : ¬ FetchesSucceed d) :
    ∃ dex, NeedsVaults dex ∧ (∃ pool ∈ found, pool.dex = dex) ∧
      ∀ pool ∈ found, pool.dex = dex → pool.vaultAddresses = none := by
  by_cases hray : (fetchNeeded needsRaydiumVaults d.raydiumRpc (listedPools d)).isSome
  · have hfail : fetchNeeded needsPumpswapVaults d.pumpswapRpc (listedPools d) = none :=
      Option.not_isSome_iff_eq_none.mp (fun hpump => hd ⟨hray, hpump⟩)
    exact ⟨.pumpSwap, Or.inr (Or.inr rfl), found_pumpswap_unresolved h hfail⟩
  · have hfail : fetchNeeded needsRaydiumVaults d.raydiumRpc (listedPools d) = none :=
      Option.not_isSome_iff_eq_none.mp hray
    exact ⟨.raydium, Or.inl rfl, found_raydium_unresolved h hfail⟩

end Found

end SolanaArb.LocalScanner

namespace SolanaArb.RegistryTasks
open SolanaArb.AmmQuoter SolanaArb.LocalScanner SolanaArb.General

/-- Every stored pool that is quoted from its vaults has them. -/
def AllQuotable (reg : PoolRegistry) : Prop :=
  ∀ tokenMint pools, reg.lookup tokenMint = some pools → ∀ pool ∈ pools, HasVaults pool

/-- A pool stored with its vaults, if it is stored again, is stored with its vaults. -/
def KeepsResolved (reg reg' : PoolRegistry) : Prop :=
  ∀ tokenMint pools pools', reg.lookup tokenMint = some pools →
    reg'.lookup tokenMint = some pools' → ∀ pool ∈ pools, ∀ pool' ∈ pools',
      pool'.poolAddress = pool.poolAddress → HasVaults pool → HasVaults pool'

/-- The account fetches that end a discovery succeed. -/
def FetchesAccounts (w : World) : Event → Prop
  | .finish task raydiumRpc pumpswapRpc =>
    ∀ f answered response, w.flights.lookup task = some f → f.answer = some (answered, response) →
      FetchesSucceed ⟨response, raydiumRpc, pumpswapRpc⟩
  | _ => True

def reached (bs58 : Bytes → String) (es : List Event) : World := es.foldl (World.next bs58) World.init

section Quotable
variable {bs58 : Bytes → String} {d : Discovery} {found : List KnownPool} {w : World} {e : Event}

theorem select_subset {caller : Caller} {pool : KnownPool} (h : pool ∈ caller.select found) :
    pool ∈ found := by
  cases caller with
  | register => exact h
  | scan =>
    obtain ⟨before, after, rfl, _⟩ := mem_dedupByDex.mp h
    exact List.mem_append_right before List.mem_cons_self

theorem exists_mem_select (caller : Caller) {pool : KnownPool} (h : pool ∈ found) :
    ∃ pool' ∈ caller.select found, pool'.dex = pool.dex := by
  cases caller with
  | register => exact ⟨pool, h, rfl⟩
  | scan => exact exists_mem_firstBy KnownPool.dex h List.not_mem_nil

theorem found_hasVaults (h : discoverPoolsForToken bs58 d = .ok found) (hd : FetchesSucceed d)
    {pool : KnownPool} (hpool : pool ∈ found) : HasVaults pool := by
  obtain ⟨listed, hlisted, mid, h1, h2⟩ := (mem_found h).mp hpool
  exact settled_hasVaults hd hlisted h1 h2

/-- A discovery whose request fails has no accounts to fetch. -/
theorem discover_ok_of_not_fetched (hd : ¬ FetchesSucceed d) :
    ∃ found, discoverPoolsForToken bs58 d = .ok found := by
  cases hresponse : d.response with
  | ok pairs =>
    unfold discoverPoolsForToken
    rw [hresponse]
    exact ⟨_, rfl⟩
  | error reason =>
    have hlisted : listedPools d = [] := by
      rw [listedPools, hresponse]
      rfl
    have hfetched : FetchesSucceed d := by
      unfold FetchesSucceed
      rw [hlisted]
      exact ⟨rfl, rfl⟩
    exact absurd hfetched hd

theorem AllQuotable.step (hw : AllQuotable w.registry) (he : FetchesAccounts w e) :
    AllQuotable (w.next bs58 e).registry := by
  have hstep : Step bs58 w e (w.next bs58 e) := rfl
  obtain ⟨_, ⟨hreg, _⟩ | ⟨task, r, p, f, answered, pools, rfl, hf, hstores, hreg, _⟩⟩ := hstep.cases
  · rw [hreg]
    exact hw
  · obtain ⟨hne, response, found, hanswer, hfound, rfl⟩ := stores_spec hstores
    rw [hreg]
    intro tokenMint pools hlookup pool hpool
    by_cases hmint : tokenMint = f.tokenMint
    · rw [hmint, registerPools_lookup hne, Option.some.injEq] at hlookup
      subst hlookup
      exact found_hasVaults hfound (he f answered response hf hanswer) (select_subset hpool)
    · rw [registerPools_lookup_ne hmint] at hlookup
      exact hw tokenMint pools hlookup pool hpool

/-- A failed fetch leaves the token with an entry that cannot be quoted. -/
theorem not_quotable_of_failed_fetch {task : ℕ} {r p : Rpc} {f : Flight} {answered : ℕ}
    {response : PairsResponse} (hf : w.flights.lookup task = some f)
    (hanswer : f.answer = some (answered, response)) (hfail : ¬ FetchesSucceed ⟨response, r, p⟩) :
    ¬ AllQuotable (w.next bs58 (.finish task r p)).registry := by
  obtain ⟨found, hfound⟩ : ∃ found, discoverPoolsForToken bs58 ⟨response, r, p⟩ = .ok found :=
    discover_ok_of_not_fetched hfail
  obtain ⟨dex, hdex, ⟨pool, hpool, rfl⟩, hnone⟩ := found_unresolved hfound hfail
  obtain ⟨stored, hstored, hsame⟩ := exists_mem_select f.caller hpool
  have hne : f.caller.select found ≠ [] := List.ne_nil_of_mem hstored
  have hstores : f.stores bs58 r p = some (answered, f.caller.select found) := by
    simp [Flight.stores, hanswer, hfound, hne, toOption_ok]
  have hnext : (w.next bs58 (.finish task r p)).registry =
      registerPools w.registry f.tokenMint (f.caller.select found) := by
    simp [World.next, hf, hanswer, hstores, World.store, World.tick]
  have hlookup : (w.next bs58 (.finish task r p)).registry.lookup f.tokenMint =
      some (f.caller.select found) := by
    rw [hnext, registerPools_lookup hne]
  intro hall
  have hvaults := hall f.tokenMint _ hlookup stored hstored (hsame ▸ hdex)
  rw [hnone stored (select_subset hstored) hsame] at hvaults
  cases hvaults

theorem allQuotable_next_iff (hw : AllQuotable w.registry) :
    AllQuotable (w.next bs58 e).registry ↔ FetchesAccounts w e := by
  refine ⟨?_, hw.step⟩
  intro hall
  cases e with
  | start => trivial
  | respond => trivial
  | finish task r p =>
    intro f answered response hf hanswer
    by_contra hfail
    exact not_quotable_of_failed_fetch hf hanswer hfail hall

end Quotable

/-- Over every run, the registry holds only pools that can be quoted, and keeps the
vaults of the pools it has, exactly when the account fetches of every discovery in it
succeed. -/
theorem registry_quotable_iff (bs58 : Bytes → String) (es : List Event) :
    ((∀ before, before <+: es → AllQuotable (reached bs58 before).registry) ∧
      ∀ before e, before ++ [e] <+: es →
        KeepsResolved (reached bs58 before).registry (reached bs58 (before ++ [e])).registry) ↔
    ∀ before e, before ++ [e] <+: es → FetchesAccounts (reached bs58 before) e := by
  have hinit : AllQuotable World.init.registry := by
    intro tokenMint pools h
    simp [World.init] at h
  have hiff := forall_prefix_iff (World.next bs58) World.init
    (I := fun w => AllQuotable w.registry) (C := FetchesAccounts) hinit
    (fun _ _ hw => allQuotable_next_iff hw) es
  constructor
  · rintro ⟨hall, _⟩
    exact hiff.mp hall
  · intro hfetches
    have hall := hiff.mpr hfetches
    refine ⟨hall, ?_⟩
    intro before e hprefix tokenMint _ pools' _ hlookup' _ _ pool' hpool' _ _
    exact hall (before ++ [e]) hprefix tokenMint pools' hlookup' pool' hpool'

def zeroKey : String := "11111111111111111111111111111111"

/-- The sniper registers a graduated pool with its vaults. -/
def resolved : List Event :=
  [.start 1 .register "TokenMint", .respond 1 (.ok (some [graduatedPair])),
    .finish 1 (constantRpc []) (constantRpc (List.replicate 301 0)),
    .start 2 .register "TokenMint", .respond 2 (.ok (some [graduatedPair]))]

/-- The next discovery of the token cannot reach the endpoint. -/
def fetchFails : Event := .finish 2 (fun _ => .error "timeout") (fun _ => .error "timeout")

theorem resolved_pool_unresolved :
    ¬ AllQuotable (reached base58Encode (resolved ++ [fetchFails])).registry ∧
    ¬ KeepsResolved (reached base58Encode resolved).registry
      (reached base58Encode (resolved ++ [fetchFails])).registry := by
  have hbefore : (reached base58Encode resolved).registry.lookup "TokenMint" =
      some [⟨"PoolAddress", .pumpSwap, zeroKey, zeroKey, some (zeroKey, zeroKey)⟩] := by decide +kernel
  have hafter : (reached base58Encode (resolved ++ [fetchFails])).registry.lookup "TokenMint" =
      some [⟨"PoolAddress", .pumpSwap, "TokenMint", wsolMint, none⟩] := by decide +kernel
  constructor
  · intro hall
    have hvaults := hall "TokenMint" _ hafter _ List.mem_cons_self (Or.inr (Or.inr rfl))
    cases hvaults
  · intro hkeeps
    have hvaults := hkeeps "TokenMint" _ _ hbefore hafter _ List.mem_cons_self _ List.mem_cons_self rfl
      (fun _ => rfl) (Or.inr (Or.inr rfl))
    cases hvaults

end SolanaArb.RegistryTasks
