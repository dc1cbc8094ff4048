import SolanaArb.Feed.Graduations
import SolanaArb.Feed.Discovery
import SolanaArb.General.FirstBy

/-! # The pools the monitor watches

A call of `run` asks DexScreener for the pairs of every watched mint and keeps the first
pair of every address; then it asks the endpoint for the accounts behind each pool. All
that the monitor sends in this call names a pool so listed, on its DEX and with the mint
for which it was listed first.
-/
namespace SolanaArb.PoolMonitor
open SolanaArb.PoolDecoder SolanaArb.General SolanaArb.DexScreener SolanaArb.Discovery

/-- The DEXs whose accounts can be decoded. -/
def subscribable : Dex → Bool
  | .raydium | .orca | .meteora | .pumpFun => true
  | _ => false

/-- What DexScreener answers for one watched mint. -/
structure Listing where
  now : Timestamp
  response : Response

def poolOfQuote (q : PriceQuote) : Option DiscoveredPool := do
  let poolAddress ← q.poolAddress
  if subscribable q.dex then some ⟨poolAddress, q.dex, q.baseMint, q.quoteMint⟩ else none

def listedPools (minLiquidity : ℚ) (mint : String) (listing : Listing) : List DiscoveredPool :=
  match getAllPairs mint minLiquidity listing.now listing.response with
  | .ok quotes => quotes.filterMap poolOfQuote
  | .error _ => []

/-- The pools of all watched mints as they are met; the mint at `i` has the answer `i`. -/
def offeredPools (watchMints : List String) (minLiquidity : ℚ) (listings : ℕ → Listing) :
    List DiscoveredPool :=
  watchMints.zipIdx.flatMap (fun entry => listedPools minLiquidity entry.1 (listings entry.2))

def discoverPools (watchMints : List String) (minLiquidity : ℚ) (listings : ℕ → Listing) :
    List DiscoveredPool :=
  firstBy DiscoveredPool.poolAddress [] (offeredPools watchMints minLiquidity listings)

def resolveTokenDecimals (mint : String) (response : AccountResponse) : Except String UInt8 := do
  let data ← fetchAccountData mint response
  decodeMintDecimals data

/-- What the endpoint answers while one pool is subscribed. -/
structure PoolAnswers where
  baseMint : AccountResponse
  quoteMint : AccountResponse
  pool : AccountResponse

/-- What one call of `run` is answered. -/
structure RunAnswers where
  listings : ℕ → Listing
  accounts : ℕ → PoolAnswers

section Resolve
variable (bs58 : Bytes → String)

def resolveRaydiumVaults (poolAddress : String) (response : AccountResponse) :
    Except String (String × String) := do
  let data ← fetchAccountData poolAddress response
  let (coinBytes, pcBytes) ← decodeRaydiumPoolVaults data
  return (bs58 coinBytes, bs58 pcBytes)

def resolve (pool : DiscoveredPool) (answers : PoolAnswers) : Resolution where
  baseDecimals := (resolveTokenDecimals pool.baseMint answers.baseMint).toOption
  quoteDecimals := (resolveTokenDecimals pool.quoteMint answers.quoteMint).toOption
  vaults := resolveRaydiumVaults bs58 pool.poolAddress answers.pool
  account := fetchAccountData pool.poolAddress answers.pool

def RunAnswers.discovered (answers : RunAnswers) (watchMints : List String) (minLiquidity : ℚ) :
    List (DiscoveredPool × Resolution) :=
  (discoverPools watchMints minLiquidity answers.listings).zipIdx.map
    (fun entry => (entry.1, resolve bs58 entry.1 (answers.accounts entry.2)))

end Resolve

/-- The monitor task with the calls of `run` it makes. -/
structure Watching where
  supervised : Supervised
  /-- Not in the program: what each call was answered, oldest first. -/
  calls : List RunAnswers
  /-- Everything sent, each with the call it was sent in. -/
  emitted : List (ℕ × Emission)

/-- The order in which a call visits the keys of its table. -/
structure KeyOrder where
  order : List String → List String
  perm : ∀ keys, (order keys).Perm keys

inductive WatchEvent
  /-- `run` is called and subscribes to the keys of its table in this order. -/
  | run (answers : RunAnswers) (iter : KeyOrder)
  | message (msg : Option WsMessage) (solUsd : ℚ) (now : Timestamp)
  | sessionEnds (how : SessionEnd)

section Watch
variable (bs58 : Bytes → String) (watchMints : List String) (minLiquidity : ℚ)

def Watching.next (w : Watching) : WatchEvent → Watching
  | .run answers iter =>
    match w.supervised.monitoring with
    | some _ => w
    | none =>
      let discovered := answers.discovered bs58 watchMints minLiquidity
      { supervised := w.supervised.next bs58 (.discovered discovered
          (iter.order (buildSubscriptions bs58 discovered).roles.keys))
        calls := w.calls ++ [answers]
        emitted := w.emitted }
  | .message msg solUsd now =>
    match w.supervised.monitoring with
    | none => w
    | some m =>
      { supervised := w.supervised.next bs58 (.message msg solUsd now)
        calls := w.calls
        emitted := w.emitted ++
          (handleMessage m.watch.roles m.watch.accounts msg solUsd now m.state).2.map
            (fun e => (w.calls.length - 1, e)) }
  | .sessionEnds how => { w with supervised := w.supervised.next bs58 (.sessionEnds how) }

def watching (es : List WatchEvent) : Watching :=
  es.foldl (Watching.next bs58 watchMints minLiquidity) ⟨⟨none, 0, [], []⟩, [], []⟩

end Watch

def Emission.poolAddress : Emission → Option String
  | .quote q => q.poolAddress
  | .graduation e => some e.bondingCurveAddress

def Emission.dex : Emission → Dex
  | .quote q => q.dex
  | .graduation _ => .pumpFun

def Emission.baseMint : Emission → String
  | .quote q => q.baseMint
  | .graduation e => e.baseMint

structure Emission.About (e : Emission) (pool : DiscoveredPool) : Prop where
  poolAddress : e.poolAddress = some pool.poolAddress
  dex : e.dex = pool.dex
  baseMint : e.baseMint = pool.baseMint

/-- A pair of the answer for a watched mint is this pool. -/
structure ListedFor (watchMints : List String) (minLiquidity : ℚ) (listings : ℕ → Listing)
    (pool : DiscoveredPool) : Prop where
  pair : ∃ (i : ℕ) (pairs : List DexPair), watchMints[i]? = some pool.baseMint ∧
    (listings i).response = .ok (some pairs) ∧
    ∃ pair ∈ pairs, pair.pairAddress = some pool.poolAddress ∧
      Dex.fromDexscreenerId pair.dexId = pool.dex ∧
      ∃ liquidity, pair.liquidity = some liquidity ∧ minLiquidity ≤ liquidity.getD 0
  dex : subscribable pool.dex = true

/-- The accounts a pool is watched through. -/
def watchedAccounts (d : DiscoveredPool × Resolution) : List String :=
  match d.1.dex, d.2.vaults, d.2.account.bind decodeWhirlpoolMintA with
  | .raydium, .ok (coinVault, pcVault), _ => [coinVault, pcVault]
  | .orca, _, .ok _ => [d.1.poolAddress]
  | .pumpFun, _, _ => [d.1.poolAddress]
  | _, _, _ => []

section Listing
variable {watchMints : List String} {minLiquidity : ℚ} {listings : ℕ → Listing}
  {pool : DiscoveredPool}

theorem poolOfQuote_eq_some {q : PriceQuote} (h : poolOfQuote q = some pool) :
    q.poolAddress = some pool.poolAddress ∧ subscribable q.dex = true ∧ pool.dex = q.dex ∧
      pool.baseMint = q.baseMint := by
  obtain ⟨poolAddress, haddress, h⟩ := Option.bind_eq_some_iff.mp h
  split at h
  · next hdex =>
    obtain rfl := Option.some.inj h
    exact ⟨haddress, hdex, rfl, rfl⟩
  · cases h

theorem quoteOfPair_pair {mint : String} {now : Timestamp} {pair : DexPair} {q : PriceQuote}
    (h : quoteOfPair mint minLiquidity now pair = some q) :
    pair.pairAddress = q.poolAddress ∧ Dex.fromDexscreenerId pair.dexId = q.dex ∧
      q.baseMint = mint ∧
      ∃ liquidity, pair.liquidity = some liquidity ∧ minLiquidity ≤ liquidity.getD 0 := by
  unfold quoteOfPair at h
  obtain ⟨_, _, h⟩ := Option.bind_eq_some_iff.mp h
  obtain ⟨liquidity, hliquidity, h⟩ := Option.bind_eq_some_iff.mp h
  simp only [Option.ite_none_left_eq_some, not_lt, Option.some.injEq] at h
  obtain ⟨hle, _, rfl⟩ := h
  exact ⟨rfl, rfl, rfl, liquidity, hliquidity, hle⟩

theorem offeredPools_listed (h : pool ∈ offeredPools watchMints minLiquidity listings) :
    ListedFor watchMints minLiquidity listings pool := by
  obtain ⟨⟨mint, i⟩, hentry, hpool⟩ := List.mem_flatMap.mp h
  have hmint : watchMints[i]? = some mint := List.mem_zipIdx_iff_getElem?.mp hentry
  unfold listedPools at hpool
  split at hpool
  · next quotes hquotes =>
    obtain ⟨q, hq, hof⟩ := List.mem_filterMap.mp hpool
    obtain ⟨haddress, hdex, hpoolDex, hbase⟩ := poolOfQuote_eq_some hof
    unfold getAllPairs at hquotes
    cases hresponse : (listings i).response with
    | error e =>
      rw [hresponse] at hquotes
      cases hquotes
    | ok pairs =>
      rw [hresponse] at hquotes
      obtain rfl := Except.ok.inj hquotes
      obtain ⟨pair, hpair, hquote⟩ := List.mem_filterMap.mp hq
      obtain ⟨hpairAddress, hpairDex, rfl, hliquidity⟩ := quoteOfPair_pair hquote
      cases pairs with
      | none => exact absurd hpair List.not_mem_nil
      | some pairs =>
        constructor
        · refine ⟨i, pairs, hbase ▸ hmint, hresponse, pair, hpair, ?_, ?_, hliquidity⟩
          · rw [hpairAddress, haddress]
          · rw [hpairDex, hpoolDex]
        · rw [hpoolDex]
          exact hdex
  · exact absurd hpool List.not_mem_nil

/-- The discovered pools are the first ones offered at their addresses. -/
theorem mem_discoverPools : pool ∈ discoverPools watchMints minLiquidity listings ↔
    (offeredPools watchMints minLiquidity listings).find?
      (fun p => p.poolAddress = pool.poolAddress) = some pool := by
  rw [discoverPools, mem_firstBy, List.find?_eq_some_iff_append]
  simp

/-- A pool of two watched mints goes to the first of them. -/
example : discoverPools ["bonk", "wif"] 1000 (fun _ => ⟨0, .ok (some
    [⟨"orca", some (some 1), some (some 5000), some "pool", none, some (some "wif")⟩])⟩) =
      [⟨"pool", .orca, "bonk", "wif"⟩] := by decide +kernel

end Listing

section Subscribed
variable {bs58 : Bytes → String} {discovered : List (DiscoveredPool × Resolution)}

theorem mem_addSubscription (subs : Subscriptions) (d : DiscoveredPool × Resolution)
    (account : String) : account ∈ (addSubscription bs58 subs d.1 d.2).roles ↔
      account ∈ subs.roles ∨ account ∈ watchedAccounts d := by
  unfold addSubscription watchedAccounts
  cases hdex : d.1.dex with
  | raydium =>
    cases d.2.vaults with
    | error e => simp
    | ok vaults =>
      simp only [AList.mem_insert, List.mem_cons, List.not_mem_nil, or_false]
      tauto
  | orca =>
    cases hacc : d.2.account with
    | error e => simp [Except.bind]
    | ok data =>
      dsimp only [Except.bind]
      cases decodeWhirlpoolMintA data with
      | error e => simp
      | ok mintA =>
        simp only [AList.mem_insert, List.mem_singleton]
        tauto
  | pumpFun =>
    simp only [AList.mem_insert, List.mem_singleton]
    tauto
  | raydiumClmm => simp
  | jupiter => simp
  | meteora => simp
  | pumpSwap => simp
  | unknown => simp

/-- The accounts with a role are those of the discovered pools. -/
theorem mem_buildSubscriptions (account : String) :
    account ∈ (buildSubscriptions bs58 discovered).roles ↔
      ∃ d ∈ discovered, account ∈ watchedAccounts d := by
  unfold buildSubscriptions
  induction discovered using List.reverseRecOn with
  | nil => simp
  | append_singleton discovered last ih =>
    rw [List.foldl_append, List.foldl_cons, List.foldl_nil, mem_addSubscription, ih]
    simp only [List.mem_append, List.mem_singleton, or_and_right, exists_or, exists_eq_left]

end Subscribed

section Sources
variable {bs58 : Bytes → String} {discovered : List (DiscoveredPool × Resolution)}
  {accounts : List String} {msg : Option WsMessage} {solUsd : ℚ} {now : Timestamp}
  {st : MonitorState} {e : Emission}

theorem not_mem_of_graduations_nil {emissions : List Emission} {g : GraduationEvent}
    (h : emissions.filterMap Emission.graduation? = []) : Emission.graduation g ∉ emissions := by
  intro hg
  have hnone := List.filterMap_eq_nil_iff.mp h _ hg
  cases hnone

theorem updateCurve_graduation {poolAddress baseMint : String} {data : Bytes} {g : GraduationEvent}
    (h : .graduation g ∈ (updateCurve poolAddress baseMint data solUsd now st).2) :
    g.bondingCurveAddress = poolAddress ∧ g.baseMint = baseMint := by
  rcases updateCurve_cases solUsd now st poolAddress baseMint data with
    ⟨_, heq⟩ | ⟨state, memory, graduations, quotes, _, heq, hmemory, hquotes⟩
  · rw [heq] at h
    exact absurd h List.not_mem_nil
  · rw [heq] at h
    rcases List.mem_append.mp h with h | h
    · rcases hmemory with ⟨_, rfl⟩ | ⟨was, _, _, rfl⟩
      · exact absurd h List.not_mem_nil
      · split at h
        · obtain rfl := Emission.graduation.inj (List.mem_singleton.mp h)
          exact ⟨rfl, rfl⟩
        · exact absurd h List.not_mem_nil
    · rcases hquotes with rfl | ⟨price, _, rfl⟩
      · exact absurd h List.not_mem_nil
      · cases List.mem_singleton.mp h

/-- A graduation comes from a curve with a role. -/
theorem graduation_role (watch : Watch) {g : GraduationEvent}
    (h : .graduation g ∈ (handleMessage watch.roles watch.accounts msg solUsd now st).2) :
    ∃ account, watch.roles.lookup account =
      some (.pumpFunCurve g.bondingCurveAddress g.baseMint) := by
  rcases handleMessage_cases solUsd now st watch.roles watch.accounts msg with
    ⟨subId, data, role, _, hrole, heq⟩ | ⟨_, subs, heq, _⟩
  · rw [heq] at h
    obtain ⟨account, _, hlookup⟩ := Option.bind_eq_some_iff.mp hrole
    cases role with
    | raydiumCoinVault p =>
      exact absurd h (not_mem_of_graduations_nil (updateVault_graduations .coin p data).2)
    | raydiumPcVault p =>
      exact absurd h (not_mem_of_graduations_nil (updateVault_graduations .pc p data).2)
    | orcaWhirlpool p baseMint decA decB baseIsA quoteMint =>
      exact absurd h (not_mem_of_graduations_nil
        (updateWhirlpool_graduations p baseMint quoteMint decA decB baseIsA data))
    | pumpFunCurve p baseMint =>
      obtain ⟨rfl, rfl⟩ := updateCurve_graduation h
      exact ⟨account, hlookup⟩
  · rw [heq] at h
    exact absurd h List.not_mem_nil

/-- Everything the monitor sends is about a discovered pool. -/
theorem emission_about (hrec : RecordsOf discovered st)
    (he : e ∈ (handleMessage (buildSubscriptions bs58 discovered).roles accounts msg solUsd now
      st).2) : ∃ d ∈ discovered, e.About d.1 := by
  cases e with
  | quote q =>
    obtain ⟨d, hd, hof⟩ := quote_source hrec he
    exact ⟨d, hd, hof.poolAddress, hof.dex, hof.baseMint⟩
  | graduation g =>
    obtain ⟨account, hrole⟩ := graduation_role (subscribedWatch bs58 discovered accounts) he
    have hlabel : Labelled bs58 discovered (buildSubscriptions bs58 discovered) :=
      buildSubscriptions_labelled discovered
    obtain ⟨d, hd, hdex, hp, hbase⟩ := hlabel.role account _ hrole
    exact ⟨d, hd, congrArg some hp, hdex.symm, hbase⟩

end Sources

/-- The pool offered first at an address, in the order of the watched mints. -/
def firstListed (watchMints : List String) (minLiquidity : ℚ) (answers : RunAnswers)
    (poolAddress : String) : Option DiscoveredPool :=
  (offeredPools watchMints minLiquidity answers.listings).find?
    (fun p => p.poolAddress = poolAddress)

/-- What is sent names a pool by its first listing in the call it is sent in, and the
current call subscribes to the accounts of the pools it has discovered. -/
structure Attributed (bs58 : Bytes → String) (watchMints : List String) (minLiquidity : ℚ)
    (w : Watching) : Prop where
  sent : ∀ r e, (r, e) ∈ w.emitted → ∃ answers pool, w.calls[r]? = some answers ∧
    e.About pool ∧ firstListed watchMints minLiquidity answers pool.poolAddress = some pool ∧
    ListedFor watchMints minLiquidity answers.listings pool
  watched : ∀ m, w.supervised.monitoring = some m → ∃ answers, w.calls.getLast? = some answers ∧
    RecordsOf (answers.discovered bs58 watchMints minLiquidity) m.state ∧
    m.watch.roles = (buildSubscriptions bs58
      (answers.discovered bs58 watchMints minLiquidity)).roles ∧
    m.watch.accounts.Perm m.watch.roles.keys

section Runs
variable {bs58 : Bytes → String} {watchMints : List String} {minLiquidity : ℚ} {w : Watching}

theorem discovered_first {answers : RunAnswers} {d : DiscoveredPool × Resolution}
    (h : d ∈ answers.discovered bs58 watchMints minLiquidity) :
    firstListed watchMints minLiquidity answers d.1.poolAddress = some d.1 ∧
      ListedFor watchMints minLiquidity answers.listings d.1 := by
  obtain ⟨⟨pool, i⟩, hentry, rfl⟩ := List.mem_map.mp h
  have hpool : pool ∈ discoverPools watchMints minLiquidity answers.listings :=
    List.fst_mem_of_mem_zipIdx hentry
  have hoffered := (firstBy_sublist DiscoveredPool.poolAddress [] _).subset hpool
  exact ⟨mem_discoverPools.mp hpool, offeredPools_listed hoffered⟩

theorem discovered_pools (bs58 : Bytes → String) (answers : RunAnswers) :
    (answers.discovered bs58 watchMints minLiquidity).map Prod.fst =
      discoverPools watchMints minLiquidity answers.listings := by
  rw [RunAnswers.discovered, List.map_map]
  exact List.zipIdx_map_fst 0 _

theorem discovered_nodup (answers : RunAnswers) :
    ((answers.discovered bs58 watchMints minLiquidity).map (fun d => d.1.poolAddress)).Nodup := by
  have hkeys := firstBy_keys_nodup DiscoveredPool.poolAddress []
    (offeredPools watchMints minLiquidity answers.listings)
  change ((discoverPools watchMints minLiquidity answers.listings).map
    DiscoveredPool.poolAddress).Nodup at hkeys
  rw [← discovered_pools bs58 answers, List.map_map] at hkeys
  exact hkeys

theorem Attributed.run (h : Attributed bs58 watchMints minLiquidity w) (answers : RunAnswers)
    (iter : KeyOrder) : Attributed bs58 watchMints minLiquidity
      (w.next bs58 watchMints minLiquidity (.run answers iter)) := by
  unfold Watching.next
  cases hm : w.supervised.monitoring with
  | some m =>
    dsimp only
    exact h
  | none =>
    dsimp only
    constructor
    · intro r e he
      obtain ⟨old, pool, hold, hrest⟩ := h.sent r e he
      refine ⟨old, pool, ?_, hrest⟩
      rw [List.getElem?_append_left (List.getElem?_eq_some_iff.mp hold).1]
      exact hold
    · intro m hstart
      simp only [Supervised.next, hm] at hstart
      unfold startRun at hstart
      split at hstart
      · cases hstart
      · obtain rfl := Option.some.inj hstart
        exact ⟨answers, List.getLast?_concat, startState_recordsOf, rfl, iter.perm _⟩

theorem Attributed.message (h : Attributed bs58 watchMints minLiquidity w)
    (msg : Option WsMessage) (solUsd : ℚ) (now : Timestamp) :
    Attributed bs58 watchMints minLiquidity
      (w.next bs58 watchMints minLiquidity (.message msg solUsd now)) := by
  unfold Watching.next
  cases hm : w.supervised.monitoring with
  | none =>
    dsimp only
    exact h
  | some m =>
    obtain ⟨answers, hlast, hrec, hroles, hkeys⟩ := h.watched m hm
    dsimp only
    constructor
    · intro r e he
      rcases List.mem_append.mp he with hold | hnew
      · exact h.sent r e hold
      · obtain ⟨e', he', heq⟩ := List.mem_map.mp hnew
        obtain ⟨rfl, rfl⟩ := Prod.mk.inj heq
        rw [hroles] at he'
        obtain ⟨d, hd, habout⟩ := emission_about hrec he'
        obtain ⟨hfirst, hlisted⟩ := discovered_first hd
        refine ⟨answers, d.1, ?_, habout, hfirst, hlisted⟩
        rw [← List.getLast?_eq_getElem?]
        exact hlast
    · intro m' hm'
      rw [next_message bs58 hm] at hm'
      obtain rfl := Option.some.inj hm'
      have hafter : RecordsOf (answers.discovered bs58 watchMints minLiquidity)
          (m.state.receive m.watch (.message msg solUsd now)).1 :=
        hrec.receive (.message msg solUsd now)
      exact ⟨answers, hlast, hafter, hroles, hkeys⟩

theorem Attributed.sessionEnds (h : Attributed bs58 watchMints minLiquidity w)
    (how : SessionEnd) : Attributed bs58 watchMints minLiquidity
      (w.next bs58 watchMints minLiquidity (.sessionEnds how)) := by
  constructor
  · exact h.sent
  · intro m' hm'
    change (w.supervised.next bs58 (.sessionEnds how)).monitoring = some m' at hm'
    cases hm : w.supervised.monitoring with
    | none =>
      simp only [Supervised.next, hm, reduceCtorEq] at hm'
    | some m =>
      simp only [Supervised.next, hm] at hm'
      split at hm'
      · obtain rfl := Option.some.inj hm'
        exact h.watched m hm
      · cases hm'

theorem watching_snoc (es : List WatchEvent) (e : WatchEvent) :
    watching bs58 watchMints minLiquidity (es ++ [e]) =
      (watching bs58 watchMints minLiquidity es).next bs58 watchMints minLiquidity e := by
  simp [watching]

theorem watching_attributed (es : List WatchEvent) :
    Attributed bs58 watchMints minLiquidity (watching bs58 watchMints minLiquidity es) := by
  induction es using List.reverseRecOn with
  | nil =>
    constructor
    · intro r e he
      exact absurd he List.not_mem_nil
    · intro m hm
      cases hm
  | append_singleton es e ih =>
    rw [watching_snoc]
    cases e with
    | run answers iter => exact ih.run answers iter
    | message msg solUsd now => exact ih.message msg solUsd now
    | sessionEnds how => exact ih.sessionEnds how

/-- Whatever DexScreener and the endpoint answer and however often `run` is called, all
that is sent names a pool of the call's listing with its DEX and the watched mint it was
listed for first; and a call watches every address so listed once, and subscribes once to each
of the accounts that could be resolved for one, and to no other. -/
theorem watched_pools_listed (bs58 : Bytes → String) (watchMints : List String)
    (minLiquidity : ℚ) (es : List WatchEvent) :
    (∀ r e, (r, e) ∈ (watching bs58 watchMints minLiquidity es).emitted →
      ∃ answers pool, (watching bs58 watchMints minLiquidity es).calls[r]? = some answers ∧
        e.About pool ∧
        firstListed watchMints minLiquidity answers pool.poolAddress = some pool ∧
        ListedFor watchMints minLiquidity answers.listings pool) ∧
    (∀ r e e', (r, e) ∈ (watching bs58 watchMints minLiquidity es).emitted →
      (r, e') ∈ (watching bs58 watchMints minLiquidity es).emitted →
      e.poolAddress = e'.poolAddress → e.dex = e'.dex ∧ e.baseMint = e'.baseMint) ∧
    ∀ m, (watching bs58 watchMints minLiquidity es).supervised.monitoring = some m →
      ∃ answers, (watching bs58 watchMints minLiquidity es).calls.getLast? = some answers ∧
        ((answers.discovered bs58 watchMints minLiquidity).map
          (fun d => d.1.poolAddress)).Nodup ∧
        (∀ pool, (∃ res, (pool, res) ∈ answers.discovered bs58 watchMints minLiquidity) ↔
          firstListed watchMints minLiquidity answers pool.poolAddress = some pool) ∧
        m.watch.accounts.Nodup ∧
        ∀ account, account ∈ m.watch.accounts ↔
          ∃ d ∈ answers.discovered bs58 watchMints minLiquidity, account ∈ watchedAccounts d := by
  have h : Attributed bs58 watchMints minLiquidity (watching bs58 watchMints minLiquidity es) :=
    watching_attributed es
  refine ⟨h.sent, ?_, ?_⟩
  · intro r e e' he he' hsame
    obtain ⟨answers, pool, hcall, habout, hfirst, _⟩ := h.sent r e he
    obtain ⟨answers', pool', hcall', habout', hfirst', _⟩ := h.sent r e' he'
    obtain rfl := Option.some.inj (hcall.symm.trans hcall')
    rw [habout.poolAddress, habout'.poolAddress, Option.some.injEq] at hsame
    rw [hsame, hfirst', Option.some.injEq] at hfirst
    subst hfirst
    exact ⟨habout.dex.trans habout'.dex.symm, habout.baseMint.trans habout'.baseMint.symm⟩
  · intro m hm
    obtain ⟨answers, hlast, _, hroles, hkeys⟩ := h.watched m hm
    refine ⟨answers, hlast, discovered_nodup answers, ?_,
      hkeys.nodup_iff.mpr m.watch.roles.keys_nodup, ?_⟩
    · intro pool
      rw [firstListed, ← mem_discoverPools, ← discovered_pools bs58 answers]
      simp
    · intro account
      rw [hkeys.mem_iff, ← AList.mem_keys, hroles]
      exact mem_buildSubscriptions account

end Runs

end SolanaArb.PoolMonitor
