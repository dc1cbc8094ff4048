import SolanaArb.Sim.AmmQuoter

/-! # Quotes as a function of the chain

When the endpoint answers every request from one fixed set of account contents,
both quoting paths compute the same function of those contents, up to the price
impact of a constant-product pool. The reserves of such a pool are named here
once, for the results about single quotes and about batches alike.
-/
namespace SolanaArb.AmmQuoter
open SolanaArb.PoolDecoder SolanaArb.General

abbrev Chain := String → Option Bytes

/-- The endpoint returns, in order, the entry of each requested address. -/
def Serves (rpc : Rpc) (chain : Chain) : Prop :=
  ∀ addresses, rpc addresses = .ok (some (addresses.map (fun a => (chain a).map .ok)))

def serve (chain : Chain) : Rpc :=
  fun addresses => .ok (some (addresses.map (fun a => (chain a).map .ok)))

theorem serves_serve (chain : Chain) : Serves (serve chain) chain := fun _ => rfl

def Holds (accounts : AccountMap) (chain : Chain) (addresses : List String) : Prop :=
  ∀ a ∈ addresses, accounts.lookup a = chain a

variable {rpc : Rpc} {chain : Chain} {addresses : List String}

theorem collectAccounts_served (chain : Chain) (addresses : List String) (accounts : AccountMap) :
    ∃ m, collectAccounts (addresses.zip (addresses.map (fun a => (chain a).map .ok))) accounts
        = .ok m ∧
      ∀ a, m.lookup a =
        if a ∈ addresses ∧ (chain a).isSome then chain a else accounts.lookup a := by
  induction addresses generalizing accounts with
  | nil => exact ⟨accounts, rfl, by simp⟩
  | cons b rest ih =>
    cases hb : chain b with
    | none =>
      obtain ⟨m, hm, hl⟩ := ih accounts
      refine ⟨m, by simpa [hb, collectAccounts] using hm, ?_⟩
      intro a
      rw [hl a]
      by_cases hab : a = b
      · subst hab
        simp [hb]
      · simp [hab]
    | some data =>
      obtain ⟨m, hm, hl⟩ := ih (accounts.insert b data)
      refine ⟨m, ?_, ?_⟩
      · simp only [List.map_cons, List.zip_cons_cons, hb, Option.map_some, collectAccounts]
        exact hm
      · intro a
        rw [hl a]
        by_cases hab : a = b
        · subst hab
          simp [hb]
        · simp [hab, AList.lookup_insert_ne]

theorem fetchAccountsWith_served (nullResult : String) (hs : Serves rpc chain)
    (addresses : List String) :
    ∃ m, fetchAccountsWith nullResult rpc addresses = .ok m ∧ Holds m chain addresses := by
  by_cases hnil : addresses = []
  · exact ⟨∅, by simp [fetchAccountsWith, hnil], by simp [Holds, hnil]⟩
  · obtain ⟨m, hm, hl⟩ := collectAccounts_served chain addresses ∅
    refine ⟨m, ?_, ?_⟩
    · simp only [fetchAccountsWith, if_neg hnil, hs addresses]
      exact hm
    · intro a ha
      rw [hl a]
      cases chain a <;> simp [ha]

def vaultBalances (chain : Chain) (pool : KnownPool) : Option (UInt64 × UInt64) := do
  let (first, second) ← pool.vaultAddresses
  let firstBalance ← (decodeSplTokenBalance (← chain first)).toOption
  let secondBalance ← (decodeSplTokenBalance (← chain second)).toOption
  some (firstBalance, secondBalance)

def orient (paysSecond : Bool) (balances : UInt64 × UInt64) : UInt64 × UInt64 :=
  if paysSecond then balances.swap else balances

def paysSecond (pool : KnownPool) (inputMint : String) : Bool :=
  inputMint == pool.quoteMint || inputMint == wsolMint

def vaultQuote (impactBps : UInt64 → UInt64 → ℚ) (pool : KnownPool) (inputMint : String)
    (amountIn : UInt64) (reserves : UInt64 × UInt64) : LocalQuote where
  poolAddress := pool.poolAddress
  dex := pool.dex
  inputMint := inputMint
  inputAmount := amountIn
  outputAmount := constantProductSwap reserves.1 reserves.2 amountIn 25
  feeAmount := amountIn * 25 / 10000
  priceImpactBps := impactBps amountIn reserves.1
  reserves := reserves

/-- What the four vault quoters have in common on a pool of their DEX. -/
structure VaultQuoter.Standard (v : VaultQuoter) (pool : KnownPool) : Prop where
  dex : v.dex = pool.dex
  paysSecond : ∀ inputMint, v.paysSecond pool inputMint = AmmQuoter.paysSecond pool inputMint
  swapOutput : ∀ x y a, v.swapOutput x y a = constantProductSwap x y a 25

theorem quoteVaults_toOption (v : VaultQuoter) (load : List String → Except String AccountMap)
    (pool : KnownPool) (hv : v.Standard pool) (inputMint : String) (amountIn : UInt64)
    (hload : ∀ first second, pool.vaultAddresses = some (first, second) →
      ∃ m, load [first, second] = .ok m ∧ Holds m chain [first, second]) :
    (quoteVaults v load pool inputMint amountIn).toOption =
      (vaultBalances chain pool).map (fun b =>
        vaultQuote v.impactBps pool inputMint amountIn (orient (paysSecond pool inputMint) b)) := by
  unfold quoteVaults vaultBalances
  cases hp : pool.vaultAddresses with
  | none => rfl
  | some p =>
    obtain ⟨first, second⟩ := p
    obtain ⟨m, hm, hh⟩ := hload first second hp
    have h1 : m.lookup first = chain first := hh first (by simp)
    have h2 : m.lookup second = chain second := hh second (by simp)
    simp only [okOr_some, toOption_bind, toOption_ok, toOption_okOr, Option.bind_some, hm, h1, h2,
      Option.bind_eq_bind, hv.dex, hv.paysSecond, hv.swapOutput]
    cases chain first with
    | none => simp
    | some d1 =>
      cases chain second with
      | none => cases decodeSplTokenBalance d1 <;> simp
      | some d2 =>
        cases hb1 : decodeSplTokenBalance d1 with
        | error e => simp [hb1]
        | ok b1 =>
          cases hb2 : decodeSplTokenBalance d2 with
          | error e => simp [hb2]
          | ok b2 => cases paysSecond pool inputMint <;> simp [hb1, hb2, vaultQuote, orient]

def openCurve (chain : Chain) (pool : KnownPool) : Option PumpFunState := do
  let state ← (decodePumpfunState (← chain pool.poolAddress)).toOption
  if state.complete then none else some state

def curveReserves (inputMint : String) (state : PumpFunState) : UInt64 × UInt64 :=
  if inputMint = wsolMint then (state.virtualSolReserves, state.virtualTokenReserves)
  else (state.virtualTokenReserves, state.virtualSolReserves)

def curveOutput (inputMint : String) (state : PumpFunState) (amountIn : UInt64) : UInt64 :=
  if inputMint = wsolMint then pumpfunBuyOutput state amountIn
  else pumpfunSellOutput state amountIn

def curveQuote (impactBps : UInt64 → UInt64 → ℚ) (pool : KnownPool) (inputMint : String)
    (amountIn : UInt64) (state : PumpFunState) : LocalQuote where
  poolAddress := pool.poolAddress
  dex := .pumpFun
  inputMint := inputMint
  inputAmount := amountIn
  outputAmount := curveOutput inputMint state amountIn
  feeAmount :=
    if inputMint = wsolMint then amountIn / 100 else curveOutput inputMint state amountIn / 100
  priceImpactBps := impactBps amountIn (curveReserves inputMint state).1
  reserves := curveReserves inputMint state

theorem quoteCurve_toOption (missing graduated : String) (impactBps : UInt64 → UInt64 → ℚ)
    (load : List String → Except String AccountMap) (pool : KnownPool) (inputMint : String)
    (amountIn : UInt64)
    (hload : ∃ m, load [pool.poolAddress] = .ok m ∧ Holds m chain [pool.poolAddress]) :
    (quoteCurve missing graduated impactBps load pool inputMint amountIn).toOption =
      (openCurve chain pool).map (curveQuote impactBps pool inputMint amountIn) := by
  obtain ⟨m, hm, hh⟩ := hload
  have h1 : m.lookup pool.poolAddress = chain pool.poolAddress := hh _ (by simp)
  unfold quoteCurve openCurve
  simp only [toOption_bind, toOption_okOr, toOption_ok, Option.bind_some, hm, h1]
  cases hc : chain pool.poolAddress with
  | none => simp
  | some data =>
    cases hd : decodePumpfunState data with
    | error e => simp [hd]
    | ok state =>
      cases hcomp : state.complete with
      | true => simp [hd, hcomp]
      | false =>
        by_cases hin : inputMint = wsolMint <;>
          simp [hd, hcomp, hin, curveQuote, curveOutput, curveReserves]

def clmmState (chain : Chain) (pool : KnownPool) : Option RaydiumClmmState := do
  (decodeRaydiumClmm (← chain pool.poolAddress)).toOption

structure WhirlpoolView where
  sqrtPrice : U128
  liquidity : U128
  feeBps : ℚ
  mintA : Bytes

def whirlpoolView (chain : Chain) (pool : KnownPool) : Option WhirlpoolView := do
  let data ← chain pool.poolAddress
  let sqrtPrice ← (decodeWhirlpoolSqrtPrice data).toOption
  let liquidity ← (decodeWhirlpoolLiquidity data).toOption
  let feeBps ← (decodeWhirlpoolFeeBps data).toOption
  let mintA ← (decodeWhirlpoolMintA data).toOption
  some ⟨sqrtPrice, liquidity, feeBps, mintA⟩

section Base58
variable (bs58 : Bytes → String)

/-- A quote without reserves or impact, as the concentrated-liquidity pools give it. -/
def priceQuote (pool : KnownPool) (inputMint : String) (amountIn : UInt64) (feeBps : ℚ)
    (outputAmount : UInt64) : LocalQuote where
  poolAddress := pool.poolAddress
  dex := pool.dex
  inputMint := inputMint
  inputAmount := amountIn
  outputAmount := outputAmount
  feeAmount := f64ToU64 (amountIn.toNat * feeBps / 10000)
  priceImpactBps := 0
  reserves := (0, 0)

def clmmQuote (pool : KnownPool) (inputMint : String) (amountIn : UInt64)
    (state : RaydiumClmmState) : LocalQuote :=
  priceQuote pool inputMint amountIn pool.dex.feeBps
    (clmmSwapOutput state amountIn pool.dex.feeBps (inputMint == bs58 state.mint0))

def whirlpoolQuote (pool : KnownPool) (inputMint : String) (amountIn : UInt64)
    (view : WhirlpoolView) : LocalQuote :=
  priceQuote pool inputMint amountIn view.feeBps
    (whirlpoolSwapOutput view.sqrtPrice view.liquidity amountIn view.feeBps
      (inputMint == bs58 view.mintA))

theorem quoteClmm_toOption (missing : String) (load : List String → Except String AccountMap)
    (pool : KnownPool) (hdex : pool.dex = .raydiumClmm) (inputMint : String) (amountIn : UInt64)
    (hload : ∃ m, load [pool.poolAddress] = .ok m ∧ Holds m chain [pool.poolAddress]) :
    (quoteClmm bs58 missing load pool inputMint amountIn).toOption =
      (clmmState chain pool).map (clmmQuote bs58 pool inputMint amountIn) := by
  obtain ⟨m, hm, hh⟩ := hload
  have h1 : m.lookup pool.poolAddress = chain pool.poolAddress := hh _ (by simp)
  unfold quoteClmm clmmState
  simp only [toOption_bind, toOption_okOr, toOption_ok, Option.bind_some, hm, h1]
  cases chain pool.poolAddress with
  | none => simp
  | some data => cases hd : decodeRaydiumClmm data <;> simp [hd, clmmQuote, priceQuote, hdex]

theorem quoteWhirlpool_toOption (missing : String)
    (load : List String → Except String AccountMap)
    (pool : KnownPool) (hdex : pool.dex = .orca) (inputMint : String) (amountIn : UInt64)
    (hload : ∃ m, load [pool.poolAddress] = .ok m ∧ Holds m chain [pool.poolAddress]) :
    (quoteWhirlpool bs58 missing load pool inputMint amountIn).toOption =
      (whirlpoolView chain pool).map (whirlpoolQuote bs58 pool inputMint amountIn) := by
  obtain ⟨m, hm, hh⟩ := hload
  have h1 : m.lookup pool.poolAddress = chain pool.poolAddress := hh _ (by simp)
  unfold quoteWhirlpool whirlpoolView
  simp only [toOption_bind, toOption_okOr, toOption_ok, Option.bind_some, hm, h1]
  cases chain pool.poolAddress with
  | none => simp
  | some data =>
    cases hs : decodeWhirlpoolSqrtPrice data with
    | error e => simp [hs]
    | ok sqrtPrice =>
      cases hl : decodeWhirlpoolLiquidity data with
      | error e => simp [hs, hl]
      | ok liquidity =>
        cases hf : decodeWhirlpoolFeeBps data with
        | error e => simp [hs, hl, hf]
        | ok feeBps =>
          cases ha : decodeWhirlpoolMintA data <;>
            simp [hs, hl, hf, ha, whirlpoolQuote, priceQuote, hdex]

/-- The quote of a pool as a function of the chain and of the impact convention. -/
def chainQuote (impactBps : UInt64 → UInt64 → ℚ) (chain : Chain) (pool : KnownPool)
    (inputMint : String) (amountIn : UInt64) : Option LocalQuote :=
  match pool.dex with
  | .raydium | .pumpSwap => (vaultBalances chain pool).map (fun b =>
      vaultQuote impactBps pool inputMint amountIn (orient (paysSecond pool inputMint) b))
  | .pumpFun => (openCurve chain pool).map (curveQuote impactBps pool inputMint amountIn)
  | .raydiumClmm => (clmmState chain pool).map (clmmQuote bs58 pool inputMint amountIn)
  | .orca => (whirlpoolView chain pool).map (whirlpoolQuote bs58 pool inputMint amountIn)
  | _ => none

variable {bs58} {pool : KnownPool} {inputMint : String} {amountIn : UInt64}

/-- The single-pool path computes the chain's quote with the zero convention. -/
theorem quoteSwap_toOption (hs : Serves rpc chain) :
    (quoteSwap bs58 rpc pool inputMint amountIn).toOption =
      chainQuote bs58 impactOrZero chain pool inputMint amountIn := by
  have hload (addresses : List String) :
      ∃ m, getMultipleAccounts rpc addresses = .ok m ∧ Holds m chain addresses :=
    fetchAccountsWith_served _ hs addresses
  unfold quoteSwap chainQuote
  cases hdex : pool.dex with
  | raydium =>
    exact quoteVaults_toOption raydiumVaults _ pool ⟨hdex.symm, fun _ => rfl, fun _ _ _ => rfl⟩
      _ _ (fun _ _ _ => hload _)
  | pumpSwap =>
    exact quoteVaults_toOption pumpswapVaults _ pool
      ⟨hdex.symm, fun _ => Bool.or_comm _ _, fun _ _ _ => rfl⟩ _ _ (fun _ _ _ => hload _)
  | pumpFun => exact quoteCurve_toOption _ _ _ _ pool _ _ (hload _)
  | raydiumClmm => exact quoteClmm_toOption bs58 _ _ pool hdex _ _ (hload _)
  | orca => exact quoteWhirlpool_toOption bs58 _ _ pool hdex _ _ (hload _)
  | jupiter => rfl
  | meteora => rfl
  | unknown => rfl

theorem quoteFromCache_toOption {accounts : AccountMap}
    (hh : Holds accounts chain (batchAddresses pool)) :
    (quoteFromCache bs58 accounts inputMint amountIn pool).toOption =
      chainQuote bs58 impactOverMax chain pool inputMint amountIn := by
  unfold batchAddresses at hh
  unfold quoteFromCache chainQuote
  cases hdex : pool.dex with
  | raydium =>
    apply quoteVaults_toOption raydiumCachedVaults _ pool
      ⟨hdex.symm, fun _ => rfl, fun _ _ _ => rfl⟩
    intro first second hv
    exact ⟨accounts, rfl, by simpa [hdex, hv] using hh⟩
  | pumpSwap =>
    apply quoteVaults_toOption pumpswapCachedVaults _ pool
      ⟨hdex.symm, fun _ => Bool.or_comm _ _, fun _ _ _ => rfl⟩
    intro first second hv
    exact ⟨accounts, rfl, by simpa [hdex, hv] using hh⟩
  | pumpFun =>
    exact quoteCurve_toOption _ _ _ _ pool _ _ ⟨accounts, rfl, by simpa [hdex] using hh⟩
  | raydiumClmm =>
    exact quoteClmm_toOption bs58 _ _ pool hdex _ _ ⟨accounts, rfl, by simpa [hdex] using hh⟩
  | orca =>
    exact quoteWhirlpool_toOption bs58 _ _ pool hdex _ _ ⟨accounts, rfl, by simpa [hdex] using hh⟩
  | jupiter => rfl
  | meteora => rfl
  | unknown => rfl

/-- A quote of the batch is the cached quote of the pool at its index. -/
theorem quoteAllPools_ok {bs58 : Bytes → String} {pools : List KnownPool} {pool : KnownPool}
    {inputMint : String} {amountIn : UInt64} {i : ℕ} {q : LocalQuote} (hi : pools[i]? = some pool)
    (h : (quoteAllPools bs58 rpc pools inputMint amountIn)[i]? = some (.ok q)) :
    ∃ accounts, quoteFromCache bs58 accounts inputMint amountIn pool = .ok q := by
  unfold quoteAllPools at h
  split at h
  · simp only [List.getElem?_map, hi, Option.map_some, Option.some.injEq, reduceCtorEq] at h
  · next accounts _ =>
    simp only [List.getElem?_map, hi, Option.map_some, Option.some.injEq] at h
    exact ⟨accounts, h⟩

theorem quoteAllPools_served (bs58 : Bytes → String) (hs : Serves rpc chain)
    (pools : List KnownPool) (inputMint : String) (amountIn : UInt64) :
    ∃ accounts, quoteAllPools bs58 rpc pools inputMint amountIn =
        pools.map (quoteFromCache bs58 accounts inputMint amountIn) ∧
      ∀ pool ∈ pools, Holds accounts chain (batchAddresses pool) := by
  obtain ⟨m, hm, hh⟩ := fetchAccountsWith_served "RPC returned null result" hs
    (pools.flatMap batchAddresses)
  refine ⟨m, ?_, fun pool hp a ha => hh a (List.mem_flatMap.mpr ⟨pool, hp, ha⟩)⟩
  simp only [quoteAllPools, getMultipleAccounts, hm]

theorem quoteAllPools_getElem (bs58 : Bytes → String) (hs : Serves rpc chain)
    (pools : List KnownPool) (inputMint : String) (amountIn : UInt64) (i : ℕ)
    (hi : i < pools.length) :
    ∃ batch, (quoteAllPools bs58 rpc pools inputMint amountIn)[i]? = some batch ∧
      batch.toOption = chainQuote bs58 impactOverMax chain pools[i] inputMint amountIn := by
  obtain ⟨m, hm, hh⟩ := quoteAllPools_served bs58 hs pools inputMint amountIn
  refine ⟨quoteFromCache bs58 m inputMint amountIn pools[i], by simp [hm, hi], ?_⟩
  exact quoteFromCache_toOption (hh _ (List.getElem_mem hi))

end Base58

end SolanaArb.AmmQuoter
