import SolanaArb.Feed.VaultPairs

/-! # Where a quote of the monitor comes from

Every vault record and every account role goes back to one discovered pool, whose
mints and decimals it carries through the whole run. A quote therefore has a source:
the pool whose account was notified.
-/
namespace SolanaArb.PoolMonitor
open SolanaArb.PoolDecoder SolanaArb.General

/-- What the monitor meets: a lost connection or a message. -/
inductive Input
  | reconnect
  | message (msg : Option WsMessage) (solUsd : ℚ) (now : Timestamp)

def MonitorState.receive (watch : Watch) (st : MonitorState) : Input → MonitorState × List Emission
  | .reconnect => (st.reconnect, [])
  | .message msg solUsd now => handleMessage watch.roles watch.accounts msg solUsd now st

def Resolution.baseDec (res : Resolution) : UInt8 := res.baseDecimals.getD 6

def quoteDec (pool : DiscoveredPool) (res : Resolution) : UInt8 :=
  if pool.quoteMint = "" then 9 else res.quoteDecimals.getD 9

/-- The record was subscribed for this pool; only the balances are its own. -/
structure RecordOf (d : DiscoveredPool × Resolution) (state : RaydiumVaultState) : Prop where
  dex : d.1.dex = .raydium
  poolAddress : state.poolAddress = d.1.poolAddress
  baseMint : state.baseMint = d.1.baseMint
  quoteMint : state.quoteMint = d.1.quoteMint
  coinDecimals : state.coinDecimals = d.2.baseDec
  pcDecimals : state.pcDecimals = quoteDec d.1 d.2

@[simp] theorem setBalance_poolAddress (state : RaydiumVaultState) (side : Side)
    (balance : UInt64) : (state.setBalance side balance).poolAddress = state.poolAddress := by
  cases side <;> rfl

theorem RecordOf.setBalance {d : DiscoveredPool × Resolution} {state : RaydiumVaultState}
    (h : RecordOf d state) (side : Side) (balance : UInt64) :
    RecordOf d (state.setBalance side balance) := by
  cases side with
  | coin => exact ⟨h.dex, h.poolAddress, h.baseMint, h.quoteMint, h.coinDecimals, h.pcDecimals⟩
  | pc => exact ⟨h.dex, h.poolAddress, h.baseMint, h.quoteMint, h.coinDecimals, h.pcDecimals⟩

section Roles
variable (bs58 : Bytes → String)

/-- The first mint of the Whirlpool account read at subscription is the base mint. -/
def BaseIsA (d : DiscoveredPool × Resolution) (baseIsA : Bool) : Prop :=
  ∃ data mintA, d.2.account = .ok data ∧ decodeWhirlpoolMintA data = .ok mintA ∧
    baseIsA = (bs58 mintA == d.1.baseMint)

/-- The role was given for this pool. The vault roles only name the pool's record. -/
def RoleOf (d : DiscoveredPool × Resolution) : AccountRole → Prop
  | .raydiumCoinVault poolAddress => d.1.dex = .raydium ∧ poolAddress = d.1.poolAddress
  | .raydiumPcVault poolAddress => d.1.dex = .raydium ∧ poolAddress = d.1.poolAddress
  | .orcaWhirlpool poolAddress baseMint decimalsA decimalsB baseIsA quoteMint =>
    d.1.dex = .orca ∧ poolAddress = d.1.poolAddress ∧ baseMint = d.1.baseMint ∧
      quoteMint = d.1.quoteMint ∧ BaseIsA bs58 d baseIsA ∧
      decimalsA = (if baseIsA then d.2.baseDec else quoteDec d.1 d.2) ∧
      decimalsB = (if baseIsA then quoteDec d.1 d.2 else d.2.baseDec)
  | .pumpFunCurve poolAddress baseMint =>
    d.1.dex = .pumpFun ∧ poolAddress = d.1.poolAddress ∧ baseMint = d.1.baseMint

/-- Everything subscribed goes back to a discovered pool. -/
structure Labelled (discovered : List (DiscoveredPool × Resolution)) (subs : Subscriptions) :
    Prop where
  role : ∀ account role, subs.roles.lookup account = some role →
    ∃ d ∈ discovered, RoleOf bs58 d role
  record : ∀ p state, subs.raydiumStates.lookup p = some state →
    state.poolAddress = p ∧ ∃ d ∈ discovered, RecordOf d state

variable {bs58} {discovered : List (DiscoveredPool × Resolution)} {subs : Subscriptions}

theorem Labelled.insertRole (h : Labelled bs58 discovered subs) (account : String)
    {role : AccountRole} {d : DiscoveredPool × Resolution} (hd : d ∈ discovered)
    (hrole : RoleOf bs58 d role) :
    Labelled bs58 discovered { subs with roles := subs.roles.insert account role } := by
  constructor
  · exact forall_lookup_insert h.role ⟨d, hd, hrole⟩
  · exact h.record

theorem Labelled.insertRecord (h : Labelled bs58 discovered subs) {state : RaydiumVaultState}
    {d : DiscoveredPool × Resolution} (hd : d ∈ discovered) (hrecord : RecordOf d state) :
    Labelled bs58 discovered
      { subs with raydiumStates := subs.raydiumStates.insert state.poolAddress state } := by
  constructor
  · exact h.role
  · exact forall_lookup_insert h.record ⟨rfl, d, hd, hrecord⟩

theorem Labelled.addSubscription (h : Labelled bs58 discovered subs)
    {d : DiscoveredPool × Resolution} (hd : d ∈ discovered) :
    Labelled bs58 discovered (addSubscription bs58 subs d.1 d.2) := by
  unfold PoolMonitor.addSubscription
  cases hdex : d.1.dex with
  | raydium =>
    cases d.2.vaults with
    | error e => exact h
    | ok vaults =>
      have hcoinRole : RoleOf bs58 d (.raydiumCoinVault d.1.poolAddress) := ⟨hdex, rfl⟩
      have hpcRole : RoleOf bs58 d (.raydiumPcVault d.1.poolAddress) := ⟨hdex, rfl⟩
      have hcoin := h.insertRole vaults.1 hd hcoinRole
      have hpc := hcoin.insertRole vaults.2 hd hpcRole
      have hrecord : RecordOf d ⟨none, none, d.2.baseDec, quoteDec d.1 d.2, d.1.baseMint,
          d.1.poolAddress, d.1.quoteMint⟩ := ⟨hdex, rfl, rfl, rfl, rfl, rfl⟩
      exact hpc.insertRecord hd hrecord
  | orca =>
    cases hacc : d.2.account with
    | error e => exact h
    | ok data =>
      dsimp only
      cases hmint : decodeWhirlpoolMintA data with
      | error e => exact h
      | ok mintA =>
        exact h.insertRole _ hd ⟨hdex, rfl, rfl, rfl, ⟨data, mintA, hacc, hmint, rfl⟩, rfl, rfl⟩
  | pumpFun => exact h.insertRole _ hd ⟨hdex, rfl, rfl⟩
  | raydiumClmm => exact h
  | jupiter => exact h
  | meteora => exact h
  | pumpSwap => exact h
  | unknown => exact h

theorem buildSubscriptions_labelled (discovered : List (DiscoveredPool × Resolution)) :
    Labelled bs58 discovered (buildSubscriptions bs58 discovered) := by
  unfold buildSubscriptions
  apply List.foldlRecOn (motive := fun subs => Labelled bs58 discovered subs) discovered _
  · constructor
    · intro account role h
      simp at h
    · intro p state h
      simp at h
  · intro subs h d hd
    exact h.addSubscription hd

end Roles

def RecordsOf (discovered : List (DiscoveredPool × Resolution)) (st : MonitorState) : Prop :=
  ∀ p state, st.raydiumStates.lookup p = some state →
    state.poolAddress = p ∧ ∃ d ∈ discovered, RecordOf d state

section Messages
variable {watch : Watch} {msg : Option WsMessage} {solUsd : ℚ} {now : Timestamp}
  {st : MonitorState} {discovered : List (DiscoveredPool × Resolution)} {q : PriceQuote}

theorem RecordsOf.receive (h : RecordsOf discovered st) (input : Input) :
    RecordsOf discovered (st.receive watch input).1 := by
  cases input with
  | reconnect => exact h
  | message msg solUsd now =>
    rcases handleMessage_effect watch msg solUsd now st with
      ⟨_, hsame, _⟩ | ⟨p, side, b, state, _, hrecord, hset, _⟩
    · intro p state hstate
      change (handleMessage watch.roles watch.accounts msg solUsd now
        st).1.raydiumStates.lookup p = some state at hstate
      rw [hsame] at hstate
      exact h p state hstate
    · intro p' state' hstate
      change (handleMessage watch.roles watch.accounts msg solUsd now
        st).1.raydiumStates.lookup p' = some state' at hstate
      rw [hset] at hstate
      obtain ⟨hp, d, hd, hof⟩ := h p state hrecord
      exact forall_lookup_insert h
        ⟨(setBalance_poolAddress state side b).trans hp, d, hd, hof.setBalance side b⟩ p' state' hstate

/-- The three ways a message leads to a quote: a vault completes its pool's record, a
Whirlpool account is priced, or a curve that is not complete is. -/
inductive Quoted (watch : Watch) (msg : Option WsMessage) (solUsd : ℚ) (now : Timestamp)
    (st' : MonitorState) (q : PriceQuote) : Prop
  | raydium (p : String) (state : RaydiumVaultState)
      (record : st'.raydiumStates.lookup p = some state)
      (emitted : .quote q ∈ tryEmitRaydium state solUsd now)
  | orca (account p baseMint quoteMint : String) (decimalsA decimalsB : UInt8) (baseIsA : Bool)
      (data : Bytes) (price : ℚ) (subId : UInt64) (shown : classify msg = .notification subId data)
      (role : watch.roles.lookup account =
        some (.orcaWhirlpool p baseMint decimalsA decimalsB baseIsA quoteMint))
      (decoded : decodeWhirlpoolPrice data decimalsA decimalsB = .ok price)
      (emitted : .quote q ∈ updateWhirlpool p baseMint decimalsA decimalsB baseIsA quoteMint data
        solUsd now)
  | pumpFun (account p baseMint : String) (state : PumpFunState) (price : ℚ)
      (role : watch.roles.lookup account = some (.pumpFunCurve p baseMint))
      (priced : pumpfunPriceInSol state = .ok price)
      (emitted : .quote q = emitQuote .pumpFun baseMint p (price * solUsd) now)

theorem updateVault_quoted {side : Side} {p : String} {data : Bytes}
    (hq : .quote q ∈ (updateVault side p data solUsd now st).2) :
    Quoted watch msg solUsd now (updateVault side p data solUsd now st).1 q := by
  rcases updateVault_cases solUsd now st side p data with ⟨_, heq⟩ | ⟨balance, state, _, _, heq⟩
  · rw [heq] at hq
    exact absurd hq List.not_mem_nil
  · rw [heq] at hq ⊢
    exact .raydium p (state.setBalance side balance) (AList.lookup_insert _) hq

theorem updateCurve_quoted {account p baseMint : String} {data : Bytes}
    (hrole : watch.roles.lookup account = some (.pumpFunCurve p baseMint)) {st' : MonitorState}
    (hq : .quote q ∈ (updateCurve p baseMint data solUsd now st).2) :
    Quoted watch msg solUsd now st' q := by
  obtain ⟨state, price, hprice, hemit⟩ := quote_of_updateCurve hq
  exact .pumpFun account p baseMint state price hrole hprice hemit

theorem handleMessage_quoted
    (hq : .quote q ∈ (handleMessage watch.roles watch.accounts msg solUsd now st).2) :
    Quoted watch msg solUsd now (handleMessage watch.roles watch.accounts msg solUsd now st).1 q := by
  rcases handleMessage_cases solUsd now st watch.roles watch.accounts msg with
    ⟨subId, data, role, hclass, hrole, heq⟩ | ⟨_, subs, heq, _⟩
  · rw [heq] at hq ⊢
    obtain ⟨account, _, hlookup⟩ := Option.bind_eq_some_iff.mp hrole
    cases role with
    | raydiumCoinVault p => exact updateVault_quoted hq
    | raydiumPcVault p => exact updateVault_quoted hq
    | orcaWhirlpool p baseMint decA decB baseIsA quoteMint =>
      rcases updateWhirlpool_cases solUsd now p baseMint decA decB baseIsA quoteMint data with
        hnone | ⟨price, hprice, _⟩
      · change .quote q ∈ updateWhirlpool p baseMint decA decB baseIsA quoteMint data solUsd now at hq
        rw [hnone] at hq
        exact absurd hq List.not_mem_nil
      · exact .orca account p baseMint quoteMint decA decB baseIsA data price subId hclass hlookup
          hprice hq
    | pumpFunCurve p baseMint => exact updateCurve_quoted hlookup hq
  · rw [heq] at hq
    exact absurd hq List.not_mem_nil

end Messages

section Prices
variable {price : ℚ}

theorem raydiumPrice_eq {coin pc : UInt64} {coinDec pcDec : UInt8}
    (h : raydiumPriceFromVaults coin pc coinDec pcDec = .ok price) :
    coin ≠ 0 ∧ price = (pc.toNat / 10^pcDec.toNat) / (coin.toNat / 10^coinDec.toNat) := by
  unfold raydiumPriceFromVaults at h
  split at h
  · cases h
  · next hcoin => exact ⟨hcoin, (Except.ok.inj h).symm⟩

theorem decodeWhirlpoolPrice_eq {data : Bytes} {decA decB : UInt8}
    (h : decodeWhirlpoolPrice data decA decB = .ok price) :
    ∃ sqrtPrice, decodeWhirlpoolSqrtPrice data = .ok sqrtPrice ∧ sqrtPrice ≠ 0 ∧
      price = (sqrtPrice.toNat / 2^64)^2 * 10^((decA.toNat : ℤ) - decB.toNat) := by
  obtain ⟨sqrtPrice, hsqrt, hprice⟩ := bind_eq_ok.mp h
  refine ⟨sqrtPrice, hsqrt, ?_, ?_⟩
  · unfold decodeWhirlpoolSqrtPrice at hsqrt
    split at hsqrt
    · dsimp only at hsqrt
      split at hsqrt
      · cases hsqrt
      · next hne => exact Except.ok.inj hsqrt ▸ hne
    · cases hsqrt
  · rw [← Except.ok.inj hprice, sqrtPriceToPrice, sq]

end Prices

/-- The quote speaks about this pool. -/
structure QuoteOf (d : DiscoveredPool × Resolution) (q : PriceQuote) : Prop where
  dex : q.dex = d.1.dex
  poolAddress : q.poolAddress = some d.1.poolAddress
  baseMint : q.baseMint = d.1.baseMint

section Sources
variable {bs58 : Bytes → String} {discovered : List (DiscoveredPool × Resolution)}
  {accounts : List String} {msg : Option WsMessage} {solUsd : ℚ} {now : Timestamp}
  {st : MonitorState} {q : PriceQuote}

def subscribedWatch (bs58 : Bytes → String) (discovered : List (DiscoveredPool × Resolution))
    (accounts : List String) : Watch :=
  ⟨(buildSubscriptions bs58 discovered).roles, accounts⟩

def startState (bs58 : Bytes → String) (discovered : List (DiscoveredPool × Resolution)) :
    MonitorState :=
  initialState (buildSubscriptions bs58 discovered).raydiumStates (discovered.map Prod.fst)

def MonitorStep (watch : Watch) (st : MonitorState) (input : Input) (st' : MonitorState) : Prop :=
  st' = (st.receive watch input).1

theorem startState_recordsOf : RecordsOf discovered (startState bs58 discovered) :=
  (buildSubscriptions_labelled discovered).record

theorem run_recordsOf {inputs : List Input}
    (hr : Run (MonitorStep (subscribedWatch bs58 discovered accounts)) (startState bs58 discovered)
      inputs st) : RecordsOf discovered st := by
  apply hr.invariant (fun _ st => RecordsOf discovered st) startState_recordsOf
  intro _ st input st' _ h hstep
  rw [hstep]
  exact h.receive input

theorem tryEmitRaydium_eq {state : RaydiumVaultState}
    (h : .quote q ∈ tryEmitRaydium state solUsd now) :
    ∃ coin pc price, state.coinBalance = some coin ∧ state.pcBalance = some pc ∧
      raydiumPriceFromVaults coin pc state.coinDecimals state.pcDecimals = .ok price ∧
      .quote q = emitQuote .raydium state.baseMint state.poolAddress
        (if isUsdQuoted state.quoteMint then price else price * solUsd) now := by
  rcases tryEmitRaydium_cases solUsd now state with
    heq | ⟨coin, pc, price, hcoin, hpc, hprice, heq⟩
  · rw [heq] at h
    exact absurd h List.not_mem_nil
  · rw [heq] at h
    exact ⟨coin, pc, price, hcoin, hpc, hprice, List.mem_singleton.mp h⟩

theorem updateWhirlpool_eq {p baseMint quoteMint : String} {decA decB : UInt8} {baseIsA : Bool}
    {data : Bytes} {decoded : ℚ} (hdecoded : decodeWhirlpoolPrice data decA decB = .ok decoded)
    (h : .quote q ∈ updateWhirlpool p baseMint decA decB baseIsA quoteMint data solUsd now) :
    .quote q = emitQuote .orca baseMint p
      (if isUsdQuoted quoteMint then if !baseIsA ∧ 0 < decoded then 1 / decoded else decoded
        else (if !baseIsA ∧ 0 < decoded then 1 / decoded else decoded) * solUsd) now := by
  unfold updateWhirlpool at h
  simp only [hdecoded, List.mem_singleton] at h
  exact h

/-- Every quote of the monitor speaks about a discovered pool. -/
theorem quote_source (hrec : RecordsOf discovered st)
    (hq : .quote q ∈ (handleMessage (buildSubscriptions bs58 discovered).roles accounts msg solUsd
      now st).2) : ∃ d ∈ discovered, QuoteOf d q := by
  have hlabel : Labelled bs58 discovered (buildSubscriptions bs58 discovered) :=
    buildSubscriptions_labelled discovered
  have hafter : RecordsOf discovered
      (st.receive (subscribedWatch bs58 discovered accounts) (.message msg solUsd now)).1 :=
    hrec.receive (.message msg solUsd now)
  have hquoted : Quoted (subscribedWatch bs58 discovered accounts) msg solUsd now
      (st.receive (subscribedWatch bs58 discovered accounts) (.message msg solUsd now)).1 q :=
    handleMessage_quoted hq
  rcases hquoted with
    ⟨p, state, hrecord, hemit⟩ |
    ⟨account, p, baseMint, quoteMint, decA, decB, baseIsA, data, price, subId, _, hrole, hdec, hemit⟩ |
    ⟨account, p, baseMint, state, price, hrole, _, hemit⟩
  · obtain ⟨_, d, hd, hof⟩ := hafter p state hrecord
    obtain ⟨coin, pc, price, _, _, _, heq⟩ := tryEmitRaydium_eq hemit
    obtain rfl := Emission.quote.inj heq
    exact ⟨d, hd, hof.dex.symm, congrArg some hof.poolAddress, hof.baseMint⟩
  · obtain ⟨d, hd, hdex, rfl, rfl, _⟩ := hlabel.role account _ hrole
    obtain rfl := Emission.quote.inj (updateWhirlpool_eq hdec hemit)
    exact ⟨d, hd, hdex.symm, rfl, rfl⟩
  · obtain ⟨d, hd, hdex, rfl, rfl⟩ := hlabel.role account _ hrole
    obtain rfl := Emission.quote.inj hemit
    exact ⟨d, hd, hdex.symm, rfl, rfl⟩

end Sources

end SolanaArb.PoolMonitor
