import SolanaArb.Feed.PoolDecoder
import SolanaArb.General.Tables
import Mathlib.Data.List.AList

/-! # The WebSocket pool monitor

Accounts of the discovered pools are subscribed one by one; each notification
carries one account and is handled on its own. The two vaults of a Raydium pool
meet in a record that outlives the connection. A JSON message is given by the
fields the handler reads, a base64 field by its decoding.
-/
namespace SolanaArb.PoolMonitor
open SolanaArb.PoolDecoder SolanaArb.General

def isUsdQuoted (quoteMint : String) : Bool := quoteMint == usdcMint

structure DiscoveredPool where
  poolAddress : String
  dex : Dex
  baseMint : String
  quoteMint : String
  deriving DecidableEq, Repr

inductive AccountRole
  | raydiumCoinVault (poolAddress : String)
  | raydiumPcVault (poolAddress : String)
  | orcaWhirlpool (poolAddress baseMint : String) (decimalsA decimalsB : UInt8) (baseIsA : Bool)
      (quoteMint : String)
  | pumpFunCurve (poolAddress baseMint : String)
  deriving DecidableEq, Repr

structure RaydiumVaultState where
  coinBalance : Option UInt64
  pcBalance : Option UInt64
  coinDecimals : UInt8
  pcDecimals : UInt8
  baseMint : String
  poolAddress : String
  quoteMint : String
  deriving DecidableEq, Repr

structure GraduationEvent where
  bondingCurveAddress : String
  baseMint : String
  tokenSymbol : String
  graduatedAt : Timestamp
  deriving DecidableEq, Repr

inductive Emission
  | quote (q : PriceQuote)
  | graduation (e : GraduationEvent)
  deriving DecidableEq, Repr

abbrev Roles := AList (fun _ : String => AccountRole)
abbrev RaydiumStates := AList (fun _ : String => RaydiumVaultState)

structure Subscriptions where
  roles : Roles
  raydiumStates : RaydiumStates

/-- The answers of the endpoint while one pool is being subscribed. -/
structure Resolution where
  baseDecimals : Option UInt8
  quoteDecimals : Option UInt8
  vaults : Except String (String × String)
  account : Except String Bytes

section Subscribe
variable (bs58 : Bytes → String)

def addSubscription (subs : Subscriptions) (pool : DiscoveredPool) (res : Resolution) :
    Subscriptions :=
  let baseDec := res.baseDecimals.getD 6
  let quoteDec := if pool.quoteMint = "" then 9 else res.quoteDecimals.getD 9
  match pool.dex with
  | .raydium =>
    match res.vaults with
    | .error _ => subs
    | .ok (coinVault, pcVault) =>
      { roles := (subs.roles.insert coinVault (.raydiumCoinVault pool.poolAddress)).insert pcVault
          (.raydiumPcVault pool.poolAddress)
        raydiumStates := subs.raydiumStates.insert pool.poolAddress {
          coinBalance := none
          pcBalance := none
          coinDecimals := baseDec
          pcDecimals := quoteDec
          baseMint := pool.baseMint
          poolAddress := pool.poolAddress
          quoteMint := pool.quoteMint } }
  | .orca =>
    match res.account with
    | .error _ => subs
    | .ok data =>
      match decodeWhirlpoolMintA data with
      | .error _ => subs
      | .ok mintA =>
        let baseIsA := bs58 mintA == pool.baseMint
        let decA := if baseIsA then baseDec else quoteDec
        let decB := if baseIsA then quoteDec else baseDec
        { subs with
          roles := subs.roles.insert pool.poolAddress
            (.orcaWhirlpool pool.poolAddress pool.baseMint decA decB baseIsA pool.quoteMint) }
  | .pumpFun =>
    { subs with
      roles := subs.roles.insert pool.poolAddress
        (.pumpFunCurve pool.poolAddress pool.baseMint) }
  | _ => subs

def buildSubscriptions (discovered : List (DiscoveredPool × Resolution)) : Subscriptions :=
  discovered.foldl (fun subs (pool, res) => addSubscription bs58 subs pool res) ⟨∅, ∅⟩

end Subscribe

structure MonitorState where
  raydiumStates : RaydiumStates
  pumpfunWasComplete : AList (fun _ : String => Bool)
  /-- The confirmed subscriptions of the current connection. -/
  subToAccount : AList (fun _ : UInt64 => String)

def initialState (raydiumStates : RaydiumStates) (discovered : List DiscoveredPool) :
    MonitorState where
  raydiumStates := raydiumStates
  pumpfunWasComplete := discovered.foldl (fun was pool =>
    if pool.dex = .pumpFun then was.insert pool.poolAddress false else was) ∅
  subToAccount := ∅

/-- A new connection starts without confirmed subscriptions and keeps the rest. -/
def MonitorState.reconnect (st : MonitorState) : MonitorState := { st with subToAccount := ∅ }

/-- Requests are numbered from one in the order of the subscribed accounts. -/
def reqToAccount (accounts : List String) (reqId : UInt64) : Option String :=
  if reqId = 0 then none else accounts[reqId.toNat - 1]?

structure WsParams where
  subscription : Option UInt64
  data : Option (Option Bytes)

structure WsMessage where
  id : Option UInt64
  result : Option UInt64
  method : Option String
  params : Option WsParams

inductive Incoming
  | ignored
  | confirmation (reqId subId : UInt64)
  | notification (subId : UInt64) (data : Bytes)
  deriving DecidableEq, Repr

def classify (msg : Option WsMessage) : Incoming :=
  match msg with
  | none => .ignored
  | some msg =>
    match msg.id, msg.result with
    | some reqId, some subId => .confirmation reqId subId
    | _, _ =>
      if msg.method ≠ some "accountNotification" then .ignored
      else
        match msg.params with
        | some ⟨some subId, some (some data)⟩ => .notification subId data
        | _ => .ignored

def emitQuote (dex : Dex) (baseMint poolAddress : String) (priceUsd : ℚ) (now : Timestamp) :
    Emission :=
  .quote {
    dex := dex
    baseMint := baseMint
    quoteMint := ""
    priceUsd := priceUsd
    liquidityUsd := 0
    poolAddress := some poolAddress
    source := .webSocket
    timestamp := now }

def tryEmitRaydium (state : RaydiumVaultState) (solUsd : ℚ) (now : Timestamp) : List Emission :=
  match state.coinBalance, state.pcBalance with
  | some coin, some pc =>
    match raydiumPriceFromVaults coin pc state.coinDecimals state.pcDecimals with
    | .ok price =>
      let priceUsd := if isUsdQuoted state.quoteMint then price else price * solUsd
      [emitQuote .raydium state.baseMint state.poolAddress priceUsd now]
    | .error _ => []
  | _, _ => []

inductive Side
  | coin | pc
  deriving DecidableEq, Repr

def RaydiumVaultState.setBalance (state : RaydiumVaultState) (side : Side) (balance : UInt64) :
    RaydiumVaultState :=
  match side with
  | .coin => { state with coinBalance := some balance }
  | .pc => { state with pcBalance := some balance }

def updateVault (side : Side) (poolAddress : String) (data : Bytes) (solUsd : ℚ)
    (now : Timestamp) (st : MonitorState) : MonitorState × List Emission :=
  match decodeSplTokenBalance data with
  | .error _ => (st, [])
  | .ok balance =>
    match st.raydiumStates.lookup poolAddress with
    | none => (st, [])
    | some state =>
      ({ st with
          raydiumStates := st.raydiumStates.insert poolAddress (state.setBalance side balance) },
        tryEmitRaydium (state.setBalance side balance) solUsd now)

def updateWhirlpool (poolAddress baseMint : String) (decimalsA decimalsB : UInt8) (baseIsA : Bool)
    (quoteMint : String) (data : Bytes) (solUsd : ℚ) (now : Timestamp) : List Emission :=
  match decodeWhirlpoolPrice data decimalsA decimalsB with
  | .error _ => []
  | .ok decoded =>
    let price := if !baseIsA ∧ 0 < decoded then 1 / decoded else decoded
    let priceUsd := if isUsdQuoted quoteMint then price else price * solUsd
    [emitQuote .orca baseMint poolAddress priceUsd now]

/-- A curve is announced as graduated when it turns complete, and priced until then. -/
def updateCurve (poolAddress baseMint : String) (data : Bytes) (solUsd : ℚ) (now : Timestamp)
    (st : MonitorState) : MonitorState × List Emission :=
  match decodePumpfunState data with
  | .error _ => (st, [])
  | .ok state =>
    let (st', graduations) :=
      match st.pumpfunWasComplete.lookup poolAddress with
      | none => (st, [])
      | some wasComplete =>
        ({ st with pumpfunWasComplete := st.pumpfunWasComplete.insert poolAddress state.complete },
          if state.complete && !wasComplete then
            [.graduation {
              bondingCurveAddress := poolAddress
              baseMint := baseMint
              tokenSymbol := ""
              graduatedAt := now }]
          else [])
    let quotes :=
      if state.complete then []
      else
        match pumpfunPriceInSol state with
        | .ok priceSol => [emitQuote .pumpFun baseMint poolAddress (priceSol * solUsd) now]
        | .error _ => []
    (st', graduations ++ quotes)

def handleAccount (role : AccountRole) (data : Bytes) (solUsd : ℚ) (now : Timestamp)
    (st : MonitorState) : MonitorState × List Emission :=
  match role with
  | .raydiumCoinVault poolAddress => updateVault .coin poolAddress data solUsd now st
  | .raydiumPcVault poolAddress => updateVault .pc poolAddress data solUsd now st
  | .orcaWhirlpool poolAddress baseMint decimalsA decimalsB baseIsA quoteMint =>
    (st, updateWhirlpool poolAddress baseMint decimalsA decimalsB baseIsA quoteMint data solUsd now)
  | .pumpFunCurve poolAddress baseMint => updateCurve poolAddress baseMint data solUsd now st

def handleMessage (roles : Roles) (accounts : List String) (msg : Option WsMessage) (solUsd : ℚ)
    (now : Timestamp) (st : MonitorState) : MonitorState × List Emission :=
  match classify msg with
  | .ignored => (st, [])
  | .confirmation reqId subId =>
    match reqToAccount accounts reqId with
    | some account => ({ st with subToAccount := st.subToAccount.insert subId account }, [])
    | none => (st, [])
  | .notification subId data =>
    match (st.subToAccount.lookup subId).bind (fun account => roles.lookup account) with
    | none => (st, [])
    | some role => handleAccount role data solUsd now st

section Cases
variable (solUsd : ℚ) (now : Timestamp) (st : MonitorState)

/-- A record is quoted once both balances are known and give a price. -/
theorem tryEmitRaydium_cases (state : RaydiumVaultState) :
    tryEmitRaydium state solUsd now = [] ∨
    ∃ coin pc price, state.coinBalance = some coin ∧ state.pcBalance = some pc ∧
      raydiumPriceFromVaults coin pc state.coinDecimals state.pcDecimals = .ok price ∧
      tryEmitRaydium state solUsd now = [emitQuote .raydium state.baseMint state.poolAddress
        (if isUsdQuoted state.quoteMint then price else price * solUsd) now] := by
  unfold tryEmitRaydium
  cases state.coinBalance with
  | none => exact Or.inl rfl
  | some coin =>
    cases state.pcBalance with
    | none => exact Or.inl rfl
    | some pc =>
      dsimp only
      cases hprice : raydiumPriceFromVaults coin pc state.coinDecimals state.pcDecimals with
      | error e => exact Or.inl rfl
      | ok price => exact Or.inr ⟨coin, pc, price, rfl, rfl, hprice, rfl⟩

/-- A vault that decodes sets its side of the record of its pool. -/
theorem updateVault_cases (side : Side) (poolAddress : String) (data : Bytes) :
    ((∀ balance, decodeSplTokenBalance data = .ok balance →
        st.raydiumStates.lookup poolAddress = none) ∧
      updateVault side poolAddress data solUsd now st = (st, [])) ∨
    ∃ balance state, decodeSplTokenBalance data = .ok balance ∧
      st.raydiumStates.lookup poolAddress = some state ∧
      updateVault side poolAddress data solUsd now st =
        ({ st with
            raydiumStates := st.raydiumStates.insert poolAddress (state.setBalance side balance) },
          tryEmitRaydium (state.setBalance side balance) solUsd now) := by
  unfold updateVault
  cases decodeSplTokenBalance data with
  | error e => exact Or.inl ⟨fun _ h => (by cases h), rfl⟩
  | ok balance =>
    dsimp only
    cases st.raydiumStates.lookup poolAddress with
    | none => exact Or.inl ⟨fun _ _ => rfl, rfl⟩
    | some state => exact Or.inr ⟨balance, state, rfl, rfl, rfl⟩

theorem updateWhirlpool_cases (poolAddress baseMint : String) (decimalsA decimalsB : UInt8)
    (baseIsA : Bool) (quoteMint : String) (data : Bytes) :
    updateWhirlpool poolAddress baseMint decimalsA decimalsB baseIsA quoteMint data solUsd now =
      [] ∨
    ∃ decoded, decodeWhirlpoolPrice data decimalsA decimalsB = .ok decoded ∧
      updateWhirlpool poolAddress baseMint decimalsA decimalsB baseIsA quoteMint data solUsd now =
        [emitQuote .orca baseMint poolAddress
          (if isUsdQuoted quoteMint then if !baseIsA ∧ 0 < decoded then 1 / decoded else decoded
            else (if !baseIsA ∧ 0 < decoded then 1 / decoded else decoded) * solUsd) now] := by
  unfold updateWhirlpool
  cases decodeWhirlpoolPrice data decimalsA decimalsB with
  | error e => exact Or.inl rfl
  | ok decoded => exact Or.inr ⟨decoded, rfl, rfl⟩

/-- A curve that decodes is remembered if it was, announced when it is newly complete,
and quoted while it is not complete. -/
theorem updateCurve_cases (poolAddress baseMint : String) (data : Bytes) :
    ((∀ state, decodePumpfunState data ≠ .ok state) ∧
      updateCurve poolAddress baseMint data solUsd now st = (st, [])) ∨
    ∃ state memory graduations quotes, decodePumpfunState data = .ok state ∧
      updateCurve poolAddress baseMint data solUsd now st =
        ({ st with pumpfunWasComplete := memory }, graduations ++ quotes) ∧
      (st.pumpfunWasComplete.lookup poolAddress = none ∧ graduations = [] ∨
        ∃ was, st.pumpfunWasComplete.lookup poolAddress = some was ∧
          memory = st.pumpfunWasComplete.insert poolAddress state.complete ∧
          graduations = if state.complete && !was then
            [.graduation ⟨poolAddress, baseMint, "", now⟩] else []) ∧
      (quotes = [] ∨ ∃ price, pumpfunPriceInSol state = .ok price ∧
        quotes = [emitQuote .pumpFun baseMint poolAddress (price * solUsd) now]) := by
  unfold updateCurve
  cases decodePumpfunState data with
  | error e => exact Or.inl ⟨fun _ h => (by cases h), rfl⟩
  | ok state =>
    dsimp only
    cases hwas : st.pumpfunWasComplete.lookup poolAddress with
    | none =>
      refine Or.inr ⟨state, _, [], _, rfl, rfl, Or.inl ⟨rfl, rfl⟩, ?_⟩
      cases state.complete with
      | true => exact Or.inl rfl
      | false =>
        cases pumpfunPriceInSol state with
        | error e => exact Or.inl rfl
        | ok price => exact Or.inr ⟨price, rfl, rfl⟩
    | some was =>
      refine Or.inr ⟨state, _, _, _, rfl, rfl, Or.inr ⟨was, rfl, rfl, rfl⟩, ?_⟩
      cases state.complete with
      | true => exact Or.inl rfl
      | false =>
        cases pumpfunPriceInSol state with
        | error e => exact Or.inl rfl
        | ok price => exact Or.inr ⟨price, rfl, rfl⟩

/-- All a message can do: its account is handled, or at most a subscription is noted. -/
theorem handleMessage_cases (roles : Roles) (accounts : List String) (msg : Option WsMessage) :
    (∃ subId data role, classify msg = .notification subId data ∧
      (st.subToAccount.lookup subId).bind (fun account => roles.lookup account) = some role ∧
      handleMessage roles accounts msg solUsd now st = handleAccount role data solUsd now st) ∨
    (∀ subId data, classify msg = .notification subId data →
      (st.subToAccount.lookup subId).bind (fun account => roles.lookup account) = none) ∧
    ∃ subs, handleMessage roles accounts msg solUsd now st =
        ({ st with subToAccount := subs }, []) ∧
      ∀ subId account, subs.lookup subId = some account →
        st.subToAccount.lookup subId = some account ∨
        ∃ reqId, classify msg = .confirmation reqId subId ∧
          reqToAccount accounts reqId = some account := by
  unfold handleMessage
  cases hclass : classify msg with
  | ignored =>
    exact Or.inr ⟨fun _ _ h => (by cases h), st.subToAccount, rfl, fun _ _ h => Or.inl h⟩
  | confirmation reqId subId =>
    refine Or.inr ⟨fun _ _ h => (by cases h), ?_⟩
    dsimp only
    cases hreq : reqToAccount accounts reqId with
    | none => exact ⟨st.subToAccount, rfl, fun _ _ h => Or.inl h⟩
    | some account =>
      refine ⟨st.subToAccount.insert subId account, rfl, ?_⟩
      intro subId' account' h
      rcases lookup_insert_cases h with ⟨rfl, rfl⟩ | hold
      · exact Or.inr ⟨reqId, rfl, hreq⟩
      · exact Or.inl hold
  | notification subId data =>
    dsimp only
    cases hrole : (st.subToAccount.lookup subId).bind (fun account => roles.lookup account) with
    | none =>
      refine Or.inr ⟨?_, st.subToAccount, rfl, fun _ _ h => Or.inl h⟩
      intro _ _ h
      obtain ⟨rfl, rfl⟩ := Incoming.notification.inj h
      exact hrole
    | some role => exact Or.inl ⟨subId, data, role, rfl, hrole, rfl⟩

end Cases

end SolanaArb.PoolMonitor
