import SolanaArb.Feed.PoolMonitor
import SolanaArb.General.Except
import SolanaArb.General.Runs
import SolanaArb.General.Tables
import Mathlib.Data.List.AList

/-! # Which pool state a Raydium quote shows

Every Raydium pool has a history of states, each with both vault balances. The
endpoint notifies the two vaults separately, each in order; connections may be
lost at any time. A quote joins the last state delivered for one vault with the
last state delivered for the other, and these need not be the same state.
-/
namespace SolanaArb.PoolMonitor
open SolanaArb.PoolDecoder SolanaArb.General

abbrev History := String → List (UInt64 × UInt64)

def Side.of : Side → UInt64 × UInt64 → UInt64
  | .coin => Prod.fst
  | .pc => Prod.snd

def AccountRole.vault : AccountRole → Option (String × Side)
  | .raydiumCoinVault poolAddress => some (poolAddress, .coin)
  | .raydiumPcVault poolAddress => some (poolAddress, .pc)
  | _ => none

structure Watch where
  roles : Roles
  accounts : List String

/-- The vault balance a message shows when subscription ids are read by `subs`. -/
def shown (watch : Watch) (subs : UInt64 → Option String) (msg : Option WsMessage) :
    Option (String × Side × UInt64) :=
  match classify msg with
  | .notification subId data => do
    let role ← (subs subId).bind (fun account => watch.roles.lookup account)
    let (poolAddress, side) ← role.vault
    let balance ← (decodeSplTokenBalance data).toOption
    some (poolAddress, side, balance)
  | _ => none

/-- The monitor, the endpoint's subscriptions of the current connection, and for each
vault the index of the last state the monitor has taken in. -/
structure World where
  monitor : MonitorState
  subs : UInt64 → Option String
  seen : String → Side → Option ℕ

inductive Event
  | reconnect (subs : UInt64 → Option String)
  | message (msg : Option WsMessage) (index : ℕ) (solUsd : ℚ) (now : Timestamp)

/-- The endpoint tells the truth: a confirmation names the account of its request, a
vault notification shows the vault at state `index` of its pool, and a vault is
never shown at an older state than before. -/
def honest (watch : Watch) (history : History) (w : World) (msg : Option WsMessage)
    (index : ℕ) : Bool :=
  match classify msg with
  | .ignored => true
  | .confirmation reqId subId =>
    (reqToAccount watch.accounts reqId).all (fun account => w.subs subId == some account)
  | .notification _ _ =>
    match shown watch w.subs msg with
    | none => true
    | some (poolAddress, side, balance) =>
      (history poolAddress)[index]?.map side.of == some balance &&
        (w.seen poolAddress side).all (fun last => decide (last ≤ index))

def World.take (w : World) (poolAddress : String) (side : Side) (index : ℕ) :
    String → Side → Option ℕ :=
  fun p s => if p = poolAddress ∧ s = side then some index else w.seen p s

def World.next (watch : Watch) (w : World) : Event → World
  | .reconnect subs => { w with monitor := w.monitor.reconnect, subs := subs }
  | .message msg index solUsd now =>
    { w with
      monitor := (handleMessage watch.roles watch.accounts msg solUsd now w.monitor).1
      seen :=
        match shown watch w.monitor.subToAccount.lookup msg with
        | some (poolAddress, side, _) => w.take poolAddress side index
        | none => w.seen }

def World.allowed (watch : Watch) (history : History) (w : World) : Event → Bool
  | .reconnect _ => true
  | .message msg index _ _ => honest watch history w msg index

def Step (watch : Watch) (history : History) (w : World) (e : Event) (w' : World) : Prop :=
  w.allowed watch history e = true ∧ w' = w.next watch e

def World.start (raydiumStates : RaydiumStates) (discovered : List DiscoveredPool) : World where
  monitor := initialState raydiumStates discovered
  subs := fun _ => none
  seen := fun _ _ => none

section Handler
variable {watch : Watch} {msg : Option WsMessage} {solUsd : ℚ} {now : Timestamp} {st : MonitorState}

def NoRaydium (out : List Emission) : Prop := ∀ q, .quote q ∈ out → q.dex ≠ .raydium

theorem noRaydium_nil : NoRaydium [] := by
  intro q hq
  exact absurd hq List.not_mem_nil

theorem emitQuote_noRaydium {dex : Dex} (hdex : dex ≠ .raydium) (baseMint poolAddress : String)
    (priceUsd : ℚ) : NoRaydium [emitQuote dex baseMint poolAddress priceUsd now] := by
  intro q hq
  obtain rfl := Emission.quote.inj (List.mem_singleton.mp hq)
  exact hdex

theorem updateWhirlpool_noRaydium (poolAddress baseMint quoteMint : String)
    (decimalsA decimalsB : UInt8) (baseIsA : Bool) (data : Bytes) :
    NoRaydium (updateWhirlpool poolAddress baseMint decimalsA decimalsB baseIsA quoteMint data
      solUsd now) := by
  rcases updateWhirlpool_cases solUsd now poolAddress baseMint decimalsA decimalsB baseIsA quoteMint
    data with heq | ⟨decoded, _, heq⟩
  · rw [heq]
    exact noRaydium_nil
  · rw [heq]
    exact emitQuote_noRaydium (by decide) _ _ _

theorem quote_notMem_graduation {c : Bool} {e : GraduationEvent} {q : PriceQuote} :
    .quote q ∉ (if c then [Emission.graduation e] else []) := by
  cases c with
  | true => simp
  | false => simp

/-- A quote a curve sends is the one of its decoded price; graduations are no quotes. -/
theorem quote_of_updateCurve {poolAddress baseMint : String} {data : Bytes} {q : PriceQuote}
    (hq : .quote q ∈ (updateCurve poolAddress baseMint data solUsd now st).2) :
    ∃ state price, pumpfunPriceInSol state = .ok price ∧
      .quote q = emitQuote .pumpFun baseMint poolAddress (price * solUsd) now := by
  rcases updateCurve_cases solUsd now st poolAddress baseMint data with
    ⟨_, heq⟩ | ⟨state, memory, graduations, quotes, _, heq, hgraduations, hquotes⟩
  · rw [heq] at hq
    exact absurd hq List.not_mem_nil
  · rw [heq] at hq
    rcases List.mem_append.mp hq with hq | hq
    · rcases hgraduations with ⟨_, rfl⟩ | ⟨_, _, _, rfl⟩
      · exact absurd hq List.not_mem_nil
      · exact absurd hq quote_notMem_graduation
    · rcases hquotes with rfl | ⟨price, hprice, rfl⟩
      · exact absurd hq List.not_mem_nil
      · exact ⟨state, price, hprice, List.mem_singleton.mp hq⟩

theorem updateCurve_frame (solUsd : ℚ) (now : Timestamp) (st : MonitorState)
    (poolAddress baseMint : String) (data : Bytes) :
    (updateCurve poolAddress baseMint data solUsd now st).1.raydiumStates = st.raydiumStates ∧
    (updateCurve poolAddress baseMint data solUsd now st).1.subToAccount = st.subToAccount ∧
    NoRaydium (updateCurve poolAddress baseMint data solUsd now st).2 := by
  have hquotes : NoRaydium (updateCurve poolAddress baseMint data solUsd now st).2 := by
    intro q hq
    obtain ⟨state, price, _, hemit⟩ := quote_of_updateCurve hq
    exact emitQuote_noRaydium (by decide) _ _ _ q (List.mem_singleton.mpr hemit)
  rcases updateCurve_cases solUsd now st poolAddress baseMint data with
    ⟨_, heq⟩ | ⟨state, memory, graduations, quotes, _, heq, _⟩
  · rw [heq] at hquotes ⊢
    exact ⟨rfl, rfl, hquotes⟩
  · rw [heq] at hquotes ⊢
    exact ⟨rfl, rfl, hquotes⟩

/-- What a message does to the Raydium records: nothing, with no Raydium quote, or
one balance of one record is set and the record tried for a quote. -/
def RaydiumEffect (watch : Watch) (st : MonitorState) (msg : Option WsMessage) (solUsd : ℚ)
    (now : Timestamp) (st' : MonitorState) (out : List Emission) : Prop :=
  ((∀ p side b, shown watch st.subToAccount.lookup msg = some (p, side, b) →
      st.raydiumStates.lookup p = none) ∧
    st'.raydiumStates = st.raydiumStates ∧ NoRaydium out) ∨
  ∃ p side b state, shown watch st.subToAccount.lookup msg = some (p, side, b) ∧
    st.raydiumStates.lookup p = some state ∧
    st'.raydiumStates = st.raydiumStates.insert p (state.setBalance side b) ∧
    out = tryEmitRaydium (state.setBalance side b) solUsd now

theorem updateVault_effect {side : Side} {p : String} {data : Bytes}
    (hshown : shown watch st.subToAccount.lookup msg =
      (decodeSplTokenBalance data).toOption.map (fun b => (p, side, b))) :
    RaydiumEffect watch st msg solUsd now (updateVault side p data solUsd now st).1
      (updateVault side p data solUsd now st).2 := by
  rcases updateVault_cases solUsd now st side p data with
    ⟨hnone, heq⟩ | ⟨balance, state, hdecode, hrecord, heq⟩
  · rw [heq]
    refine Or.inl ⟨?_, rfl, noRaydium_nil⟩
    intro p' side' b hs
    rw [hshown] at hs
    obtain ⟨balance, hbalance, hentry⟩ := Option.map_eq_some_iff.mp hs
    cases hentry
    exact hnone _ (toOption_eq_some.mp hbalance)
  · rw [heq]
    rw [hdecode] at hshown
    exact Or.inr ⟨p, side, balance, state, hshown, hrecord, rfl, rfl⟩

theorem shown_eq_none {subs : UInt64 → Option String}
    (hquiet : ∀ subId data, classify msg = .notification subId data →
      (subs subId).bind (fun account => watch.roles.lookup account) = none) :
    shown watch subs msg = none := by
  unfold shown
  cases hclass : classify msg with
  | ignored => rfl
  | confirmation reqId subId => rfl
  | notification subId data => simp [hquiet subId data hclass]

theorem handleMessage_effect (watch : Watch) (msg : Option WsMessage) (solUsd : ℚ)
    (now : Timestamp) (st : MonitorState) :
    RaydiumEffect watch st msg solUsd now
      (handleMessage watch.roles watch.accounts msg solUsd now st).1
      (handleMessage watch.roles watch.accounts msg solUsd now st).2 := by
  rcases handleMessage_cases solUsd now st watch.roles watch.accounts msg with
    ⟨subId, data, role, hclass, hrole, heq⟩ | ⟨hquiet, subs, heq, _⟩
  · have hshown : shown watch (fun id => st.subToAccount.lookup id) msg =
        role.vault.bind (fun v =>
          (decodeSplTokenBalance data).toOption.map (fun b => (v.1, v.2, b))) := by
      simp [shown, hclass, hrole, Option.map_eq_bind]
    rw [heq]
    cases role with
    | raydiumCoinVault p => exact updateVault_effect hshown
    | raydiumPcVault p => exact updateVault_effect hshown
    | orcaWhirlpool p baseMint decA decB baseIsA quoteMint =>
      refine Or.inl ⟨by simp [hshown, AccountRole.vault], rfl, ?_⟩
      exact updateWhirlpool_noRaydium p baseMint quoteMint decA decB baseIsA data
    | pumpFunCurve p baseMint =>
      obtain ⟨hstates, _, hout⟩ := updateCurve_frame solUsd now st p baseMint data
      exact Or.inl ⟨by simp [hshown, AccountRole.vault], hstates, hout⟩
  · rw [heq]
    refine Or.inl ⟨?_, rfl, noRaydium_nil⟩
    intro p side b hs
    rw [shown_eq_none hquiet] at hs
    cases hs

theorem handleAccount_subToAccount (role : AccountRole) (data : Bytes) :
    (handleAccount role data solUsd now st).1.subToAccount = st.subToAccount := by
  have hvault (side : Side) (p : String) :
      (updateVault side p data solUsd now st).1.subToAccount = st.subToAccount := by
    rcases updateVault_cases solUsd now st side p data with ⟨_, heq⟩ | ⟨_, _, _, _, heq⟩
    · rw [heq]
    · rw [heq]
  cases role with
  | raydiumCoinVault p => exact hvault .coin p
  | raydiumPcVault p => exact hvault .pc p
  | orcaWhirlpool p baseMint decA decB baseIsA quoteMint => rfl
  | pumpFunCurve p baseMint => exact (updateCurve_frame solUsd now st p baseMint data).2.1

/-- Only a confirmation of the account's request makes a subscription known. -/
theorem handleMessage_known {subId : UInt64} {account : String}
    (h : (handleMessage watch.roles watch.accounts msg solUsd now st).1.subToAccount.lookup subId =
      some account) :
    st.subToAccount.lookup subId = some account ∨
      ∃ reqId, classify msg = .confirmation reqId subId ∧
        reqToAccount watch.accounts reqId = some account := by
  rcases handleMessage_cases solUsd now st watch.roles watch.accounts msg with
    ⟨_, data, role, _, _, heq⟩ | ⟨_, subs, heq, hsubs⟩
  · rw [heq, handleAccount_subToAccount] at h
    exact Or.inl h
  · rw [heq] at h
    exact hsubs subId account h

end Handler

section Tracking
variable {watch : Watch} {history : History} {records : RaydiumStates} {w w' : World} {e : Event}

def balanceAt (history : History) (p : String) (side : Side) (index : Option ℕ) : Option UInt64 :=
  index.bind (fun i => (history p)[i]?.map side.of)

def World.view (history : History) (w : World) (p : String) (fresh : RaydiumVaultState) :
    RaydiumVaultState :=
  { fresh with
    coinBalance := balanceAt history p .coin (w.seen p .coin)
    pcBalance := balanceAt history p .pc (w.seen p .pc) }

/-- The monitor attributes notifications as the endpoint does, and every record holds
the balances of the states last seen. -/
structure Tracks (history : History) (records : RaydiumStates) (w : World) : Prop where
  known : ∀ subId account, w.monitor.subToAccount.lookup subId = some account →
    w.subs subId = some account
  views : ∀ p, w.monitor.raydiumStates.lookup p = (records.lookup p).map (w.view history p)

theorem shown_mono {known subs : UInt64 → Option String}
    (hknown : ∀ subId account, known subId = some account → subs subId = some account)
    {msg : Option WsMessage} {x : String × Side × UInt64} (h : shown watch known msg = some x) :
    shown watch subs msg = some x := by
  unfold shown at h ⊢
  cases hclass : classify msg with
  | ignored => simp [hclass] at h
  | confirmation reqId subId => simp [hclass] at h
  | notification subId data =>
    simp only [hclass] at h ⊢
    cases hsub : known subId with
    | none => simp [hsub] at h
    | some account =>
      rw [hsub] at h
      rw [hknown subId account hsub]
      exact h

theorem Tracks.honest_shown (ht : Tracks history records w) {msg : Option WsMessage} {index : ℕ}
    (hh : honest watch history w msg index = true) {p : String} {side : Side} {b : UInt64}
    (h : shown watch (fun id => w.monitor.subToAccount.lookup id) msg = some (p, side, b)) :
    (history p)[index]?.map side.of = some b ∧
      ∀ last, w.seen p side = some last → last ≤ index := by
  have hsubs := shown_mono ht.known h
  unfold honest at hh
  cases hclass : classify msg with
  | ignored => simp [shown, hclass] at h
  | confirmation reqId subId => simp [shown, hclass] at h
  | notification subId data =>
    simp only [hclass, hsubs, Bool.and_eq_true, beq_iff_eq] at hh
    refine ⟨hh.1, ?_⟩
    intro last hlast
    simpa [hlast] using hh.2

theorem World.view_congr {p : String} (h : w'.seen p = w.seen p) :
    w'.view history p = w.view history p := by
  funext fresh
  simp only [World.view, h]

theorem World.take_same (w : World) (p : String) (side : Side) (index : ℕ) :
    w.take p side index p side = some index := by simp [World.take]

theorem World.take_other_pool (w : World) {p p' : String} (side : Side) (index : ℕ) (h : p' ≠ p) :
    w.take p side index p' = w.seen p' := by
  funext side'
  simp [World.take, h]

theorem World.view_take {p : String} {side : Side} {index : ℕ} {b : UInt64}
    (hb : (history p)[index]?.map side.of = some b) (hseen : w'.seen = w.take p side index)
    (fresh : RaydiumVaultState) :
    w'.view history p fresh = (w.view history p fresh).setBalance side b := by
  cases side with
  | coin => simp [World.view, RaydiumVaultState.setBalance, hseen, World.take, balanceAt, hb]
  | pc => simp [World.view, RaydiumVaultState.setBalance, hseen, World.take, balanceAt, hb]

theorem World.next_seen {msg : Option WsMessage} {index : ℕ} {solUsd : ℚ} {now : Timestamp}
    {p : String} {side : Side} {b : UInt64}
    (h : shown watch (fun id => w.monitor.subToAccount.lookup id) msg = some (p, side, b)) :
    (w.next watch (.message msg index solUsd now)).seen = w.take p side index := by
  simp only [World.next, h]

section Message
variable {msg : Option WsMessage} {index : ℕ} {solUsd : ℚ} {now : Timestamp}

theorem Tracks.known_next (ht : Tracks history records w)
    (hh : honest watch history w msg index = true) {subId : UInt64} {account : String}
    (h : (w.next watch (.message msg index solUsd now)).monitor.subToAccount.lookup subId =
      some account) : w.subs subId = some account := by
  rcases handleMessage_known h with h | ⟨reqId, hclass, hreq⟩
  · exact ht.known subId account h
  · simpa [honest, hclass, hreq] using hh

/-- A message that reaches no record takes in no state of a recorded pool. -/
theorem Tracks.seen_next (ht : Tracks history records w)
    (hnone : ∀ p side b,
      shown watch (fun id => w.monitor.subToAccount.lookup id) msg = some (p, side, b) →
        w.monitor.raydiumStates.lookup p = none)
    {p : String} {fresh : RaydiumVaultState} (hfresh : records.lookup p = some fresh) :
    (w.next watch (.message msg index solUsd now)).seen p = w.seen p := by
  cases hshown : shown watch (fun id => w.monitor.subToAccount.lookup id) msg with
  | none => simp only [World.next, hshown]
  | some x =>
    obtain ⟨p', side, b⟩ := x
    have hmissing := hnone p' side b hshown
    rw [ht.views p', Option.map_eq_none_iff] at hmissing
    rw [World.next_seen hshown]
    apply w.take_other_pool side index
    rintro rfl
    rw [hfresh] at hmissing
    cases hmissing

theorem Tracks.views_next (ht : Tracks history records w)
    (hh : honest watch history w msg index = true) (p : String) :
    (w.next watch (.message msg index solUsd now)).monitor.raydiumStates.lookup p =
      (records.lookup p).map ((w.next watch (.message msg index solUsd now)).view history p) := by
  change (handleMessage watch.roles watch.accounts msg solUsd now
    w.monitor).1.raydiumStates.lookup p = _
  rcases handleMessage_effect watch msg solUsd now w.monitor with
    ⟨hnone, hsame, _⟩ | ⟨p', side, b, state, hshown, hrecord, hset, _⟩
  · rw [hsame, ht.views p]
    cases hfresh : records.lookup p with
    | none => rfl
    | some fresh => rw [World.view_congr (ht.seen_next hnone hfresh)]
  · have hseen : (w.next watch (.message msg index solUsd now)).seen = w.take p' side index :=
      World.next_seen hshown
    obtain ⟨hb, _⟩ := ht.honest_shown hh hshown
    rw [ht.views p'] at hrecord
    obtain ⟨fresh, hfresh, rfl⟩ := Option.map_eq_some_iff.mp hrecord
    rw [hset]
    by_cases hp : p = p'
    · subst hp
      rw [AList.lookup_insert, hfresh, Option.map_some, World.view_take hb hseen]
    · have hother : (w.next watch (.message msg index solUsd now)).seen p = w.seen p := by
        rw [hseen]
        exact w.take_other_pool side index hp
      rw [AList.lookup_insert_ne hp, ht.views p, World.view_congr hother]

end Message

theorem Tracks.step (ht : Tracks history records w) (hs : Step watch history w e w') :
    Tracks history records w' := by
  obtain ⟨hh, rfl⟩ := hs
  cases e with
  | reconnect subs =>
    constructor
    · intro subId account h
      simp [World.next, MonitorState.reconnect] at h
    · exact ht.views
  | message msg index solUsd now =>
    constructor
    · intro subId account h
      exact ht.known_next hh h
    · intro p
      exact ht.views_next hh p

end Tracking

section Start
variable {bs58 : Bytes → String}

def FreshRecords (records : RaydiumStates) : Prop := ∀ p state, records.lookup p = some state →
  state.poolAddress = p ∧ state.coinBalance = none ∧ state.pcBalance = none

theorem addSubscription_fresh {subs : Subscriptions} (pool : DiscoveredPool) (res : Resolution)
    (h : FreshRecords subs.raydiumStates) :
    FreshRecords (addSubscription bs58 subs pool res).raydiumStates := by
  unfold addSubscription
  cases pool.dex with
  | raydium =>
    cases res.vaults with
    | error e => exact h
    | ok vaults => exact forall_lookup_insert h ⟨rfl, rfl, rfl⟩
  | orca =>
    cases res.account with
    | error e => exact h
    | ok data =>
      dsimp only
      cases decodeWhirlpoolMintA data <;> exact h
  | pumpFun => exact h
  | raydiumClmm => exact h
  | jupiter => exact h
  | meteora => exact h
  | pumpSwap => exact h
  | unknown => exact h

theorem buildSubscriptions_fresh (discovered : List (DiscoveredPool × Resolution)) :
    FreshRecords (buildSubscriptions bs58 discovered).raydiumStates := by
  unfold buildSubscriptions
  apply List.foldlRecOn (motive := fun subs : Subscriptions => FreshRecords subs.raydiumStates)
    discovered _
  · intro p state hstate
    simp at hstate
  · intro subs h d _
    exact addSubscription_fresh d.1 d.2 h

theorem World.start_tracks {records : RaydiumStates} (hfresh : FreshRecords records)
    (history : History) (discovered : List DiscoveredPool) :
    Tracks history records (World.start records discovered) := by
  constructor
  · intro subId account h
    simp [World.start, initialState] at h
  · intro p
    change records.lookup p = _
    cases hrec : records.lookup p with
    | none => rfl
    | some state =>
      obtain ⟨_, hcoin, hpc⟩ := hfresh p state hrec
      cases state
      dsimp only at hcoin hpc
      subst hcoin hpc
      rfl

end Start

/-- The quote is the one of the record's pool with these two balances. -/
def ShowsPair (fresh : RaydiumVaultState) (balances : UInt64 × UInt64) (solUsd : ℚ)
    (now : Timestamp) (q : PriceQuote) : Prop :=
  .quote q ∈ tryEmitRaydium
    { fresh with coinBalance := some balances.1, pcBalance := some balances.2 } solUsd now

theorem tryEmitRaydium_some {state : RaydiumVaultState} {solUsd : ℚ} {now : Timestamp}
    {q : PriceQuote} (h : .quote q ∈ tryEmitRaydium state solUsd now) :
    (∃ coin pc, state.coinBalance = some coin ∧ state.pcBalance = some pc) ∧
      q.poolAddress = some state.poolAddress := by
  rcases tryEmitRaydium_cases solUsd now state with heq | ⟨coin, pc, price, hcoin, hpc, _, heq⟩
  · rw [heq] at h
    exact absurd h List.not_mem_nil
  · rw [heq] at h
    obtain rfl := Emission.quote.inj (List.mem_singleton.mp h)
    exact ⟨⟨coin, pc, hcoin, hpc⟩, rfl⟩

section Emission
variable {watch : Watch} {history : History} {records : RaydiumStates} {w : World}
  {msg : Option WsMessage} {index : ℕ} {solUsd : ℚ} {now : Timestamp} {q : PriceQuote}

/-- A Raydium quote comes from the record the message has just set, as it now stands. -/
theorem Tracks.emits (ht : Tracks history records w)
    (hh : honest watch history w msg index = true) (hdex : q.dex = .raydium)
    (hq : .quote q ∈ (handleMessage watch.roles watch.accounts msg solUsd now w.monitor).2) :
    ∃ p side b fresh, records.lookup p = some fresh ∧
      shown watch (fun id => w.monitor.subToAccount.lookup id) msg = some (p, side, b) ∧
      .quote q ∈ tryEmitRaydium
        ((w.next watch (.message msg index solUsd now)).view history p fresh) solUsd now := by
  rcases handleMessage_effect watch msg solUsd now w.monitor with
    ⟨_, _, hno⟩ | ⟨p, side, b, state, hshown, _, hset, hout⟩
  · exact absurd hdex (hno q hq)
  have hview : (handleMessage watch.roles watch.accounts msg solUsd now
      w.monitor).1.raydiumStates.lookup p = _ := ht.views_next hh p
  rw [hset, AList.lookup_insert] at hview
  obtain ⟨fresh, hrecord, heq⟩ := Option.map_eq_some_iff.mp hview.symm
  rw [hout, ← heq] at hq
  exact ⟨p, side, b, fresh, hrecord, hshown, hq⟩

theorem World.view_emits {p : String} {fresh : RaydiumVaultState}
    (hq : .quote q ∈ tryEmitRaydium (w.view history p fresh) solUsd now) :
    ∃ i j coinState pcState, w.seen p .coin = some i ∧ (history p)[i]? = some coinState ∧
      w.seen p .pc = some j ∧ (history p)[j]? = some pcState ∧
      ShowsPair fresh (coinState.1, pcState.2) solUsd now q := by
  obtain ⟨⟨coin, pc, hcoin, hpc⟩, _⟩ := tryEmitRaydium_some hq
  obtain ⟨i, hi, hcoin'⟩ := Option.bind_eq_some_iff.mp hcoin
  obtain ⟨j, hj, hpc'⟩ := Option.bind_eq_some_iff.mp hpc
  obtain ⟨coinState, hcoinState, rfl⟩ := Option.map_eq_some_iff.mp hcoin'
  obtain ⟨pcState, hpcState, rfl⟩ := Option.map_eq_some_iff.mp hpc'
  refine ⟨i, j, coinState, pcState, hi, hcoinState, hj, hpcState, ?_⟩
  simp only [World.view] at hcoin hpc hq
  rw [hcoin, hpc] at hq
  exact hq

theorem World.take_just {p : String} {side : Side} {i j : ℕ}
    (hi : w.take p side index p .coin = some i) (hj : w.take p side index p .pc = some j) :
    i = index ∨ j = index := by
  cases side with
  | coin => exact Or.inl (by simpa [World.take] using hi.symm)
  | pc => exact Or.inr (by simpa [World.take] using hj.symm)

theorem World.take_ge {p : String} {side side' : Side} {k k₀ : ℕ}
    (hlast : ∀ last, w.seen p side = some last → last ≤ index)
    (hk : w.take p side index p side' = some k) (hk₀ : w.seen p side' = some k₀) : k₀ ≤ k := by
  by_cases hside : side' = side
  · subst hside
    rw [World.take_same, Option.some.injEq] at hk
    exact hk ▸ hlast k₀ hk₀
  · rw [World.take, if_neg (fun h => hside h.2), hk₀, Option.some.injEq] at hk
    omega

end Emission

/-- Every Raydium quote joins the coin balance of the state last delivered for the
coin vault with the pc balance of the state last delivered for the pc vault. One of
the two has just been delivered, neither goes back, and when they are one state the
quote shows a pair the pool really had. -/
theorem raydium_quote_of_last_states (bs58 : Bytes → String)
    (discovered : List (DiscoveredPool × Resolution)) (accounts : List String) (history : History)
    (es : List Event) (w : World)
    (hr : Run (Step ⟨(buildSubscriptions bs58 discovered).roles, accounts⟩ history)
      (World.start (buildSubscriptions bs58 discovered).raydiumStates (discovered.map Prod.fst)) es w)
    (msg : Option WsMessage) (index : ℕ) (solUsd : ℚ) (now : Timestamp) (w' : World)
    (hstep : Step ⟨(buildSubscriptions bs58 discovered).roles, accounts⟩ history w
      (.message msg index solUsd now) w')
    (q : PriceQuote) (hdex : q.dex = .raydium)
    (hq : .quote q ∈ (handleMessage (buildSubscriptions bs58 discovered).roles accounts msg solUsd
      now w.monitor).2) :
    ∃ p i j coinState pcState fresh,
      (buildSubscriptions bs58 discovered).raydiumStates.lookup p = some fresh ∧
      q.poolAddress = some p ∧
      w'.seen p .coin = some i ∧ (history p)[i]? = some coinState ∧
      w'.seen p .pc = some j ∧ (history p)[j]? = some pcState ∧
      ShowsPair fresh (coinState.1, pcState.2) solUsd now q ∧
      (i = index ∨ j = index) ∧ (∀ i₀ ∈ w.seen p .coin, i₀ ≤ i) ∧ (∀ j₀ ∈ w.seen p .pc, j₀ ≤ j) ∧
      (i = j → ∃ state ∈ history p, ShowsPair fresh state solUsd now q) := by
  obtain ⟨hh, rfl⟩ := hstep
  have hfresh : FreshRecords (buildSubscriptions bs58 discovered).raydiumStates :=
    buildSubscriptions_fresh discovered
  generalize buildSubscriptions bs58 discovered = subs at hr hh hq hfresh ⊢
  have ht : Tracks history subs.raydiumStates w :=
    hr.invariant (fun _ w => Tracks history subs.raydiumStates w)
      (World.start_tracks hfresh history _) (fun _ _ _ _ _ hI he => hI.step he)
  obtain ⟨p, side, b, fresh, hrecord, hshown, hq⟩ := ht.emits hh hdex hq
  obtain ⟨i, j, coinState, pcState, hi, hcoinState, hj, hpcState, hshows⟩ := World.view_emits hq
  obtain ⟨_, hpool⟩ := tryEmitRaydium_some hq
  obtain ⟨_, hlast⟩ := ht.honest_shown hh hshown
  have hseen : (w.next ⟨subs.roles, accounts⟩ (.message msg index solUsd now)).seen =
      w.take p side index := World.next_seen hshown
  refine ⟨p, i, j, coinState, pcState, fresh, hrecord, ?_, hi, hcoinState, hj, hpcState, hshows,
    ?_, ?_, ?_, ?_⟩
  · rw [hpool]
    exact congrArg some (hfresh p fresh hrecord).1
  · rw [hseen] at hi hj
    exact World.take_just hi hj
  · intro i₀ hi₀
    rw [hseen] at hi
    exact World.take_ge hlast hi hi₀
  · intro j₀ hj₀
    rw [hseen] at hj
    exact World.take_ge hlast hj hj₀
  · rintro rfl
    obtain rfl : coinState = pcState := Option.some.inj (hcoinState.symm.trans hpcState)
    exact ⟨coinState, List.mem_of_getElem? hcoinState, hshows⟩

instance (fresh : RaydiumVaultState) (balances : UInt64 × UInt64) (solUsd : ℚ) (now : Timestamp)
    (q : PriceQuote) : Decidable (ShowsPair fresh balances solUsd now q) :=
  inferInstanceAs (Decidable (_ ∈ _))

def swapPool : DiscoveredPool × Resolution :=
  (⟨"Pool", .raydium, "Token", usdcMint⟩, ⟨some 6, some 6, .ok ("CoinVault", "PcVault"), .error ""⟩)

def swapSubscriptions : Subscriptions := buildSubscriptions (fun _ => "") [swapPool]

def swapWatch : Watch := ⟨swapSubscriptions.roles, ["CoinVault", "PcVault"]⟩

/-- The pool before and after a sale of ten tokens. -/
def swapHistory : History := fun _ => [(100, 100), (110, 91)]

def swapStart : World := World.start swapSubscriptions.raydiumStates [swapPool.1]

def confirm (reqId subId : UInt64) : Event :=
  .message (some ⟨some reqId, some subId, none, none⟩) 0 1 0

def vaultAccount (balance : UInt8) : Bytes :=
  List.replicate 64 0 ++ (balance :: List.replicate 100 0)

def notice (subId : UInt64) (balance : UInt8) : Option WsMessage :=
  some ⟨none, none, some "accountNotification",
    some ⟨some subId, some (some (vaultAccount balance))⟩⟩

/-- Both vaults are subscribed and shown in their first state. -/
def swapEvents : List Event :=
  [.reconnect (fun id =>
      if id = 11 then some "CoinVault" else if id = 12 then some "PcVault" else none),
    confirm 1 11, confirm 2 12, .message (notice 11 100) 0 1 0, .message (notice 12 100) 0 1 0]

def swapWorld : World := swapEvents.foldl (World.next swapWatch) swapStart

theorem swapWorld_run : Run (Step swapWatch swapHistory) swapStart swapEvents swapWorld :=
  run_foldl (World.allowed swapWatch swapHistory) (World.next swapWatch) swapStart swapEvents
    (by decide +kernel)

def swapQuote (priceUsd : ℚ) : PriceQuote where
  dex := .raydium
  baseMint := "Token"
  quoteMint := ""
  priceUsd := priceUsd
  liquidityUsd := 0
  poolAddress := some "Pool"
  source := .webSocket
  timestamp := 0

/-- The coin vault of the second state arrives first: a quote of 10/11 USD. -/
theorem raydium_quote_of_last_states_swap :
    ∃ (p : String) (i j : ℕ) (coinState pcState : UInt64 × UInt64) (fresh : RaydiumVaultState),
      swapSubscriptions.raydiumStates.lookup p = some fresh ∧
      (swapQuote (10/11)).poolAddress = some p ∧
      (swapHistory p)[i]? = some coinState ∧ (swapHistory p)[j]? = some pcState ∧
      ShowsPair fresh (coinState.1, pcState.2) 1 0 (swapQuote (10/11)) := by
  obtain ⟨p, i, j, coinState, pcState, fresh, hfresh, hp, _, hi, _, hj, hshows, _⟩ :=
    raydium_quote_of_last_states (fun _ => "") [swapPool] ["CoinVault", "PcVault"] swapHistory
      swapEvents swapWorld swapWorld_run (notice 11 110) 1 1 0 _ ⟨by decide +kernel, rfl⟩
      (swapQuote (10/11)) rfl (by decide +kernel)
  exact ⟨p, i, j, coinState, pcState, fresh, hfresh, hp, hi, hj, hshows⟩

/-- That quote shows neither of the two states the pool ever had. -/
theorem torn_quote :
    Run (Step swapWatch swapHistory) swapStart swapEvents swapWorld ∧
    honest swapWatch swapHistory swapWorld (notice 11 110) 1 = true ∧
    (handleMessage swapWatch.roles swapWatch.accounts (notice 11 110) 1 0 swapWorld.monitor).2 =
      [.quote (swapQuote (10/11))] ∧
    ∀ state ∈ swapHistory "Pool", ∀ fresh, swapSubscriptions.raydiumStates.lookup "Pool" = some fresh →
      ¬ ShowsPair fresh state 1 0 (swapQuote (10/11)) := by
  refine ⟨swapWorld_run, by decide +kernel, by decide +kernel, ?_⟩
  intro state hstate fresh hfresh
  have hrecord : swapSubscriptions.raydiumStates.lookup "Pool" =
      some ⟨none, none, 6, 6, "Token", "Pool", usdcMint⟩ := by decide +kernel
  obtain rfl := Option.some.inj (hrecord.symm.trans hfresh)
  rcases List.mem_pair.mp hstate with rfl | rfl
  · decide +kernel
  · decide +kernel

end SolanaArb.PoolMonitor
