import SolanaArb.Feed.MonitorRuns
import SolanaArb.General.Base58
import Mathlib.Tactic.FieldSimp
import Mathlib.Tactic.Positivity

/-! # When a monitored price is in dollars

A pool prices its base token in units of its quote token, and the quote token has a
dollar value of its own. The monitor multiplies what it reads by one of two factors
and takes the first vault of a Raydium pool for the base vault.
-/
namespace SolanaArb.PoolMonitor
open SolanaArb.PoolDecoder SolanaArb.General

def quoteDollars (solUsd : ℚ) (quoteMint : String) : Option ℚ :=
  if quoteMint = wsolMint then some solUsd
  else if quoteMint ∈ stablecoinMints then some 1
  else none

/-- The factor the monitor applies. -/
def usedFactor (solUsd : ℚ) (quoteMint : String) : ℚ := if isUsdQuoted quoteMint then 1 else solUsd

/-- What the accounts of a pool show: the balances of its coin and pc vaults, or the
square root price of token A in units of token B. -/
inductive PoolView
  | vaults (coin pc : UInt64)
  | whirlpool (sqrtPrice : U128)

/-- The price of the base token in units of the quote token, if there is one. The flag
says that the coin, or token A, is the base token. -/
def basePrice (baseFirst : Bool) (baseDec quoteDec : UInt8) : PoolView → Option ℚ
  | .vaults coin pc =>
    let base := if baseFirst then coin else pc
    let quote := if baseFirst then pc else coin
    if base = 0 then none
    else some ((quote.toNat / 10^quoteDec.toNat) / (base.toNat / 10^baseDec.toNat))
  | .whirlpool sqrtPrice =>
    if sqrtPrice = 0 then none
    else
      let rawAInB : ℚ := (sqrtPrice.toNat / 2^64)^2
      let raw := if baseFirst then rawAInB else 1 / rawAInB
      some (raw * 10^((baseDec.toNat : ℤ) - quoteDec.toNat))

/-- Where the monitor gets the unit right: the quote token is WSOL or USDC, or USDT
while SOL is worth one dollar, or the price is zero; and a Raydium pool that holds its
base token in the pc vault is in balance. -/
def PricedRight (baseFirst : Bool) (solUsd : ℚ) (quoteMint : String) : PoolView → Prop
  | .vaults coin pc =>
    if baseFirst then
      quoteMint = wsolMint ∨ quoteMint = usdcMint ∨ (quoteMint = usdtMint ∧ (solUsd = 1 ∨ pc = 0))
    else
      pc ≠ 0 ∧ ∃ v, quoteDollars solUsd quoteMint = some v ∧
        (pc.toNat : ℚ)^2 * usedFactor solUsd quoteMint = (coin.toNat : ℚ)^2 * v
  | .whirlpool _ =>
    quoteMint = wsolMint ∨ quoteMint = usdcMint ∨ (quoteMint = usdtMint ∧ solUsd = 1)

section Units
variable {solUsd : ℚ} {quoteMint : String}

theorem usedFactor_eq (price : ℚ) :
    (if isUsdQuoted quoteMint then price else price * solUsd) =
      price * usedFactor solUsd quoteMint := by
  unfold usedFactor
  split
  · exact (mul_one price).symm
  · rfl

theorem quoteDollars_cases (solUsd : ℚ) (quoteMint : String) :
    (quoteMint = wsolMint ∧ quoteDollars solUsd quoteMint = some solUsd ∧
      usedFactor solUsd quoteMint = solUsd) ∨
    (quoteMint = usdcMint ∧ quoteDollars solUsd quoteMint = some 1 ∧
      usedFactor solUsd quoteMint = 1) ∨
    (quoteMint = usdtMint ∧ quoteDollars solUsd quoteMint = some 1 ∧
      usedFactor solUsd quoteMint = solUsd) ∨
    (quoteMint ≠ wsolMint ∧ quoteMint ≠ usdcMint ∧ quoteMint ≠ usdtMint ∧
      quoteDollars solUsd quoteMint = none) := by
  have husdc : usdcMint ≠ wsolMint := by decide +kernel
  have husdt : usdtMint ≠ wsolMint := by decide +kernel
  have hstable : usdtMint ≠ usdcMint := by decide +kernel
  by_cases hw : quoteMint = wsolMint
  · refine Or.inl ⟨hw, if_pos hw, ?_⟩
    rw [usedFactor, isUsdQuoted, hw]
    simp [husdc.symm]
  · by_cases hc : quoteMint = usdcMint
    · refine Or.inr (Or.inl ⟨hc, ?_, ?_⟩)
      · rw [quoteDollars, if_neg hw, if_pos (by simp [hc, stablecoinMints])]
      · simp [usedFactor, isUsdQuoted, hc]
    · by_cases ht : quoteMint = usdtMint
      · refine Or.inr (Or.inr (Or.inl ⟨ht, ?_, ?_⟩))
        · rw [quoteDollars, if_neg hw, if_pos (by simp [ht, stablecoinMints])]
        · simp [usedFactor, isUsdQuoted, ht, hstable]
      · refine Or.inr (Or.inr (Or.inr ⟨hw, hc, ht, ?_⟩))
        rw [quoteDollars, if_neg hw, if_neg (by simp [hc, ht, stablecoinMints])]

/-- A price taken from the right sides of the pool is in dollars exactly when the
factor is the dollar value, or there is nothing to convert. -/
theorem converted_iff (solUsd : ℚ) (quoteMint : String) (price : ℚ) :
    (∃ v, quoteDollars solUsd quoteMint = some v ∧ price * usedFactor solUsd quoteMint = price * v) ↔
      quoteMint = wsolMint ∨ quoteMint = usdcMint ∨
        (quoteMint = usdtMint ∧ (solUsd = 1 ∨ price = 0)) := by
  rcases quoteDollars_cases solUsd quoteMint with
    ⟨hm, hv, hf⟩ | ⟨hm, hv, hf⟩ | ⟨hm, hv, hf⟩ | ⟨hw, hc, ht, hv⟩
  · rw [hv, hf]
    exact ⟨fun _ => Or.inl hm, fun _ => ⟨solUsd, rfl, rfl⟩⟩
  · rw [hv, hf]
    exact ⟨fun _ => Or.inr (Or.inl hm), fun _ => ⟨1, rfl, rfl⟩⟩
  · have hne : usdtMint ≠ wsolMint := by decide +kernel
    have hne' : usdtMint ≠ usdcMint := by decide +kernel
    rw [hv, hf, hm]
    constructor
    · rintro ⟨v, hone, heq⟩
      obtain rfl := Option.some.inj hone
      exact Or.inr (Or.inr ⟨rfl, mul_eq_mul_left_iff.mp heq⟩)
    · rintro (h | h | ⟨_, h⟩)
      · exact absurd h hne
      · exact absurd h hne'
      · exact ⟨1, rfl, mul_eq_mul_left_iff.mpr h⟩
  · rw [hv]
    constructor
    · rintro ⟨v, hnone, _⟩
      cases hnone
    · rintro (h | h | ⟨h, _⟩)
      · exact absurd h hw
      · exact absurd h hc
      · exact absurd h ht

end Units

/-- The quote's price is the base token's price in the quote token, times the dollar
value of the quote token. -/
def InDollars (d : DiscoveredPool × Resolution) (baseFirst : Bool) (solUsd : ℚ) (view : PoolView)
    (q : PriceQuote) : Prop :=
  ∃ p v, basePrice baseFirst d.2.baseDec (quoteDec d.1 d.2) view = some p ∧
    quoteDollars solUsd d.1.quoteMint = some v ∧ q.priceUsd = p * v

section Views
variable {d : DiscoveredPool × Resolution} {baseFirst : Bool} {solUsd price : ℚ}
  {coin pc : UInt64} {q : PriceQuote}

theorem toNat_ne_zero {x : UInt64} (h : x ≠ 0) : (x.toNat : ℚ) ≠ 0 :=
  Nat.cast_ne_zero.mpr (u64_ne_zero.mp h).ne'

/-- With the sides swapped the two prices agree only on balanced vaults; the decimals
cancel. -/
theorem swapped_sides_iff {x y b c f v : ℚ} (hx : x ≠ 0) (hy : y ≠ 0) (hb : b ≠ 0) (hc : c ≠ 0) :
    (y / c) / (x / b) * f = (x / c) / (y / b) * v ↔ y^2 * f = x^2 * v := by
  have hleft : (y / c) / (x / b) * f = y^2 * f * (b / (c * x * y)) := by
    field_simp
  have hright : (x / c) / (y / b) * v = x^2 * v * (b / (c * x * y)) := by
    field_simp
  have hne : b / (c * x * y) ≠ 0 := by positivity
  rw [hleft, hright]
  exact mul_left_inj' hne

theorem vaults_inDollars_iff
    (hprice : raydiumPriceFromVaults coin pc d.2.baseDec (quoteDec d.1 d.2) = .ok price)
    (hq : q.priceUsd = price * usedFactor solUsd d.1.quoteMint) :
    InDollars d baseFirst solUsd (.vaults coin pc) q ↔
      PricedRight baseFirst solUsd d.1.quoteMint (.vaults coin pc) := by
  obtain ⟨hcoin, hprice⟩ := raydiumPrice_eq hprice
  have hcoin' := toNat_ne_zero hcoin
  have hbase : (10 : ℚ)^d.2.baseDec.toNat ≠ 0 := by positivity
  have hquote : (10 : ℚ)^(quoteDec d.1 d.2).toNat ≠ 0 := by positivity
  unfold InDollars
  rw [hq]
  cases baseFirst with
  | true =>
    have hzero : price = 0 ↔ pc = 0 := by
      rw [hprice, div_eq_zero_iff, div_eq_zero_iff, div_eq_zero_iff, u64_eq_zero]
      simp [hcoin', hbase, hquote]
    have hiff := converted_iff solUsd d.1.quoteMint price
    rw [hzero] at hiff
    simp only [basePrice, PricedRight, if_true, if_neg hcoin, ← hiff]
    rw [← hprice]
    simp
  | false =>
    simp only [basePrice, PricedRight, Bool.false_eq_true, if_false]
    by_cases hpc : pc = 0
    · simp [hpc]
    · simp only [if_neg hpc, hprice]
      constructor
      · rintro ⟨p, v, hp, hv, heq⟩
        obtain rfl := Option.some.inj hp
        exact ⟨hpc, v, hv, (swapped_sides_iff hcoin' (toNat_ne_zero hpc) hbase hquote).mp heq⟩
      · rintro ⟨_, v, hv, heq⟩
        exact ⟨_, v, rfl, hv, (swapped_sides_iff hcoin' (toNat_ne_zero hpc) hbase hquote).mpr heq⟩

/-- The two orders of the tokens give the same price of the base token. -/
theorem whirlpool_basePrice {sqrtPrice : U128} (hne : sqrtPrice ≠ 0) (baseDec quoteDec : UInt8)
    (hprice : price = (sqrtPrice.toNat / 2^64)^2 *
      10^(((if baseFirst then baseDec else quoteDec).toNat : ℤ) -
        (if baseFirst then quoteDec else baseDec).toNat)) :
    0 < price ∧ basePrice baseFirst baseDec quoteDec (.whirlpool sqrtPrice) =
      some (if !baseFirst ∧ 0 < price then 1 / price else price) := by
  have hnat : 0 < sqrtPrice.toNat := Nat.pos_of_ne_zero (fun h => hne (BitVec.eq_of_toNat_eq h))
  have hsqrt : (0 : ℚ) < sqrtPrice.toNat := Nat.cast_pos.mpr hnat
  have hpos : 0 < price := by
    rw [hprice]
    exact mul_pos (pow_pos (div_pos hsqrt (by norm_num)) 2) (zpow_pos (by norm_num) _)
  refine ⟨hpos, ?_⟩
  cases baseFirst with
  | true =>
    simp only [basePrice, if_neg hne, if_true, Bool.not_true, Bool.false_eq_true, false_and,
      if_false, hprice]
  | false =>
    simp only [Bool.false_eq_true, if_false] at hprice
    have hinv : (10 : ℚ)^((baseDec.toNat : ℤ) - quoteDec.toNat) =
        (10^((quoteDec.toNat : ℤ) - baseDec.toNat))⁻¹ := by
      rw [← zpow_neg]
      congr 1
      ring
    have hflip : (if !false ∧ 0 < price then 1 / price else price) = 1 / price :=
      if_pos ⟨rfl, hpos⟩
    rw [hflip, hprice]
    simp only [basePrice, if_neg hne, Bool.false_eq_true, if_false, hinv, one_div, mul_inv]

theorem whirlpool_inDollars_iff {sqrtPrice : U128} (hpos : 0 < price)
    (hbase : basePrice baseFirst d.2.baseDec (quoteDec d.1 d.2) (.whirlpool sqrtPrice) =
      some (if !baseFirst ∧ 0 < price then 1 / price else price))
    (hq : q.priceUsd = (if !baseFirst ∧ 0 < price then 1 / price else price) *
      usedFactor solUsd d.1.quoteMint) :
    InDollars d baseFirst solUsd (.whirlpool sqrtPrice) q ↔
      PricedRight baseFirst solUsd d.1.quoteMint (.whirlpool sqrtPrice) := by
  have hne : (if !baseFirst ∧ 0 < price then 1 / price else price) ≠ 0 := by
    split
    · positivity
    · exact hpos.ne'
  have hiff := converted_iff solUsd d.1.quoteMint
    (if !baseFirst ∧ 0 < price then 1 / price else price)
  simp only [hne, or_false] at hiff
  unfold InDollars PricedRight
  rw [hbase, hq, ← hiff]
  simp

end Views

/-- Which token comes first: in a Whirlpool account the first mint says so, of a Raydium
pool the monitor reads nothing that would, and the order is a fact about the pool. -/
def BaseFirst (bs58 : Bytes → String) (coinIsBase : String → Bool)
    (d : DiscoveredPool × Resolution) (baseFirst : Bool) : Prop :=
  (d.1.dex = .orca → BaseIsA bs58 d baseFirst) ∧
  (d.1.dex = .raydium → baseFirst = coinIsBase d.1.poolAddress)

/-- The accounts of the pool as the monitor knows them after the message. -/
def Shows (d : DiscoveredPool × Resolution) (msg : Option WsMessage) (st' : MonitorState) :
    PoolView → Prop
  | .vaults coin pc => d.1.dex = .raydium ∧ ∃ state,
    st'.raydiumStates.lookup d.1.poolAddress = some state ∧
      state.coinBalance = some coin ∧ state.pcBalance = some pc
  | .whirlpool sqrtPrice => d.1.dex = .orca ∧ ∃ subId data,
    classify msg = .notification subId data ∧ decodeWhirlpoolSqrtPrice data = .ok sqrtPrice

/-- Over every run, a Raydium or Orca quote is in dollars exactly where the monitor has
the unit and the order of the tokens right. -/
theorem dollar_price_iff (bs58 : Bytes → String) (coinIsBase : String → Bool)
    (discovered : List (DiscoveredPool × Resolution)) (accounts : List String)
    (inputs : List Input) (st : MonitorState)
    (hr : Run (MonitorStep (subscribedWatch bs58 discovered accounts)) (startState bs58 discovered)
      inputs st)
    (msg : Option WsMessage) (solUsd : ℚ) (now : Timestamp) (q : PriceQuote)
    (hq : .quote q ∈ (st.receive (subscribedWatch bs58 discovered accounts)
      (.message msg solUsd now)).2) (hdex : q.dex = .raydium ∨ q.dex = .orca) :
    ∃ d ∈ discovered, QuoteOf d q ∧ ∃ baseFirst view, BaseFirst bs58 coinIsBase d baseFirst ∧
      Shows d msg (st.receive (subscribedWatch bs58 discovered accounts)
        (.message msg solUsd now)).1 view ∧
      (InDollars d baseFirst solUsd view q ↔ PricedRight baseFirst solUsd d.1.quoteMint view) := by
  have hafter : RecordsOf discovered
      (st.receive (subscribedWatch bs58 discovered accounts) (.message msg solUsd now)).1 :=
    (run_recordsOf hr).receive (.message msg solUsd now)
  have hquoted : Quoted (subscribedWatch bs58 discovered accounts) msg solUsd now
      (st.receive (subscribedWatch bs58 discovered accounts) (.message msg solUsd now)).1 q :=
    handleMessage_quoted hq
  have hlabel : Labelled bs58 discovered (buildSubscriptions bs58 discovered) :=
    buildSubscriptions_labelled discovered
  rcases hquoted with
    ⟨p, state, hrecord, hemit⟩ |
    ⟨account, p, baseMint, quoteMint, decA, decB, baseIsA, data, price, subId, hshown, hrole, hdec,
      hemit⟩ |
    ⟨account, p, baseMint, state, price, _, _, hemit⟩
  · obtain ⟨hp, d, hd, hof⟩ := hafter p state hrecord
    obtain ⟨coin, pc, price, hcoin, hpc, hprice, heq⟩ := tryEmitRaydium_eq hemit
    rw [hof.coinDecimals, hof.pcDecimals] at hprice
    rw [usedFactor_eq, hof.quoteMint] at heq
    obtain rfl := Emission.quote.inj heq
    refine ⟨d, hd, ⟨hof.dex.symm, congrArg some hof.poolAddress, hof.baseMint⟩,
      coinIsBase d.1.poolAddress, .vaults coin pc, ⟨?_, fun _ => rfl⟩,
      ⟨hof.dex, state, ?_, hcoin, hpc⟩, vaults_inDollars_iff hprice rfl⟩
    · intro horca
      rw [hof.dex] at horca
      cases horca
    · rw [← hof.poolAddress, hp]
      exact hrecord
  · obtain ⟨d, hd, hdex', rfl, rfl, rfl, hbase, rfl, rfl⟩ := hlabel.role account _ hrole
    have heq := updateWhirlpool_eq hdec hemit
    rw [usedFactor_eq] at heq
    obtain rfl := Emission.quote.inj heq
    obtain ⟨sqrtPrice, hsqrt, hne, hprice⟩ := decodeWhirlpoolPrice_eq hdec
    obtain ⟨hpos, hbasePrice⟩ := whirlpool_basePrice hne d.2.baseDec (quoteDec d.1 d.2) hprice
    refine ⟨d, hd, ⟨hdex'.symm, rfl, rfl⟩, baseIsA, .whirlpool sqrtPrice, ⟨fun _ => hbase, ?_⟩,
      ⟨hdex', subId, data, hshown, hsqrt⟩, whirlpool_inDollars_iff hpos hbasePrice rfl⟩
    intro hraydium
    rw [hdex'] at hraydium
    cases hraydium
  · obtain rfl := Emission.quote.inj hemit
    rcases hdex with hdex | hdex
    · cases hdex
    · cases hdex

def usdtPool : DiscoveredPool × Resolution :=
  (⟨"UsdtPool", .raydium, "TokenMint", usdtMint⟩,
    ⟨some 6, some 6, .ok ("UsdtCoinVault", "UsdtPcVault"), .error ""⟩)

def usdtWatch : Watch := subscribedWatch base58Encode [usdtPool] ["UsdtCoinVault", "UsdtPcVault"]

/-- Both vaults are confirmed and the coin vault shows 100 units. -/
def usdtInputs : List Input :=
  [.message (some ⟨some 1, some 11, none, none⟩) 150 0,
    .message (some ⟨some 2, some 12, none, none⟩) 150 0, .message (notice 11 100) 150 0]

def usdtState : MonitorState :=
  usdtInputs.foldl (fun st input => (st.receive usdtWatch input).1)
    (startState base58Encode [usdtPool])

theorem usdtState_run :
    Run (MonitorStep usdtWatch) (startState base58Encode [usdtPool]) usdtInputs usdtState :=
  (run_foldl_iff (fun (st : MonitorState) (input : Input) => (st.receive usdtWatch input).1) _
    usdtInputs usdtState).mpr rfl

def usdtQuote : PriceQuote :=
  { swapQuote 150 with baseMint := "TokenMint", poolAddress := some "UsdtPool" }

/-- 100 units against 100 units of USDT at 150 USD per SOL: one token is worth a dollar
and quoted at 150. -/
theorem usdt_quote_not_dollars :
    Run (MonitorStep usdtWatch) (startState base58Encode [usdtPool]) usdtInputs usdtState ∧
    (usdtState.receive usdtWatch (.message (notice 12 100) 150 0)).2 = [.quote usdtQuote] ∧
    basePrice true usdtPool.2.baseDec (quoteDec usdtPool.1 usdtPool.2) (.vaults 100 100) = some 1 ∧
    quoteDollars 150 usdtPool.1.quoteMint = some 1 ∧ usdtQuote.priceUsd = 150 :=
  ⟨usdtState_run, by decide +kernel, by decide +kernel, by decide +kernel, by decide +kernel⟩

theorem dollar_price_iff_usdt :
    ∃ d ∈ [usdtPool], QuoteOf d usdtQuote ∧ ∃ baseFirst view,
      BaseFirst base58Encode (fun _ => true) d baseFirst ∧
      Shows d (notice 12 100) (usdtState.receive usdtWatch (.message (notice 12 100) 150 0)).1 view ∧
      (InDollars d baseFirst 150 view usdtQuote ↔
        PricedRight baseFirst 150 d.1.quoteMint view) :=
  dollar_price_iff base58Encode (fun _ => true) [usdtPool] ["UsdtCoinVault", "UsdtPcVault"] usdtInputs
    usdtState usdtState_run (notice 12 100) 150 0 usdtQuote (by decide +kernel) (Or.inl rfl)

end SolanaArb.PoolMonitor
