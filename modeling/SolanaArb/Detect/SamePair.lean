import SolanaArb.Detect.Pipeline
import SolanaArb.General.Base58

/-! # Which pools are compared

The monitor leaves the quote mint of its quotes empty, so all pools of a token meet in
one group. The two pools of an opportunity trade the same pair as long as the quotes
taken for a token come from pools with one quote mint.
-/
namespace SolanaArb.Pipeline
open SolanaArb.General SolanaArb.PriceGraph SolanaArb.PoolMonitor SolanaArb.Detector

/-- An event of the monitor or of the main loop. -/
def Event.ofMonitor : Event → Bool
  | .poll _ _ _ _ => false
  | _ => true

section Pairs
variable (discovered : List (DiscoveredPool × Resolution))

/-- If both quotes are about one token, their pools have one quote mint. -/
def Agrees (q q' : PriceQuote) : Prop :=
  q.baseMint = q'.baseMint → ∀ d ∈ discovered, ∀ d' ∈ discovered, QuoteOf d q → QuoteOf d' q' →
    d.1.quoteMint = d'.1.quoteMint

/-- A quote about to be taken agrees with itself and with every quote taken before. -/
def OnePair (p : Pipeline) : Event → Prop
  | .detect _ _ _ => ∀ q ∈ p.pending.head?, ∀ q' ∈ p.taken ++ [q], Agrees discovered q q'
  | _ => True

/-- The pool is one the opportunity may name, by its token, DEX and address. -/
structure Trades (d : DiscoveredPool × Resolution) (baseMint : String) (dex : Dex)
    (pool : Option String) : Prop where
  baseMint : d.1.baseMint = baseMint
  dex : d.1.dex = dex
  poolAddress : pool = some d.1.poolAddress

/-- Both pools are discovered pools of the token, and whichever they are, they have the
same quote mint. -/
structure SamePair (opp : ArbOpportunity) : Prop where
  buy : ∃ d ∈ discovered, Trades d opp.baseMint opp.buyDex opp.buyPool
  sell : ∃ d ∈ discovered, Trades d opp.baseMint opp.sellDex opp.sellPool
  quoteMint : ∀ d ∈ discovered, ∀ d' ∈ discovered, Trades d opp.baseMint opp.buyDex opp.buyPool →
    Trades d' opp.baseMint opp.sellDex opp.sellPool → d.1.quoteMint = d'.1.quoteMint

variable {discovered} {d : DiscoveredPool × Resolution} {q q' : PriceQuote}

theorem Agrees.symm (h : Agrees discovered q q') : Agrees discovered q' q := by
  intro hbase d hd d' hd' hq hq'
  exact (h hbase.symm d' hd' d hd hq' hq).symm

theorem agrees_snoc {l : List PriceQuote} (h : ∀ x ∈ l, ∀ y ∈ l, Agrees discovered x y)
    (hnew : ∀ y ∈ l ++ [q], Agrees discovered q y) :
    ∀ x ∈ l ++ [q], ∀ y ∈ l ++ [q], Agrees discovered x y := by
  intro x hx y hy
  rcases List.mem_append.mp hx with hx' | hx'
  · rcases List.mem_append.mp hy with hy' | hy'
    · exact h x hx' y hy'
    · obtain rfl := List.mem_singleton.mp hy'
      exact (hnew x hx).symm
  · obtain rfl := List.mem_singleton.mp hx'
    exact hnew y hy

theorem trades_of_quoteOf (h : QuoteOf d q) : Trades d q.baseMint q.dex q.poolAddress :=
  ⟨h.baseMint.symm, h.dex.symm, h.poolAddress⟩

theorem Trades.quoteOf {baseMint : String} (h : Trades d baseMint q.dex q.poolAddress)
    (hbase : q.baseMint = baseMint) : QuoteOf d q :=
  ⟨h.dex.symm, h.poolAddress, hbase.trans h.baseMint.symm⟩

/-- With one quote mint for every token there is nothing to mix up. -/
theorem onePair_of_discovered
    (h : ∀ d ∈ discovered, ∀ d' ∈ discovered, d.1.baseMint = d'.1.baseMint →
      d.1.quoteMint = d'.1.quoteMint) (p : Pipeline) (e : Event) : OnePair discovered p e := by
  cases e with
  | detect receivedAt now iter =>
    intro q _ q' _ hbase d hd d' hd' hq hq'
    exact h d hd d' hd' (hq.baseMint.symm.trans (hbase.trans hq'.baseMint))
  | reconnect => trivial
  | message msg now => trivial
  | solPrice price => trivial
  | poll mint minLiquidity now pair => trivial

end Pairs

section Runs
variable {bs58 : Bytes → String} {discovered : List (DiscoveredPool × Resolution)}
  {accounts : List String} {minSpreadBps : ℚ} {maxQuoteAgeSecs : ℤ}
  {symbols : AList (fun _ : String => String)} {p p' : Pipeline} {e : Event} {es : List Event}

def Sourced (discovered : List (DiscoveredPool × Resolution)) (q : PriceQuote) : Prop :=
  ∃ d ∈ discovered, QuoteOf d q

def MonitorOnly (watch : Watch) (p : Pipeline) (e : Event) (p' : Pipeline) : Prop :=
  e.ofMonitor = true ∧ Step watch p e p'

def OnePairStep (discovered : List (DiscoveredPool × Resolution)) (watch : Watch) (p : Pipeline)
    (e : Event) (p' : Pipeline) : Prop :=
  MonitorOnly watch p e p' ∧ OnePair discovered p e

theorem sent_sourced (hrec : RecordsOf discovered p.monitor) (he : e.ofMonitor = true) :
    ∀ q ∈ p.sent (subscribedWatch bs58 discovered accounts) e, Sourced discovered q := by
  intro q hq
  cases e with
  | message msg now => exact quote_source hrec (mem_quotesOf.mp hq)
  | reconnect => exact absurd hq List.not_mem_nil
  | solPrice price => exact absurd hq List.not_mem_nil
  | poll mint minLiquidity now pair => cases he
  | detect receivedAt now iter => exact absurd hq List.not_mem_nil

theorem run_good
    (hr : Run (OnePairStep discovered (subscribedWatch bs58 discovered accounts))
      (start bs58 discovered minSpreadBps maxQuoteAgeSecs symbols) es p) :
    Good discovered maxQuoteAgeSecs minSpreadBps (Sourced discovered) p := by
  apply hr.invariant (fun _ p => Good discovered maxQuoteAgeSecs minSpreadBps
    (Sourced discovered) p) start_good
  intro _ p e p' _ h hstep
  exact h.step (sent_sourced h.records hstep.1.1) hstep.1.2

theorem OnePairStep.taken_agree {watch : Watch}
    (h : ∀ q ∈ p.taken, ∀ q' ∈ p.taken, Agrees discovered q q')
    (hstep : OnePairStep discovered watch p e p') :
    ∀ q ∈ p'.taken, ∀ q' ∈ p'.taken, Agrees discovered q q' := by
  obtain ⟨⟨_, hnext⟩, hone⟩ := hstep
  rw [hnext]
  cases e with
  | reconnect => exact h
  | message msg now => exact h
  | solPrice price =>
    simp only [next]
    split
    · exact h
    · exact h
  | poll mint minLiquidity now pair => exact h
  | detect receivedAt now iter =>
    cases hpending : p.pending with
    | nil =>
      simp only [next, hpending]
      exact h
    | cons q rest =>
      have hnew : ∀ q' ∈ p.taken ++ [q], Agrees discovered q q' := hone q (by simp [hpending])
      simp only [next, hpending]
      exact agrees_snoc h hnew

theorem run_taken_agree {watch : Watch}
    (hr : Run (OnePairStep discovered watch)
      (start bs58 discovered minSpreadBps maxQuoteAgeSecs symbols) es p) :
    ∀ q ∈ p.taken, ∀ q' ∈ p.taken, Agrees discovered q q' := by
  apply hr.invariant (fun _ p => ∀ q ∈ p.taken, ∀ q' ∈ p.taken, Agrees discovered q q')
  · intro q hq
    exact absurd hq List.not_mem_nil
  · intro _ p e p' _ h hstep
    exact hstep.taken_agree h

end Runs

/-- The quotes between which the next quote taken makes the detector evaluate a spread. -/
def evaluated (p : Pipeline) (now : Timestamp) (iter : IterationOrder) :
    Option (PriceQuote × PriceQuote) :=
  p.pending.head?.bind (fun q => spreadEnds (p.detector.graph.update iter now q).2)

/-- Two quotes of one token from discovered pools, and whichever these are, they have the
same quote mint. -/
structure OnePairQuotes (discovered : List (DiscoveredPool × Resolution)) (buy sell : PriceQuote) :
    Prop where
  token : buy.baseMint = sell.baseMint
  bought : Sourced discovered buy
  sold : Sourced discovered sell
  agree : Agrees discovered buy sell

section Compared
variable {bs58 : Bytes → String} {discovered : List (DiscoveredPool × Resolution)}
  {accounts : List String} {minSpreadBps : ℚ} {maxQuoteAgeSecs : ℤ}
  {symbols : AList (fun _ : String => String)} {es : List Event} {p : Pipeline}
  {receivedAt now : Timestamp} {iter : IterationOrder} {buy sell : PriceQuote} {opp : ArbOpportunity}

theorem opportunity_evaluated (h : p.opportunity receivedAt now iter = some opp) :
    ∃ q buy sell, p.evaluated now iter = some (buy, sell) ∧ q ∈ p.pending.head? ∧
      opp = p.detector.opportunity receivedAt q.baseMint buy sell := by
  obtain ⟨q, hhead, hemit⟩ := Option.bind_eq_some_iff.mp h
  obtain ⟨buy, sell, hspread, hopp⟩ := process_emits hemit
  refine ⟨q, buy, sell, ?_, hhead, hopp⟩
  rw [evaluated, hhead, Option.bind_some]
  exact (spread_iff.mp hspread).1

/-- Every pair of quotes whose spread is evaluated comes from pools of one pair. -/
theorem evaluated_onePair
    (hr : Run (OnePairStep discovered (subscribedWatch bs58 discovered accounts))
      (start bs58 discovered minSpreadBps maxQuoteAgeSecs symbols) es p)
    (hone : OnePair discovered p (.detect receivedAt now iter)) {q : PriceQuote}
    (hhead : q ∈ p.pending.head?) (h : p.evaluated now iter = some (buy, sell)) :
    OnePairQuotes discovered buy sell ∧ buy.baseMint = q.baseMint := by
  have hgood := run_good hr
  have hq : q ∈ p.pending := List.mem_of_head? hhead
  rw [evaluated, hhead, Option.bind_some] at h
  obtain ⟨_, hbuy, hsell, _⟩ := spreadEnds_eq_some.mp h
  obtain ⟨hbuyIn, hbuyKey⟩ :=
    lastQuote_spec (hgood.tracks.mem_update.mp (cheapest_spec hbuy).1).last
  obtain ⟨hsellIn, hsellKey⟩ :=
    lastQuote_spec (hgood.tracks.mem_update.mp (priciest_spec hsell).1).last
  have hsourced : ∀ x ∈ p.taken ++ [q], Sourced discovered x :=
    List.forall_mem_append.mpr ⟨hgood.taken, List.forall_mem_singleton.mpr (hgood.pending q hq)⟩
  have hagree : ∀ x ∈ p.taken ++ [q], ∀ y ∈ p.taken ++ [q], Agrees discovered x y :=
    agrees_snoc (run_taken_agree hr) (hone q hhead)
  have hbuyBase : buy.baseMint = q.baseMint := congrArg Prod.fst hbuyKey
  have hsellBase : sell.baseMint = q.baseMint := congrArg Prod.fst hsellKey
  exact ⟨⟨hbuyBase.trans hsellBase.symm, hsourced buy hbuyIn, hsourced sell hsellIn,
    hagree buy hbuyIn sell hsellIn⟩, hbuyBase⟩

/-- So does every opportunity made of them. -/
theorem OnePairQuotes.samePair (h : OnePairQuotes discovered buy sell) (d : Detector)
    (receivedAt : Timestamp) :
    SamePair discovered (d.opportunity receivedAt buy.baseMint buy sell) := by
  obtain ⟨d, hd, hof⟩ := h.bought
  obtain ⟨d', hd', hof'⟩ := h.sold
  constructor
  · exact ⟨d, hd, trades_of_quoteOf hof⟩
  · exact ⟨d', hd', h.token.symm ▸ trades_of_quoteOf hof'⟩
  · intro e he e' he' hbuy hsell
    exact h.agree h.token e he e' he' (hbuy.quoteOf rfl) (hsell.quoteOf h.token.symm)

end Compared

/-- In every run of the monitor and the detector in which the quotes taken for a token
come from pools with one quote mint, every spread that is evaluated is between two pools of
one pair, and so is every opportunity. -/
theorem same_pair_compared (bs58 : Bytes → String)
    (discovered : List (DiscoveredPool × Resolution)) (accounts : List String)
    (minSpreadBps : ℚ) (maxQuoteAgeSecs : ℤ) (symbols : AList (fun _ : String => String))
    (es : List Event) (p : Pipeline)
    (hr : Run (OnePairStep discovered (subscribedWatch bs58 discovered accounts))
      (start bs58 discovered minSpreadBps maxQuoteAgeSecs symbols) es p)
    (receivedAt now : Timestamp) (iter : IterationOrder)
    (hone : OnePair discovered p (.detect receivedAt now iter)) :
    (∀ buy sell, p.evaluated now iter = some (buy, sell) → OnePairQuotes discovered buy sell) ∧
    ∀ opp, p.opportunity receivedAt now iter = some opp → SamePair discovered opp := by
  constructor
  · intro buy sell h
    obtain ⟨q, hhead, _⟩ := Option.bind_eq_some_iff.mp h
    exact (evaluated_onePair hr hone hhead h).1
  · intro opp hopp
    obtain ⟨q, buy, sell, h, hhead, rfl⟩ := opportunity_evaluated hopp
    obtain ⟨hpair, hbase⟩ := evaluated_onePair hr hone hhead h
    rw [← hbase]
    exact hpair.samePair p.detector receivedAt

def vaultPool (pool coinVault pcVault quoteMint : String) : DiscoveredPool × Resolution :=
  (⟨pool, .raydium, "TokenMint", quoteMint⟩, ⟨some 6, some 6, .ok (coinVault, pcVault), .error ""⟩)

/-- Two Raydium pools of one token, the second with the given quote mint. -/
def twoPools (quoteMint : String) : List (DiscoveredPool × Resolution) :=
  [vaultPool "FirstPool" "FirstCoinVault" "FirstPcVault" usdcMint,
    vaultPool "SecondPool" "SecondCoinVault" "SecondPcVault" quoteMint]

def twoPoolsAccounts : List String :=
  ["FirstCoinVault", "FirstPcVault", "SecondCoinVault", "SecondPcVault"]

def twoPoolsWatch (quoteMint : String) : Watch :=
  subscribedWatch base58Encode (twoPools quoteMint) twoPoolsAccounts

def confirmation (reqId subId : UInt64) : Event :=
  .message (some ⟨some reqId, some subId, none, none⟩) 0

/-- SOL at 150 USD, 100 against 100 units in the first pool and 100 against 50 in the
second, and the first of the two quotes taken. -/
def twoPoolsEvents : List Event :=
  [.solPrice 150, confirmation 1 11, confirmation 2 12, confirmation 3 13, confirmation 4 14,
    .message (notice 11 100) 0, .message (notice 12 100) 0, .message (notice 13 100) 0,
    .message (notice 14 50) 0, .detect 0 0 ⟨id, fun l => List.Perm.refl l⟩]

def twoPoolsState (quoteMint : String) : Pipeline :=
  twoPoolsEvents.foldl (next (twoPoolsWatch quoteMint))
    (start base58Encode (twoPools quoteMint) 30 10 ∅)

theorem twoPools_run (quoteMint : String) :
    Run (MonitorOnly (twoPoolsWatch quoteMint)) (start base58Encode (twoPools quoteMint) 30 10 ∅)
      twoPoolsEvents (twoPoolsState quoteMint) :=
  run_foldl (fun _ e => Event.ofMonitor e) (next (twoPoolsWatch quoteMint)) _ twoPoolsEvents rfl

/-- One dollar in USDC and half a SOL for the same token: the opportunity buys on the
USDC pool and sells on the WSOL pool. -/
theorem different_pairs_compared :
    Run (MonitorOnly (twoPoolsWatch wsolMint)) (start base58Encode (twoPools wsolMint) 30 10 ∅)
      twoPoolsEvents (twoPoolsState wsolMint) ∧
    ((twoPoolsState wsolMint).opportunity 0 0 ⟨id, fun l => List.Perm.refl l⟩).map
      (fun opp => (opp.buyPool, opp.sellPool)) = some (some "FirstPool", some "SecondPool") ∧
    (twoPools wsolMint).map (fun d => (d.1.poolAddress, d.1.baseMint, d.1.quoteMint)) =
      [("FirstPool", "TokenMint", usdcMint), ("SecondPool", "TokenMint", wsolMint)] ∧
    usdcMint ≠ wsolMint :=
  ⟨twoPools_run wsolMint, by decide +kernel, rfl, by decide +kernel⟩

/-- With USDC on both sides the same run compares one pair. -/
theorem same_pair_compared_usdc :
    ∃ opp, (twoPoolsState usdcMint).opportunity 0 0 ⟨id, fun l => List.Perm.refl l⟩ = some opp ∧
      SamePair (twoPools usdcMint) opp := by
  have hsome : ((twoPoolsState usdcMint).opportunity 0 0
      ⟨id, fun l => List.Perm.refl l⟩).isSome = true := by
    decide +kernel
  obtain ⟨opp, hopp⟩ := Option.isSome_iff_exists.mp hsome
  have hquote : ∀ d ∈ twoPools usdcMint, d.1.quoteMint = usdcMint := by
    intro d hd
    rcases List.mem_pair.mp hd with rfl | rfl
    · rfl
    · rfl
  have hone : ∀ p e, OnePair (twoPools usdcMint) p e :=
    onePair_of_discovered (fun d hd d' hd' _ => (hquote d hd).trans (hquote d' hd').symm)
  have hrun := (twoPools_run usdcMint).imp (fun p e p' h => (⟨h, hone p e⟩ :
    OnePairStep (twoPools usdcMint) (twoPoolsWatch usdcMint) p e p'))
  exact ⟨opp, hopp, (same_pair_compared base58Encode (twoPools usdcMint)
    twoPoolsAccounts 30 10 ∅ twoPoolsEvents
    (twoPoolsState usdcMint) hrun 0 0 ⟨id, fun l => List.Perm.refl l⟩ (hone _ _)).2 opp hopp⟩

end SolanaArb.Pipeline
