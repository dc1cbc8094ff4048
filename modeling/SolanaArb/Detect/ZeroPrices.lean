import SolanaArb.Detect.SamePair
import SolanaArb.Detect.Completeness

/-! # Divisions by a zero price

A pool with an empty side, a SOL price that is not known yet or a pair listed at zero
gives a quote of price zero. The detector divides by the lowest price of a group
whenever two of its venues differ, and reports the infinite spread. Quotients are exact
here; what an `f64` would round to infinity or to zero is not followed.
-/
namespace SolanaArb
open SolanaArb.General SolanaArb.PriceGraph SolanaArb.PoolMonitor SolanaArb.PoolDecoder
open SolanaArb.DexScreener SolanaArb.Detector

namespace PoolMonitor
variable {watch : Watch} {msg : Option WsMessage} {solUsd : ℚ} {now : Timestamp}
  {st' : MonitorState} {q : PriceQuote}

theorem usdFactor_nonneg {price : ℚ} {quoteMint : String} (hprice : 0 ≤ price) (hsol : 0 ≤ solUsd) :
    0 ≤ if isUsdQuoted quoteMint then price else price * solUsd := by
  split
  · exact hprice
  · exact mul_nonneg hprice hsol

theorem Quoted.nonneg (h : Quoted watch msg solUsd now st' q) (hsol : 0 ≤ solUsd) :
    0 ≤ q.priceUsd := by
  rcases h with ⟨p, state, _, hemit⟩ |
    ⟨account, p, baseMint, quoteMint, decA, decB, baseIsA, data, price, subId, _, _, hdec, hemit⟩ |
    ⟨account, p, baseMint, state, price, _, hprice, hemit⟩
  · obtain ⟨coin, pc, price, _, _, hprice, heq⟩ := tryEmitRaydium_eq hemit
    obtain rfl := Emission.quote.inj heq
    refine usdFactor_nonneg ?_ hsol
    rw [(raydiumPrice_eq hprice).2]
    positivity
  · obtain rfl := Emission.quote.inj (updateWhirlpool_eq hdec hemit)
    refine usdFactor_nonneg ?_ hsol
    obtain ⟨sqrtPrice, _, _, hprice⟩ := decodeWhirlpoolPrice_eq hdec
    have hnonneg : 0 ≤ price := by
      rw [hprice]
      exact mul_nonneg (sq_nonneg _) (zpow_nonneg (by norm_num) _)
    split
    · positivity
    · exact hnonneg
  · obtain rfl := Emission.quote.inj hemit
    refine mul_nonneg ?_ hsol
    unfold pumpfunPriceInSol at hprice
    split at hprice
    · cases hprice
    · obtain rfl := Except.ok.inj hprice
      positivity

end PoolMonitor

structure ArbOpportunity.Finite (opp : ArbOpportunity) : Prop where
  gross : opp.grossSpreadBps ≠ ⊤
  net : opp.netSpreadBps ≠ ⊤
  profit : opp.estimatedProfitUsd ≠ ⊤

namespace Pipeline
variable {bs58 : Bytes → String} {discovered : List (DiscoveredPool × Resolution)}
  {accounts : List String} {minSpreadBps : ℚ} {maxQuoteAgeSecs : ℤ}
  {symbols : AList (fun _ : String => String)} {p : Pipeline} {e : Event} {es : List Event}

/-- A poll reads a price that is not negative. -/
def Event.NonnegPrice : Event → Prop
  | .poll _ _ _ pair => ∀ price, pair.priceUsd = some (some price) → 0 ≤ price
  | _ => True

theorem sent_nonneg (he : e.NonnegPrice) (hsol : 0 ≤ p.solUsd) :
    ∀ q ∈ p.sent (subscribedWatch bs58 discovered accounts) e, 0 ≤ q.priceUsd := by
  intro q hq
  cases e with
  | message msg now => exact (handleMessage_quoted (mem_quotesOf.mp hq)).nonneg hsol
  | reconnect => exact absurd hq List.not_mem_nil
  | solPrice price => exact absurd hq List.not_mem_nil
  | poll mint minLiquidity now pair =>
    have hquote := quoteOfPair_spec (Option.mem_toList.mp hq)
    exact he q.priceUsd hquote.2.1
  | detect receivedAt now iter => exact absurd hq List.not_mem_nil

theorem run_nonneg (hes : ∀ e ∈ es, e.NonnegPrice)
    (hr : Run (Step (subscribedWatch bs58 discovered accounts))
      (start bs58 discovered minSpreadBps maxQuoteAgeSecs symbols) es p) :
    Good discovered maxQuoteAgeSecs minSpreadBps (fun q => 0 ≤ q.priceUsd) p := by
  induction hr with
  | nil => exact start_good
  | snoc hr hstep ih =>
    obtain ⟨hes, he⟩ := List.forall_mem_append.mp hes
    have hgood := ih hes
    exact hgood.step (sent_nonneg (List.forall_mem_singleton.mp he) hgood.solUsd) hstep

/-- A price of zero among the fresh quotes of the group is the only price there. -/
def ZeroOnlyAlone (maxAgeSecs : ℤ) (taken : List PriceQuote) (now : Timestamp) (key : PairKey) :
    Prop :=
  ∀ x y, FreshLast maxAgeSecs taken now key x → FreshLast maxAgeSecs taken now key y →
    x.priceUsd = 0 → y.priceUsd = 0

theorem Good.prices_nonneg
    (h : Good discovered maxQuoteAgeSecs minSpreadBps (fun q => 0 ≤ q.priceUsd) p)
    {q : PriceQuote} {rest : List PriceQuote} (hpending : p.pending = q :: rest) :
    ∀ x ∈ p.taken ++ [q], 0 ≤ x.priceUsd :=
  List.forall_mem_append.mpr ⟨h.taken, List.forall_mem_singleton.mpr
    (h.pending q (hpending ▸ List.mem_cons_self))⟩

theorem Good.evaluated_nonneg
    (h : Good discovered maxQuoteAgeSecs minSpreadBps (fun q => 0 ≤ q.priceUsd) p)
    {q : PriceQuote} {rest : List PriceQuote} (hpending : p.pending = q :: rest) {now : Timestamp}
    {iter : IterationOrder} {buy sell : PriceQuote}
    (hev : p.evaluated now iter = some (buy, sell)) : 0 ≤ buy.priceUsd := by
  simp only [evaluated, hpending, List.head?_cons, Option.bind_some] at hev
  obtain ⟨_, hbuy, _, _⟩ := spreadEnds_eq_some.mp hev
  have hbuyFresh := (h.tracks.lowest_of_cheapest hbuy).1
  exact h.prices_nonneg hpending buy (lastQuote_spec hbuyFresh.last).1

theorem Good.evaluated_pos
    (h : Good discovered maxQuoteAgeSecs minSpreadBps (fun q => 0 ≤ q.priceUsd) p)
    {q : PriceQuote} {rest : List PriceQuote} (hpending : p.pending = q :: rest) {now : Timestamp}
    (hzero : ZeroOnlyAlone maxQuoteAgeSecs (p.taken ++ [q]) now (pairKey q)) {iter : IterationOrder}
    {buy sell : PriceQuote} (hev : p.evaluated now iter = some (buy, sell)) : 0 < buy.priceUsd := by
  apply lt_of_le_of_ne (h.evaluated_nonneg hpending hev)
  intro hbuyZero
  simp only [evaluated, hpending, List.head?_cons, Option.bind_some] at hev
  have hlt := spreadEnds_lt hev
  obtain ⟨_, hbuy, hsell, _⟩ := spreadEnds_eq_some.mp hev
  have hbuyFresh := (h.tracks.lowest_of_cheapest hbuy).1
  have hsellFresh := (h.tracks.highest_of_priciest hsell).1
  have hsellZero := hzero buy sell hbuyFresh hsellFresh hbuyZero.symm
  linarith

/-- Conversely two fresh quotes, one of them at zero, are evaluated in any order. -/
theorem Good.zeroOnlyAlone
    (h : Good discovered maxQuoteAgeSecs minSpreadBps (fun q => 0 ≤ q.priceUsd) p)
    {q : PriceQuote} {rest : List PriceQuote} (hpending : p.pending = q :: rest) {now : Timestamp}
    (iter : IterationOrder)
    (hpos : ∀ buy sell, p.evaluated now iter = some (buy, sell) → 0 < buy.priceUsd) :
    ZeroOnlyAlone maxQuoteAgeSecs (p.taken ++ [q]) now (pairKey q) := by
  intro x y hx hy hxZero
  by_contra hyNe
  have hnonneg := h.prices_nonneg hpending
  have hyPos : 0 < y.priceUsd :=
    lt_of_le_of_ne (hnonneg y (lastQuote_spec hy.last).1) (fun hz => hyNe hz.symm)
  have hne : (p.detector.graph.update iter now q).2 ≠ [] :=
    List.ne_nil_of_mem (h.tracks.mem_update.mpr hx)
  obtain ⟨buy, sell, hbuy, hsell⟩ := exists_ends hne
  have hbuyLe : buy.priceUsd ≤ 0 := hxZero ▸ (h.tracks.lowest_of_cheapest hbuy).2 x hx
  have hsellPos : 0 < sell.priceUsd :=
    hyPos.trans_le ((h.tracks.highest_of_priciest hsell).2 y hy)
  obtain ⟨hlen, hvenue⟩ := h.tracks.ends_differ hbuy hsell (hbuyLe.trans_lt hsellPos)
  have hends : spreadEnds (p.detector.graph.update iter now q).2 = some (buy, sell) :=
    spreadEnds_eq_some.mpr ⟨hlen, hbuy, hsell, hvenue⟩
  have hev : p.evaluated now iter = some (buy, sell) := by
    simp only [evaluated, hpending, List.head?_cons, Option.bind_some]
    exact hends
  exact absurd (hpos buy sell hev) (not_lt.mpr hbuyLe)

/-- A spread over a price of zero is always reported, as an infinite one. -/
theorem opportunity_of_zero {now : Timestamp} {iter : IterationOrder} {buy sell : PriceQuote}
    (hev : p.evaluated now iter = some (buy, sell)) (hzero : buy.priceUsd = 0)
    (receivedAt : Timestamp) : ∃ opp, p.opportunity receivedAt now iter = some opp ∧
      opp.netSpreadBps = ⊤ := by
  obtain ⟨q, hhead, hends⟩ := Option.bind_eq_some_iff.mp hev
  have hspread : p.detector.Spread (p.detector.graph.update iter now q).2 buy sell := by
    refine spread_iff.mpr ⟨hends, ?_⟩
    rw [netSpreadBps_of_zero hzero]
    exact le_top
  rw [opportunity, hhead, Option.bind_some]
  rcases process_cases p.detector iter receivedAt now q with
    ⟨b, s, hreported, _, heq⟩ | ⟨_, hsup⟩
  · obtain ⟨rfl, rfl⟩ := hreported.ends hspread.2.1 hspread.2.2.1
    exact ⟨_, by rw [heq], netSpreadBps_of_zero hzero⟩
  · have hheld := hsup buy sell hspread
    rw [suppressed_of_zero hzero] at hheld
    cases hheld

theorem finite_of_ne {d : Detector} {receivedAt : Timestamp} {mint : String}
    {buy sell : PriceQuote} (h : buy.priceUsd ≠ 0) :
    (d.opportunity receivedAt mint buy sell).Finite := by
  have hgross : grossSpreadBps buy sell ≠ ⊤ := by
    rw [grossSpreadBps, if_neg h]
    exact WithTop.coe_ne_top
  have hnet : netSpreadBps buy sell ≠ ⊤ := by
    rw [netSpreadBps_of_ne h]
    exact WithTop.coe_ne_top
  refine ⟨hgross, hnet, ?_⟩
  rw [Detector.opportunity, netSpreadBps_of_ne h]
  exact WithTop.coe_ne_top

/-- In every reached state the next quote makes the detector divide by positive prices
only, whatever the iteration order, exactly when a price of zero among the fresh quotes
of its group is the only price there; and exactly then what it reports is finite. -/
theorem divisor_positive_iff (bs58 : Bytes → String)
    (discovered : List (DiscoveredPool × Resolution)) (accounts : List String)
    (minSpreadBps : ℚ) (maxQuoteAgeSecs : ℤ) (symbols : AList (fun _ : String => String))
    (es : List Event) (hes : ∀ e ∈ es, e.NonnegPrice) (p : Pipeline)
    (hr : Run (Step (subscribedWatch bs58 discovered accounts))
      (start bs58 discovered minSpreadBps maxQuoteAgeSecs symbols) es p)
    (q : PriceQuote) (rest : List PriceQuote) (hpending : p.pending = q :: rest)
    (now : Timestamp) :
    ((∀ iter buy sell, p.evaluated now iter = some (buy, sell) → 0 < buy.priceUsd) ↔
      ZeroOnlyAlone maxQuoteAgeSecs (p.taken ++ [q]) now (pairKey q)) ∧
    ((∀ iter receivedAt opp, p.opportunity receivedAt now iter = some opp → opp.Finite) ↔
      ZeroOnlyAlone maxQuoteAgeSecs (p.taken ++ [q]) now (pairKey q)) := by
  have hgood := run_nonneg hes hr
  have hforward : IterationOrder := ⟨id, fun l => List.Perm.refl l⟩
  refine ⟨⟨?_, ?_⟩, ⟨?_, ?_⟩⟩
  · intro h
    exact hgood.zeroOnlyAlone hpending hforward (h hforward)
  · intro h iter buy sell hev
    exact hgood.evaluated_pos hpending h hev
  · intro h
    apply hgood.zeroOnlyAlone hpending hforward
    intro buy sell hev
    apply lt_of_le_of_ne (hgood.evaluated_nonneg hpending hev)
    intro hzero
    obtain ⟨opp, hopp, hnet⟩ := opportunity_of_zero hev hzero.symm 0
    exact (h hforward 0 opp hopp).net hnet
  · intro h iter receivedAt opp hopp
    obtain ⟨q', buy, sell, hev, _, rfl⟩ := opportunity_evaluated hopp
    exact finite_of_ne (hgood.evaluated_pos hpending h hev).ne'

/-- Two pools are notified before the first SOL price arrives. -/
def unpricedEvents : List Event := twoPoolsEvents.tail

def unpriced : Pipeline :=
  unpricedEvents.foldl (next (twoPoolsWatch wsolMint))
    (start base58Encode (twoPools wsolMint) 30 10 ∅)

theorem unpriced_run :
    Run (Step (twoPoolsWatch wsolMint)) (start base58Encode (twoPools wsolMint) 30 10 ∅)
      unpricedEvents unpriced :=
  (run_foldl_iff (next (twoPoolsWatch wsolMint)) _ unpricedEvents unpriced).mpr rfl

theorem unpriced_nonneg : ∀ e ∈ unpricedEvents, e.NonnegPrice := by
  intro e he
  simp only [unpricedEvents, twoPoolsEvents, List.tail_cons, List.mem_cons, List.not_mem_nil,
    or_false] at he
  rcases he with rfl | rfl | rfl | rfl | rfl | rfl | rfl | rfl | rfl <;> exact trivial

def unpricedQuote : PriceQuote :=
  { swapQuote 0 with baseMint := "TokenMint", poolAddress := some "SecondPool" }

/-- The pool quoted in WSOL is priced at zero and bought from, at an infinite spread. -/
theorem division_by_zero :
    Run (Step (twoPoolsWatch wsolMint)) (start base58Encode (twoPools wsolMint) 30 10 ∅)
      unpricedEvents unpriced ∧ (∀ e ∈ unpricedEvents, e.NonnegPrice) ∧
    (unpriced.evaluated 0 ⟨id, fun l => List.Perm.refl l⟩).map
      (fun ends => (ends.1.poolAddress, ends.1.priceUsd)) = some (some "SecondPool", 0) ∧
    (unpriced.opportunity 0 0 ⟨id, fun l => List.Perm.refl l⟩).map
      (fun opp => (opp.buyPool, opp.netSpreadBps, opp.estimatedProfitUsd)) =
        some (some "SecondPool", ⊤, ⊤) :=
  ⟨unpriced_run, unpriced_nonneg, by decide +kernel, by decide +kernel⟩

theorem divisor_positive_iff_unpriced :
    unpriced.pending = [unpricedQuote] ∧
      ¬ ZeroOnlyAlone 10 (unpriced.taken ++ [unpricedQuote]) 0 (pairKey unpricedQuote) := by
  have hpending : unpriced.pending = [unpricedQuote] := by decide +kernel
  refine ⟨hpending, ?_⟩
  intro hzero
  have hiff := divisor_positive_iff base58Encode (twoPools wsolMint) twoPoolsAccounts 30 10 ∅
    unpricedEvents unpriced_nonneg unpriced unpriced_run unpricedQuote [] hpending 0
  have hsome : (unpriced.evaluated 0 ⟨id, fun l => List.Perm.refl l⟩).isSome = true := by
    decide +kernel
  obtain ⟨⟨buy, sell⟩, hev⟩ := Option.isSome_iff_exists.mp hsome
  have hprice : (unpriced.evaluated 0 ⟨id, fun l => List.Perm.refl l⟩).map
      (fun ends => ends.1.priceUsd) = some 0 := by
    decide +kernel
  rw [hev] at hprice
  have hbuyZero : buy.priceUsd = 0 := Option.some.inj hprice
  exact absurd (hiff.1.mpr hzero _ buy sell hev) (by rw [hbuyZero]; exact lt_irrefl 0)

end Pipeline

end SolanaArb
