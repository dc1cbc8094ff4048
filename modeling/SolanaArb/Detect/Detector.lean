import SolanaArb.Detect.PriceGraph
import SolanaArb.General.BestFold
import Mathlib.Data.Rat.Floor
import Mathlib.Order.OrderDual
import Mathlib.Algebra.Order.Monoid.WithTop

/-! # The spread detector

Every incoming quote updates the graph; the cheapest and the most expensive fresh
quote of its pair are compared, net of both fees. Prices are read as exact rationals, and
a spread over a price of zero is infinite, as the quotient of two `f64` is; quotients too
large for an `f64` are not. A symbol that is not registered is abbreviated from the mint,
which the source slices by bytes: mints are base58 texts of more than four characters.
-/
namespace SolanaArb
open SolanaArb.General SolanaArb.PriceGraph

structure LastSpread where
  buyDex : Dex
  sellDex : Dex
  netSpreadBps : WithTop ℚ
  deriving DecidableEq, Repr

structure PriceDelta where
  dex : Dex
  poolAddress : Option String
  baseMint : String
  oldPrice : ℚ
  newPrice : ℚ
  deltaBps : ℚ
  source : PriceSource
  deriving DecidableEq, Repr

structure Detector where
  graph : PriceGraph
  minSpreadBps : ℚ
  deltaThresholdBps : ℚ
  dedupThresholdBps : ℚ
  lastSpreads : AList (fun _ : String => LastSpread)
  symbols : AList (fun _ : String => String)

namespace Detector

def new (minSpreadBps : ℚ) (maxQuoteAgeSecs : ℤ) : Detector where
  graph := PriceGraph.new maxQuoteAgeSecs
  minSpreadBps := minSpreadBps
  deltaThresholdBps := 20
  dedupThresholdBps := 5
  lastSpreads := ∅
  symbols := ∅

def registerSymbol (d : Detector) (mint symbol : String) : Detector :=
  { d with symbols := d.symbols.insert mint symbol }

def detectDelta (d : Detector) (quote : PriceQuote) : Option PriceDelta :=
  match d.graph.getPreviousPrice quote with
  | none => none
  | some oldPrice =>
    if oldPrice ≤ 0 then none
    else
      let deltaBps := (quote.priceUsd - oldPrice) / oldPrice * 10000
      if d.deltaThresholdBps ≤ |deltaBps| then
        some {
          dex := quote.dex
          poolAddress := quote.poolAddress
          baseMint := quote.baseMint
          oldPrice := oldPrice
          newPrice := quote.priceUsd
          deltaBps := deltaBps
          source := quote.source }
      else none

def cheapest (quotes : List PriceQuote) : Option PriceQuote :=
  quotes.foldl (fun best q =>
    match best with
    | none => some q
    | some b => if q.priceUsd < b.priceUsd then some q else some b) none

def priciest (quotes : List PriceQuote) : Option PriceQuote :=
  quotes.foldl (fun best q =>
    match best with
    | none => some q
    | some b => if b.priceUsd < q.priceUsd then some q else some b) none

/-- The quotes compared differ in price, so a price of zero divides a positive difference. -/
def grossSpreadBps (buy sell : PriceQuote) : WithTop ℚ :=
  if buy.priceUsd = 0 then ⊤
  else ((sell.priceUsd - buy.priceUsd) / buy.priceUsd * 10000 : ℚ)

def estimatedFeesBps (buy sell : PriceQuote) : ℚ := buy.dex.feeBps + sell.dex.feeBps

def netSpreadBps (buy sell : PriceQuote) : WithTop ℚ :=
  (grossSpreadBps buy sell).map (fun gross => gross - estimatedFeesBps buy sell)

/-- The distance of two spreads. That of two infinite ones is no number, and no threshold
is above it either. -/
def spreadDelta : WithTop ℚ → WithTop ℚ → WithTop ℚ
  | (a : ℚ), (b : ℚ) => (|a - b| : ℚ)
  | _, _ => ⊤

def dedupKey (mint quoteMint : String) : String := mint ++ ":" ++ quoteMint

/-- The pair was last reported between the same DEXs at nearly the same spread. -/
def suppressed (d : Detector) (mint : String) (buy sell : PriceQuote) : Bool :=
  match d.lastSpreads.lookup (dedupKey mint buy.quoteMint) with
  | none => false
  | some last =>
    last.buyDex == buy.dex && last.sellDex == sell.dex &&
      decide (spreadDelta (netSpreadBps buy sell) last.netSpreadBps < d.dedupThresholdBps)

def tokenSymbol (d : Detector) (mint : String) : String :=
  (d.symbols.lookup mint).getD
    (String.ofList (mint.toList.take 4) ++ ".." ++
      String.ofList (mint.toList.drop (mint.length - 4)))

def opportunity (d : Detector) (receivedAt : Timestamp) (mint : String) (buy sell : PriceQuote) :
    ArbOpportunity where
  baseMint := mint
  tokenSymbol := d.tokenSymbol mint
  buyDex := buy.dex
  buyPrice := buy.priceUsd
  buyPool := buy.poolAddress
  sellDex := sell.dex
  sellPrice := sell.priceUsd
  sellPool := sell.poolAddress
  grossSpreadBps := grossSpreadBps buy sell
  estimatedFeesBps := estimatedFeesBps buy sell
  netSpreadBps := netSpreadBps buy sell
  estimatedProfitUsd := (netSpreadBps buy sell).map (fun net => 1000 * (net / 10000))
  detectedAt := receivedAt
  detectionLatencyMs := (numMilliseconds (receivedAt - max buy.timestamp sell.timestamp)).natAbs

/-- Process one quote received at `receivedAt`; staleness is judged at `now`. -/
def process (d : Detector) (iter : IterationOrder) (receivedAt now : Timestamp)
    (quote : PriceQuote) : Detector × Option ArbOpportunity × Option PriceDelta :=
  let mint := quote.baseMint
  let delta := d.detectDelta quote
  let (graph, quotes) := d.graph.update iter now quote
  let d' := { d with graph := graph }
  if quotes.length < 2 then (d', none, delta)
  else
    match cheapest quotes, priciest quotes with
    | some buy, some sell =>
      if buy.dex = sell.dex ∧ buy.poolAddress = sell.poolAddress then (d', none, delta)
      else if netSpreadBps buy sell < d.minSpreadBps then (d', none, delta)
      else if d.suppressed mint buy sell then (d', none, delta)
      else
        ({ d' with
          lastSpreads := d.lastSpreads.insert (dedupKey mint buy.quoteMint)
            ⟨buy.dex, sell.dex, netSpreadBps buy sell⟩ },
          some (d.opportunity receivedAt mint buy sell), delta)
    | _, _ => (d', none, delta)

section Spreads
variable {buy sell : PriceQuote}

theorem netSpreadBps_eq (buy sell : PriceQuote) : netSpreadBps buy sell =
    if buy.priceUsd = 0 then (⊤ : WithTop ℚ) else
      ((sell.priceUsd - buy.priceUsd) / buy.priceUsd * 10000 - estimatedFeesBps buy sell : ℚ) := by
  unfold netSpreadBps grossSpreadBps
  split
  · rfl
  · rfl

theorem netSpreadBps_of_ne (h : buy.priceUsd ≠ 0) : netSpreadBps buy sell =
    ((sell.priceUsd - buy.priceUsd) / buy.priceUsd * 10000 - estimatedFeesBps buy sell : ℚ) := by
  rw [netSpreadBps_eq, if_neg h]

theorem netSpreadBps_of_zero (h : buy.priceUsd = 0) : netSpreadBps buy sell = ⊤ := by
  rw [netSpreadBps_eq, if_pos h]

theorem spreadDelta_coe (a b : ℚ) : spreadDelta a b = (|a - b| : ℚ) := rfl

theorem spreadDelta_self (a : ℚ) : spreadDelta a a = 0 := by
  rw [spreadDelta_coe, sub_self, abs_zero]
  rfl

end Spreads

variable {d : Detector} {iter : IterationOrder} {receivedAt now : Timestamp} {quote : PriceQuote}

theorem cheapest_eq_bestOf (quotes : List PriceQuote) :
    cheapest quotes = bestOf (fun q => OrderDual.toDual q.priceUsd) quotes := by
  unfold cheapest bestOf
  congr 1
  funext best q
  cases best with
  | none => rfl
  | some b =>
    by_cases h : q.priceUsd < b.priceUsd
    · simp [bestStep, h]
    · simp [bestStep, h]

theorem priciest_eq_bestOf (quotes : List PriceQuote) :
    priciest quotes = bestOf PriceQuote.priceUsd quotes := by
  unfold priciest bestOf
  congr 1
  funext best q
  cases best with
  | none => rfl
  | some b =>
    by_cases h : b.priceUsd < q.priceUsd
    · simp [bestStep, h]
    · simp [bestStep, h]

theorem cheapest_spec {quotes : List PriceQuote} {buy : PriceQuote}
    (h : cheapest quotes = some buy) : buy ∈ quotes ∧ ∀ q ∈ quotes, buy.priceUsd ≤ q.priceUsd := by
  rw [cheapest_eq_bestOf] at h
  exact ⟨bestOf_mem _ h, bestOf_max _ h⟩

theorem priciest_spec {quotes : List PriceQuote} {sell : PriceQuote}
    (h : priciest quotes = some sell) :
    sell ∈ quotes ∧ ∀ q ∈ quotes, q.priceUsd ≤ sell.priceUsd := by
  rw [priciest_eq_bestOf] at h
  exact ⟨bestOf_mem _ h, bestOf_max _ h⟩

/-- A non-empty list has both ends. -/
theorem exists_ends {quotes : List PriceQuote} (hne : quotes ≠ []) :
    ∃ buy sell, cheapest quotes = some buy ∧ priciest quotes = some sell := by
  cases hbuy : cheapest quotes with
  | none => exact absurd ((bestOf_eq_none_iff _).mp (cheapest_eq_bestOf quotes ▸ hbuy)) hne
  | some buy =>
    cases hsell : priciest quotes with
    | none => exact absurd ((bestOf_eq_none_iff _).mp (priciest_eq_bestOf quotes ▸ hsell)) hne
    | some sell => exact ⟨buy, sell, rfl, rfl⟩

theorem two_le_length_of_ne {quotes : List PriceQuote} {x y : PriceQuote} (hx : x ∈ quotes)
    (hy : y ∈ quotes) (hne : x ≠ y) : 2 ≤ quotes.length := by
  rcases quotes with _ | ⟨z, _ | ⟨w, rest⟩⟩
  · exact absurd hx List.not_mem_nil
  · exact absurd ((List.mem_singleton.mp hx).trans (List.mem_singleton.mp hy).symm) hne
  · simp

section Ends
variable {b s : PriceQuote} {l : List PriceQuote}

theorem cheapest_of_first (h : ∀ q ∈ l, b.priceUsd ≤ q.priceUsd) : cheapest (b :: l) = some b := by
  rw [cheapest_eq_bestOf]
  exact bestOf_of_first_max _ h

theorem priciest_of_first (h : ∀ q ∈ l, q.priceUsd ≤ b.priceUsd) : priciest (b :: l) = some b := by
  rw [priciest_eq_bestOf]
  exact bestOf_of_first_max _ h

theorem priciest_of_second (hlt : b.priceUsd < s.priceUsd) (h : ∀ q ∈ l, q.priceUsd ≤ s.priceUsd) :
    priciest (b :: s :: l) = some s := by
  rw [priciest_eq_bestOf]
  exact bestOf_of_second_max _ hlt h

end Ends

def Spread (d : Detector) (quotes : List PriceQuote) (buy sell : PriceQuote) : Prop :=
  2 ≤ quotes.length ∧ cheapest quotes = some buy ∧ priciest quotes = some sell ∧
    ¬ (buy.dex = sell.dex ∧ buy.poolAddress = sell.poolAddress) ∧
    d.minSpreadBps ≤ netSpreadBps buy sell

theorem Spread.ends {quotes : List PriceQuote} {buy sell buy' sell' : PriceQuote}
    (hs : d.Spread quotes buy' sell') (hbuy : cheapest quotes = some buy)
    (hsell : priciest quotes = some sell) : buy' = buy ∧ sell' = sell := by
  obtain ⟨_, hbuy', hsell', _⟩ := hs
  exact ⟨Option.some.inj (hbuy'.symm.trans hbuy), Option.some.inj (hsell'.symm.trans hsell)⟩

/-- The two quotes whose spread is evaluated, if it is. -/
def spreadEnds (quotes : List PriceQuote) : Option (PriceQuote × PriceQuote) :=
  if quotes.length < 2 then none
  else
    match cheapest quotes, priciest quotes with
    | some buy, some sell =>
      if buy.dex = sell.dex ∧ buy.poolAddress = sell.poolAddress then none else some (buy, sell)
    | _, _ => none

section SpreadEnds
variable {quotes : List PriceQuote} {buy sell : PriceQuote}

theorem spreadEnds_eq_some : spreadEnds quotes = some (buy, sell) ↔
    2 ≤ quotes.length ∧ cheapest quotes = some buy ∧ priciest quotes = some sell ∧
      ¬ (buy.dex = sell.dex ∧ buy.poolAddress = sell.poolAddress) := by
  unfold spreadEnds
  by_cases hlen : quotes.length < 2
  · rw [if_pos hlen]
    constructor
    · intro h
      cases h
    · intro h
      omega
  · rw [if_neg hlen]
    have hne : quotes ≠ [] := by
      rintro rfl
      simp at hlen
    obtain ⟨b, s, hb, hs⟩ := exists_ends hne
    simp only [hb, hs, Option.ite_none_left_eq_some, Option.some.injEq, Prod.mk.injEq]
    constructor
    · rintro ⟨hvenue, rfl, rfl⟩
      exact ⟨by omega, rfl, rfl, hvenue⟩
    · rintro ⟨_, rfl, rfl, hvenue⟩
      exact ⟨hvenue, rfl, rfl⟩

/-- What is reported has been evaluated before. -/
theorem spread_iff : d.Spread quotes buy sell ↔
    spreadEnds quotes = some (buy, sell) ∧ d.minSpreadBps ≤ netSpreadBps buy sell := by
  rw [spreadEnds_eq_some]
  unfold Spread
  tauto

/-- Quotes of one price are never evaluated: the first of them is met as both ends. -/
theorem spreadEnds_lt (h : spreadEnds quotes = some (buy, sell)) :
    buy.priceUsd < sell.priceUsd := by
  obtain ⟨_, hbuy, hsell, hvenue⟩ := spreadEnds_eq_some.mp h
  obtain ⟨hbuyMem, hbuyMin⟩ := cheapest_spec hbuy
  obtain ⟨hsellMem, hsellMax⟩ := priciest_spec hsell
  rcases (hbuyMin sell hsellMem).lt_or_eq with hlt | heq
  · exact hlt
  · cases quotes with
    | nil => exact absurd hbuyMem List.not_mem_nil
    | cons x l =>
      have hsame : ∀ q ∈ x :: l, q.priceUsd = x.priceUsd := by
        intro q hq
        have hx : x ∈ x :: l := List.mem_cons_self
        have hq1 := hbuyMin q hq
        have hq2 := hsellMax q hq
        have hx1 := hbuyMin x hx
        have hx2 := hsellMax x hx
        linarith
      have hcheap : cheapest (x :: l) = some x :=
        cheapest_of_first (fun q hq => (hsame q (List.mem_cons_of_mem _ hq)).ge)
      have hpricy : priciest (x :: l) = some x :=
        priciest_of_first (fun q hq => (hsame q (List.mem_cons_of_mem _ hq)).le)
      obtain rfl := Option.some.inj (hbuy.symm.trans hcheap)
      obtain rfl := Option.some.inj (hsell.symm.trans hpricy)
      exact absurd ⟨rfl, rfl⟩ hvenue

end SpreadEnds

/-- All that processing a quote can do: store it and report a spread that is not
suppressed, or store it and report nothing. -/
theorem process_cases (d : Detector) (iter : IterationOrder) (receivedAt now : Timestamp)
    (quote : PriceQuote) :
    (∃ buy sell, d.Spread (d.graph.update iter now quote).2 buy sell ∧
      d.suppressed quote.baseMint buy sell = false ∧
      d.process iter receivedAt now quote =
        ({ d with
          graph := d.graph.insert quote
          lastSpreads := d.lastSpreads.insert (dedupKey quote.baseMint buy.quoteMint)
            ⟨buy.dex, sell.dex, netSpreadBps buy sell⟩ },
          some (d.opportunity receivedAt quote.baseMint buy sell), d.detectDelta quote)) ∨
    (d.process iter receivedAt now quote =
        ({ d with graph := d.graph.insert quote }, none, d.detectDelta quote) ∧
      ∀ buy sell, d.Spread (d.graph.update iter now quote).2 buy sell →
        d.suppressed quote.baseMint buy sell = true) := by
  have hgraph : (d.graph.update iter now quote).1 = d.graph.insert quote := rfl
  unfold process
  dsimp only
  generalize hquotes : (d.graph.update iter now quote).2 = quotes
  by_cases hlen : quotes.length < 2
  · refine Or.inr ⟨by rw [if_pos hlen, hgraph], ?_⟩
    intro buy sell hs
    exact absurd hs.1 (by omega)
  · rw [if_neg hlen]
    cases hbuy : cheapest quotes with
    | none =>
      refine Or.inr ⟨by rw [hgraph], ?_⟩
      intro buy sell hs
      exact absurd hs.2.1 (by simp [hbuy])
    | some buy =>
      cases hsell : priciest quotes with
      | none =>
        refine Or.inr ⟨by rw [hgraph], ?_⟩
        intro buy sell hs
        exact absurd hs.2.2.1 (by simp [hsell])
      | some sell =>
        dsimp only
        by_cases hvenue : buy.dex = sell.dex ∧ buy.poolAddress = sell.poolAddress
        · refine Or.inr ⟨by rw [if_pos hvenue, hgraph], ?_⟩
          intro buy' sell' hs
          obtain ⟨rfl, rfl⟩ := hs.ends hbuy hsell
          exact absurd hvenue hs.2.2.2.1
        rw [if_neg hvenue]
        by_cases hmin : netSpreadBps buy sell < d.minSpreadBps
        · refine Or.inr ⟨by rw [if_pos hmin, hgraph], ?_⟩
          intro buy' sell' hs
          obtain ⟨rfl, rfl⟩ := hs.ends hbuy hsell
          exact absurd hs.2.2.2.2 (not_le.mpr hmin)
        rw [if_neg hmin]
        cases hsup : d.suppressed quote.baseMint buy sell with
        | true =>
          refine Or.inr ⟨by rw [if_pos rfl, hgraph], ?_⟩
          intro buy' sell' hs
          obtain ⟨rfl, rfl⟩ := hs.ends hbuy hsell
          exact hsup
        | false =>
          refine Or.inl ⟨buy, sell, ⟨by omega, hbuy, hsell, hvenue, not_lt.mp hmin⟩, hsup, ?_⟩
          rw [if_neg Bool.false_ne_true, hgraph]

/-- An infinite spread is near to no other. -/
theorem suppressed_of_zero {mint : String} {buy sell : PriceQuote} (h : buy.priceUsd = 0) :
    d.suppressed mint buy sell = false := by
  unfold suppressed
  rw [netSpreadBps_of_zero h]
  cases d.lastSpreads.lookup (dedupKey mint buy.quoteMint) with
  | none => rfl
  | some last =>
    have hfar : ¬ (⊤ : WithTop ℚ) < d.dedupThresholdBps := not_top_lt
    simp only [spreadDelta, hfar, decide_false, Bool.and_false]

theorem process_frame (d : Detector) (iter : IterationOrder) (receivedAt now : Timestamp)
    (quote : PriceQuote) :
    (d.process iter receivedAt now quote).1.graph = d.graph.insert quote ∧
    (d.process iter receivedAt now quote).1.minSpreadBps = d.minSpreadBps := by
  rcases process_cases d iter receivedAt now quote with ⟨buy, sell, _, _, h⟩ | ⟨h, _⟩
  · rw [h]
    exact ⟨rfl, rfl⟩
  · rw [h]
    exact ⟨rfl, rfl⟩

theorem process_emits {opp : ArbOpportunity}
    (h : (d.process iter receivedAt now quote).2.1 = some opp) :
    ∃ buy sell, d.Spread (d.graph.update iter now quote).2 buy sell ∧
      opp = d.opportunity receivedAt quote.baseMint buy sell := by
  rcases process_cases d iter receivedAt now quote with ⟨buy, sell, hs, _, heq⟩ | ⟨heq, _⟩
  · rw [heq] at h
    exact ⟨buy, sell, hs, (Option.some.inj h).symm⟩
  · rw [heq] at h
    cases h

end Detector
end SolanaArb
