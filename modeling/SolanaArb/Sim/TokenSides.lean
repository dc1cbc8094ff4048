import SolanaArb.Feed.DexScreener
import SolanaArb.Sim.Observation

/-! # The side of a pair a price belongs to

The endpoint lists every pair of a token, on either side, and prices the base token. The
HTTP client and the observer read no base token: the one labels every quote with the mint
asked for, the other takes every price for that mint's. Both are right exactly while the
pairs that quote in the token fail their filters.
-/
namespace SolanaArb
open SolanaArb.General

/-- A pair as the endpoint lists it: the two tokens it trades, and what a client reads. -/
structure ListedPair (Fields : Type) where
  baseMint : String
  quoteMint : String
  fields : Fields
  base_ne_quote : baseMint ≠ quoteMint

/-- The answer for a token lists only pairs that trade it. -/
def Lists {Fields : Type} (mint : String) (listed : List (ListedPair Fields)) : Prop :=
  ∀ l ∈ listed, l.baseMint = mint ∨ l.quoteMint = mint

instance {Fields : Type} (mint : String) (listed : List (ListedPair Fields)) :
    Decidable (Lists mint listed) :=
  inferInstanceAs (Decidable (∀ l ∈ listed, _))

theorem Lists.base_iff {Fields : Type} {mint : String} {listed : List (ListedPair Fields)}
    (h : Lists mint listed) {l : ListedPair Fields} (hl : l ∈ listed) :
    l.baseMint = mint ↔ l.quoteMint ≠ mint := by
  constructor
  · intro hbase hquote
    exact l.base_ne_quote (hbase.trans hquote.symm)
  · exact (h l hl).resolve_right

namespace DexScreener

/-- The pair has a price, enough liquidity and a known DEX. -/
structure Quotable (minLiquidity : ℚ) (pair : DexPair) : Prop where
  priced : ∃ price, pair.priceUsd = some (some price)
  liquid : ∃ usd, pair.liquidity = some usd ∧ minLiquidity ≤ usd.getD 0
  venue : Dex.fromDexscreenerId pair.dexId ≠ .unknown

theorem quotable_iff {mint : String} {minLiquidity : ℚ} {now : Timestamp} {pair : DexPair} :
    Quotable minLiquidity pair ↔ ∃ q, quoteOfPair mint minLiquidity now pair = some q := by
  constructor
  · rintro ⟨⟨price, hprice⟩, ⟨usd, hliquidity, hmin⟩, hdex⟩
    simp only [quoteOfPair, hprice, hliquidity, Option.join_some, Option.bind_eq_bind,
      Option.bind_some, if_neg (not_lt.mpr hmin), if_neg hdex]
    exact ⟨_, rfl⟩
  · rintro ⟨q, hq⟩
    unfold quoteOfPair at hq
    obtain ⟨price, hprice, hq⟩ := Option.bind_eq_some_iff.mp hq
    obtain ⟨usd, hliquidity, hq⟩ := Option.bind_eq_some_iff.mp hq
    simp only [Option.ite_none_left_eq_some, not_lt] at hq
    exact ⟨⟨price, Option.join_eq_some_iff.mp hprice⟩, ⟨usd, hliquidity, hq.1⟩, hq.2.1⟩

/-- The quotes of a response, each with the pair it comes from. -/
def quoteSources (mint : String) (minLiquidity : ℚ) (now : Timestamp)
    (listed : List (ListedPair DexPair)) : List (ListedPair DexPair × PriceQuote) :=
  listed.filterMap fun l => (quoteOfPair mint minLiquidity now l.fields).map (Prod.mk l)

theorem getAllPairs_sources (mint : String) (minLiquidity : ℚ) (now : Timestamp)
    (listed : List (ListedPair DexPair)) :
    getAllPairs mint minLiquidity now (.ok (some (listed.map ListedPair.fields))) =
      .ok ((quoteSources mint minLiquidity now listed).map Prod.snd) := by
  have hquotes : (listed.map ListedPair.fields).filterMap (quoteOfPair mint minLiquidity now) =
      (quoteSources mint minLiquidity now listed).map Prod.snd := by
    rw [quoteSources, List.filterMap_map, List.map_filterMap]
    congr 1
    funext l
    simp [Function.comp_def]
  exact congrArg Except.ok hquotes

theorem mem_quoteSources {mint : String} {minLiquidity : ℚ} {now : Timestamp}
    {listed : List (ListedPair DexPair)} {l : ListedPair DexPair} {q : PriceQuote} :
    (l, q) ∈ quoteSources mint minLiquidity now listed ↔
      l ∈ listed ∧ quoteOfPair mint minLiquidity now l.fields = some q := by
  simp only [quoteSources, List.mem_filterMap, Option.map_eq_some_iff, Prod.mk.injEq]
  constructor
  · rintro ⟨l', hl', q', hq', rfl, rfl⟩
    exact ⟨hl', hq'⟩
  · rintro ⟨hl, hq⟩
    exact ⟨l, hl, q, hq, rfl, rfl⟩

/-- Each quote comes from a pair whose base token is the one asked for. -/
def QuotesToken (mint : String) (minLiquidity : ℚ) (now : Timestamp)
    (listed : List (ListedPair DexPair)) : Prop :=
  ∀ l q, (l, q) ∈ quoteSources mint minLiquidity now listed → l.baseMint = mint

theorem quotesToken_iff {mint : String} {minLiquidity : ℚ} {now : Timestamp}
    {listed : List (ListedPair DexPair)} (hlists : Lists mint listed) :
    QuotesToken mint minLiquidity now listed ↔
      ∀ l ∈ listed, l.quoteMint = mint → ¬ Quotable minLiquidity l.fields := by
  constructor
  · intro hquotes l hl hside hquotable
    obtain ⟨q, hq⟩ : ∃ q, quoteOfPair mint minLiquidity now l.fields = some q :=
      quotable_iff.mp hquotable
    exact (hlists.base_iff hl).mp (hquotes l q (mem_quoteSources.mpr ⟨hl, hq⟩)) hside
  · intro hfails l q hmem
    obtain ⟨hl, hq⟩ := mem_quoteSources.mp hmem
    rw [hlists.base_iff hl]
    exact fun hside => hfails l hl hside (quotable_iff.mpr ⟨q, hq⟩)

end DexScreener

namespace StaleReserveObserver

/-- The trigger pair and every pair the fair price is made of have the token as base. -/
def ObservesToken (mint : String) (listed : List (ListedPair DexScreenerPair))
    (trigger : DexScreenerPair) : Prop :=
  ∀ l ∈ listed, l.fields = trigger ∨ l.fields ∈ contributing (listed.map ListedPair.fields) trigger →
    l.baseMint = mint

/-- The pair is not the trigger and has no say in the fair price. -/
structure LeftOut (trigger p : DexScreenerPair) : Prop where
  not_trigger : p ≠ trigger
  no_weight : p.pairAddress = trigger.pairAddress ∨ p.priceOrZero ≤ 0 ∨ p.liquidityUsd ≤ 0

theorem leftOut_iff {pairs : List DexScreenerPair} {trigger p : DexScreenerPair} (hp : p ∈ pairs) :
    LeftOut trigger p ↔ ¬ (p = trigger ∨ p ∈ contributing pairs trigger) := by
  rw [not_or, mem_contributing]
  constructor
  · rintro ⟨hne, hweight⟩
    refine ⟨hne, ?_⟩
    rintro ⟨⟨_, haddr⟩, hprice, hliquidity⟩
    rcases hweight with heq | hle | hle
    · exact haddr heq
    · exact absurd hprice (not_lt.mpr hle)
    · exact absurd hliquidity (not_lt.mpr hle)
  · rintro ⟨hne, hnone⟩
    refine ⟨hne, ?_⟩
    by_contra hweight
    simp only [not_or, not_le] at hweight
    exact hnone ⟨⟨hp, hweight.1⟩, hweight.2⟩

theorem observesToken_iff {mint : String} {listed : List (ListedPair DexScreenerPair)}
    {trigger : DexScreenerPair} (hlists : Lists mint listed) :
    ObservesToken mint listed trigger ↔
      ∀ l ∈ listed, l.quoteMint = mint → LeftOut trigger l.fields := by
  constructor
  · intro hbase l hl hside
    rw [leftOut_iff (List.mem_map_of_mem hl)]
    exact fun hused => (hlists.base_iff hl).mp (hbase l hl hused) hside
  · intro hout l hl hused
    rw [hlists.base_iff hl]
    exact fun hside => (leftOut_iff (List.mem_map_of_mem hl)).mp (hout l hl hside) hused

end StaleReserveObserver

open DexScreener StaleReserveObserver

/-- For every answer to a token's request: the quotes are all of the token asked for
exactly when no pair that quotes in it is quotable, and an observation prices only that
token exactly when every pair that quotes in it is left out. -/
theorem token_side_iff (mint : String) (minLiquidity : ℚ) (now : Timestamp)
    (quoted : List (ListedPair DexPair)) (hquoted : Lists mint quoted)
    (triggerDex : Dex) (triggerPoolAddress : Option String)
    (listed : List (ListedPair DexScreenerPair)) (hlisted : Lists mint listed)
    (trigger : DexScreenerPair)
    (hpick : pickTriggerPair (listed.map ListedPair.fields) triggerDex triggerPoolAddress =
      some trigger)
    (poolImplied : ℚ) (hprice : trigger.price = some poolImplied) (latencyMs : Int64) :
    (getAllPairs mint minLiquidity now (.ok (some (quoted.map ListedPair.fields))) =
        .ok ((quoteSources mint minLiquidity now quoted).map Prod.snd) ∧
      (QuotesToken mint minLiquidity now quoted ↔
        ∀ l ∈ quoted, l.quoteMint = mint → ¬ Quotable minLiquidity l.fields)) ∧
    ∃ obs, observe ⟨mint, triggerDex, triggerPoolAddress⟩
        (.ok (some (listed.map ListedPair.fields))) latencyMs = .ok obs ∧
      obs.poolImpliedPriceUsd = poolImplied ∧
      (contributing (listed.map ListedPair.fields) trigger = [] → obs.fairPriceUsd = poolImplied) ∧
      (contributing (listed.map ListedPair.fields) trigger ≠ [] →
        obs.fairPriceUsd = meanPrice (contributing (listed.map ListedPair.fields) trigger)) ∧
      (ObservesToken mint listed trigger ↔
        ∀ l ∈ listed, l.quoteMint = mint → LeftOut trigger l.fields) := by
  refine ⟨⟨getAllPairs_sources _ _ _ _, quotesToken_iff hquoted⟩, _,
    observe_eq latencyMs hpick hprice, rfl, ?_, ?_, observesToken_iff hlisted⟩
  · intro hnone
    rw [fairReference_eq, if_pos hnone]
  · intro hsome
    rw [fairReference_eq, if_neg hsome]

/-- A pair of some token against wrapped SOL, the token at two dollars. -/
def tokenSol : ListedPair DexPair :=
  ⟨"TokenMint", wsolMint, ⟨"raydium", some (some 2), some (some 9000), some "RaydiumPool",
    some (some "TKN"), some (some wsolMint)⟩, by decide +kernel⟩

def tokenSolRaydium : ListedPair DexScreenerPair :=
  ⟨"TokenMint", wsolMint, ⟨"RaydiumPool", "raydium", some (some 2), some (some 9000)⟩,
    by decide +kernel⟩

def tokenSolOrca : ListedPair DexScreenerPair :=
  ⟨"TokenMint", wsolMint, ⟨"OrcaPool", "orca", some (some 3), some (some 7000)⟩, by decide +kernel⟩

theorem token_side_iff_base :
    QuotesToken "TokenMint" 5000 0 [tokenSol] ∧ ∃ obs,
      observe ⟨"TokenMint", .raydium, none⟩
        (.ok (some [tokenSolRaydium.fields, tokenSolOrca.fields])) 9 = .ok obs ∧
      ObservesToken "TokenMint" [tokenSolRaydium, tokenSolOrca] tokenSolRaydium.fields := by
  have hquoted : ∀ l ∈ [tokenSol], l.quoteMint ≠ "TokenMint" := by decide +kernel
  have hlisted : ∀ l ∈ [tokenSolRaydium, tokenSolOrca], l.quoteMint ≠ "TokenMint" := by
    decide +kernel
  obtain ⟨⟨_, hquotes⟩, obs, hobs, _, _, _, hobserves⟩ := token_side_iff "TokenMint" 5000 0
    [tokenSol] (by decide +kernel) .raydium none [tokenSolRaydium, tokenSolOrca]
    (by decide +kernel) tokenSolRaydium.fields (by decide +kernel) 2 rfl 9
  exact ⟨hquotes.mpr fun l hl hside => absurd hside (hquoted l hl), obs, hobs,
    hobserves.mpr fun l hl hside => absurd hside (hlisted l hl)⟩

/-- Asked for wrapped SOL: the pair gives a quote of two dollars labelled as wrapped SOL
against itself, and an observation prices it at two dollars against three. -/
theorem wrong_side_priced :
    Lists wsolMint [tokenSol] ∧ Lists wsolMint [tokenSolRaydium, tokenSolOrca] ∧
    getAllPairs wsolMint 5000 0 (.ok (some [tokenSol.fields])) =
      .ok [⟨.raydium, wsolMint, wsolMint, 2, 9000, some "RaydiumPool", .httpPoll, 0⟩] ∧
    ¬ QuotesToken wsolMint 5000 0 [tokenSol] ∧
    (observe ⟨wsolMint, .raydium, none⟩
      (.ok (some [tokenSolRaydium.fields, tokenSolOrca.fields])) 9).map
        (fun obs => (obs.poolImpliedPriceUsd, obs.fairPriceUsd)) = .ok (2, 3) ∧
    ¬ ObservesToken wsolMint [tokenSolRaydium, tokenSolOrca] tokenSolRaydium.fields := by
  refine ⟨by decide +kernel, by decide +kernel, by decide +kernel, ?_, by decide +kernel, ?_⟩
  · intro hquotes
    have hbase : tokenSol.baseMint = wsolMint :=
      hquotes tokenSol ⟨.raydium, wsolMint, wsolMint, 2, 9000, some "RaydiumPool", .httpPoll, 0⟩
        (mem_quoteSources.mpr ⟨List.mem_singleton_self _, by decide +kernel⟩)
    exact absurd hbase (by decide +kernel)
  · intro hobserves
    have hbase : tokenSolRaydium.baseMint = wsolMint :=
      hobserves tokenSolRaydium List.mem_cons_self (Or.inl rfl)
    exact absurd hbase (by decide +kernel)

end SolanaArb
