import SolanaArb.Detect.Emissions

/-! # Price deltas along a run

A delta compares a quote with the latest earlier one of its group and venue. What was
emitted or suppressed in between, and how old that quote is, plays no part: two runs
with the same quotes answer with the same deltas.
-/
namespace SolanaArb.Detector
open SolanaArb.General SolanaArb.PriceGraph

/-- The two quotes are of one group and one venue. -/
def SameVenue (q quote : PriceQuote) : Prop :=
  pairKey q = pairKey quote ∧ q.dex = quote.dex ∧ q.poolAddress = quote.poolAddress

/-- `q` is the latest of the quotes on the venue of `quote`. -/
def LatestOn (quotes : List PriceQuote) (quote q : PriceQuote) : Prop :=
  ∃ before after, quotes = before ++ q :: after ∧ SameVenue q quote ∧
    ∀ later ∈ after, ¬ SameVenue later quote

/-- The move of a price against an earlier one, in basis points. -/
def deltaBps (quote : PriceQuote) (oldPrice : ℚ) : ℚ :=
  (quote.priceUsd - oldPrice) / oldPrice * 10000

def priceDelta (quote : PriceQuote) (oldPrice : ℚ) : PriceDelta where
  dex := quote.dex
  poolAddress := quote.poolAddress
  baseMint := quote.baseMint
  oldPrice := oldPrice
  newPrice := quote.priceUsd
  deltaBps := deltaBps quote oldPrice
  source := quote.source

/-- The earlier price is positive and the move from it reaches 20 basis points. -/
def Flagged (quote : PriceQuote) (oldPrice : ℚ) : Prop :=
  0 < oldPrice ∧ 20 ≤ |quote.priceUsd - oldPrice| / oldPrice * 10000

section Latest
variable {quotes : List PriceQuote} {quote q : PriceQuote}

theorem lastQuote_eq_some_iff :
    lastQuote quotes (pairKey quote) quote.dex quote.poolAddress = some q ↔
      LatestOn quotes quote q := by
  unfold lastQuote
  rw [List.find?_eq_some_iff_append]
  constructor
  · rintro ⟨hsame, after, before, heq, hafter⟩
    refine ⟨before.reverse, after.reverse, ?_, by simpa [SameVenue] using hsame, ?_⟩
    · have hreverse := congrArg List.reverse heq
      simpa using hreverse
    · intro later hlater
      have hne := hafter later (List.mem_reverse.mp hlater)
      simp only [Bool.not_eq_true', decide_eq_false_iff_not] at hne
      exact hne
  · rintro ⟨before, after, rfl, hsame, hafter⟩
    refine ⟨by simpa [SameVenue] using hsame, after.reverse, before.reverse, by simp, ?_⟩
    intro later hlater
    simp only [Bool.not_eq_true', decide_eq_false_iff_not]
    exact hafter later (List.mem_reverse.mp hlater)

end Latest

section Process
variable {d : Detector} {quote : PriceQuote} {delta : PriceDelta}

theorem process_delta (d : Detector) (iter : IterationOrder) (receivedAt now : Timestamp)
    (quote : PriceQuote) : (d.process iter receivedAt now quote).2.2 = d.detectDelta quote := by
  rcases process_cases d iter receivedAt now quote with ⟨_, _, _, _, heq⟩ | ⟨heq, _⟩
  · rw [heq]
  · rw [heq]

theorem abs_deltaBps {oldPrice : ℚ} (h : 0 < oldPrice) :
    |deltaBps quote oldPrice| = |quote.priceUsd - oldPrice| / oldPrice * 10000 := by
  rw [deltaBps, abs_mul, abs_div, abs_of_pos h, abs_of_pos (by norm_num : (0 : ℚ) < 10000)]

theorem detectDelta_congr {d' : Detector} (hthreshold : d.deltaThresholdBps = d'.deltaThresholdBps)
    (hprev : d.graph.getPreviousPrice quote = d'.graph.getPreviousPrice quote) :
    d.detectDelta quote = d'.detectDelta quote := by
  unfold detectDelta
  rw [hprev, hthreshold]

theorem detectDelta_eq_some_iff (hthreshold : d.deltaThresholdBps = 20) :
    d.detectDelta quote = some delta ↔ ∃ oldPrice, d.graph.getPreviousPrice quote = some oldPrice ∧
      Flagged quote oldPrice ∧ delta = priceDelta quote oldPrice := by
  unfold detectDelta
  cases hprev : d.graph.getPreviousPrice quote with
  | none => simp
  | some oldPrice =>
    simp only [Option.some.injEq, exists_eq_left']
    by_cases hpos : 0 < oldPrice
    · rw [if_neg (not_le.mpr hpos), hthreshold]
      change (if 20 ≤ |deltaBps quote oldPrice| then some (priceDelta quote oldPrice)
        else none) = _ ↔ _
      rw [Option.ite_none_right_eq_some, abs_deltaBps hpos, Flagged, Option.some.injEq]
      exact ⟨fun h => ⟨⟨hpos, h.1⟩, h.2.symm⟩, fun h => ⟨h.1.2, h.2.symm⟩⟩
    · rw [if_pos (not_lt.mp hpos)]
      refine ⟨fun h => (by cases h), fun h => absurd h.1.1 hpos⟩

end Process

theorem replay_deltaThreshold (d : Detector) (es : List Event) :
    (replay d es).deltaThresholdBps = d.deltaThresholdBps := by
  induction es using List.reverseRecOn with
  | nil => rfl
  | append_singleton es e ih =>
    rw [replay_snoc, ← ih]
    rcases event_cases (replay d es) e with ⟨_, _, _, _, _, _, heq⟩ | ⟨_, heq, _⟩
    · rw [heq]
    · rw [heq]

section Runs
variable (minSpreadBps : ℚ) (maxQuoteAgeSecs : ℤ) (symbols : AList (fun _ : String => String))
  (es : List Event)

theorem replay_previousPrice (quote : PriceQuote) :
    (replay (start minSpreadBps maxQuoteAgeSecs symbols) es).graph.getPreviousPrice quote =
      (lastQuote (received es) (pairKey quote) quote.dex quote.poolAddress).map
        PriceQuote.priceUsd := by
  rw [← (replay_tracks minSpreadBps maxQuoteAgeSecs symbols es).stored]
  rfl

/-- Neither the times, nor the iteration orders, nor the minimum spread and the maximal age
change a delta. -/
theorem delta_congr (minSpreadBps' : ℚ) (maxQuoteAgeSecs' : ℤ)
    (symbols' : AList (fun _ : String => String)) {es' : List Event} (e e' : Event)
    (hreceived : received es = received es') (hquote : e.quote = e'.quote) :
    ((replay (start minSpreadBps maxQuoteAgeSecs symbols) es).process e.iter e.receivedAt e.now
        e.quote).2.2 =
      ((replay (start minSpreadBps' maxQuoteAgeSecs' symbols') es').process e'.iter e'.receivedAt
        e'.now e'.quote).2.2 := by
  rw [process_delta, process_delta, ← hquote]
  apply detectDelta_congr
  · rw [replay_deltaThreshold, replay_deltaThreshold]
    rfl
  · rw [replay_previousPrice, replay_previousPrice, hreceived]

/-- After any run, a quote is answered with a delta exactly when the latest earlier quote of its
group and venue has a positive price that it moves by 20 basis points or more. -/
theorem delta_iff (e : Event) (delta : PriceDelta) :
    ((replay (start minSpreadBps maxQuoteAgeSecs symbols) es).process e.iter e.receivedAt e.now
        e.quote).2.2 = some delta ↔
      ∃ q, LatestOn (received es) e.quote q ∧ Flagged e.quote q.priceUsd ∧
        delta = priceDelta e.quote q.priceUsd := by
  rw [process_delta, detectDelta_eq_some_iff (replay_deltaThreshold _ es), replay_previousPrice]
  constructor
  · rintro ⟨oldPrice, hprev, hflagged, rfl⟩
    obtain ⟨q, hq, rfl⟩ := Option.map_eq_some_iff.mp hprev
    exact ⟨q, lastQuote_eq_some_iff.mp hq, hflagged, rfl⟩
  · rintro ⟨q, hq, hflagged, rfl⟩
    refine ⟨q.priceUsd, ?_, hflagged, rfl⟩
    rw [lastQuote_eq_some_iff.mpr hq, Option.map_some]

end Runs
end SolanaArb.Detector
