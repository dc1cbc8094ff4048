import SolanaArb.Detect.Emissions

/-! # The answer and the hash order

The order in which a hash map yields the quotes of a group decides which of several
quotes at an extreme price are compared. No rule breaks such ties, so the answer is free
of the order exactly when the tied quotes agree on all that the answer is made of.
-/
namespace SolanaArb.Detector
open SolanaArb.General SolanaArb.PriceGraph

/-- The same answer and the same table of last spreads. -/
def SameOutcome (r r' : Detector × Option ArbOpportunity × Option PriceDelta) : Prop :=
  r.2.1.map (fun o => (o.buyPrice, o.sellPrice, o.netSpreadBps)) =
      r'.2.1.map (fun o => (o.buyPrice, o.sellPrice, o.netSpreadBps)) ∧
    ∀ text, r.1.lastSpreads.lookup text = r'.1.lastSpreads.lookup text

/-- The two ends clear the minimum and are not taken for the last opportunity. -/
def Reportable (d : Detector) (mint : String) (buy sell : PriceQuote) : Prop :=
  d.minSpreadBps ≤ netSpreadBps buy sell ∧ d.suppressed mint buy sell = false

/-- Quotes tied at an extreme price agree on their DEX, those bought from also on their
quote mint. -/
def TiesAgree (maxAgeSecs : ℤ) (quotes : List PriceQuote) (now : Timestamp) (key : PairKey) :
    Prop :=
  (∀ b b', Lowest maxAgeSecs quotes now key b → Lowest maxAgeSecs quotes now key b' →
    b.dex = b'.dex ∧ b.quoteMint = b'.quoteMint) ∧
  ∀ s s', Highest maxAgeSecs quotes now key s → Highest maxAgeSecs quotes now key s' →
    s.dex = s'.dex

section Outcomes
variable {d : Detector} {e e' : Event} {buy sell buy' sell' : PriceQuote}

theorem SameOutcome.refl (r : Detector × Option ArbOpportunity × Option PriceDelta) :
    SameOutcome r r := ⟨rfl, fun _ => rfl⟩

theorem dedupKey_right_injective {mint quoteMint quoteMint' : String}
    (h : dedupKey mint quoteMint = dedupKey mint quoteMint') : quoteMint = quoteMint' := by
  have hlist := congrArg String.toList h
  simp only [dedupKey, String.toList_append, List.append_assoc] at hlist
  exact String.toList_injective (List.cons.inj (List.append_cancel_left hlist)).2

theorem process_of_reportable (hends : d.ends e = some (buy, sell))
    (hrep : d.Reportable e.quote.baseMint buy sell) :
    d.process e.iter e.receivedAt e.now e.quote =
      ({ d with
        graph := d.graph.insert e.quote
        lastSpreads := d.lastSpreads.insert (dedupKey e.quote.baseMint buy.quoteMint)
          ⟨buy.dex, sell.dex, netSpreadBps buy sell⟩ },
        some (d.opportunity e.receivedAt e.quote.baseMint buy sell), d.detectDelta e.quote) := by
  rcases process_cases d e.iter e.receivedAt e.now e.quote with
    ⟨b, s, hspread, _, heq⟩ | ⟨_, hsup⟩
  · have hends' : d.ends e = some (b, s) := (spread_iff.mp hspread).1
    obtain ⟨rfl, rfl⟩ := Prod.mk.inj (Option.some.inj (hends'.symm.trans hends))
    exact heq
  · have htrue := hsup buy sell (spread_iff.mpr ⟨hends, hrep.1⟩)
    rw [hrep.2] at htrue
    cases htrue

theorem process_of_not_reportable
    (h : ∀ buy sell, d.ends e = some (buy, sell) → ¬ d.Reportable e.quote.baseMint buy sell) :
    d.process e.iter e.receivedAt e.now e.quote =
      ({ d with graph := d.graph.insert e.quote }, none, d.detectDelta e.quote) := by
  rcases process_cases d e.iter e.receivedAt e.now e.quote with
    ⟨b, s, hspread, hsup, _⟩ | ⟨heq, _⟩
  · obtain ⟨hends, hmin⟩ := spread_iff.mp hspread
    exact absurd ⟨hmin, hsup⟩ (h b s hends)
  · exact heq

end Outcomes

section Ties
variable {maxAgeSecs : ℤ} {minSpreadBps : ℚ} {quotes : List PriceQuote} {now : Timestamp}
  {key : PairKey} {b s b' s' : PriceQuote} {d : Detector}

theorem Lowest.price_eq (hb : Lowest maxAgeSecs quotes now key b)
    (hb' : Lowest maxAgeSecs quotes now key b') : b.priceUsd = b'.priceUsd :=
  le_antisymm (hb.2 b' hb'.1) (hb'.2 b hb.1)

theorem Highest.price_eq (hs : Highest maxAgeSecs quotes now key s)
    (hs' : Highest maxAgeSecs quotes now key s') : s.priceUsd = s'.priceUsd :=
  le_antisymm (hs'.2 s hs.1) (hs.2 s' hs'.1)

/-- The net spread is made of the prices and the DEXs. -/
theorem netSpreadBps_congr (hb : b.priceUsd = b'.priceUsd) (hs : s.priceUsd = s'.priceUsd)
    (hbDex : b.dex = b'.dex) (hsDex : s.dex = s'.dex) : netSpreadBps b s = netSpreadBps b' s' := by
  unfold netSpreadBps grossSpreadBps estimatedFeesBps
  rw [hb, hs, hbDex, hsDex]

theorem suppressed_congr {mint : String} (hnet : netSpreadBps b s = netSpreadBps b' s')
    (hbDex : b.dex = b'.dex) (hsDex : s.dex = s'.dex) (hmint : b.quoteMint = b'.quoteMint) :
    d.suppressed mint b s = d.suppressed mint b' s' := by
  unfold suppressed
  rw [hmint, hnet, hbDex, hsDex]

end Ties

section Orders
variable {maxAgeSecs : ℤ} {minSpreadBps : ℚ} {quotes : List PriceQuote} {now receivedAt : Timestamp}
  {quote : PriceQuote} {d : Detector} {iter iter' : IterationOrder}

/-- Tied quotes that agree lead to one outcome. -/
theorem Tracks.sameOutcome_of_ties (ht : Tracks maxAgeSecs minSpreadBps quotes d)
    (hties : TiesAgree maxAgeSecs (quotes ++ [quote]) now (pairKey quote))
    {b s : PriceQuote} (hends : d.ends ⟨quote, receivedAt, now, iter⟩ = some (b, s))
    (hrep : d.Reportable quote.baseMint b s)
    {b' s' : PriceQuote} (hends' : d.ends ⟨quote, receivedAt, now, iter'⟩ = some (b', s')) :
    SameOutcome (d.process iter receivedAt now quote) (d.process iter' receivedAt now quote) := by
  obtain ⟨hb, hs, _⟩ := ht.ends_spec hends
  obtain ⟨hb', hs', _⟩ := ht.ends_spec hends'
  obtain ⟨hbDex, hmint⟩ := hties.1 b b' hb hb'
  have hsDex := hties.2 s s' hs hs'
  have hbuy := hb.price_eq hb'
  have hsell := hs.price_eq hs'
  have hnet := netSpreadBps_congr hbuy hsell hbDex hsDex
  have hsup := @suppressed_congr b s b' s' d quote.baseMint hnet hbDex hsDex hmint
  have hrep' : d.Reportable quote.baseMint b' s' := ⟨hnet ▸ hrep.1, hsup ▸ hrep.2⟩
  have heq := process_of_reportable hends hrep
  have heq' := process_of_reportable hends' hrep'
  dsimp only at heq heq'
  rw [heq, heq']
  refine ⟨?_, ?_⟩
  · simp only [Option.map_some, opportunity, hbuy, hsell, hnet]
  · intro text
    rw [hmint, hbDex, hsDex, hnet]

/-- Where the extreme prices differ every iteration evaluates a spread. -/
theorem Tracks.exists_ends (ht : Tracks maxAgeSecs minSpreadBps quotes d) {b s : PriceQuote}
    (hb : Lowest maxAgeSecs (quotes ++ [quote]) now (pairKey quote) b)
    (hs : Highest maxAgeSecs (quotes ++ [quote]) now (pairKey quote) s)
    (hlt : b.priceUsd < s.priceUsd) (iter : IterationOrder) :
    ∃ ends, d.ends ⟨quote, receivedAt, now, iter⟩ = some ends := by
  have hne : (d.graph.update iter now quote).2 ≠ [] :=
    List.ne_nil_of_mem (ht.mem_update.mpr hb.1)
  obtain ⟨buy, sell, hbuy, hsell⟩ := Detector.exists_ends hne
  have hbuyPrice := (ht.lowest_of_cheapest hbuy).price_eq hb
  have hsellPrice := (ht.highest_of_priciest hsell).price_eq hs
  have hlt' : buy.priceUsd < sell.priceUsd := by
    rw [hbuyPrice, hsellPrice]
    exact hlt
  obtain ⟨hlen, hvenue⟩ := ht.ends_differ hbuy hsell hlt'
  exact ⟨(buy, sell), spreadEnds_eq_some.mpr ⟨hlen, hbuy, hsell, hvenue⟩⟩

theorem SameOutcome.symm {r r' : Detector × Option ArbOpportunity × Option PriceDelta}
    (h : SameOutcome r r') : SameOutcome r' r :=
  ⟨h.1.symm, fun text => (h.2 text).symm⟩

theorem Tracks.orderFree_of_ties (ht : Tracks maxAgeSecs minSpreadBps quotes d)
    (hties : TiesAgree maxAgeSecs (quotes ++ [quote]) now (pairKey quote))
    (iter iter' : IterationOrder) :
    SameOutcome (d.process iter receivedAt now quote) (d.process iter' receivedAt now quote) := by
  by_cases hrep : ∃ b s, d.ends ⟨quote, receivedAt, now, iter⟩ = some (b, s) ∧
      d.Reportable quote.baseMint b s
  · obtain ⟨b, s, hends, hrep⟩ := hrep
    obtain ⟨hb, hs, hlt⟩ := ht.ends_spec hends
    obtain ⟨⟨b', s'⟩, hends'⟩ := ht.exists_ends hb hs hlt iter'
    exact ht.sameOutcome_of_ties hties hends hrep hends'
  · by_cases hrep' : ∃ b s, d.ends ⟨quote, receivedAt, now, iter'⟩ = some (b, s) ∧
        d.Reportable quote.baseMint b s
    · obtain ⟨b', s', hends', hrep'⟩ := hrep'
      obtain ⟨hb, hs, hlt⟩ := ht.ends_spec hends'
      obtain ⟨⟨b, s⟩, hends⟩ := ht.exists_ends hb hs hlt iter
      exact (ht.sameOutcome_of_ties hties hends' hrep' hends).symm
    · have heq := @process_of_not_reportable d ⟨quote, receivedAt, now, iter⟩
        (fun b s hends hr => hrep ⟨b, s, hends, hr⟩)
      have heq' := @process_of_not_reportable d ⟨quote, receivedAt, now, iter'⟩
        (fun b s hends hr => hrep' ⟨b, s, hends, hr⟩)
      dsimp only at heq heq'
      rw [heq, heq']
      exact SameOutcome.refl _

/-- A new entry tells two tables apart unless they have it in common. -/
theorem insert_entry_eq {table : AList (fun _ : String => LastSpread)} {text text' : String}
    {last last' : LastSpread}
    (h : ∀ t, (table.insert text last).lookup t = (table.insert text' last').lookup t)
    (hnew : table.lookup text ≠ some last) : text = text' ∧ last = last' := by
  have hentry := h text
  rw [AList.lookup_insert] at hentry
  by_cases htext : text = text'
  · subst htext
    rw [AList.lookup_insert] at hentry
    exact ⟨rfl, Option.some.inj hentry⟩
  · rw [AList.lookup_insert_ne htext] at hentry
    exact absurd hentry.symm hnew

theorem Reportable.entry_new {mint : String} {b s : PriceQuote} (h : d.Reportable mint b s)
    (hthreshold : 0 < d.dedupThresholdBps) (hpos : 0 < b.priceUsd) :
    d.lastSpreads.lookup (dedupKey mint b.quoteMint) ≠ some ⟨b.dex, s.dex, netSpreadBps b s⟩ := by
  intro hlookup
  have hnear : spreadDelta (netSpreadBps b s) (netSpreadBps b s) < d.dedupThresholdBps := by
    rw [netSpreadBps_of_ne hpos.ne', spreadDelta_self]
    exact WithTop.coe_lt_coe.mpr hthreshold
  have hsup : d.suppressed mint b s = true :=
    suppressed_iff.mpr ⟨_, hlookup, rfl, rfl, hnear⟩
  rw [h.2] at hsup
  cases hsup

/-- Conversely two pairs of ends that lead to one outcome agree, if one is reported. -/
theorem agree_of_sameOutcome (hthreshold : 0 < d.dedupThresholdBps) {b s b' s' : PriceQuote}
    (hpos : 0 < b.priceUsd)
    (hends : d.ends ⟨quote, receivedAt, now, iter⟩ = some (b, s))
    (hrep : d.Reportable quote.baseMint b s)
    (hends' : d.ends ⟨quote, receivedAt, now, iter'⟩ = some (b', s'))
    (hsame : SameOutcome (d.process iter receivedAt now quote)
      (d.process iter' receivedAt now quote)) :
    b.dex = b'.dex ∧ b.quoteMint = b'.quoteMint ∧ s.dex = s'.dex := by
  have heq := process_of_reportable hends hrep
  dsimp only at heq
  rw [heq] at hsame
  by_cases hrep' : d.Reportable quote.baseMint b' s'
  · have heq' := process_of_reportable hends' hrep'
    dsimp only at heq'
    rw [heq'] at hsame
    obtain ⟨htext, hlast⟩ := insert_entry_eq hsame.2 (hrep.entry_new hthreshold hpos)
    obtain ⟨hbuy, hsell, _⟩ := LastSpread.mk.inj hlast
    exact ⟨hbuy, dedupKey_right_injective htext, hsell⟩
  · have heq' := @process_of_not_reportable d ⟨quote, receivedAt, now, iter'⟩ (by
      intro buy sell hother
      obtain ⟨rfl, rfl⟩ := Prod.mk.inj (Option.some.inj (hother.symm.trans hends'))
      exact hrep')
    dsimp only at heq'
    rw [heq'] at hsame
    exact absurd hsame.1 (by simp)

theorem Tracks.ties_of_orderFree (ht : Tracks maxAgeSecs minSpreadBps quotes d)
    (hthreshold : 0 < d.dedupThresholdBps) (hpos : ∀ q ∈ quotes ++ [quote], 0 < q.priceUsd)
    (hfree : ∀ iter iter', SameOutcome (d.process iter receivedAt now quote)
      (d.process iter' receivedAt now quote)) {b s : PriceQuote}
    (hb : Lowest maxAgeSecs (quotes ++ [quote]) now (pairKey quote) b)
    (hs : Highest maxAgeSecs (quotes ++ [quote]) now (pairKey quote) s)
    (hlt : b.priceUsd < s.priceUsd) (hrep : d.Reportable quote.baseMint b s) :
    TiesAgree maxAgeSecs (quotes ++ [quote]) now (pairKey quote) := by
  have hagree (b' s' : PriceQuote)
      (hb' : Lowest maxAgeSecs (quotes ++ [quote]) now (pairKey quote) b')
      (hs' : Highest maxAgeSecs (quotes ++ [quote]) now (pairKey quote) s') :
      b.dex = b'.dex ∧ b.quoteMint = b'.quoteMint ∧ s.dex = s'.dex := by
    have hlt' : b'.priceUsd < s'.priceUsd := by
      rw [← hb.price_eq hb', ← hs.price_eq hs']
      exact hlt
    exact agree_of_sameOutcome hthreshold (hpos b hb.1.origin.1)
      (ht.ends_meetFirst receivedAt hb hs hlt) hrep
      (ht.ends_meetFirst receivedAt hb' hs' hlt') (hfree _ _)
  constructor
  · intro b₁ b₂ hb₁ hb₂
    obtain ⟨hdex₁, hmint₁, _⟩ := hagree b₁ s hb₁ hs
    obtain ⟨hdex₂, hmint₂, _⟩ := hagree b₂ s hb₂ hs
    exact ⟨hdex₁.symm.trans hdex₂, hmint₁.symm.trans hmint₂⟩
  · intro s₁ s₂ hs₁ hs₂
    exact (hagree b s₁ hb hs₁).2.2.symm.trans (hagree b s₂ hb hs₂).2.2

end Orders

/-- With positive prices, in every reached state the answer to the next quote and the table it
leaves are free of the iteration order exactly when no lowest and highest fresh quote would be
reported, or the quotes tied at each extreme price agree. -/
theorem order_free_iff (minSpreadBps : ℚ) (maxQuoteAgeSecs : ℤ)
    (symbols : AList (fun _ : String => String)) (es : List Event) (quote : PriceQuote)
    (receivedAt now : Timestamp) (hpos : ∀ q ∈ received es ++ [quote], 0 < q.priceUsd) :
    (∀ iter iter', SameOutcome
      ((replay (start minSpreadBps maxQuoteAgeSecs symbols) es).process iter receivedAt now quote)
      ((replay (start minSpreadBps maxQuoteAgeSecs symbols) es).process iter' receivedAt now
        quote)) ↔
    (∀ b s, Lowest maxQuoteAgeSecs (received es ++ [quote]) now (pairKey quote) b →
      Highest maxQuoteAgeSecs (received es ++ [quote]) now (pairKey quote) s →
      b.priceUsd < s.priceUsd →
      ¬ (replay (start minSpreadBps maxQuoteAgeSecs symbols) es).Reportable quote.baseMint b s) ∨
    TiesAgree maxQuoteAgeSecs (received es ++ [quote]) now (pairKey quote) := by
  have ht := replay_tracks minSpreadBps maxQuoteAgeSecs symbols es
  have hthreshold :
      0 < (replay (start minSpreadBps maxQuoteAgeSecs symbols) es).dedupThresholdBps := by
    rw [replay_dedupThreshold, start, Detector.new]
    norm_num
  constructor
  · intro hfree
    by_contra hneither
    rw [not_or] at hneither
    obtain ⟨hsome, hties⟩ := hneither
    apply hsome
    intro b s hb hs hlt hrep
    exact hties (ht.ties_of_orderFree hthreshold hpos hfree hb hs hlt hrep)
  · rintro (hnone | hties) iter iter'
    · have hquiet (i : IterationOrder) := @process_of_not_reportable
        (replay (start minSpreadBps maxQuoteAgeSecs symbols) es) ⟨quote, receivedAt, now, i⟩ (by
          intro b s hends
          obtain ⟨hb, hs, hlt⟩ := ht.ends_spec hends
          exact hnone b s hb hs hlt)
      dsimp only at hquiet
      rw [hquiet iter, hquiet iter']
      exact SameOutcome.refl _
    · exact ht.orderFree_of_ties hties iter iter'

/-- Orca and PumpFun are tied at 1, with fees of 25 and 100 bps. -/
def tiedEvents : List Event :=
  [sampleEvent (sampleQuote .orca 1 0), sampleEvent (sampleQuote .pumpFun 1 0)]

def tiedQuote : PriceQuote := sampleQuote .raydium (101 / 100) 0

def forwards : IterationOrder := ⟨id, fun l => List.Perm.refl l⟩
def backwards : IterationOrder := ⟨List.reverse, fun l => List.reverse_perm l⟩

theorem tied_pos : ∀ q ∈ received tiedEvents ++ [tiedQuote], 0 < q.priceUsd := by
  decide +kernel

/-- Raydium at 1.01 nets 50 bps over Orca and less than nothing over PumpFun. -/
theorem tied_differ :
    ¬ SameOutcome ((replay (start 30 10 ∅) tiedEvents).process forwards 0 0 tiedQuote)
      ((replay (start 30 10 ∅) tiedEvents).process backwards 0 0 tiedQuote) := by
  intro hsame
  have hdiffer : ((replay (start 30 10 ∅) tiedEvents).process forwards 0 0 tiedQuote).2.1.isSome ≠
      ((replay (start 30 10 ∅) tiedEvents).process backwards 0 0 tiedQuote).2.1.isSome := by
    decide +kernel
  apply hdiffer
  have hanswer := congrArg Option.isSome hsame.1
  rwa [Option.isSome_map, Option.isSome_map] at hanswer

theorem tied_lowest_depends :
    (∀ q ∈ received tiedEvents ++ [tiedQuote], 0 < q.priceUsd) ∧
    ¬ SameOutcome ((replay (start 30 10 ∅) tiedEvents).process forwards 0 0 tiedQuote)
      ((replay (start 30 10 ∅) tiedEvents).process backwards 0 0 tiedQuote) :=
  ⟨tied_pos, tied_differ⟩

/-- The tie at 1 is the reason: the two DEXs there are not one. -/
theorem order_free_iff_tied :
    ¬ TiesAgree 10 (received tiedEvents ++ [tiedQuote]) 0 (pairKey tiedQuote) ∧
    ∃ b s, Lowest 10 (received tiedEvents ++ [tiedQuote]) 0 (pairKey tiedQuote) b ∧
      Highest 10 (received tiedEvents ++ [tiedQuote]) 0 (pairKey tiedQuote) s ∧
      (replay (start 30 10 ∅) tiedEvents).Reportable tiedQuote.baseMint b s := by
  have hneither := mt (order_free_iff 30 10 ∅ tiedEvents tiedQuote 0 0 tied_pos).mpr
    (fun hfree => tied_differ (hfree forwards backwards))
  rw [not_or] at hneither
  refine ⟨hneither.2, ?_⟩
  by_contra hnone
  exact hneither.1 (fun b s hb hs _ hrep => hnone ⟨b, s, hb, hs, hrep⟩)

end SolanaArb.Detector
