import SolanaArb.Detect.DetectorRuns
import SolanaArb.General.Tables

/-! # What the detector misses

The detector looks at one pair of venues only, the cheapest and the most expensive
one. Which quotes of equal price it meets first depends on the iteration order of a
hash map, so a pair is found for certain when every choice of the two ends clears
the minimum.
-/
namespace SolanaArb.Detector
open SolanaArb.General SolanaArb.PriceGraph

section Group
variable (maxAgeSecs : ℤ) (minSpreadBps : ℚ) (quotes : List PriceQuote) (now : Timestamp)
  (key : PairKey)

def Lowest (b : PriceQuote) : Prop :=
  FreshLast maxAgeSecs quotes now key b ∧
    ∀ q, FreshLast maxAgeSecs quotes now key q → b.priceUsd ≤ q.priceUsd

def Highest (s : PriceQuote) : Prop :=
  FreshLast maxAgeSecs quotes now key s ∧
    ∀ q, FreshLast maxAgeSecs quotes now key q → q.priceUsd ≤ s.priceUsd

/-- Some two venues of the group clear the minimum net of both fees. -/
structure PairClears : Prop where
  positive : ∀ q, FreshLast maxAgeSecs quotes now key q → 0 < q.priceUsd
  pair : ∃ b s, FreshLast maxAgeSecs quotes now key b ∧ FreshLast maxAgeSecs quotes now key s ∧
    ¬ (b.dex = s.dex ∧ b.poolAddress = s.poolAddress) ∧ minSpreadBps ≤ netSpreadBps b s

end Group

/-- The pairs for which an opportunity is emitted along a run. -/
def reports (d : Detector) : List Event → List PairKey
  | [] => []
  | e :: es =>
    let (d', opp, _) := d.process e.iter e.receivedAt e.now e.quote
    if opp.isSome then pairKey e.quote :: reports d' es else reports d' es

section Order

def toFront (q : PriceQuote) (l : List PriceQuote) : List PriceQuote :=
  if q ∈ l then q :: l.erase q else l

theorem toFront_perm (q : PriceQuote) (l : List PriceQuote) : (toFront q l).Perm l := by
  unfold toFront
  split
  · next h => exact (List.perm_cons_erase h).symm
  · exact List.Perm.refl l

/-- An iteration that meets `b` first and then `s`. -/
def meetFirst (b s : PriceQuote) : IterationOrder where
  order := fun l => toFront b (toFront s l)
  perm := fun l => (toFront_perm b _).trans (toFront_perm s l)

theorem meetFirst_order {b s : PriceQuote} {l : List PriceQuote} (hb : b ∈ l) (hs : s ∈ l) :
    ∃ rest, (meetFirst b s).order l = b :: rest ∧ (b ≠ s → ∃ rest', rest = s :: rest') := by
  have hfront : toFront s l = s :: l.erase s := if_pos hs
  have hmem : b ∈ toFront s l := (toFront_perm s l).mem_iff.mpr hb
  refine ⟨(toFront s l).erase b, if_pos hmem, ?_⟩
  intro hne
  refine ⟨(l.erase s).erase b, ?_⟩
  rw [hfront, List.erase_cons_tail (by simpa using hne.symm)]

end Order

/-- Under the iteration that meets them first, two fresh quotes head the list. -/
theorem getPairQuotes_meetFirst {g : PriceGraph} {now : Timestamp} {key : PairKey}
    {b s : PriceQuote} (hb : b ∈ g.getPairQuotes (meetFirst b s) now key)
    (hs : s ∈ g.getPairQuotes (meetFirst b s) now key) :
    ∃ rest, g.getPairQuotes (meetFirst b s) now key = b :: rest ∧
      (b ≠ s → ∃ rest', rest = s :: rest') := by
  unfold getPairQuotes at hb hs ⊢
  cases hlookup : g.prices.lookup key with
  | none => simp [hlookup] at hb
  | some venues =>
    simp only [hlookup] at hb hs ⊢
    obtain ⟨hbMem, hbFresh⟩ := List.mem_filter.mp hb
    obtain ⟨hsMem, hsFresh⟩ := List.mem_filter.mp hs
    have hperm := (meetFirst b s).perm (values venues)
    obtain ⟨rest, horder, hsecond⟩ :=
      meetFirst_order (hperm.mem_iff.mp hbMem) (hperm.mem_iff.mp hsMem)
    refine ⟨rest.filter (fun quote => !g.isStale quote now), ?_, ?_⟩
    · rw [horder, List.filter_cons_of_pos (by exact hbFresh)]
    · intro hne
      obtain ⟨rest', rfl⟩ := hsecond hne
      exact ⟨_, List.filter_cons_of_pos (by exact hsFresh)⟩

theorem process_isSome_iff {d : Detector} {iter : IterationOrder} {receivedAt now : Timestamp}
    {quote : PriceQuote} : (d.process iter receivedAt now quote).2.1.isSome = true ↔
      ∃ buy sell, d.Spread (d.graph.update iter now quote).2 buy sell ∧
        d.suppressed quote.baseMint buy sell = false := by
  rcases process_cases d iter receivedAt now quote with ⟨buy, sell, hs, hsup, heq⟩ | ⟨heq, hnone⟩
  · rw [heq]
    exact ⟨fun _ => ⟨buy, sell, hs, hsup⟩, fun _ => rfl⟩
  · rw [heq]
    constructor
    · intro h
      cases h
    · rintro ⟨buy, sell, hs, hsup⟩
      rw [hnone buy sell hs] at hsup
      cases hsup

section Process
variable {maxAgeSecs : ℤ} {minSpreadBps : ℚ} {quotes : List PriceQuote} {d : Detector}
  {receivedAt now : Timestamp} {quote : PriceQuote} {iter : IterationOrder} {b s : PriceQuote}

theorem Tracks.lowest_of_cheapest (ht : Tracks maxAgeSecs minSpreadBps quotes d)
    (h : cheapest (d.graph.update iter now quote).2 = some b) :
    Lowest maxAgeSecs (quotes ++ [quote]) now (pairKey quote) b := by
  obtain ⟨hmem, hmin⟩ := cheapest_spec h
  exact ⟨ht.mem_update.mp hmem, fun q hq => hmin q (ht.mem_update.mpr hq)⟩

theorem Tracks.highest_of_priciest (ht : Tracks maxAgeSecs minSpreadBps quotes d)
    (h : priciest (d.graph.update iter now quote).2 = some s) :
    Highest maxAgeSecs (quotes ++ [quote]) now (pairKey quote) s := by
  obtain ⟨hmem, hmax⟩ := priciest_spec h
  exact ⟨ht.mem_update.mp hmem, fun q hq => hmax q (ht.mem_update.mpr hq)⟩

/-- Ends of different prices belong to two venues. -/
theorem Tracks.ends_differ (ht : Tracks maxAgeSecs minSpreadBps quotes d)
    (hbuy : cheapest (d.graph.update iter now quote).2 = some b)
    (hsell : priciest (d.graph.update iter now quote).2 = some s)
    (hlt : b.priceUsd < s.priceUsd) :
    2 ≤ (d.graph.update iter now quote).2.length ∧
      ¬ (b.dex = s.dex ∧ b.poolAddress = s.poolAddress) := by
  have hne : b ≠ s := by
    rintro rfl
    exact lt_irrefl _ hlt
  refine ⟨two_le_length_of_ne (cheapest_spec hbuy).1 (priciest_spec hsell).1 hne, ?_⟩
  intro hvenue
  exact hne ((ht.lowest_of_cheapest hbuy).1.eq_of_venue (ht.highest_of_priciest hsell).1 hvenue)

/-- Where every choice of the two ends clears the minimum, every iteration finds one. -/
theorem Tracks.emits_of_ends (ht : Tracks maxAgeSecs minSpreadBps quotes d)
    (hsome : ∃ q, FreshLast maxAgeSecs (quotes ++ [quote]) now (pairKey quote) q)
    (hends : ∀ b s, Lowest maxAgeSecs (quotes ++ [quote]) now (pairKey quote) b →
      Highest maxAgeSecs (quotes ++ [quote]) now (pairKey quote) s →
      b.priceUsd < s.priceUsd ∧ minSpreadBps ≤ netSpreadBps b s ∧
        d.suppressed quote.baseMint b s = false) :
    (d.process iter receivedAt now quote).2.1.isSome = true := by
  obtain ⟨q, hq⟩ := hsome
  have hne : (d.graph.update iter now quote).2 ≠ [] :=
    List.ne_nil_of_mem (ht.mem_update.mpr hq)
  obtain ⟨b, s, hbuy, hsell⟩ := exists_ends hne
  obtain ⟨hlt, hnet, hsup⟩ :=
    hends b s (ht.lowest_of_cheapest hbuy) (ht.highest_of_priciest hsell)
  obtain ⟨hlen, hvenue⟩ := ht.ends_differ hbuy hsell hlt
  exact process_isSome_iff.mpr
    ⟨b, s, ⟨hlen, hbuy, hsell, hvenue, ht.minSpread.symm ▸ hnet⟩, hsup⟩

theorem Tracks.update_meetFirst (ht : Tracks maxAgeSecs minSpreadBps quotes d)
    (hb : FreshLast maxAgeSecs (quotes ++ [quote]) now (pairKey quote) b)
    (hs : FreshLast maxAgeSecs (quotes ++ [quote]) now (pairKey quote) s) :
    ∃ rest, (d.graph.update (meetFirst b s) now quote).2 = b :: rest ∧
      (b ≠ s → ∃ rest', rest = s :: rest') :=
  getPairQuotes_meetFirst (ht.mem_update.mpr hb) (ht.mem_update.mpr hs)

/-- The iteration that meets a lowest quote first buys from it. -/
theorem Tracks.cheapest_meetFirst (ht : Tracks maxAgeSecs minSpreadBps quotes d)
    (hb : Lowest maxAgeSecs (quotes ++ [quote]) now (pairKey quote) b)
    (hs : FreshLast maxAgeSecs (quotes ++ [quote]) now (pairKey quote) s) :
    cheapest (d.graph.update (meetFirst b s) now quote).2 = some b := by
  obtain ⟨rest, hfound, _⟩ := ht.update_meetFirst hb.1 hs
  have hmin : ∀ q ∈ rest, b.priceUsd ≤ q.priceUsd := by
    intro q hq
    exact hb.2 q (ht.mem_update.mp (hfound ▸ List.mem_cons_of_mem _ hq))
  rw [hfound]
  exact cheapest_of_first hmin

/-- A highest quote met second is sold to, unless the first one has its price. -/
theorem Tracks.priciest_meetFirst (ht : Tracks maxAgeSecs minSpreadBps quotes d)
    (hb : FreshLast maxAgeSecs (quotes ++ [quote]) now (pairKey quote) b)
    (hs : Highest maxAgeSecs (quotes ++ [quote]) now (pairKey quote) s) :
    (b.priceUsd < s.priceUsd →
      priciest (d.graph.update (meetFirst b s) now quote).2 = some s) ∧
    (b.priceUsd = s.priceUsd →
      priciest (d.graph.update (meetFirst b s) now quote).2 = some b) := by
  obtain ⟨rest, hfound, hsecond⟩ := ht.update_meetFirst hb hs.1
  have hmax : ∀ q ∈ rest, q.priceUsd ≤ s.priceUsd := by
    intro q hq
    exact hs.2 q (ht.mem_update.mp (hfound ▸ List.mem_cons_of_mem _ hq))
  rw [hfound]
  constructor
  · intro hlt
    have hne : b ≠ s := by
      rintro rfl
      exact lt_irrefl _ hlt
    obtain ⟨rest', rfl⟩ := hsecond hne
    exact priciest_of_second hlt (fun q hq => hmax q (List.mem_cons_of_mem _ hq))
  · intro heq
    exact priciest_of_first (fun q hq => heq ▸ hmax q hq)

/-- Conversely the iteration that meets two ends first decides on them. -/
theorem Tracks.ends_of_emits (ht : Tracks maxAgeSecs minSpreadBps quotes d)
    (hb : Lowest maxAgeSecs (quotes ++ [quote]) now (pairKey quote) b)
    (hs : Highest maxAgeSecs (quotes ++ [quote]) now (pairKey quote) s)
    (h : (d.process (meetFirst b s) receivedAt now quote).2.1.isSome = true) :
    b.priceUsd < s.priceUsd ∧ minSpreadBps ≤ netSpreadBps b s ∧
      d.suppressed quote.baseMint b s = false := by
  obtain ⟨buy, sell, hspread, hsup⟩ := process_isSome_iff.mp h
  have hcheap := ht.cheapest_meetFirst hb hs.1
  obtain ⟨hpricy, htied⟩ := ht.priciest_meetFirst hb.1 hs
  rcases (hb.2 s hs.1).lt_or_eq with hlt | heq
  · obtain ⟨rfl, rfl⟩ := hspread.ends hcheap (hpricy hlt)
    exact ⟨hlt, ht.minSpread ▸ hspread.2.2.2.2, hsup⟩
  · -- All prices are equal: the same quote is met as both ends.
    obtain ⟨rfl, rfl⟩ := hspread.ends hcheap (htied heq)
    exact absurd ⟨rfl, rfl⟩ hspread.2.2.2.1

end Process

section Reports
variable {d₀ d : Detector} {es : List Event}

def replay (d : Detector) (es : List Event) : Detector :=
  es.foldl (fun d e => (d.process e.iter e.receivedAt e.now e.quote).1) d

theorem run_iff_replay : Run Step d₀ es d ↔ d = replay d₀ es :=
  run_foldl_iff (fun (d : Detector) (e : Event) =>
    (d.process e.iter e.receivedAt e.now e.quote).1) d₀ es d

theorem reports_append (d : Detector) (es es' : List Event) :
    reports d (es ++ es') = reports d es ++ reports (replay d es) es' := by
  induction es generalizing d with
  | nil => rfl
  | cons e es ih =>
    have htail := ih (d.process e.iter e.receivedAt e.now e.quote).1
    simp only [List.cons_append, reports, htail]
    split
    · rfl
    · rfl

theorem reports_snoc (hr : Run Step d₀ es d) (e : Event) :
    reports d₀ (es ++ [e]) = reports d₀ es ++
      if (d.process e.iter e.receivedAt e.now e.quote).2.1.isSome then [pairKey e.quote] else [] := by
  rw [reports_append, ← run_iff_replay.mp hr]
  rfl

/-- Every remembered spread belongs to a pair that was reported. -/
def Remembers (d₀ : Detector) (es : List Event) (d : Detector) : Prop :=
  ∀ text last, d.lastSpreads.lookup text = some last →
    ∃ q ∈ received es, text = dedupKey q.baseMint q.quoteMint ∧ pairKey q ∈ reports d₀ es

theorem Remembers.step {maxAgeSecs : ℤ} {minSpreadBps : ℚ} {e : Event} {d' : Detector}
    (hr : Run Step d₀ es d) (ht : Tracks maxAgeSecs minSpreadBps (received es) d)
    (h : Remembers d₀ es d) (hstep : Step d e d') : Remembers d₀ (es ++ [e]) d' := by
  have hkeep : ∀ text last, d.lastSpreads.lookup text = some last →
      ∃ q ∈ received (es ++ [e]), text = dedupKey q.baseMint q.quoteMint ∧
        pairKey q ∈ reports d₀ (es ++ [e]) := by
    intro text last hlast
    obtain ⟨q, hq, htext, hrep⟩ := h text last hlast
    refine ⟨q, ?_, htext, ?_⟩
    · rw [received_snoc]
      exact List.mem_append_left _ hq
    · rw [reports_snoc hr]
      exact List.mem_append_left _ hrep
  intro text last hlast
  rw [hstep] at hlast
  rcases process_cases d e.iter e.receivedAt e.now e.quote with
    ⟨buy, sell, hspread, _, heq⟩ | ⟨heq, _⟩
  · rw [heq] at hlast
    rcases lookup_insert_cases hlast with ⟨htext, _⟩ | hold
    · have hbuy := ht.mem_update.mp (cheapest_spec hspread.2.1).1
      obtain ⟨hmem, hkey⟩ := lastQuote_spec hbuy.last
      have hbase : buy.baseMint = e.quote.baseMint := congrArg Prod.fst hkey
      refine ⟨buy, ?_, ?_, ?_⟩
      · rw [received_snoc]
        exact hmem
      · rw [htext, hbase]
      · rw [reports_snoc hr, heq, hkey]
        exact List.mem_append_right _ List.mem_cons_self
    · exact hkeep text last hold
  · rw [heq] at hlast
    exact hkeep text last hlast

theorem run_remembers {maxAgeSecs : ℤ} {minSpreadBps : ℚ}
    {symbols : AList (fun _ : String => String)}
    (hr : Run Step (start minSpreadBps maxAgeSecs symbols) es d) :
    Remembers (start minSpreadBps maxAgeSecs symbols) es d := by
  induction hr with
  | nil =>
    intro text last h
    simp [start, Detector.new] at h
  | snoc hr hstep ih => exact ih.step hr (run_tracks hr) hstep

theorem dedupKey_injective {mint mint' quoteMint quoteMint' : String}
    (hm : ':' ∉ mint.toList) (hm' : ':' ∉ mint'.toList)
    (h : dedupKey mint quoteMint = dedupKey mint' quoteMint') :
    mint = mint' ∧ quoteMint = quoteMint' := by
  have hlist := congrArg String.toList h
  simp only [dedupKey, String.toList_append, List.append_assoc] at hlist
  obtain ⟨hmint, hquote⟩ := append_separator_inj hm hm' hlist
  exact ⟨String.toList_injective hmint, String.toList_injective hquote⟩

/-- While a pair is unreported nothing suppresses it. Mints are free of colons, as
base58 texts are: two mints with colons may share a remembered spread. -/
theorem not_suppressed {maxAgeSecs : ℤ} {minSpreadBps : ℚ}
    {symbols : AList (fun _ : String => String)}
    (hr : Run Step (start minSpreadBps maxAgeSecs symbols) es d) {quote b : PriceQuote}
    {now : Timestamp} (hmints : ∀ q ∈ received es ++ [quote], ':' ∉ q.baseMint.toList)
    (hnew : pairKey quote ∉ reports (start minSpreadBps maxAgeSecs symbols) es)
    (hb : FreshLast maxAgeSecs (received es ++ [quote]) now (pairKey quote) b) (s : PriceQuote) :
    d.suppressed quote.baseMint b s = false := by
  unfold suppressed
  cases hlast : d.lastSpreads.lookup (dedupKey quote.baseMint b.quoteMint) with
  | none => rfl
  | some last =>
    obtain ⟨_, hkey⟩ := lastQuote_spec hb.last
    obtain ⟨q, hq, htext, hrep⟩ := run_remembers hr _ last hlast
    obtain ⟨hbase, hquoteMint⟩ := dedupKey_injective
      (hmints quote (List.mem_append_right _ List.mem_cons_self))
      (hmints q (List.mem_append_left _ hq)) htext
    have hsame : pairKey q = pairKey b := by
      have hbBase : b.baseMint = quote.baseMint := congrArg Prod.fst hkey
      simp only [pairKey, ← hbase, ← hquoteMint, hbBase]
    exact absurd (hkey ▸ hsame ▸ hrep) hnew

end Reports

/-- While a pair is unreported, an opportunity in it is found for certain exactly when
every choice of a lowest and a highest fresh quote clears the minimum. -/
theorem detects_iff (minSpreadBps : ℚ) (maxQuoteAgeSecs : ℤ)
    (symbols : AList (fun _ : String => String)) (es : List Event) (d : Detector)
    (hr : Run Step (start minSpreadBps maxQuoteAgeSecs symbols) es d) (quote : PriceQuote)
    (receivedAt now : Timestamp) :
    ((PairClears maxQuoteAgeSecs minSpreadBps (received es ++ [quote]) now (pairKey quote) ∧
        pairKey quote ∉ reports (start minSpreadBps maxQuoteAgeSecs symbols) es →
      ∀ iter, (d.process iter receivedAt now quote).2.1.isSome = true) ↔
    (PairClears maxQuoteAgeSecs minSpreadBps (received es ++ [quote]) now (pairKey quote) ∧
        pairKey quote ∉ reports (start minSpreadBps maxQuoteAgeSecs symbols) es →
      ∀ b s, Lowest maxQuoteAgeSecs (received es ++ [quote]) now (pairKey quote) b →
        Highest maxQuoteAgeSecs (received es ++ [quote]) now (pairKey quote) s →
        b.priceUsd < s.priceUsd ∧ minSpreadBps ≤ netSpreadBps b s ∧
          d.suppressed quote.baseMint b s = false)) ∧
    ((∀ q ∈ received es ++ [quote], ':' ∉ q.baseMint.toList) →
      pairKey quote ∉ reports (start minSpreadBps maxQuoteAgeSecs symbols) es →
      ∀ b s, Lowest maxQuoteAgeSecs (received es ++ [quote]) now (pairKey quote) b →
        d.suppressed quote.baseMint b s = false) := by
  have ht := run_tracks hr
  refine ⟨⟨?_, ?_⟩, ?_⟩
  · intro h hclears b s hb hs
    exact ht.ends_of_emits hb hs (h hclears (meetFirst b s))
  · intro h hclears iter
    obtain ⟨b, _, hb, _⟩ := hclears.1.pair
    exact ht.emits_of_ends ⟨b, hb⟩ (h hclears)
  · intro hmints hnew b s hb
    exact not_suppressed hr hmints hnew hb.1 s

section EqualFees
variable {maxAgeSecs : ℤ} {minSpreadBps : ℚ} {quotes : List PriceQuote} {now : Timestamp}
  {key : PairKey} {b s b' s' : PriceQuote}

theorem spread_mono (hpos : 0 < b.priceUsd) (hpos' : 0 < s'.priceUsd)
    (hbuy : b.priceUsd ≤ b'.priceUsd) (hsell : s'.priceUsd ≤ s.priceUsd) :
    (s'.priceUsd - b'.priceUsd) / b'.priceUsd ≤ (s.priceUsd - b.priceUsd) / b.priceUsd := by
  have hratio : s'.priceUsd / b'.priceUsd ≤ s.priceUsd / b.priceUsd :=
    div_le_div₀ (hpos'.le.trans hsell) hsell hpos hbuy
  have hb : b.priceUsd ≠ 0 := hpos.ne'
  have hb' : b'.priceUsd ≠ 0 := (hpos.trans_le hbuy).ne'
  rw [sub_div, sub_div, div_self hb, div_self hb']
  linarith

/-- Where all venues of the group charge one fee, the two ends clear if any pair does. -/
theorem PairClears.ends_clear (h : PairClears maxAgeSecs minSpreadBps quotes now key)
    (hmin : 0 ≤ minSpreadBps)
    (hfee : ∀ q q', FreshLast maxAgeSecs quotes now key q → FreshLast maxAgeSecs quotes now key q' →
      q.dex.feeBps = q'.dex.feeBps)
    (hb : Lowest maxAgeSecs quotes now key b) (hs : Highest maxAgeSecs quotes now key s) :
    b.priceUsd < s.priceUsd ∧ minSpreadBps ≤ netSpreadBps b s := by
  obtain ⟨b', s', hb', hs', _, hclears⟩ := h.pair
  have hbPos := h.positive b hb.1
  have hgross := spread_mono hbPos (h.positive s' hs') (hb.2 b' hb') (hs.2 s' hs')
  rw [netSpreadBps_of_ne (h.positive b' hb').ne', WithTop.coe_le_coe, estimatedFeesBps,
    ← hfee b b' hb.1 hb', ← hfee s s' hs.1 hs'] at hclears
  have hnet : minSpreadBps ≤ (s.priceUsd - b.priceUsd) / b.priceUsd * 10000 -
      (b.dex.feeBps + s.dex.feeBps) := by
    linarith
  refine ⟨?_, ?_⟩
  · by_contra hle
    have hdiff : s.priceUsd - b.priceUsd ≤ 0 := by linarith
    have hdiv := div_nonpos_of_nonpos_of_nonneg hdiff hbPos.le
    have hbFee := Dex.feeBps_pos b.dex
    have hsFee := Dex.feeBps_pos s.dex
    linarith
  · rw [netSpreadBps_of_ne hbPos.ne', WithTop.coe_le_coe]
    exact hnet

end EqualFees

def pumpFunLow : PriceQuote := sampleQuote .pumpFun 1 0
def raydiumMid : PriceQuote := sampleQuote .raydium (1001 / 1000) 0
def orcaHigh : PriceQuote := sampleQuote .orca (1012 / 1000) 0

def missedEvents : List Event := [sampleEvent pumpFunLow, sampleEvent raydiumMid]

def beforeMiss : Detector := replay (start 10 10 ∅) missedEvents

theorem beforeMiss_run : Run Step (start 10 10 ∅) missedEvents beforeMiss :=
  run_iff_replay.mpr rfl

theorem missed_freshLast {q : PriceQuote}
    (h : FreshLast 10 (received missedEvents ++ [orcaHigh]) 0 (pairKey orcaHigh) q) :
    q = pumpFunLow ∨ q = raydiumMid ∨ q = orcaHigh := by
  have hmem := (lastQuote_spec h.last).1
  simpa [missedEvents, received, sampleEvent] using hmem

theorem missed_pairClears :
    PairClears 10 10 (received missedEvents ++ [orcaHigh]) 0 (pairKey orcaHigh) := by
  constructor
  · intro q hq
    rcases missed_freshLast hq with rfl | rfl | rfl
    · decide +kernel
    · decide +kernel
    · decide +kernel
  · exact ⟨raydiumMid, orcaHigh, ⟨by decide +kernel, by decide +kernel⟩,
      ⟨by decide +kernel, by decide +kernel⟩, by decide +kernel, by decide +kernel⟩

/-- Raydium to Orca nets 59 bps, but only PumpFun to Orca is looked at, which nets
less than nothing after the fee of 100 bps. -/
theorem clearing_pair_missed :
    Run Step (start 10 10 ∅) missedEvents beforeMiss ∧
    PairClears 10 10 (received missedEvents ++ [orcaHigh]) 0 (pairKey orcaHigh) ∧
    pairKey orcaHigh ∉ reports (start 10 10 ∅) missedEvents ∧
    (beforeMiss.process (sampleEvent orcaHigh).iter 0 0 orcaHigh).2.1 = none :=
  ⟨beforeMiss_run, missed_pairClears, by decide +kernel, by decide +kernel⟩

/-- In that run some choice of the two ends does not clear. -/
theorem detects_iff_missed :
    ¬ ∀ b s, Lowest 10 (received missedEvents ++ [orcaHigh]) 0 (pairKey orcaHigh) b →
      Highest 10 (received missedEvents ++ [orcaHigh]) 0 (pairKey orcaHigh) s →
      b.priceUsd < s.priceUsd ∧ 10 ≤ netSpreadBps b s ∧
        beforeMiss.suppressed orcaHigh.baseMint b s = false := by
  intro hends
  have hfinds := (detects_iff 10 10 ∅ missedEvents beforeMiss beforeMiss_run orcaHigh 0 0).1.mpr
    (fun _ => hends) ⟨missed_pairClears, by decide +kernel⟩ (sampleEvent orcaHigh).iter
  have hnone : (beforeMiss.process (sampleEvent orcaHigh).iter 0 0 orcaHigh).2.1.isSome = false := by
    decide +kernel
  rw [hnone] at hfinds
  cases hfinds

end SolanaArb.Detector
