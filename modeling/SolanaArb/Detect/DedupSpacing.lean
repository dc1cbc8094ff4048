import SolanaArb.Detect.Emissions

/-! # Spacing of the opportunities of a pair

For plain mints the dedup table of one group is its own: consecutive opportunities of a
group between the same DEXs differ by the threshold, and a group is reported as if no
quote of any other group had been received.
-/
namespace SolanaArb.Detector
open SolanaArb.General SolanaArb.PriceGraph

def Spaced (earlier later : Emitted) : Prop :=
  later.opp.buyDex = earlier.opp.buyDex → later.opp.sellDex = earlier.opp.sellDex →
    (5 : ℚ) ≤ spreadDelta later.opp.netSpreadBps earlier.opp.netSpreadBps

section Spacing
variable {minSpreadBps : ℚ} {maxQuoteAgeSecs : ℤ} {symbols : AList (fun _ : String => String)}
  {es : List Event} {e : Event} {x : Emitted}

/-- A new opportunity differs from the last one of its group. -/
theorem emitted_spaced (hmints : ∀ q ∈ received (es ++ [e]), PlainMints q)
    (hx : (replay (start minSpreadBps maxQuoteAgeSecs symbols) es).emitted e = some x)
    {last : Emitted} (hlast : latest (ofGroup (pairKey e.quote))
      (emissions (start minSpreadBps maxQuoteAgeSecs symbols) es) = some last) :
    Spaced last x := by
  have hremembers := replay_remembersLast minSpreadBps maxQuoteAgeSecs symbols es
  rcases event_cases (replay (start minSpreadBps maxQuoteAgeSecs symbols) es) e with
    ⟨buy, sell, hends, _, hsup, hlog, _⟩ | ⟨hlog, _⟩
  · obtain rfl := Option.some.inj (hlog.symm.trans hx)
    obtain ⟨hplain, hkey⟩ := ends_plain hmints buy sell hends
    rw [← hkey, ← latest_text_eq_group (plainMints_snoc hmints) hplain] at hlast
    intro hbuy hsell
    by_contra hclose
    have hsuppressed := @RemembersLast.suppressed_iff _ _ hremembers e.quote.baseMint buy sell
    rw [hsup, dedupKey_eq_dedupText hkey, replay_dedupThreshold] at hsuppressed
    exact absurd (hsuppressed.mpr ⟨last, hlast, hbuy.symm, hsell.symm, not_le.mp hclose⟩)
      Bool.false_ne_true
  · rw [hlog] at hx
    cases hx

theorem emissions_spaced (hmints : ∀ q ∈ received es, PlainMints q) (key : PairKey) :
    ((emissions (start minSpreadBps maxQuoteAgeSecs symbols) es).filter (ofGroup key)).IsChain
      Spaced := by
  induction es using List.reverseRecOn with
  | nil => exact List.IsChain.nil
  | append_singleton es e ih =>
    rw [emissions_snoc, List.filter_append, List.isChain_append]
    refine ⟨ih (plainMints_snoc hmints), ?_, ?_⟩
    · cases (replay (start minSpreadBps maxQuoteAgeSecs symbols) es).emitted e with
      | none => exact List.IsChain.nil
      | some x =>
        cases hgroup : ofGroup key x with
        | true => simp [hgroup]
        | false => simp [hgroup]
    · intro last hlast x hx
      have hxMem := List.mem_filter.mp (List.mem_of_mem_head? hx)
      have hxLog := Option.mem_toList.mp hxMem.1
      have hgroup : pairKey e.quote = key :=
        (emitted_group hxLog).symm.trans (of_decide_eq_true hxMem.2)
      subst hgroup
      exact emitted_spaced hmints hxLog hlast

end Spacing

/-- Two detectors that agree on all that concerns one group. -/
structure SameGroup (key : PairKey) (d d' : Detector) : Prop where
  prices : d.graph.prices.lookup key = d'.graph.prices.lookup key
  maxAge : d.graph.maxAgeSecs = d'.graph.maxAgeSecs
  minSpread : d.minSpreadBps = d'.minSpreadBps
  threshold : d.dedupThresholdBps = d'.dedupThresholdBps
  symbols : d.symbols = d'.symbols
  spreads : ∀ q, PlainMints q → pairKey q = key →
    d.lastSpreads.lookup (dedupText q) = d'.lastSpreads.lookup (dedupText q)

section Interference
variable {key : PairKey} {d d' : Detector} {e : Event} {x : Emitted} {buy sell : PriceQuote}

theorem SameGroup.ends (h : SameGroup (pairKey e.quote) d d') : d.ends e = d'.ends e := by
  have hquotes : (d.graph.update e.iter e.now e.quote).2 =
      (d'.graph.update e.iter e.now e.quote).2 :=
    getPairQuotes_congr (insert_lookup_congr h.prices) h.maxAge e.iter e.now
  unfold Detector.ends
  rw [hquotes]

theorem emitted_eq (d : Detector) (e : Event) : d.emitted e =
    (d.ends e).bind (fun ends =>
      if d.minSpreadBps ≤ netSpreadBps ends.1 ends.2 ∧
          d.suppressed e.quote.baseMint ends.1 ends.2 = false then
        some ⟨pairKey e.quote, dedupKey e.quote.baseMint ends.1.quoteMint,
          d.opportunity e.receivedAt e.quote.baseMint ends.1 ends.2⟩
      else none) := by
  rcases event_cases d e with ⟨buy, sell, hends, hmin, hsup, hlog, _⟩ | ⟨hlog, _, hall⟩
  · rw [hlog, hends, Option.bind_some, if_pos ⟨hmin, hsup⟩]
  · rw [hlog]
    cases hends : d.ends e with
    | none => rfl
    | some ends =>
      rw [Option.bind_some, if_neg]
      rintro ⟨hmin, hsup⟩
      rw [hall ends.1 ends.2 hends hmin] at hsup
      cases hsup

theorem SameGroup.emitted (h : SameGroup (pairKey e.quote) d d')
    (hplain : ∀ buy sell, d.ends e = some (buy, sell) →
      PlainMints buy ∧ pairKey buy = pairKey e.quote) : d.emitted e = d'.emitted e := by
  rw [emitted_eq, emitted_eq, ← h.ends]
  cases hends : d.ends e with
  | none => rfl
  | some ends =>
    obtain ⟨hmints, hkey⟩ := hplain ends.1 ends.2 hends
    have hspreads := h.spreads ends.1 hmints hkey
    rw [← dedupKey_eq_dedupText hkey] at hspreads
    have hsup : d.suppressed e.quote.baseMint ends.1 ends.2 =
        d'.suppressed e.quote.baseMint ends.1 ends.2 := by
      unfold suppressed
      rw [hspreads, h.threshold]
    have hopp : d.opportunity e.receivedAt e.quote.baseMint ends.1 ends.2 =
        d'.opportunity e.receivedAt e.quote.baseMint ends.1 ends.2 := by
      unfold opportunity tokenSymbol
      rw [h.symbols]
    rw [Option.bind_some, Option.bind_some, hsup, hopp, h.minSpread]

theorem SameGroup.next_same (h : SameGroup (pairKey e.quote) d d')
    (hplain : ∀ buy sell, d.ends e = some (buy, sell) →
      PlainMints buy ∧ pairKey buy = pairKey e.quote) :
    SameGroup (pairKey e.quote) (d.next e) (d'.next e) := by
  obtain ⟨hmin, hthreshold, hsymbols, hgraph⟩ := next_params d e
  obtain ⟨hmin', hthreshold', hsymbols', hgraph'⟩ := next_params d' e
  constructor
  · rw [hgraph, hgraph']
    exact insert_lookup_congr h.prices
  · rw [hgraph, hgraph']
    exact h.maxAge
  · rw [hmin, hmin', h.minSpread]
  · rw [hthreshold, hthreshold', h.threshold]
  · rw [hsymbols, hsymbols', h.symbols]
  · intro q hq hkey
    rw [next_lastSpreads, next_lastSpreads, ← h.emitted hplain]
    cases d.emitted e with
    | none => exact h.spreads q hq hkey
    | some x =>
      rw [Option.elim_some, Option.elim_some]
      by_cases htext : dedupText q = x.text
      · rw [htext, AList.lookup_insert, AList.lookup_insert]
      · rw [AList.lookup_insert_ne htext, AList.lookup_insert_ne htext]
        exact h.spreads q hq hkey

theorem SameGroup.next_other (h : SameGroup key d d') (hne : pairKey e.quote ≠ key)
    (hplain : ∀ x, d.emitted e = some x → ∃ q, PlainMints q ∧ pairKey q = pairKey e.quote ∧
      x.text = dedupText q) : SameGroup key (d.next e) d' := by
  obtain ⟨hmin, hthreshold, hsymbols, hgraph⟩ := next_params d e
  constructor
  · rw [hgraph, insert_lookup_ne hne.symm]
    exact h.prices
  · rw [hgraph]
    exact h.maxAge
  · rw [hmin, h.minSpread]
  · rw [hthreshold, h.threshold]
  · rw [hsymbols, h.symbols]
  · intro q hq hkey
    rw [next_lastSpreads]
    cases hx : d.emitted e with
    | none => exact h.spreads q hq hkey
    | some x =>
      obtain ⟨q', hq', hgroup, htext⟩ := hplain x hx
      have htexts : dedupText q ≠ x.text := by
        intro heq
        rw [htext, dedupText_eq_iff hq hq', hgroup] at heq
        exact hne (heq.symm.trans hkey)
      rw [Option.elim_some, AList.lookup_insert_ne htexts]
      exact h.spreads q hq hkey

end Interference

section Runs
variable {minSpreadBps : ℚ} {maxQuoteAgeSecs : ℤ} {symbols : AList (fun _ : String => String)}
  {es : List Event} {e : Event}

def ofKey (key : PairKey) (e : Event) : Bool := decide (pairKey e.quote = key)

theorem emitted_plain (hmints : ∀ q ∈ received (es ++ [e]), PlainMints q) (x : Emitted)
    (hx : (replay (start minSpreadBps maxQuoteAgeSecs symbols) es).emitted e = some x) :
    ∃ q, PlainMints q ∧ pairKey q = pairKey e.quote ∧ x.text = dedupText q := by
  rcases event_cases (replay (start minSpreadBps maxQuoteAgeSecs symbols) es) e with
    ⟨buy, sell, hends, _, _, hlog, _⟩ | ⟨hlog, _⟩
  · obtain ⟨hplain, hkey⟩ := ends_plain hmints buy sell hends
    obtain rfl := Option.some.inj (hlog.symm.trans hx)
    exact ⟨buy, hplain, hkey, dedupKey_eq_dedupText hkey⟩
  · rw [hlog] at hx
    cases hx

/-- The run of one group's quotes alone agrees with the whole run on that group. -/
theorem replay_sameGroup (hmints : ∀ q ∈ received es, PlainMints q) (key : PairKey) :
    SameGroup key (replay (start minSpreadBps maxQuoteAgeSecs symbols) es)
      (replay (start minSpreadBps maxQuoteAgeSecs symbols) (es.filter (ofKey key))) := by
  induction es using List.reverseRecOn with
  | nil => exact ⟨rfl, rfl, rfl, rfl, rfl, fun _ _ _ => rfl⟩
  | append_singleton es e ih =>
    have hsame := ih (plainMints_snoc hmints)
    rw [List.filter_append, replay_snoc]
    by_cases hkey : pairKey e.quote = key
    · subst hkey
      rw [List.filter_singleton, ofKey, decide_eq_true rfl, cond_true, replay_snoc]
      exact hsame.next_same (ends_plain hmints)
    · rw [List.filter_singleton, ofKey, decide_eq_false hkey, cond_false, List.append_nil]
      exact hsame.next_other hkey (emitted_plain hmints)

theorem emissions_filter (hmints : ∀ q ∈ received es, PlainMints q) (key : PairKey) :
    (emissions (start minSpreadBps maxQuoteAgeSecs symbols) es).filter (ofGroup key) =
      emissions (start minSpreadBps maxQuoteAgeSecs symbols) (es.filter (ofKey key)) := by
  induction es using List.reverseRecOn with
  | nil => rfl
  | append_singleton es e ih =>
    have hsame :=
      @replay_sameGroup minSpreadBps maxQuoteAgeSecs symbols es (plainMints_snoc hmints) key
    rw [emissions_snoc, List.filter_append, List.filter_append, ih (plainMints_snoc hmints)]
    by_cases hkey : pairKey e.quote = key
    · subst hkey
      rw [List.filter_singleton, ofKey, decide_eq_true rfl, cond_true, emissions_snoc,
        ← hsame.emitted (ends_plain hmints)]
      congr 1
      apply List.filter_eq_self.mpr
      intro x hx
      exact decide_eq_true (emitted_group (Option.mem_toList.mp hx))
    · rw [List.filter_singleton, ofKey, decide_eq_false hkey, cond_false, List.append_nil]
      have hnone : (((replay (start minSpreadBps maxQuoteAgeSecs symbols) es).emitted
          e).toList.filter (ofGroup key)) = [] := by
        apply List.filter_eq_nil_iff.mpr
        intro x hx
        rw [ofGroup, emitted_group (Option.mem_toList.mp hx), decide_eq_true_eq]
        exact hkey
      rw [hnone, List.append_nil]

end Runs

/-- Over every run whose mints are plain, consecutive opportunities of one group between
the same DEXs differ by at least 5 bps, and the quotes of other groups change nothing. -/
theorem dedup_spacing (minSpreadBps : ℚ) (maxQuoteAgeSecs : ℤ)
    (symbols : AList (fun _ : String => String)) (es : List Event)
    (hmints : ∀ q ∈ received es, PlainMints q) (key : PairKey) :
    ((emissions (start minSpreadBps maxQuoteAgeSecs symbols) es).filter (ofGroup key)).IsChain
      Spaced ∧
    (emissions (start minSpreadBps maxQuoteAgeSecs symbols) es).filter (ofGroup key) =
      emissions (start minSpreadBps maxQuoteAgeSecs symbols) (es.filter (ofKey key)) :=
  ⟨emissions_spaced hmints key, emissions_filter hmints key⟩

def wifQuote (dex : Dex) (priceUsd : ℚ) : PriceQuote :=
  { sampleQuote dex priceUsd 0 with baseMint := "WIF" }

/-- BONK opens at 950 net and widens to 1950, with WIF opening in between. -/
def interleavedEvents : List Event :=
  [sampleEvent (sampleQuote .orca 1 0), sampleEvent (wifQuote .orca 1),
    sampleEvent (sampleQuote .raydium (11 / 10) 0), sampleEvent (wifQuote .raydium 2),
    sampleEvent (sampleQuote .raydium (12 / 10) 0)]

theorem interleavedEvents_plain : ∀ q ∈ received interleavedEvents, PlainMints q := by
  intro q hq
  simp only [received, interleavedEvents, sampleEvent, List.map_cons, List.map_nil, List.mem_cons,
    List.not_mem_nil, or_false] at hq
  rcases hq with rfl | rfl | rfl | rfl | rfl <;> exact ⟨by decide, by decide⟩

theorem dedup_spacing_interleaved :
    (emissions (start 30 10 ∅) interleavedEvents).length = 3 ∧
    ((emissions (start 30 10 ∅) interleavedEvents).filter (ofGroup ("BONK", "unknown"))).IsChain
      Spaced :=
  ⟨by decide +kernel,
    (dedup_spacing 30 10 ∅ interleavedEvents interleavedEvents_plain ("BONK", "unknown")).1⟩

end SolanaArb.Detector
