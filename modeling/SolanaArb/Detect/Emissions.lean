import SolanaArb.Detect.Completeness
import SolanaArb.Detect.ZeroPrices

/-! # The opportunities a run emits

Every emitted opportunity is logged with the group of its quote and with the text under
which its spread is remembered. The table of last spreads holds, under every text, the
last opportunity logged with that text: it is written on emission only.
-/
namespace SolanaArb.Detector
open SolanaArb.General SolanaArb.PriceGraph

structure Emitted where
  group : PairKey
  text : String
  opp : ArbOpportunity
  deriving DecidableEq, Repr

def next (d : Detector) (e : Event) : Detector :=
  (d.process e.iter e.receivedAt e.now e.quote).1

/-- The two quotes whose spread an event evaluates, if it evaluates one. -/
def ends (d : Detector) (e : Event) : Option (PriceQuote × PriceQuote) :=
  spreadEnds (d.graph.update e.iter e.now e.quote).2

def emitted (d : Detector) (e : Event) : Option Emitted := do
  let opp ← (d.process e.iter e.receivedAt e.now e.quote).2.1
  let (buy, _) ← d.ends e
  some ⟨pairKey e.quote, dedupKey e.quote.baseMint buy.quoteMint, opp⟩

/-- The log of a run, oldest first. -/
def emissions (d : Detector) : List Event → List Emitted
  | [] => []
  | e :: es => (d.emitted e).toList ++ emissions (d.next e) es

def latest (p : Emitted → Bool) (log : List Emitted) : Option Emitted := (log.filter p).getLast?

def ofGroup (key : PairKey) (x : Emitted) : Bool := decide (x.group = key)
def underText (text : String) (x : Emitted) : Bool := decide (x.text = text)

def lastSpread (x : Emitted) : LastSpread := ⟨x.opp.buyDex, x.opp.sellDex, x.opp.netSpreadBps⟩

/-- Two opportunities the detector takes for the same one. -/
def SameDexesClose (threshold : ℚ) (opp : ArbOpportunity) (buy sell : PriceQuote) : Prop :=
  opp.buyDex = buy.dex ∧ opp.sellDex = sell.dex ∧
    spreadDelta (netSpreadBps buy sell) opp.netSpreadBps < threshold

def JoinsPools (opp : ArbOpportunity) (buy sell : PriceQuote) : Prop :=
  (opp.buyDex, opp.buyPool) = (buy.dex, buy.poolAddress) ∧
    (opp.sellDex, opp.sellPool) = (sell.dex, sell.poolAddress)

section Log
variable {log : List Emitted} {p : Emitted → Bool} {x : Emitted} {d : Detector} {e : Event}
  {es : List Event}

theorem latest_snoc : latest p (log ++ [x]) = if p x then some x else latest p log := by
  unfold latest
  cases hx : p x with
  | true => simp [hx]
  | false => simp [hx]

theorem latest_mem (h : latest p log = some x) : x ∈ log ∧ p x = true :=
  List.mem_filter.mp (List.mem_of_getLast? h)

theorem latest_congr {p' : Emitted → Bool} (h : ∀ x ∈ log, p x = p' x) :
    latest p log = latest p' log := by
  unfold latest
  rw [List.filter_congr h]

theorem replay_snoc (d : Detector) (es : List Event) (e : Event) :
    replay d (es ++ [e]) = (replay d es).next e := by
  simp [replay, next]

theorem emissions_append (d : Detector) (es es' : List Event) :
    emissions d (es ++ es') = emissions d es ++ emissions (replay d es) es' := by
  induction es generalizing d with
  | nil => rfl
  | cons e es ih =>
    have htail := ih (d.next e)
    simp only [List.cons_append, emissions, htail, List.append_assoc]
    rfl

theorem emissions_snoc (d : Detector) (es : List Event) (e : Event) :
    emissions d (es ++ [e]) = emissions d es ++ ((replay d es).emitted e).toList := by
  rw [emissions_append, emissions, emissions, List.append_nil]

end Log

section Events
variable {d : Detector} {e : Event} {x : Emitted} {buy sell : PriceQuote}

theorem suppressed_iff {mint : String} : d.suppressed mint buy sell = true ↔
    ∃ last, d.lastSpreads.lookup (dedupKey mint buy.quoteMint) = some last ∧
      last.buyDex = buy.dex ∧ last.sellDex = sell.dex ∧
      spreadDelta (netSpreadBps buy sell) last.netSpreadBps < d.dedupThresholdBps := by
  unfold suppressed
  cases d.lastSpreads.lookup (dedupKey mint buy.quoteMint) with
  | none => simp
  | some last => simp [and_assoc]

/-- All an event can do to the log and to the table of last spreads. -/
theorem event_cases (d : Detector) (e : Event) :
    (∃ buy sell, d.ends e = some (buy, sell) ∧ d.minSpreadBps ≤ netSpreadBps buy sell ∧
      d.suppressed e.quote.baseMint buy sell = false ∧
      d.emitted e = some ⟨pairKey e.quote, dedupKey e.quote.baseMint buy.quoteMint,
        d.opportunity e.receivedAt e.quote.baseMint buy sell⟩ ∧
      d.next e = { d with
        graph := d.graph.insert e.quote
        lastSpreads := d.lastSpreads.insert (dedupKey e.quote.baseMint buy.quoteMint)
          ⟨buy.dex, sell.dex, netSpreadBps buy sell⟩ }) ∨
    (d.emitted e = none ∧ d.next e = { d with graph := d.graph.insert e.quote } ∧
      ∀ buy sell, d.ends e = some (buy, sell) → d.minSpreadBps ≤ netSpreadBps buy sell →
        d.suppressed e.quote.baseMint buy sell = true) := by
  unfold emitted next
  rcases process_cases d e.iter e.receivedAt e.now e.quote with
    ⟨buy, sell, hspread, hsup, heq⟩ | ⟨heq, hsup⟩
  · obtain ⟨hends, hmin⟩ := spread_iff.mp hspread
    have hends' : d.ends e = some (buy, sell) := hends
    refine Or.inl ⟨buy, sell, hends', hmin, hsup, ?_, ?_⟩
    · rw [heq, hends']
      rfl
    · rw [heq]
  · refine Or.inr ⟨by rw [heq]; rfl, by rw [heq], ?_⟩
    intro buy sell hends hmin
    exact hsup buy sell (spread_iff.mpr ⟨hends, hmin⟩)

/-- The table is written on emission only. -/
theorem next_lastSpreads (d : Detector) (e : Event) : (d.next e).lastSpreads =
    (d.emitted e).elim d.lastSpreads (fun x => d.lastSpreads.insert x.text (lastSpread x)) := by
  rcases event_cases d e with ⟨_, _, _, _, _, hlog, hnext⟩ | ⟨hlog, hnext, _⟩
  · rw [hlog, hnext]
    rfl
  · rw [hlog, hnext]
    rfl

theorem emitted_group (h : d.emitted e = some x) :
    x.group = pairKey e.quote := by
  rcases event_cases d e with ⟨_, _, _, _, _, hlog, _⟩ | ⟨hlog, _⟩
  · obtain rfl := Option.some.inj (hlog.symm.trans h)
    rfl
  · rw [hlog] at h
    cases h

/-- The log has an entry for exactly the events on which `process` returns one. -/
theorem emitted_opp : (d.emitted e).map Emitted.opp =
    (d.process e.iter e.receivedAt e.now e.quote).2.1 := by
  unfold emitted
  cases hopp : (d.process e.iter e.receivedAt e.now e.quote).2.1 with
  | none => rfl
  | some opp =>
    obtain ⟨buy, sell, hspread, rfl⟩ := process_emits hopp
    have hends : d.ends e = some (buy, sell) := (spread_iff.mp hspread).1
    rw [hends]
    rfl

theorem next_params (d : Detector) (e : Event) :
    (d.next e).minSpreadBps = d.minSpreadBps ∧
      (d.next e).dedupThresholdBps = d.dedupThresholdBps ∧ (d.next e).symbols = d.symbols ∧
      (d.next e).graph = d.graph.insert e.quote := by
  rcases event_cases d e with ⟨_, _, _, _, _, _, heq⟩ | ⟨_, heq, _⟩
  · rw [heq]
    exact ⟨rfl, rfl, rfl, rfl⟩
  · rw [heq]
    exact ⟨rfl, rfl, rfl, rfl⟩

end Events

/-- Under every text the last opportunity logged is remembered. -/
def RemembersLast (log : List Emitted) (d : Detector) : Prop :=
  ∀ text, d.lastSpreads.lookup text = (latest (underText text) log).map lastSpread

theorem RemembersLast.next {log : List Emitted} {d : Detector} (h : RemembersLast log d)
    (e : Event) : RemembersLast (log ++ (d.emitted e).toList) (d.next e) := by
  intro text
  rw [next_lastSpreads]
  cases d.emitted e with
  | none =>
    rw [Option.toList_none, List.append_nil]
    exact h text
  | some x =>
    rw [Option.toList_some, latest_snoc, Option.elim_some]
    by_cases htext : text = x.text
    · subst htext
      rw [AList.lookup_insert, underText, decide_eq_true rfl, if_pos rfl]
      rfl
    · rw [AList.lookup_insert_ne htext, underText, decide_eq_false (Ne.symm htext),
        if_neg Bool.false_ne_true]
      exact h text

theorem replay_remembersLast (minSpreadBps : ℚ) (maxQuoteAgeSecs : ℤ)
    (symbols : AList (fun _ : String => String)) (es : List Event) :
    RemembersLast (emissions (start minSpreadBps maxQuoteAgeSecs symbols) es)
      (replay (start minSpreadBps maxQuoteAgeSecs symbols) es) := by
  induction es using List.reverseRecOn with
  | nil =>
    intro text
    exact AList.lookup_empty text
  | append_singleton es e ih =>
    rw [emissions_snoc, replay_snoc]
    exact ih.next e

theorem replay_dedupThreshold (d : Detector) (es : List Event) :
    (replay d es).dedupThresholdBps = d.dedupThresholdBps := by
  induction es using List.reverseRecOn with
  | nil => rfl
  | append_singleton es e ih =>
    rw [replay_snoc, (next_params _ e).2.1, ih]

/-- A spread is suppressed exactly when the last opportunity under its text joined the
same DEXs at nearly the same spread. -/
theorem RemembersLast.suppressed_iff {log : List Emitted} {d : Detector}
    (h : RemembersLast log d) {mint : String} {buy sell : PriceQuote} :
    d.suppressed mint buy sell = true ↔
      ∃ last, latest (underText (dedupKey mint buy.quoteMint)) log = some last ∧
        SameDexesClose d.dedupThresholdBps last.opp buy sell := by
  rw [Detector.suppressed_iff, h]
  constructor
  · rintro ⟨_, hlast, hbuy, hsell, hclose⟩
    obtain ⟨last, hlatest, rfl⟩ := Option.map_eq_some_iff.mp hlast
    exact ⟨last, hlatest, hbuy, hsell, hclose⟩
  · rintro ⟨last, hlatest, hbuy, hsell, hclose⟩
    exact ⟨lastSpread last, by rw [hlatest]; rfl, hbuy, hsell, hclose⟩

section Mints

/-- Base58 mints, or an empty quote mint. -/
def PlainMints (q : PriceQuote) : Prop := ':' ∉ q.baseMint.toList ∧ q.quoteMint ≠ "unknown"

theorem quoteMint_eq_of_pairKey {q q' : PriceQuote} (hq : q.quoteMint ≠ "unknown")
    (hq' : q'.quoteMint ≠ "unknown") (h : pairKey q = pairKey q') : q.quoteMint = q'.quoteMint := by
  have hmint : (if q.quoteMint = "" then "unknown" else q.quoteMint) =
      if q'.quoteMint = "" then "unknown" else q'.quoteMint := congrArg Prod.snd h
  by_cases hempty : q.quoteMint = ""
  · rw [if_pos hempty] at hmint
    by_cases hempty' : q'.quoteMint = ""
    · rw [hempty, hempty']
    · rw [if_neg hempty'] at hmint
      exact absurd hmint.symm hq'
  · rw [if_neg hempty] at hmint
    by_cases hempty' : q'.quoteMint = ""
    · rw [if_pos hempty'] at hmint
      exact absurd hmint hq
    · rwa [if_neg hempty'] at hmint

def dedupText (q : PriceQuote) : String := dedupKey q.baseMint q.quoteMint

/-- For plain mints the text of the dedup table and the group of the graph agree. -/
theorem dedupText_eq_iff {q q' : PriceQuote} (hq : PlainMints q) (hq' : PlainMints q') :
    dedupText q = dedupText q' ↔ pairKey q = pairKey q' := by
  constructor
  · intro h
    obtain ⟨hbase, hmint⟩ := dedupKey_injective hq.1 hq'.1 h
    simp only [pairKey, hbase, hmint]
  · intro h
    have hbase : q.baseMint = q'.baseMint := congrArg Prod.fst h
    rw [dedupText, dedupText, hbase, quoteMint_eq_of_pairKey hq.2 hq'.2 h]

end Mints

section Origins
variable {minSpreadBps : ℚ} {maxQuoteAgeSecs : ℤ} {symbols : AList (fun _ : String => String)}
  {es : List Event} {e : Event} {x : Emitted} {buy sell : PriceQuote}

theorem replay_tracks (minSpreadBps : ℚ) (maxQuoteAgeSecs : ℤ)
    (symbols : AList (fun _ : String => String)) (es : List Event) :
    Tracks maxQuoteAgeSecs minSpreadBps (received es)
      (replay (start minSpreadBps maxQuoteAgeSecs symbols) es) :=
  run_tracks (run_iff_replay.mpr rfl)

/-- The ends are fresh last quotes of the event's group, at its lowest and highest price. -/
theorem Tracks.ends_spec {quotes : List PriceQuote} {d : Detector}
    (ht : Tracks maxQuoteAgeSecs minSpreadBps quotes d) (h : d.ends e = some (buy, sell)) :
    Lowest maxQuoteAgeSecs (quotes ++ [e.quote]) e.now (pairKey e.quote) buy ∧
      Highest maxQuoteAgeSecs (quotes ++ [e.quote]) e.now (pairKey e.quote) sell ∧
      buy.priceUsd < sell.priceUsd := by
  obtain ⟨_, hbuy, hsell, _⟩ := spreadEnds_eq_some.mp h
  exact ⟨ht.lowest_of_cheapest hbuy, ht.highest_of_priciest hsell, spreadEnds_lt h⟩

/-- Under the iteration that meets them first, a lowest and a highest quote are the ends. -/
theorem Tracks.ends_meetFirst {quotes : List PriceQuote} {d : Detector}
    (ht : Tracks maxQuoteAgeSecs minSpreadBps quotes d) {quote : PriceQuote}
    (receivedAt : Timestamp) {now : Timestamp}
    (hb : Lowest maxQuoteAgeSecs (quotes ++ [quote]) now (pairKey quote) buy)
    (hs : Highest maxQuoteAgeSecs (quotes ++ [quote]) now (pairKey quote) sell)
    (hlt : buy.priceUsd < sell.priceUsd) :
    d.ends ⟨quote, receivedAt, now, meetFirst buy sell⟩ = some (buy, sell) := by
  have hcheap := ht.cheapest_meetFirst hb hs.1
  have hpricy := (ht.priciest_meetFirst hb.1 hs).1 hlt
  obtain ⟨hlen, hvenue⟩ := ht.ends_differ hcheap hpricy hlt
  exact spreadEnds_eq_some.mpr ⟨hlen, hcheap, hpricy, hvenue⟩

theorem FreshLast.origin {quotes : List PriceQuote} {now : Timestamp} {key : PairKey}
    {q : PriceQuote} (h : FreshLast maxQuoteAgeSecs quotes now key q) :
    q ∈ quotes ∧ pairKey q = key := lastQuote_spec h.last

theorem dedupKey_eq_dedupText {q q' : PriceQuote} (h : pairKey q' = pairKey q) :
    dedupKey q.baseMint q'.quoteMint = dedupText q' := by
  have hbase : q'.baseMint = q.baseMint := congrArg Prod.fst h
  rw [dedupText, hbase]

/-- A lowest and a highest fresh quote of the event's group clear the minimum when the event
is handled after these. -/
structure Clearing (minSpreadBps : ℚ) (maxQuoteAgeSecs : ℤ) (es : List Event) (e : Event)
    (buy sell : PriceQuote) : Prop where
  lowest : Lowest maxQuoteAgeSecs (received es ++ [e.quote]) e.now (pairKey e.quote) buy
  highest : Highest maxQuoteAgeSecs (received es ++ [e.quote]) e.now (pairKey e.quote) sell
  cheaper : buy.priceUsd < sell.priceUsd
  enough : minSpreadBps ≤ netSpreadBps buy sell

theorem Clearing.pairKeys (h : Clearing minSpreadBps maxQuoteAgeSecs es e buy sell) :
    pairKey buy = pairKey e.quote ∧ pairKey sell = pairKey e.quote :=
  ⟨h.lowest.1.origin.2, h.highest.1.origin.2⟩

theorem Clearing.mem (h : Clearing minSpreadBps maxQuoteAgeSecs es e buy sell) :
    buy ∈ received (es ++ [e]) ∧ sell ∈ received (es ++ [e]) := by
  rw [received_snoc]
  exact ⟨h.lowest.1.origin.1, h.highest.1.origin.1⟩

theorem Clearing.venues (h : Clearing minSpreadBps maxQuoteAgeSecs es e buy sell) :
    ¬ (buy.dex = sell.dex ∧ buy.poolAddress = sell.poolAddress) := by
  intro hvenue
  exact h.cheaper.ne (congrArg PriceQuote.priceUsd (h.lowest.1.eq_of_venue h.highest.1 hvenue))

/-- An opportunity is made of two quotes that clear the minimum at some event of the run. -/
theorem emissions_made
    (h : x ∈ emissions (start minSpreadBps maxQuoteAgeSecs symbols) es) :
    ∃ before e, before ++ [e] <+: es ∧ ∃ buy sell,
      Clearing minSpreadBps maxQuoteAgeSecs before e buy sell ∧ x.group = pairKey e.quote ∧
      x.text = dedupText buy ∧ ∃ d, x.opp = opportunity d e.receivedAt buy.baseMint buy sell := by
  induction es using List.reverseRecOn with
  | nil => exact absurd h List.not_mem_nil
  | append_singleton es e ih =>
    rw [emissions_snoc] at h
    rcases List.mem_append.mp h with hold | hnew
    · obtain ⟨before, e', hprefix, hmade⟩ := ih hold
      exact ⟨before, e', hprefix.trans (List.prefix_append es [e]), hmade⟩
    · have ht := replay_tracks minSpreadBps maxQuoteAgeSecs symbols es
      refine ⟨es, e, List.prefix_rfl, ?_⟩
      rcases event_cases (replay (start minSpreadBps maxQuoteAgeSecs symbols) es) e with
        ⟨buy, sell, hends, hmin, _, hlog, _⟩ | ⟨hlog, _⟩
      · rw [hlog] at hnew
        obtain rfl := Option.some.inj (Option.mem_toList.mp hnew)
        obtain ⟨hbuy, hsell, hlt⟩ := ht.ends_spec hends
        have hkey := hbuy.1.origin.2
        have hbase : buy.baseMint = e.quote.baseMint := congrArg Prod.fst hkey
        rw [ht.minSpread] at hmin
        exact ⟨buy, sell, ⟨hbuy, hsell, hlt, hmin⟩, rfl, dedupKey_eq_dedupText hkey, _,
          by rw [hbase]⟩
      · rw [hlog] at hnew
        exact absurd hnew List.not_mem_nil

theorem received_earlier {before : List Event} (h : before <+: es) {q : PriceQuote}
    (hq : q ∈ received before) : q ∈ received es := (h.map Event.quote).subset hq

theorem plainMints_snoc (h : ∀ q ∈ received (es ++ [e]), PlainMints q) :
    ∀ q ∈ received es, PlainMints q := by
  intro q hq
  exact h q (received_snoc es e ▸ List.mem_append_left _ hq)

theorem ends_plain (hmints : ∀ q ∈ received (es ++ [e]), PlainMints q) (buy sell : PriceQuote)
    (hends : (replay (start minSpreadBps maxQuoteAgeSecs symbols) es).ends e = some (buy, sell)) :
    PlainMints buy ∧ pairKey buy = pairKey e.quote := by
  have ht := replay_tracks minSpreadBps maxQuoteAgeSecs symbols es
  obtain ⟨hmem, hkey⟩ := (ht.ends_spec hends).1.1.origin
  rw [received_snoc] at hmints
  exact ⟨hmints buy hmem, hkey⟩

/-- For plain mints the last opportunity under a text is the last one of the group. -/
theorem latest_text_eq_group (hmints : ∀ q ∈ received es, PlainMints q) {q : PriceQuote}
    (hq : PlainMints q) :
    latest (underText (dedupText q)) (emissions (start minSpreadBps maxQuoteAgeSecs symbols) es) =
      latest (ofGroup (pairKey q)) (emissions (start minSpreadBps maxQuoteAgeSecs symbols) es) := by
  apply latest_congr
  intro x hx
  obtain ⟨before, e, hprefix, buy, sell, hclearing, hgroup, htext, _⟩ := emissions_made hx
  have hbuy := received_earlier hprefix hclearing.mem.1
  rw [underText, ofGroup, hgroup, htext, ← hclearing.pairKeys.1]
  exact decide_eq_decide.mpr (dedupText_eq_iff (hmints buy hbuy) hq)

end Origins

end SolanaArb.Detector
