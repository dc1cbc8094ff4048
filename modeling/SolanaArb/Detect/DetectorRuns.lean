import SolanaArb.Detect.Detector
import SolanaArb.General.Runs

/-! # What the detector emits over a run

After any sequence of quotes the graph holds, for every venue of every pair, the
last quote received for it. An emitted opportunity therefore joins two last quotes,
the cheapest and the most expensive of the fresh ones.
-/
namespace SolanaArb.Detector
open SolanaArb.General SolanaArb.PriceGraph

structure Event where
  quote : PriceQuote
  receivedAt : Timestamp
  now : Timestamp
  iter : IterationOrder

def Step (d : Detector) (e : Event) (d' : Detector) : Prop :=
  d' = (d.process e.iter e.receivedAt e.now e.quote).1

def start (minSpreadBps : ℚ) (maxQuoteAgeSecs : ℤ) (symbols : AList (fun _ : String => String)) :
    Detector :=
  { Detector.new minSpreadBps maxQuoteAgeSecs with symbols := symbols }

/-- The detector that the program sets up, with a symbol for each labelled token. -/
def labelled (minSpreadBps : ℚ) (maxQuoteAgeSecs : ℤ) (tokenLabels : List (String × String)) :
    Detector :=
  tokenLabels.foldl (fun d label => d.registerSymbol label.1 label.2)
    (Detector.new minSpreadBps maxQuoteAgeSecs)

/-- Labels change nothing but the symbols. -/
theorem labelled_eq_start (minSpreadBps : ℚ) (maxQuoteAgeSecs : ℤ)
    (tokenLabels : List (String × String)) : ∃ symbols,
      labelled minSpreadBps maxQuoteAgeSecs tokenLabels =
        start minSpreadBps maxQuoteAgeSecs symbols := by
  induction tokenLabels using List.reverseRecOn with
  | nil => exact ⟨∅, rfl⟩
  | append_singleton tokenLabels label ih =>
    obtain ⟨symbols, hsymbols⟩ := ih
    refine ⟨symbols.insert label.1 label.2, ?_⟩
    rw [labelled, List.foldl_append, ← labelled, hsymbols]
    rfl

/-- The last of the received quotes for a venue of a pair. -/
def lastQuote (quotes : List PriceQuote) (key : PairKey) (dex : Dex) (poolAddress : Option String) :
    Option PriceQuote :=
  quotes.reverse.find? (fun q => pairKey q = key ∧ q.dex = dex ∧ q.poolAddress = poolAddress)

def received (es : List Event) : List PriceQuote := es.map Event.quote

theorem lastQuote_snoc (quotes : List PriceQuote) (quote : PriceQuote) (key : PairKey) (dex : Dex)
    (poolAddress : Option String) : lastQuote (quotes ++ [quote]) key dex poolAddress =
      if pairKey quote = key ∧ quote.dex = dex ∧ quote.poolAddress = poolAddress then some quote
      else lastQuote quotes key dex poolAddress := by
  unfold lastQuote
  rw [List.reverse_append, List.reverse_singleton, List.singleton_append, List.find?_cons]
  by_cases h : pairKey quote = key ∧ quote.dex = dex ∧ quote.poolAddress = poolAddress
  · simp [h]
  · simp [h]

theorem received_snoc (es : List Event) (e : Event) :
    received (es ++ [e]) = received es ++ [e.quote] := by
  simp [received]

/-- The graph is the last quote of every venue, under the venue's own key. -/
structure Tracks (maxAgeSecs : ℤ) (minSpreadBps : ℚ) (quotes : List PriceQuote) (d : Detector) :
    Prop where
  stored : ∀ key dex poolAddress,
    d.graph.stored key (venueKey dex poolAddress) = lastQuote quotes key dex poolAddress
  keyed : ∀ key venue q, d.graph.stored key venue = some q → venue = dexKey q
  maxAge : d.graph.maxAgeSecs = maxAgeSecs
  minSpread : d.minSpreadBps = minSpreadBps

variable {maxAgeSecs : ℤ} {minSpreadBps : ℚ} {quotes : List PriceQuote} {d : Detector}

theorem start_tracks (minSpreadBps : ℚ) (maxQuoteAgeSecs : ℤ)
    (symbols : AList (fun _ : String => String)) :
    Tracks maxQuoteAgeSecs minSpreadBps [] (start minSpreadBps maxQuoteAgeSecs symbols) := by
  constructor
  · intro key dex poolAddress
    exact stored_new maxQuoteAgeSecs key _
  · intro key venue q h
    rw [start, Detector.new, stored_new] at h
    cases h
  · rfl
  · rfl

theorem Tracks.insert (ht : Tracks maxAgeSecs minSpreadBps quotes d) (quote : PriceQuote)
    {d' : Detector} (hgraph : d'.graph = d.graph.insert quote)
    (hmin : d'.minSpreadBps = d.minSpreadBps) :
    Tracks maxAgeSecs minSpreadBps (quotes ++ [quote]) d' := by
  constructor
  · intro key dex poolAddress
    rw [hgraph, stored_insert, lastQuote_snoc, ht.stored]
    have hvenue : dexKey quote = venueKey dex poolAddress ↔
        quote.dex = dex ∧ quote.poolAddress = poolAddress := by
      constructor
      · exact venueKey_injective
      · rintro ⟨rfl, rfl⟩
        rfl
    simp only [hvenue]
  · intro key venue q h
    rw [hgraph, stored_insert] at h
    split at h
    · next hkey =>
      cases h
      exact hkey.2.symm
    · exact ht.keyed key venue q h
  · rw [hgraph]
    exact ht.maxAge
  · rw [hmin]
    exact ht.minSpread

theorem Tracks.mem_quotes (ht : Tracks maxAgeSecs minSpreadBps quotes d) {iter : IterationOrder}
    {now : Timestamp} {key : PairKey} {q : PriceQuote} :
    q ∈ d.graph.getPairQuotes iter now key ↔
      lastQuote quotes key q.dex q.poolAddress = some q ∧
        numSeconds (now - q.timestamp) ≤ maxAgeSecs := by
  rw [mem_getPairQuotes]
  have hfresh : d.graph.isStale q now = false ↔ numSeconds (now - q.timestamp) ≤ maxAgeSecs := by
    rw [isStale, ht.maxAge, decide_eq_false_iff_not, not_lt]
  rw [hfresh]
  constructor
  · rintro ⟨⟨venue, hstored⟩, hle⟩
    have hvenue : venue = venueKey q.dex q.poolAddress := ht.keyed key venue q hstored
    rw [hvenue, ht.stored] at hstored
    exact ⟨hstored, hle⟩
  · rintro ⟨hlast, hle⟩
    exact ⟨⟨venueKey q.dex q.poolAddress, by rw [ht.stored, hlast]⟩, hle⟩

theorem run_tracks {symbols : AList (fun _ : String => String)} {es : List Event}
    (hr : Run Step (start minSpreadBps maxAgeSecs symbols) es d) :
    Tracks maxAgeSecs minSpreadBps (received es) d := by
  apply hr.invariant (fun es d => Tracks maxAgeSecs minSpreadBps (received es) d)
    (start_tracks minSpreadBps maxAgeSecs symbols)
  intro es d e d' _ ht hstep
  obtain ⟨hgraph, hmin⟩ := process_frame d e.iter e.receivedAt e.now e.quote
  rw [received_snoc, hstep]
  exact ht.insert e.quote hgraph hmin

/-- The opportunity buys from the cheapest and sells to the most expensive of the
fresh last quotes of one pair, on different venues, and clears the minimum spread
net of both fees. -/
structure SoundOpportunity (maxAgeSecs : ℤ) (minSpreadBps : ℚ) (quotes : List PriceQuote)
    (now : Timestamp) (key : PairKey) (buy sell : PriceQuote) (opp : ArbOpportunity) : Prop where
  buyLast : lastQuote quotes key buy.dex buy.poolAddress = some buy
  sellLast : lastQuote quotes key sell.dex sell.poolAddress = some sell
  buyFresh : numSeconds (now - buy.timestamp) ≤ maxAgeSecs
  sellFresh : numSeconds (now - sell.timestamp) ≤ maxAgeSecs
  venues : (buy.dex, buy.poolAddress) ≠ (sell.dex, sell.poolAddress)
  extremal : ∀ dex poolAddress q, lastQuote quotes key dex poolAddress = some q →
    numSeconds (now - q.timestamp) ≤ maxAgeSecs →
    opp.buyPrice ≤ q.priceUsd ∧ q.priceUsd ≤ opp.sellPrice
  baseMint : opp.baseMint = key.1
  buySide : (opp.buyDex, opp.buyPool, opp.buyPrice) = (buy.dex, buy.poolAddress, buy.priceUsd)
  sellSide : (opp.sellDex, opp.sellPool, opp.sellPrice) =
    (sell.dex, sell.poolAddress, sell.priceUsd)
  net : opp.netSpreadBps = if opp.buyPrice = 0 then (⊤ : WithTop ℚ) else
    ((opp.sellPrice - opp.buyPrice) / opp.buyPrice * 10000 -
      (opp.buyDex.feeBps + opp.sellDex.feeBps) : ℚ)
  enough : minSpreadBps ≤ opp.netSpreadBps

theorem lastQuote_venue {key : PairKey} {dex : Dex} {poolAddress : Option String} {q : PriceQuote}
    (h : lastQuote quotes key dex poolAddress = some q) :
    q.dex = dex ∧ q.poolAddress = poolAddress := by
  have hq := List.find?_some h
  simp only [decide_eq_true_eq] at hq
  exact hq.2

theorem lastQuote_spec {quotes : List PriceQuote} {key : PairKey} {dex : Dex}
    {poolAddress : Option String} {q : PriceQuote}
    (h : lastQuote quotes key dex poolAddress = some q) : q ∈ quotes ∧ pairKey q = key := by
  have hkey := List.find?_some h
  simp only [decide_eq_true_eq] at hkey
  exact ⟨List.mem_reverse.mp (List.mem_of_find?_eq_some h), hkey.1⟩

/-- A fresh quote that is the last one received for its venue in a pair. -/
structure FreshLast (maxAgeSecs : ℤ) (quotes : List PriceQuote) (now : Timestamp) (key : PairKey)
    (q : PriceQuote) : Prop where
  last : lastQuote quotes key q.dex q.poolAddress = some q
  fresh : numSeconds (now - q.timestamp) ≤ maxAgeSecs

theorem Tracks.mem_update (ht : Tracks maxAgeSecs minSpreadBps quotes d) {iter : IterationOrder}
    {now : Timestamp} {quote q : PriceQuote} :
    q ∈ (d.graph.update iter now quote).2 ↔
      FreshLast maxAgeSecs (quotes ++ [quote]) now (pairKey quote) q := by
  have hinsert : Tracks maxAgeSecs minSpreadBps (quotes ++ [quote])
      { d with graph := d.graph.insert quote } := ht.insert quote rfl rfl
  have hmem : q ∈ (d.graph.update iter now quote).2 ↔
      lastQuote (quotes ++ [quote]) (pairKey quote) q.dex q.poolAddress = some q ∧
        numSeconds (now - q.timestamp) ≤ maxAgeSecs := hinsert.mem_quotes
  rw [hmem]
  exact ⟨fun h => ⟨h.1, h.2⟩, fun h => ⟨h.last, h.fresh⟩⟩

theorem FreshLast.eq_of_venue {now : Timestamp} {key : PairKey} {b s : PriceQuote}
    (hb : FreshLast maxAgeSecs quotes now key b) (hs : FreshLast maxAgeSecs quotes now key s)
    (h : b.dex = s.dex ∧ b.poolAddress = s.poolAddress) : b = s := by
  have hlast := hb.last
  rw [h.1, h.2, hs.last] at hlast
  exact (Option.some.inj hlast).symm

/-- Over every run, every emitted opportunity is sound for the quotes received. -/
theorem emitted_opportunity_sound (minSpreadBps : ℚ) (maxQuoteAgeSecs : ℤ)
    (symbols : AList (fun _ : String => String)) (es : List Event) (d : Detector)
    (hr : Run Step (start minSpreadBps maxQuoteAgeSecs symbols) es d) (e : Event)
    (opp : ArbOpportunity) (h : (d.process e.iter e.receivedAt e.now e.quote).2.1 = some opp) :
    ∃ buy sell, SoundOpportunity maxQuoteAgeSecs minSpreadBps (received (es ++ [e])) e.now
      (pairKey e.quote) buy sell opp := by
  have ht := run_tracks hr
  obtain ⟨buy, sell, ⟨_, hbuy, hsell, hvenues, hmin⟩, rfl⟩ := process_emits h
  obtain ⟨hbuyMem, hbuyMin⟩ := cheapest_spec hbuy
  obtain ⟨hsellMem, hsellMax⟩ := priciest_spec hsell
  obtain ⟨hbuyLast, hbuyFresh⟩ := ht.mem_update.mp hbuyMem
  obtain ⟨hsellLast, hsellFresh⟩ := ht.mem_update.mp hsellMem
  rw [received_snoc]
  refine ⟨buy, sell, ?_⟩
  exact {
    buyLast := hbuyLast
    sellLast := hsellLast
    buyFresh := hbuyFresh
    sellFresh := hsellFresh
    venues := fun hsame => hvenues (Prod.mk.inj hsame)
    extremal := by
      intro dex poolAddress q hlast hfresh
      obtain ⟨rfl, rfl⟩ := lastQuote_venue hlast
      have hmem : q ∈ (d.graph.update e.iter e.now e.quote).2 :=
        ht.mem_update.mpr ⟨hlast, hfresh⟩
      exact ⟨hbuyMin q hmem, hsellMax q hmem⟩
    baseMint := rfl
    buySide := rfl
    sellSide := rfl
    net := netSpreadBps_eq buy sell
    enough := ht.minSpread ▸ hmin }

def sampleQuote (dex : Dex) (priceUsd : ℚ) (timestamp : Timestamp) : PriceQuote where
  dex := dex
  baseMint := "BONK"
  quoteMint := ""
  priceUsd := priceUsd
  liquidityUsd := 0
  poolAddress := none
  source := PriceSource.webSocket
  timestamp := timestamp

def orcaQuote : PriceQuote := sampleQuote .orca 1 0
def raydiumQuote : PriceQuote := sampleQuote .raydium (11 / 10) 1000000000

def sampleEvent (quote : PriceQuote) : Event where
  quote := quote
  receivedAt := quote.timestamp
  now := quote.timestamp
  iter := ⟨id, fun l => List.Perm.refl l⟩

def afterOrca : Detector :=
  ((start 30 10 ∅).process (sampleEvent orcaQuote).iter 0 0 orcaQuote).1

/-- Orca at 1 and then Raydium at 11/10: 1000 bps gross, 950 net. -/
theorem emitted_opportunity_sound_two_venues :
    ∃ opp, (afterOrca.process (sampleEvent raydiumQuote).iter
      (sampleEvent raydiumQuote).receivedAt (sampleEvent raydiumQuote).now
      (sampleEvent raydiumQuote).quote).2.1 = some opp ∧ opp.netSpreadBps = (950 : ℚ) ∧
      ∃ buy sell, SoundOpportunity 10 30 (received [sampleEvent orcaQuote,
        sampleEvent raydiumQuote]) 1000000000 (pairKey raydiumQuote) buy sell opp := by
  have hemits : ((afterOrca.process (sampleEvent raydiumQuote).iter
      (sampleEvent raydiumQuote).receivedAt (sampleEvent raydiumQuote).now
      (sampleEvent raydiumQuote).quote).2.1.map ArbOpportunity.netSpreadBps) =
        some ((950 : ℚ) : WithTop ℚ) := by
    decide +kernel
  obtain ⟨opp, hopp, hnet⟩ := Option.map_eq_some_iff.mp hemits
  have hrun : Run Step (start 30 10 ∅) ([] ++ [sampleEvent orcaQuote]) afterOrca := Run.nil.snoc rfl
  exact ⟨opp, hopp, hnet, emitted_opportunity_sound 30 10 ∅ [sampleEvent orcaQuote] afterOrca hrun
    (sampleEvent raydiumQuote) opp hopp⟩

end SolanaArb.Detector
