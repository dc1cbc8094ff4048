import SolanaArb.Detect.Emissions

/-! # What the dedup table forgets

The table keeps, for every pair, the DEXs and the spread of the last opportunity. It
forgets nothing when the opportunity closes, and it never knew which pools were joined:
an opportunity that reopens where it was, or that joins two other pools of the same
DEXs, is taken for the old one.
-/
namespace SolanaArb.Detector
open SolanaArb.General SolanaArb.PriceGraph

/-- The event evaluates a spread at or above the minimum. -/
def Clears (d : Detector) (e : Event) : Prop :=
  ∃ buy sell, d.ends e = some (buy, sell) ∧ d.minSpreadBps ≤ netSpreadBps buy sell

/-- The event evaluates a spread below the minimum. -/
def Closes (d : Detector) (e : Event) : Prop :=
  ∃ buy sell, d.ends e = some (buy, sell) ∧ netSpreadBps buy sell < d.minSpreadBps

section Quiet
variable {d : Detector} {e : Event} {es : List Event} {buy sell : PriceQuote}

theorem emitted_eq_none_of_not_clears (h : ¬ d.Clears e) : d.emitted e = none := by
  rcases event_cases d e with ⟨buy, sell, hends, hmin, _⟩ | ⟨hlog, _⟩
  · exact absurd ⟨buy, sell, hends, hmin⟩ h
  · exact hlog

theorem Closes.not_clears (h : d.Closes e) : ¬ d.Clears e := by
  rintro ⟨buy, sell, hends, hmin⟩
  obtain ⟨buy', sell', hends', hlt⟩ := h
  obtain ⟨rfl, rfl⟩ := Prod.mk.inj (Option.some.inj (hends'.symm.trans hends))
  exact absurd hmin (not_le.mpr hlt)

/-- While no event of a group clears the minimum, its last opportunity stays the last. -/
theorem latest_group_quiet (d : Detector) (es later : List Event) (key : PairKey)
    (hquiet : ∀ before e, before ++ [e] <+: later → pairKey e.quote = key →
      ¬ (replay d (es ++ before)).Clears e) :
    latest (ofGroup key) (emissions d (es ++ later)) = latest (ofGroup key) (emissions d es) := by
  induction later using List.reverseRecOn with
  | nil => rw [List.append_nil]
  | append_singleton later e ih =>
    have hlater := ih (fun before e' hpre =>
      hquiet before e' (hpre.trans (List.prefix_append later [e])))
    rw [← List.append_assoc, emissions_snoc]
    cases hx : (replay d (es ++ later)).emitted e with
    | none =>
      rw [Option.toList_none, List.append_nil]
      exact hlater
    | some x =>
      have hgroup : x.group ≠ key := by
        intro heq
        have hnone := emitted_eq_none_of_not_clears
          (hquiet later e List.prefix_rfl ((emitted_group hx).symm.trans heq))
        rw [hnone] at hx
        cases hx
      rw [Option.toList_some, latest_snoc, ofGroup, decide_eq_false hgroup,
        if_neg Bool.false_ne_true]
      exact hlater

theorem process_none_iff (hends : d.ends e = some (buy, sell))
    (hmin : d.minSpreadBps ≤ netSpreadBps buy sell) :
    (d.process e.iter e.receivedAt e.now e.quote).2.1 = none ↔
      d.suppressed e.quote.baseMint buy sell = true := by
  rw [← emitted_opp, Option.map_eq_none_iff]
  rcases event_cases d e with ⟨buy', sell', hends', _, hsup, hlog, _⟩ | ⟨hlog, _, hall⟩
  · obtain ⟨rfl, rfl⟩ := Prod.mk.inj (Option.some.inj (hends'.symm.trans hends))
    rw [hlog, hsup]
    constructor
    · intro h
      cases h
    · intro h
      cases h
  · rw [hlog]
    exact ⟨fun _ => hall buy sell hends hmin, fun _ => rfl⟩

end Quiet

section Runs
variable {minSpreadBps : ℚ} {maxQuoteAgeSecs : ℤ} {symbols : AList (fun _ : String => String)}
  {es : List Event} {e : Event} {buy sell : PriceQuote}

/-- An evaluated spread that clears the minimum is held back exactly when the last
opportunity under its text joined the same DEXs at nearly the same spread. -/
theorem replay_none_iff
    (hends : (replay (start minSpreadBps maxQuoteAgeSecs symbols) es).ends e = some (buy, sell))
    (hmin : minSpreadBps ≤ netSpreadBps buy sell) :
    ((replay (start minSpreadBps maxQuoteAgeSecs symbols) es).process e.iter e.receivedAt e.now
        e.quote).2.1 = none ↔
      ∃ last, latest (underText (dedupText buy))
        (emissions (start minSpreadBps maxQuoteAgeSecs symbols) es) = some last ∧
        SameDexesClose 5 last.opp buy sell := by
  have hremembers := replay_remembersLast minSpreadBps maxQuoteAgeSecs symbols es
  have ht := replay_tracks minSpreadBps maxQuoteAgeSecs symbols es
  obtain ⟨_, hkey⟩ := (ht.ends_spec hends).1.1.origin
  rw [process_none_iff hends (ht.minSpread.symm ▸ hmin), hremembers.suppressed_iff,
    dedupKey_eq_dedupText hkey, replay_dedupThreshold]
  rfl

end Runs

/-- The group of `e` was last reported with `last`, then evaluated below the minimum, and
`e` is the first of its events that clears the minimum again. -/
structure Reopens (d : Detector) (before : List Event) (closing : Event) (later : List Event)
    (e : Event) (last : Emitted) : Prop where
  reported : latest (ofGroup (pairKey e.quote)) (emissions d before) = some last
  group : pairKey closing.quote = pairKey e.quote
  closes : (replay d before).Closes closing
  quiet : ∀ between e', between ++ [e'] <+: later → pairKey e'.quote = pairKey e.quote →
    ¬ (replay d (before ++ closing :: between)).Clears e'
  clears : (replay d (before ++ closing :: later)).Clears e

theorem Reopens.latest_eq {d : Detector} {before later : List Event} {closing e : Event}
    {last : Emitted} (h : Reopens d before closing later e last) :
    latest (ofGroup (pairKey e.quote)) (emissions d (before ++ closing :: later)) = some last := by
  rw [← h.reported]
  apply latest_group_quiet
  intro between e' hprefix hkey
  cases between with
  | nil =>
    obtain ⟨rfl, _⟩ := List.cons_prefix_cons.mp hprefix
    rw [List.append_nil]
    exact h.closes.not_clears
  | cons closing' between =>
    obtain ⟨rfl, htail⟩ := List.cons_prefix_cons.mp hprefix
    exact h.quiet between e' htail hkey

/-- Every update that evaluates a spread at or above the minimum is reported unless the
last opportunity under its text joined the same DEXs within 5 bps. When a group reopens,
for plain mints that is its last opportunity before the closing, which leaves no trace. -/
theorem reopened_iff (minSpreadBps : ℚ) (maxQuoteAgeSecs : ℤ)
    (symbols : AList (fun _ : String => String)) :
    (∀ es e buy sell,
      (replay (start minSpreadBps maxQuoteAgeSecs symbols) es).ends e = some (buy, sell) →
      minSpreadBps ≤ netSpreadBps buy sell →
      (((replay (start minSpreadBps maxQuoteAgeSecs symbols) es).process e.iter e.receivedAt e.now
        e.quote).2.1 = none ↔
        ∃ last, latest (underText (dedupText buy))
          (emissions (start minSpreadBps maxQuoteAgeSecs symbols) es) = some last ∧
          SameDexesClose 5 last.opp buy sell)) ∧
    ∀ before closing later e last,
      Reopens (start minSpreadBps maxQuoteAgeSecs symbols) before closing later e last →
      (∀ q ∈ received ((before ++ closing :: later) ++ [e]), PlainMints q) →
      ∀ buy sell,
        (replay (start minSpreadBps maxQuoteAgeSecs symbols) (before ++ closing :: later)).ends e =
          some (buy, sell) →
        (((replay (start minSpreadBps maxQuoteAgeSecs symbols)
          (before ++ closing :: later)).process e.iter e.receivedAt e.now e.quote).2.1 = none ↔
          SameDexesClose 5 last.opp buy sell) := by
  refine ⟨fun es e buy sell hends hmin => replay_none_iff hends hmin, ?_⟩
  intro before closing later e last hreopens hmints buy sell hends
  have ht := replay_tracks minSpreadBps maxQuoteAgeSecs symbols (before ++ closing :: later)
  obtain ⟨buy', sell', hends', hmin⟩ := hreopens.clears
  obtain ⟨rfl, rfl⟩ := Prod.mk.inj (Option.some.inj (hends'.symm.trans hends))
  obtain ⟨hplain, hkey⟩ := ends_plain hmints _ _ hends
  rw [replay_none_iff hends (ht.minSpread ▸ hmin),
    latest_text_eq_group (plainMints_snoc hmints) hplain, hkey, hreopens.latest_eq]
  constructor
  · rintro ⟨last', heq, hclose⟩
    obtain rfl := Option.some.inj heq
    exact hclose
  · intro hclose
    exact ⟨last, rfl, hclose⟩

def openedEvents : List Event :=
  [sampleEvent (sampleQuote .orca 1 0), sampleEvent (sampleQuote .raydium (11 / 10) 0)]

def closingEvent : Event := sampleEvent (sampleQuote .raydium (1001 / 1000) 0)
def reopeningEvent : Event := sampleEvent (sampleQuote .raydium (11 / 10) 0)

/-- Raydium rises to 950 bps net over Orca, falls to -40 and rises to 950 again, which is
not reported. -/
theorem reopened_unreported : ∃ last,
    Reopens (start 30 10 ∅) openedEvents closingEvent [] reopeningEvent last ∧
    ((replay (start 30 10 ∅) (openedEvents ++ [closingEvent])).process reopeningEvent.iter
      reopeningEvent.receivedAt reopeningEvent.now reopeningEvent.quote).2.1 = none := by
  have hreported : (latest (ofGroup (pairKey reopeningEvent.quote))
      (emissions (start 30 10 ∅) openedEvents)).isSome = true := by
    decide +kernel
  obtain ⟨last, hlast⟩ := Option.isSome_iff_exists.mp hreported
  refine ⟨last, ⟨hlast, rfl, ?_, ?_, ?_⟩, by decide +kernel⟩
  · exact ⟨sampleQuote .orca 1 0, closingEvent.quote, by decide +kernel, by decide +kernel⟩
  · intro between e' hprefix
    exact absurd (List.prefix_nil.mp hprefix) (List.append_ne_nil_of_right_ne_nil _ (by simp))
  · exact ⟨sampleQuote .orca 1 0, reopeningEvent.quote, by decide +kernel, by decide +kernel⟩

section Pools
variable {minSpreadBps : ℚ} {maxQuoteAgeSecs : ℤ} {symbols : AList (fun _ : String => String)}
  {es : List Event} {e : Event}

/-- The last opportunity of a group joined the pools of two quotes. -/
def LastJoins (log : List Emitted) (key : PairKey) (buy sell : PriceQuote) : Prop :=
  ∃ last, latest (ofGroup key) log = some last ∧ JoinsPools last.opp buy sell

/-- What is held back was last reported between the same two pools. -/
def HidesSamePools (d₀ : Detector) (es : List Event) (e : Event) : Prop :=
  ∀ buy sell, (replay d₀ es).ends e = some (buy, sell) →
    d₀.minSpreadBps ≤ netSpreadBps buy sell →
    ((replay d₀ es).process e.iter e.receivedAt e.now e.quote).2.1 = none →
    LastJoins (emissions d₀ es) (pairKey e.quote) buy sell

/-- Lowest and highest quotes that clear the minimum at pools other than those of the last
opportunity of their group are on other DEXs than the last opportunity under their text, or
at least 5 bps from it. -/
def OtherPoolsApart (minSpreadBps : ℚ) (maxQuoteAgeSecs : ℤ) (log : List Emitted) (es : List Event)
    (e : Event) : Prop :=
  ∀ b s, Clearing minSpreadBps maxQuoteAgeSecs es e b s → ¬ LastJoins log (pairKey e.quote) b s →
    ∀ last, latest (underText (dedupText b)) log = some last → last.opp.buyDex = b.dex →
      last.opp.sellDex = s.dex → (5 : ℚ) ≤ spreadDelta (netSpreadBps b s) last.opp.netSpreadBps

theorem otherPoolsApart_iff :
    (∀ iter, HidesSamePools (start minSpreadBps maxQuoteAgeSecs symbols) es
      { e with iter := iter }) ↔
    OtherPoolsApart minSpreadBps maxQuoteAgeSecs
      (emissions (start minSpreadBps maxQuoteAgeSecs symbols) es) es e := by
  have ht := replay_tracks minSpreadBps maxQuoteAgeSecs symbols es
  constructor
  · intro h b s hclearing hother last hlast hbuy hsell
    by_contra hnear
    have hends := ht.ends_meetFirst e.receivedAt hclearing.lowest hclearing.highest hclearing.cheaper
    exact hother (h (meetFirst b s) b s hends hclearing.enough
      ((replay_none_iff hends hclearing.enough).mpr ⟨last, hlast, hbuy, hsell, not_le.mp hnear⟩))
  · intro h iter b s hends hmin hnone
    obtain ⟨hb, hs, hlt⟩ := ht.ends_spec hends
    obtain ⟨last, hlast, hbuy, hsell, hnear⟩ := (replay_none_iff hends hmin).mp hnone
    by_contra hother
    exact absurd (h b s ⟨hb, hs, hlt, hmin⟩ hother last hlast hbuy hsell) (not_le.mpr hnear)

/-- Whenever the group of this event cleared the minimum on the same DEXs within 5 bps of where
it does now, it did so on the same pools. -/
def PoolsApart (minSpreadBps : ℚ) (maxQuoteAgeSecs : ℤ) (es : List Event) (e : Event) : Prop :=
  ∀ before e', before ++ [e'] <+: es → pairKey e'.quote = pairKey e.quote →
    ∀ b' s' b s, Clearing minSpreadBps maxQuoteAgeSecs before e' b' s' →
      Clearing minSpreadBps maxQuoteAgeSecs es e b s → b'.dex = b.dex → s'.dex = s.dex →
      spreadDelta (netSpreadBps b s) (netSpreadBps b' s') < (5 : ℚ) →
      b'.poolAddress = b.poolAddress ∧ s'.poolAddress = s.poolAddress

/-- For plain mints the last opportunity under the text is one of those moments. -/
theorem PoolsApart.otherPoolsApart (h : PoolsApart minSpreadBps maxQuoteAgeSecs es e)
    (hmints : ∀ q ∈ received (es ++ [e]), PlainMints q) :
    OtherPoolsApart minSpreadBps maxQuoteAgeSecs
      (emissions (start minSpreadBps maxQuoteAgeSecs symbols) es) es e := by
  intro b s hclearing hother last hlast hbuy hsell
  by_contra hnear
  have hbPlain := hmints b hclearing.mem.1
  rw [latest_text_eq_group (plainMints_snoc hmints) hbPlain, hclearing.pairKeys.1] at hlast
  obtain ⟨hlog, hgroup⟩ := latest_mem hlast
  obtain ⟨before, e', hprefix, b', s', hclearing', hgroup', _, d, hopp⟩ := emissions_made hlog
  have hkey : pairKey e'.quote = pairKey e.quote := hgroup'.symm.trans (of_decide_eq_true hgroup)
  rw [hopp] at hbuy hsell hnear
  obtain ⟨hbuyPool, hsellPool⟩ :=
    h before e' hprefix hkey b' s' b s hclearing' hclearing hbuy hsell (not_le.mp hnear)
  refine hother ⟨last, hlast, ?_, ?_⟩
  · rw [hopp, ← hbuy, ← hbuyPool]
    rfl
  · rw [hopp, ← hsell, ← hsellPool]
    rfl

/-- Each DEX has one pool in every group. -/
def OnePoolPerDex (quotes : List PriceQuote) : Prop :=
  ∀ q ∈ quotes, ∀ q' ∈ quotes, pairKey q = pairKey q' → q.dex = q'.dex →
    q.poolAddress = q'.poolAddress

theorem OnePoolPerDex.poolsApart (hone : OnePoolPerDex (received (es ++ [e]))) :
    PoolsApart minSpreadBps maxQuoteAgeSecs es e := by
  intro before e' hprefix hkey b' s' b s hclearing' hclearing hbuy hsell _
  obtain ⟨hb', hs'⟩ := hclearing'.mem
  obtain ⟨hb, hs⟩ := hclearing.mem
  obtain ⟨hbKey', hsKey'⟩ := hclearing'.pairKeys
  obtain ⟨hbKey, hsKey⟩ := hclearing.pairKeys
  have hearlier : before ++ [e'] <+: es ++ [e] := hprefix.trans (List.prefix_append es [e])
  exact ⟨hone b' (received_earlier hearlier hb') b hb (hbKey'.trans (hkey.trans hbKey.symm)) hbuy,
    hone s' (received_earlier hearlier hs') s hs (hsKey'.trans (hkey.trans hsKey.symm)) hsell⟩

end Pools

/-- In a run in which a group never clears the minimum on the same DEXs within 5 bps at
different pools, as where each DEX has one pool, every quote that is held back was last
reported between the same two pools. In every reached state the next quote is held back only
so, whatever the iteration order, exactly when other pools than those of the last opportunity
of its group are on other DEXs or at least 5 bps away. -/
theorem dedup_pools_iff (minSpreadBps : ℚ) (maxQuoteAgeSecs : ℤ)
    (symbols : AList (fun _ : String => String)) :
    (∀ es, (∀ q ∈ received es, PlainMints q) →
      (∀ before e, before ++ [e] <+: es → PoolsApart minSpreadBps maxQuoteAgeSecs before e) →
      ∀ before e, before ++ [e] <+: es →
        HidesSamePools (start minSpreadBps maxQuoteAgeSecs symbols) before e) ∧
    (∀ es e, OnePoolPerDex (received (es ++ [e])) → PoolsApart minSpreadBps maxQuoteAgeSecs es e) ∧
    ∀ es e, (∀ iter, HidesSamePools (start minSpreadBps maxQuoteAgeSecs symbols) es
        { e with iter := iter }) ↔
      OtherPoolsApart minSpreadBps maxQuoteAgeSecs
        (emissions (start minSpreadBps maxQuoteAgeSecs symbols) es) es e := by
  refine ⟨?_, fun es e hone => hone.poolsApart, fun es e => otherPoolsApart_iff⟩
  intro es hmints hapart before e hprefix
  have hplain : ∀ q ∈ received (before ++ [e]), PlainMints q :=
    fun q hq => hmints q (received_earlier hprefix hq)
  exact otherPoolsApart_iff.mpr ((hapart before e hprefix).otherPoolsApart hplain) e.iter

def poolQuote (pool : String) (priceUsd : ℚ) : PriceQuote :=
  { sampleQuote .raydium priceUsd 0 with poolAddress := some pool }

/-- PoolA is reported over Orca and falls, then PoolB rises. -/
def twoPoolEvents : List Event :=
  [sampleEvent (sampleQuote .orca 1 0), sampleEvent (poolQuote "PoolA" (11 / 10)),
    sampleEvent (poolQuote "PoolA" (1001 / 1000))]

/-- The rise of PoolB is held back for that of PoolA. -/
theorem other_pool_hidden : ¬ HidesSamePools (start 30 10 ∅) twoPoolEvents
    (sampleEvent (poolQuote "PoolB" (11 / 10))) := by
  intro h
  obtain ⟨last, hlast, _, hsell⟩ := h (sampleQuote .orca 1 0) (poolQuote "PoolB" (11 / 10))
    (by decide +kernel) (by decide +kernel) (by decide +kernel)
  have hpool : (latest (ofGroup (pairKey (poolQuote "PoolB" (11 / 10))))
      (emissions (start 30 10 ∅) twoPoolEvents)).map (fun x => x.opp.sellPool) =
        some (some "PoolA") := by
    decide +kernel
  rw [show pairKey (sampleEvent (poolQuote "PoolB" (11 / 10))).quote =
    pairKey (poolQuote "PoolB" (11 / 10)) from rfl] at hlast
  rw [hlast, Option.map_some, (Prod.mk.inj hsell).2] at hpool
  exact absurd hpool (by decide)

end SolanaArb.Detector
