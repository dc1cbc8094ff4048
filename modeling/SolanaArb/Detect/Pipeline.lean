import SolanaArb.Feed.MonitorRuns
import SolanaArb.Feed.DexScreener
import SolanaArb.Detect.DetectorRuns

/-! # From the feeds to the detector

The monitor and the poller send their quotes into one channel, and the main loop feeds
them to the detector in the order sent. The SOL price starts at zero and changes
only to a positive value.
-/
namespace SolanaArb
open SolanaArb.General SolanaArb.PriceGraph SolanaArb.PoolMonitor SolanaArb.DexScreener

structure Pipeline where
  monitor : MonitorState
  solUsd : ℚ
  pending : List PriceQuote
  detector : Detector
  /-- The quotes the detector has taken, oldest first. -/
  taken : List PriceQuote

namespace Pipeline

inductive Event
  | reconnect
  | message (msg : Option WsMessage) (now : Timestamp)
  | solPrice (price : ℚ)
  | poll (mint : String) (minLiquidity : ℚ) (now : Timestamp) (pair : DexPair)
  | detect (receivedAt now : Timestamp) (iter : IterationOrder)

def quotesOf (out : List Emission) : List PriceQuote :=
  out.filterMap (fun e =>
    match e with
    | .quote q => some q
    | .graduation _ => none)

def next (watch : Watch) (p : Pipeline) : Event → Pipeline
  | .reconnect => { p with monitor := p.monitor.reconnect }
  | .message msg now =>
    let (monitor, out) := p.monitor.receive watch (.message msg p.solUsd now)
    { p with monitor := monitor, pending := p.pending ++ quotesOf out }
  | .solPrice price => if 0 < price then { p with solUsd := price } else p
  | .poll mint minLiquidity now pair =>
    { p with pending := p.pending ++ (quoteOfPair mint minLiquidity now pair).toList }
  | .detect receivedAt now iter =>
    match p.pending with
    | [] => p
    | q :: rest =>
      { p with
        pending := rest
        detector := (p.detector.process iter receivedAt now q).1
        taken := p.taken ++ [q] }

def Step (watch : Watch) (p : Pipeline) (e : Event) (p' : Pipeline) : Prop := p' = p.next watch e

/-- The opportunity emitted when the main loop takes its next quote. -/
def opportunity (p : Pipeline) (receivedAt now : Timestamp) (iter : IterationOrder) :
    Option ArbOpportunity :=
  p.pending.head?.bind (fun q => (p.detector.process iter receivedAt now q).2.1)

def start (bs58 : Bytes → String) (discovered : List (DiscoveredPool × Resolution))
    (minSpreadBps : ℚ) (maxQuoteAgeSecs : ℤ) (symbols : AList (fun _ : String => String)) :
    Pipeline where
  monitor := startState bs58 discovered
  solUsd := 0
  pending := []
  detector := Detector.start minSpreadBps maxQuoteAgeSecs symbols
  taken := []

theorem mem_quotesOf {out : List Emission} {q : PriceQuote} :
    q ∈ quotesOf out ↔ .quote q ∈ out := by
  unfold quotesOf
  rw [List.mem_filterMap]
  constructor
  · rintro ⟨e, he, heq⟩
    cases e with
    | quote q' => exact Option.some.inj heq ▸ he
    | graduation g => cases heq
  · intro h
    exact ⟨.quote q, h, rfl⟩

/-- What holds in every reached state, for a property `P` of the quotes sent: the
detector tracks the taken quotes, and all of them and those on the way satisfy `P`. -/
structure Good (discovered : List (DiscoveredPool × Resolution)) (maxAgeSecs : ℤ)
    (minSpreadBps : ℚ) (P : PriceQuote → Prop) (p : Pipeline) : Prop where
  tracks : p.detector.Tracks maxAgeSecs minSpreadBps p.taken
  records : RecordsOf discovered p.monitor
  solUsd : 0 ≤ p.solUsd
  pending : ∀ q ∈ p.pending, P q
  taken : ∀ q ∈ p.taken, P q

section Invariant
variable {bs58 : Bytes → String} {discovered : List (DiscoveredPool × Resolution)}
  {accounts : List String} {minSpreadBps : ℚ} {maxQuoteAgeSecs : ℤ}
  {symbols : AList (fun _ : String => String)} {P : PriceQuote → Prop} {p p' : Pipeline} {e : Event}

theorem start_good :
    Good discovered maxQuoteAgeSecs minSpreadBps P
      (start bs58 discovered minSpreadBps maxQuoteAgeSecs symbols) := by
  constructor
  · exact Detector.start_tracks minSpreadBps maxQuoteAgeSecs symbols
  · exact startState_recordsOf
  · exact le_rfl
  · intro q hq
    exact absurd hq List.not_mem_nil
  · intro q hq
    exact absurd hq List.not_mem_nil

/-- The quotes an event sends into the channel. -/
def sent (watch : Watch) (p : Pipeline) : Event → List PriceQuote
  | .message msg now => quotesOf (p.monitor.receive watch (.message msg p.solUsd now)).2
  | .poll mint minLiquidity now pair => (quoteOfPair mint minLiquidity now pair).toList
  | _ => []

theorem Good.step (h : Good discovered maxQuoteAgeSecs minSpreadBps P p) {watch : Watch}
    (hsent : ∀ q ∈ p.sent watch e, P q) (hstep : Step watch p e p') :
    Good discovered maxQuoteAgeSecs minSpreadBps P p' := by
  rw [hstep]
  cases e with
  | reconnect => exact ⟨h.tracks, h.records, h.solUsd, h.pending, h.taken⟩
  | message msg now =>
    refine ⟨h.tracks, h.records.receive (.message msg p.solUsd now), h.solUsd, ?_, h.taken⟩
    exact List.forall_mem_append.mpr ⟨h.pending, hsent⟩
  | solPrice price =>
    simp only [next]
    split
    · next hpos => exact ⟨h.tracks, h.records, hpos.le, h.pending, h.taken⟩
    · exact h
  | poll mint minLiquidity now pair =>
    refine ⟨h.tracks, h.records, h.solUsd, ?_, h.taken⟩
    exact List.forall_mem_append.mpr ⟨h.pending, hsent⟩
  | detect receivedAt now iter =>
    simp only [next]
    cases hpending : p.pending with
    | nil => exact h
    | cons q rest =>
      obtain ⟨hq, hrest⟩ := List.forall_mem_cons.mp (hpending ▸ h.pending)
      obtain ⟨hgraph, hmin⟩ := p.detector.process_frame iter receivedAt now q
      refine ⟨h.tracks.insert q hgraph hmin, h.records, h.solUsd, hrest, ?_⟩
      exact List.forall_mem_append.mpr ⟨h.taken, List.forall_mem_singleton.mpr hq⟩

end Invariant

end Pipeline
end SolanaArb
