import SolanaArb.Cli.MainLoop
import SolanaArb.Detect.Emissions
import SolanaArb.Detect.CleanupInvisible

/-! # Every message is handled once

However sends, closings and the choices of `select!` interleave, the loop takes the quotes
in the order they were sent, and the signals in theirs. The two kinds of message do not
meet: the detector is where the quotes taken so far lead it on their own, and the volume
tracker where the signals do.
-/
namespace SolanaArb.MainLoop
open SolanaArb.General SolanaArb.Detector

/-- A message with what the iteration that took it observed. -/
abbrev Taken (α : Type) := α × Moment

def detection (taken : Taken PriceQuote) : Detector.Event :=
  ⟨taken.1, taken.2.receivedAt, taken.2.now, taken.2.iter⟩

/-- The scan a signal leads to, if any, with its symbol. -/
def scanOf (analyzer : SwapAnalyzer) (signal : SwapSignal) : Option (ScanRequest × String) :=
  (analyzer.analyze signal).map (fun req => (req, req.tokenSymbol.getD (shortMint req.tokenMint)))

/-- The tracker calls of these signals after `n` others: a record for each, and a cleanup at
every thousandth. -/
def trackerCalls : UInt64 → List (Taken SwapSignal) → List (ℕ × TrackerCall)
  | _, [] => []
  | n, (signal, m) :: rest =>
    [(m.recordedAt, .recordSwap signal.tokenMint)] ++
      (if (n + 1) % 1000 = 0 then [(m.cleanedAt, .cleanup)] else []) ++ trackerCalls (n + 1) rest

def afterCalls (v : VolumeTracker) (calls : List (ℕ × TrackerCall)) : VolumeTracker :=
  calls.foldl (fun v c => (v.call c.1 c.2).2) v

def sentQuotes (es : List Event) : List PriceQuote :=
  es.filterMap (fun
    | .sendQuote quote => some quote
    | _ => none)

def sentSignals (es : List Event) : List SwapSignal :=
  es.filterMap (fun
    | .sendSignal signal => some signal
    | _ => none)

/-- What the iterations that chose this branch observed. -/
def moments (branch : Branch) (es : List Event) : List Moment :=
  es.filterMap (fun
    | .turn b m => if b = branch then some m else none
    | _ => none)

/-- The two sides of the state after these quotes and these signals. -/
structure Handled (analyzer : SwapAnalyzer) (d : Detector) (v : VolumeTracker)
    (quotes : List (Taken PriceQuote)) (signals : List (Taken SwapSignal)) (s : State) : Prop where
  detector : s.detector = replay d (quotes.map detection)
  opportunities : s.opportunities = (emissions d (quotes.map detection)).map Emitted.opp
  snapshots : s.snapshots = quotes.map Prod.fst
  volumeTracker : s.volumeTracker = afterCalls v (trackerCalls 0 signals)
  stored : s.storedSignals =
    (signals.map Prod.fst).filter (fun signal => (analyzer.analyze signal).isNone)
  spawned : s.spawned = (signals.map Prod.fst).filterMap (scanOf analyzer)
  oppCount : s.oppCount = UInt64.ofNat s.opportunities.length
  quoteCount : s.quoteCount = UInt64.ofNat quotes.length
  wsQuoteCount : s.wsQuoteCount =
    UInt64.ofNat (quotes.countP (fun taken => taken.1.source == .webSocket))
  signalCount : s.signalCount = UInt64.ofNat signals.length
  triggeredCount : s.triggeredCount = UInt64.ofNat s.spawned.length

section Sides
variable {analyzer : SwapAnalyzer} {d : Detector} {v : VolumeTracker}
  {quotes : List (Taken PriceQuote)} {signals : List (Taken SwapSignal)} {s t : State}
  {m : Moment} {branch : Branch}

theorem start_handled (analyzer : SwapAnalyzer) (d : Detector) (v : VolumeTracker) :
    Handled analyzer d v [] [] (start d v) :=
  ⟨rfl, rfl, rfl, rfl, rfl, rfl, rfl, rfl, rfl, rfl, rfl⟩

/-- The channels and the flag are on neither side. -/
theorem Handled.frame (h : Handled analyzer d v quotes signals s)
    (toDetect : Channel PriceQuote) (toScan : Channel SwapSignal) (alive : Bool) :
    Handled analyzer d v quotes signals
      { s with quotes := toDetect, signals := toScan, quotesAlive := alive } :=
  ⟨h.detector, h.opportunities, h.snapshots, h.volumeTracker, h.stored, h.spawned, h.oppCount,
    h.quoteCount, h.wsQuoteCount, h.signalCount, h.triggeredCount⟩

theorem ofNat_succ (n : ℕ) : UInt64.ofNat (n + 1) = UInt64.ofNat n + 1 := by
  rw [UInt64.ofNat_add]
  rfl

/-- What taking a quote writes, in terms of the opportunity it leads to. -/
theorem handleQuote_rows (s : State) (quote : PriceQuote) (opp : Option ArbOpportunity)
    (hopp : (s.detector.process m.iter m.receivedAt m.now quote).2.1 = opp) :
    (handleQuote m s quote).opportunities = s.opportunities ++ opp.toList ∧
    (handleQuote m s quote).oppCount = (if opp.isSome then s.oppCount + 1 else s.oppCount) := by
  subst hopp
  exact ⟨rfl, rfl⟩

theorem handleQuote_handled (h : Handled analyzer d v quotes signals s) (quote : PriceQuote) :
    Handled analyzer d v (quotes ++ [(quote, m)]) signals (handleQuote m s quote) := by
  have hemitted : ((replay d (quotes.map detection)).emitted (detection (quote, m))).map
      Emitted.opp = (s.detector.process m.iter m.receivedAt m.now quote).2.1 := by
    rw [emitted_opp, h.detector]
    rfl
  obtain ⟨hopps, hcount⟩ := handleQuote_rows (m := m) s quote _ hemitted.symm
  constructor
  · rw [List.map_append, List.map_singleton, replay_snoc, ← h.detector]
    rfl
  · rw [hopps, List.map_append, List.map_singleton, emissions_snoc, List.map_append, h.opportunities,
      ← Option.toList_map]
  · rw [List.map_append, List.map_singleton, ← h.snapshots]
    rfl
  · exact h.volumeTracker
  · exact h.stored
  · exact h.spawned
  · rw [hcount, hopps, h.oppCount, List.length_append]
    cases ((replay d (quotes.map detection)).emitted (detection (quote, m))).map Emitted.opp with
    | none => rfl
    | some opp => exact (ofNat_succ _).symm
  · have hquotes : (handleQuote m s quote).quoteCount = s.quoteCount + 1 := rfl
    rw [hquotes, List.length_append, List.length_singleton, ofNat_succ, h.quoteCount]
  · have hws : (handleQuote m s quote).wsQuoteCount =
        if quote.source == .webSocket then s.wsQuoteCount + 1 else s.wsQuoteCount := rfl
    rw [hws, List.countP_append, List.countP_singleton, h.wsQuoteCount]
    split
    · exact (ofNat_succ _).symm
    · rfl
  · exact h.signalCount
  · exact h.triggeredCount

theorem trackerCalls_snoc (n : UInt64) (signals : List (Taken SwapSignal))
    (taken : Taken SwapSignal) : trackerCalls n (signals ++ [taken]) =
      trackerCalls n signals ++ trackerCalls (n + UInt64.ofNat signals.length) [taken] := by
  induction signals generalizing n with
  | nil =>
    have hzero : n + UInt64.ofNat ([] : List (Taken SwapSignal)).length = n := UInt64.add_zero n
    rw [List.nil_append, hzero]
    rfl
  | cons first rest ih =>
    rw [List.cons_append, trackerCalls, trackerCalls, ih, List.length_cons, ofNat_succ,
      ← List.append_assoc, UInt64.add_assoc, UInt64.add_comm 1]

theorem afterCalls_append (v : VolumeTracker) (calls calls' : List (ℕ × TrackerCall)) :
    afterCalls v (calls ++ calls') = afterCalls (afterCalls v calls) calls' :=
  List.foldl_append

/-- Taking a signal writes the tracker, and the signal or its scan. -/
theorem handleSignal_eq (s : State) (signal : SwapSignal) : handleSignal analyzer m s signal =
    { s with
      volumeTracker := afterCalls s.volumeTracker (trackerCalls s.signalCount [(signal, m)])
      signalCount := s.signalCount + 1
      storedSignals :=
        s.storedSignals ++ [signal].filter (fun signal => (analyzer.analyze signal).isNone)
      spawned := s.spawned ++ [signal].filterMap (scanOf analyzer)
      triggeredCount :=
        s.triggeredCount + UInt64.ofNat ([signal].filterMap (scanOf analyzer)).length } := by
  have htracker : (if (s.signalCount + 1) % 1000 = 0 then
      (s.volumeTracker.recordSwap signal.tokenMint m.recordedAt).2.cleanup m.cleanedAt
      else (s.volumeTracker.recordSwap signal.tokenMint m.recordedAt).2) =
      afterCalls s.volumeTracker (trackerCalls s.signalCount [(signal, m)]) := by
    unfold trackerCalls
    split
    · rfl
    · rfl
  unfold handleSignal scanOf
  dsimp only
  cases hreq : analyzer.analyze signal with
  | none => simp [hreq, htracker]
  | some req => simp [hreq, htracker]

theorem handleSignal_handled (h : Handled analyzer d v quotes signals s) (signal : SwapSignal) :
    Handled analyzer d v quotes (signals ++ [(signal, m)]) (handleSignal analyzer m s signal) := by
  rw [handleSignal_eq]
  constructor
  · exact h.detector
  · exact h.opportunities
  · exact h.snapshots
  · rw [trackerCalls_snoc, afterCalls_append, ← h.volumeTracker, h.signalCount, UInt64.zero_add]
  · rw [List.map_append, List.filter_append, ← h.stored]
    rfl
  · rw [List.map_append, List.filterMap_append, ← h.spawned]
    rfl
  · exact h.oppCount
  · exact h.quoteCount
  · exact h.wsQuoteCount
  · rw [List.length_append, List.length_singleton, ofNat_succ, h.signalCount]
  · rw [List.length_append, UInt64.ofNat_add, h.triggeredCount]

/-- What an iteration takes, exactly. -/
theorem iterate_takes (h : iterate analyzer m s branch = some t) :
    (branch = .quotes ∧ ∃ quote quotes, s.quotes.recv = some (some quote, quotes) ∧
      t = handleQuote m { s with quotes := quotes } quote) ∨
    (branch = .signals ∧ ∃ signal signals, s.signals.recv = some (some signal, signals) ∧
      t = handleSignal analyzer m { s with signals := signals } signal) ∨
    (t.quotes = s.quotes ∧ t.signals = s.signals ∧ ∃ alive, t = { s with quotesAlive := alive }) := by
  obtain ⟨selected, hselect, rfl⟩ := Option.map_eq_some_iff.mp h
  cases branch with
  | quotes =>
    simp only [select, Option.ite_none_right_eq_some, Option.map_eq_some_iff] at hselect
    obtain ⟨_, ⟨received, quotes⟩, hrecv, rfl⟩ := hselect
    cases received with
    | some quote => exact Or.inl ⟨rfl, quote, quotes, hrecv, rfl⟩
    | none =>
      obtain ⟨_, rfl⟩ := Channel.recv_none hrecv
      exact Or.inr (Or.inr ⟨rfl, rfl, false, rfl⟩)
  | signals =>
    simp only [select, Option.map_eq_some_iff] at hselect
    obtain ⟨⟨received, signals⟩, hrecv, rfl⟩ := hselect
    cases received with
    | some signal => exact Or.inr (Or.inl ⟨rfl, signal, signals, hrecv, rfl⟩)
    | none =>
      obtain ⟨_, rfl⟩ := Channel.recv_none hrecv
      exact Or.inr (Or.inr ⟨rfl, rfl, s.quotesAlive, rfl⟩)

end Sides

/-- Where a run is: the messages taken and those still on the channels are the messages sent,
in order, and what the loop holds is what it makes of the messages taken. -/
structure InOrder (analyzer : SwapAnalyzer) (d : Detector) (v : VolumeTracker) (es : List Event)
    (quotes : List (Taken PriceQuote)) (signals : List (Taken SwapSignal)) (s : State) : Prop where
  quotesSent : quotes.map Prod.fst ++ s.quotes.queue = sentQuotes es
  signalsSent : signals.map Prod.fst ++ s.signals.queue = sentSignals es
  quoteMoments : (quotes.map Prod.snd).Sublist (moments .quotes es)
  signalMoments : (signals.map Prod.snd).Sublist (moments .signals es)
  handled : Handled analyzer d v quotes signals s

section Order
variable {analyzer : SwapAnalyzer} {d : Detector} {v : VolumeTracker}
  {quotes : List (Taken PriceQuote)} {signals : List (Taken SwapSignal)} {s t : State}
  {es : List Event} {e : Event}

theorem sentQuotes_snoc (es : List Event) (e : Event) :
    sentQuotes (es ++ [e]) = sentQuotes es ++ sentQuotes [e] := List.filterMap_append

theorem sentSignals_snoc (es : List Event) (e : Event) :
    sentSignals (es ++ [e]) = sentSignals es ++ sentSignals [e] := List.filterMap_append

theorem moments_snoc (branch : Branch) (es : List Event) (e : Event) :
    moments branch (es ++ [e]) = moments branch es ++ moments branch [e] := List.filterMap_append

/-- An event that sends nothing and takes nothing. -/
theorem InOrder.idle (h : InOrder analyzer d v es quotes signals s)
    (hquotes : sentQuotes [e] = []) (hsignals : sentSignals [e] = [])
    (htoDetect : t.quotes.queue = s.quotes.queue) (htoScan : t.signals.queue = s.signals.queue)
    (hhandled : Handled analyzer d v quotes signals t) :
    InOrder analyzer d v (es ++ [e]) quotes signals t := by
  constructor
  · rw [sentQuotes_snoc, hquotes, List.append_nil, htoDetect, h.quotesSent]
  · rw [sentSignals_snoc, hsignals, List.append_nil, htoScan, h.signalsSent]
  · rw [moments_snoc]
    exact h.quoteMoments.trans (List.sublist_append_left _ _)
  · rw [moments_snoc]
    exact h.signalMoments.trans (List.sublist_append_left _ _)
  · exact hhandled

theorem turn_inOrder {branch : Branch} {m : Moment} (h : InOrder analyzer d v es quotes signals s)
    (hturn : iterate analyzer m s branch = some t) :
    ∃ quotes' signals', InOrder analyzer d v (es ++ [.turn branch m]) quotes' signals' t := by
  rcases iterate_takes hturn with ⟨rfl, quote, toDetect, hrecv, rfl⟩ |
    ⟨rfl, signal, toScan, hrecv, rfl⟩ | ⟨hquotes, hsignals, alive, ht⟩
  · have hqueue := (Channel.recv_some hrecv).1
    refine ⟨quotes ++ [(quote, m)], signals, ?_, ?_, ?_, ?_, ?_⟩
    · rw [sentQuotes_snoc, ← h.quotesSent, hqueue, List.map_append]
      exact (List.append_assoc _ [quote] _).trans (List.append_nil _).symm
    · rw [sentSignals_snoc, ← h.signalsSent]
      exact (List.append_nil _).symm
    · rw [moments_snoc, List.map_append]
      exact h.quoteMoments.append (List.Sublist.refl [m])
    · rw [moments_snoc]
      exact h.signalMoments.trans (List.sublist_append_left _ _)
    · exact handleQuote_handled (h.handled.frame toDetect s.signals s.quotesAlive) quote
  · have hqueue := (Channel.recv_some hrecv).1
    have hsame := handleSignal_control analyzer m { s with signals := toScan } signal
    refine ⟨quotes, signals ++ [(signal, m)], ?_, ?_, ?_, ?_, ?_⟩
    · rw [hsame.quotes, sentQuotes_snoc, ← h.quotesSent]
      exact (List.append_nil _).symm
    · rw [hsame.signals, sentSignals_snoc, ← h.signalsSent, hqueue, List.map_append]
      exact (List.append_assoc _ [signal] _).trans (List.append_nil _).symm
    · rw [moments_snoc]
      exact h.quoteMoments.trans (List.sublist_append_left _ _)
    · rw [moments_snoc, List.map_append]
      exact h.signalMoments.append (List.Sublist.refl [m])
    · exact handleSignal_handled (h.handled.frame s.quotes toScan s.quotesAlive) signal
  · refine ⟨quotes, signals, h.idle rfl rfl (by rw [hquotes]) (by rw [hsignals]) ?_⟩
    rw [ht]
    exact h.handled.frame s.quotes s.signals alive

theorem step_inOrder (h : InOrder analyzer d v es quotes signals s) (hstep : Step analyzer s e t) :
    ∃ quotes' signals', InOrder analyzer d v (es ++ [e]) quotes' signals' t := by
  cases e with
  | sendQuote quote =>
    obtain ⟨_, rfl⟩ := hstep
    refine ⟨quotes, signals, ?_, ?_, ?_, ?_, ?_⟩
    · rw [sentQuotes_snoc, ← h.quotesSent]
      exact (List.append_assoc _ _ [quote]).symm
    · rw [sentSignals_snoc, ← h.signalsSent]
      exact (List.append_nil _).symm
    · rw [moments_snoc]
      exact h.quoteMoments.trans (List.sublist_append_left _ _)
    · rw [moments_snoc]
      exact h.signalMoments.trans (List.sublist_append_left _ _)
    · exact h.handled.frame (s.quotes.send quote) s.signals s.quotesAlive
  | sendSignal signal =>
    obtain ⟨_, rfl⟩ := hstep
    refine ⟨quotes, signals, ?_, ?_, ?_, ?_, ?_⟩
    · rw [sentQuotes_snoc, ← h.quotesSent]
      exact (List.append_nil _).symm
    · rw [sentSignals_snoc, ← h.signalsSent]
      exact (List.append_assoc _ _ [signal]).symm
    · rw [moments_snoc]
      exact h.quoteMoments.trans (List.sublist_append_left _ _)
    · rw [moments_snoc]
      exact h.signalMoments.trans (List.sublist_append_left _ _)
    · exact h.handled.frame s.quotes (s.signals.send signal) s.quotesAlive
  | closeQuotes =>
    obtain rfl := hstep
    exact ⟨quotes, signals, h.idle rfl rfl rfl rfl
      (h.handled.frame s.quotes.close s.signals s.quotesAlive)⟩
  | closeSignals =>
    obtain rfl := hstep
    exact ⟨quotes, signals, h.idle rfl rfl rfl rfl
      (h.handled.frame s.quotes s.signals.close s.quotesAlive)⟩
  | turn branch m => exact turn_inOrder h hstep.2

end Order

theorem run_inOrder {analyzer : SwapAnalyzer} {d : Detector} {v : VolumeTracker} {es : List Event}
    {s : State} (hr : Run (Step analyzer) (start d v) es s) :
    ∃ quotes signals, InOrder analyzer d v es quotes signals s := by
  apply hr.invariant (fun es s => ∃ quotes signals, InOrder analyzer d v es quotes signals s)
  · exact ⟨[], [], rfl, rfl, List.Sublist.refl _, List.Sublist.refl _, start_handled analyzer d v⟩
  · rintro es s e t _ ⟨quotes, signals, h⟩ hstep
    exact step_inOrder h hstep

/-- In every run the loop has taken the messages sent so far in their order, each once, up to
those still waiting, and its state is that of the detector run over the quotes taken and of the
tracker and the analyzer run over the signals taken, however the two were interleaved. -/
theorem handled_once (analyzer : SwapAnalyzer) (d : Detector) (v : VolumeTracker)
    (es : List Event) (s : State) (hr : Run (Step analyzer) (start d v) es s) :
    ∃ quotes signals, InOrder analyzer d v es quotes signals s :=
  run_inOrder hr

/-- A swap that the analyzer of the idle loop accepts. -/
def orcaSignal : SwapSignal :=
  ⟨"Signature", 1, .orca, "Signer", Detector.orcaQuote.baseMint, none, .sell, 2, 0⟩

def bothSent : List Event :=
  [.sendSignal orcaSignal] ++ [.sendQuote Detector.orcaQuote] ++ [.turn .signals idleMoment] ++
    [.turn .quotes idleMoment]

def bothWaiting : State :=
  { idleLoop with quotes := ⟨[Detector.orcaQuote], false⟩, signals := ⟨[orcaSignal], false⟩ }

def bothTaken : State :=
  handleQuote idleMoment
    { handleSignal ⟨1⟩ idleMoment { bothWaiting with signals := .empty } orcaSignal with
      quotes := .empty } Detector.orcaQuote

theorem bothSent_run : Run (Step ⟨1⟩) idleLoop bothSent bothTaken := by
  have hsignal : Run (Step ⟨1⟩) idleLoop [.sendSignal orcaSignal]
      { idleLoop with signals := ⟨[orcaSignal], false⟩ } := Run.nil.snoc ⟨rfl, rfl⟩
  have hboth : Run (Step ⟨1⟩) idleLoop ([.sendSignal orcaSignal] ++ [.sendQuote orcaQuote])
      bothWaiting := hsignal.snoc ⟨rfl, rfl⟩
  have htaken : Run (Step ⟨1⟩) idleLoop
      ([.sendSignal orcaSignal] ++ [.sendQuote orcaQuote] ++ [.turn .signals idleMoment])
      (handleSignal ⟨1⟩ idleMoment { bothWaiting with signals := .empty } orcaSignal) :=
    hboth.snoc ⟨rfl, rfl⟩
  exact htaken.snoc ⟨rfl, rfl⟩

theorem handled_once_both : bothTaken.snapshots = [orcaQuote] ∧ bothTaken.spawned.length = 1 ∧
    ∃ quotes signals, InOrder ⟨1⟩ (Detector.new 30 10) .new bothSent quotes signals bothTaken :=
  ⟨rfl, rfl, handled_once ⟨1⟩ (Detector.new 30 10) .new bothSent bothTaken bothSent_run⟩

end SolanaArb.MainLoop
