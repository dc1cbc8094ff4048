import SolanaArb.Detect.SwapAnalyzer
import SolanaArb.Detect.VolumeTracker
import SolanaArb.Detect.DetectorRuns

/-! # The main loop and its two channels

Quotes and signals arrive on two channels, and each iteration takes what `select!`
chooses among the ready ones. The quote branch is disabled once its channel has ended;
the signal branch never is, and an ended signal channel is always ready. Both branches
`continue` at the end of their channel, so the `break` below them is never reached. Log
lines and live events are left out, and with them the slices of mints and signatures they
print, which need eight bytes.
-/
namespace SolanaArb.MainLoop
open SolanaArb.General SolanaArb.PriceGraph

/-- The receiving end of a channel. It is closed once all senders are dropped. -/
structure Channel (α : Type) where
  queue : List α
  closed : Bool

namespace Channel
variable {α : Type}

def empty : Channel α := ⟨[], false⟩

/-- `recv()`: the next message, or `none` at the end of a closed channel. On an open
channel without messages it is not ready. -/
def recv : Channel α → Option (Option α × Channel α)
  | ⟨a :: rest, closed⟩ => some (some a, ⟨rest, closed⟩)
  | ⟨[], true⟩ => some (none, ⟨[], true⟩)
  | ⟨[], false⟩ => none

def send (channel : Channel α) (a : α) : Channel α := { channel with queue := channel.queue ++ [a] }

def close (channel : Channel α) : Channel α := { channel with closed := true }

def Drained (channel : Channel α) : Prop := channel.queue = [] ∧ channel.closed = true

variable {channel channel' : Channel α} {a : α}

theorem recv_some (h : channel.recv = some (some a, channel')) :
    channel.queue = a :: channel'.queue ∧ channel'.closed = channel.closed := by
  obtain ⟨_ | ⟨b, rest⟩, _ | _⟩ := channel
  all_goals
    cases h
  all_goals exact ⟨rfl, rfl⟩

theorem recv_none (h : channel.recv = some (none, channel')) :
    channel.Drained ∧ channel' = channel := by
  obtain ⟨_ | ⟨b, rest⟩, _ | _⟩ := channel
  all_goals
    cases h
  exact ⟨⟨rfl, rfl⟩, rfl⟩

theorem recv_of_closed (h : channel.closed = true) : ∃ received, channel.recv = some received := by
  obtain ⟨_ | ⟨b, rest⟩, _ | _⟩ := channel
  · cases h
  · exact ⟨_, rfl⟩
  · cases h
  · exact ⟨_, rfl⟩

theorem recv_cons {rest : List α} (h : channel.queue = a :: rest) :
    channel.recv = some (some a, ⟨rest, channel.closed⟩) := by
  obtain ⟨queue, closed⟩ := channel
  cases h
  rfl

end Channel

structure State where
  quotes : Channel PriceQuote
  signals : Channel SwapSignal
  quotesAlive : Bool
  detector : Detector
  volumeTracker : VolumeTracker
  oppCount : UInt64
  quoteCount : UInt64
  wsQuoteCount : UInt64
  signalCount : UInt64
  triggeredCount : UInt64
  /-- The rows handed to the store so far, whether it takes them or not, and the scans spawned
  with their symbols. -/
  snapshots : List PriceQuote
  opportunities : List ArbOpportunity
  storedSignals : List SwapSignal
  spawned : List (ScanRequest × String)
  /-- The loop has been left by its `break`. -/
  ended : Bool

def start (detector : Detector) (volumeTracker : VolumeTracker) : State where
  quotes := .empty
  signals := .empty
  quotesAlive := true
  detector := detector
  volumeTracker := volumeTracker
  oppCount := 0
  quoteCount := 0
  wsQuoteCount := 0
  signalCount := 0
  triggeredCount := 0
  snapshots := []
  opportunities := []
  storedSignals := []
  spawned := []
  ended := false

/-- The clocks and the iteration order that one iteration observes. -/
structure Moment where
  iter : IterationOrder
  receivedAt : Timestamp
  now : Timestamp
  recordedAt : ℕ
  cleanedAt : ℕ

inductive Branch
  | quotes | signals
  deriving DecidableEq, Repr

/-- What `select!` leads to: back to the loop's head, or on with a value. -/
inductive Selected
  | again (s : State)
  | value (quote : Option PriceQuote) (s : State)

def handleSignal (analyzer : SwapAnalyzer) (m : Moment) (s : State) (signal : SwapSignal) : State :=
  let signalCount := s.signalCount + 1
  let recorded := (s.volumeTracker.recordSwap signal.tokenMint m.recordedAt).2
  let volumeTracker := if signalCount % 1000 = 0 then recorded.cleanup m.cleanedAt else recorded
  match analyzer.analyze signal with
  | some req =>
    let symbol := req.tokenSymbol.getD (shortMint req.tokenMint)
    { s with
      signalCount := signalCount
      volumeTracker := volumeTracker
      triggeredCount := s.triggeredCount + 1
      spawned := s.spawned ++ [(req, symbol)] }
  | none =>
    { s with
      signalCount := signalCount
      volumeTracker := volumeTracker
      storedSignals := s.storedSignals ++ [signal] }

/-- `select!` once it takes this branch; `none` where the branch is disabled or not ready. -/
def select (analyzer : SwapAnalyzer) (m : Moment) (s : State) : Branch → Option Selected
  | .quotes =>
    if s.quotesAlive then
      s.quotes.recv.map (fun (q, quotes) =>
        match q with
        | some q => .value (some q) { s with quotes := quotes }
        | none => .again { s with quotes := quotes, quotesAlive := false })
    else none
  | .signals =>
    s.signals.recv.map (fun (sig, signals) =>
      match sig with
      | some signal => .again (handleSignal analyzer m { s with signals := signals } signal)
      | none => .again { s with signals := signals })

def handleQuote (m : Moment) (s : State) (quote : PriceQuote) : State :=
  let isWs := quote.source == .webSocket
  let (detector, opp, _) := s.detector.process m.iter m.receivedAt m.now quote
  { s with
    quoteCount := s.quoteCount + 1
    wsQuoteCount := if isWs then s.wsQuoteCount + 1 else s.wsQuoteCount
    snapshots := s.snapshots ++ [quote]
    detector := detector
    oppCount := if opp.isSome then s.oppCount + 1 else s.oppCount
    opportunities := s.opportunities ++ opp.toList }

/-- One iteration. -/
def iterate (analyzer : SwapAnalyzer) (m : Moment) (s : State) (branch : Branch) : Option State :=
  (select analyzer m s branch).map (fun
    | .again s' => s'
    | .value (some quote) s' => handleQuote m s' quote
    | .value none s' => { s' with ended := true })

inductive Event
  | sendQuote (quote : PriceQuote)
  | sendSignal (signal : SwapSignal)
  | closeQuotes
  | closeSignals
  | turn (branch : Branch) (m : Moment)

/-- Senders send while their channel is open, and the loop iterates until it has ended. -/
def Step (analyzer : SwapAnalyzer) (s : State) : Event → State → Prop
  | .sendQuote quote, t => s.quotes.closed = false ∧ t = { s with quotes := s.quotes.send quote }
  | .sendSignal signal, t =>
    s.signals.closed = false ∧ t = { s with signals := s.signals.send signal }
  | .closeQuotes, t => t = { s with quotes := s.quotes.close }
  | .closeSignals, t => t = { s with signals := s.signals.close }
  | .turn branch m, t => s.ended = false ∧ iterate analyzer m s branch = some t

/-- An iteration and what it observes. -/
abbrev Turn := Branch × Moment

def TurnStep (analyzer : SwapAnalyzer) (s : State) (turn : Turn) (t : State) : Prop :=
  Step analyzer s (.turn turn.1 turn.2) t

section Iterations
variable {analyzer : SwapAnalyzer} {m : Moment} {s t : State} {branch : Branch} {e : Event}

/-- What an iteration leaves alone besides the two channels and the flag. -/
structure SameControl (s t : State) : Prop where
  quotes : t.quotes = s.quotes
  signals : t.signals = s.signals
  quotesAlive : t.quotesAlive = s.quotesAlive
  ended : t.ended = s.ended

theorem handleSignal_control (analyzer : SwapAnalyzer) (m : Moment) (s : State)
    (signal : SwapSignal) : SameControl s (handleSignal analyzer m s signal) := by
  unfold handleSignal
  dsimp only
  split
  · exact ⟨rfl, rfl, rfl, rfl⟩
  · exact ⟨rfl, rfl, rfl, rfl⟩

theorem handleQuote_control (s : State) (quote : PriceQuote) :
    SameControl s (handleQuote m s quote) := ⟨rfl, rfl, rfl, rfl⟩

/-- All an iteration can do: take a message, notice the end of the quotes, or find the
signals at their end and change nothing. -/
theorem iterate_cases (h : iterate analyzer m s branch = some t) :
    (branch = .quotes ∧ s.quotesAlive = true ∧
      ∃ quote quotes, s.quotes.recv = some (some quote, quotes) ∧
        SameControl { s with quotes := quotes } t) ∨
    (branch = .quotes ∧ s.quotes.Drained ∧ t = { s with quotesAlive := false }) ∨
    (branch = .signals ∧ ∃ signal signals, s.signals.recv = some (some signal, signals) ∧
        SameControl { s with signals := signals } t) ∨
    (branch = .signals ∧ s.signals.Drained ∧ t = s) := by
  obtain ⟨selected, hselect, rfl⟩ := Option.map_eq_some_iff.mp h
  cases branch with
  | quotes =>
    simp only [select, Option.ite_none_right_eq_some, Option.map_eq_some_iff] at hselect
    obtain ⟨halive, ⟨received, quotes⟩, hrecv, rfl⟩ := hselect
    cases received with
    | some quote => exact Or.inl ⟨rfl, halive, quote, quotes, hrecv, handleQuote_control _ quote⟩
    | none =>
      obtain ⟨hdrained, rfl⟩ := Channel.recv_none hrecv
      exact Or.inr (Or.inl ⟨rfl, hdrained, rfl⟩)
  | signals =>
    simp only [select, Option.map_eq_some_iff] at hselect
    obtain ⟨⟨received, signals⟩, hrecv, rfl⟩ := hselect
    cases received with
    | some signal =>
      have hsame := handleSignal_control analyzer m { s with signals := signals } signal
      exact Or.inr (Or.inr (Or.inl ⟨rfl, signal, signals, hrecv, hsame⟩))
    | none =>
      obtain ⟨hdrained, rfl⟩ := Channel.recv_none hrecv
      exact Or.inr (Or.inr (Or.inr ⟨rfl, hdrained, rfl⟩))

/-- The loop has not ended, and gives up on the quotes only at the end of their channel. -/
structure Running (s : State) : Prop where
  ended : s.ended = false
  alive : s.quotesAlive = false → s.quotes.Drained

theorem start_running (detector : Detector) (volumeTracker : VolumeTracker) :
    Running (start detector volumeTracker) := by
  constructor
  · rfl
  · intro h
    cases h

theorem iterate_running (hs : Running s) (h : iterate analyzer m s branch = some t) :
    Running t := by
  rcases iterate_cases h with ⟨_, halive, quote, quotes, _, hsame⟩ | ⟨_, hdrained, rfl⟩ |
    ⟨_, signal, signals, _, hsame⟩ | ⟨_, _, rfl⟩
  · constructor
    · rw [hsame.ended]
      exact hs.ended
    · intro hdead
      rw [hsame.quotesAlive] at hdead
      exact absurd (halive.symm.trans hdead) Bool.noConfusion
  · exact ⟨hs.ended, fun _ => hdrained⟩
  · constructor
    · rw [hsame.ended]
      exact hs.ended
    · intro hdead
      rw [hsame.quotesAlive] at hdead
      rw [hsame.quotes]
      exact hs.alive hdead
  · exact hs

theorem Step.running (hs : Running s) (h : Step analyzer s e t) : Running t := by
  cases e with
  | sendQuote quote =>
    obtain ⟨hopen, rfl⟩ := h
    refine ⟨hs.ended, fun hdead => ?_⟩
    have hclosed := (hs.alive hdead).2
    rw [hopen] at hclosed
    cases hclosed
  | sendSignal signal =>
    obtain ⟨_, rfl⟩ := h
    exact ⟨hs.ended, hs.alive⟩
  | closeQuotes =>
    obtain rfl := h
    exact ⟨hs.ended, fun hdead => ⟨(hs.alive hdead).1, rfl⟩⟩
  | closeSignals =>
    obtain rfl := h
    exact ⟨hs.ended, hs.alive⟩
  | turn branch m => exact iterate_running hs h.2

theorem run_running {detector : Detector} {volumeTracker : VolumeTracker} {es : List Event}
    (hr : Run (Step analyzer) (start detector volumeTracker) es s) : Running s :=
  hr.invariant (fun _ s => Running s) (start_running detector volumeTracker)
    (fun _ _ _ _ _ hs hstep => Step.running hs hstep)

/-- Both channels are closed; messages may be left on them. -/
def Closed (s : State) : Prop := s.quotes.closed = true ∧ s.signals.closed = true

def Drained (s : State) : Prop := s.quotes.Drained ∧ s.signals.Drained

def pending (s : State) : ℕ := s.quotes.queue.length + s.signals.queue.length

theorem TurnStep.closed {turn : Turn} (hc : Closed s) (h : TurnStep analyzer s turn t) :
    Closed t := by
  rcases iterate_cases h.2 with ⟨_, _, quote, quotes, hrecv, hsame⟩ | ⟨_, _, rfl⟩ |
    ⟨_, signal, signals, hrecv, hsame⟩ | ⟨_, _, rfl⟩
  · refine ⟨?_, ?_⟩
    · rw [hsame.quotes]
      exact (Channel.recv_some hrecv).2.trans hc.1
    · rw [hsame.signals]
      exact hc.2
  · exact hc
  · refine ⟨?_, ?_⟩
    · rw [hsame.quotes]
      exact hc.1
    · rw [hsame.signals]
      exact (Channel.recv_some hrecv).2.trans hc.2
  · exact hc

theorem runs_closed {turns : List Turn} (hc : Closed s) (hr : Run (TurnStep analyzer) s turns t) :
    Closed t :=
  hr.invariant (fun _ t => Closed t) hc (fun _ _ _ _ _ ht hstep => TurnStep.closed ht hstep)

theorem runs_running {turns : List Turn} (hs : Running s)
    (hr : Run (TurnStep analyzer) s turns t) : Running t :=
  hr.invariant (fun _ t => Running t) hs (fun _ _ _ _ _ ht hstep => Step.running ht hstep)

/-- A closed channel of signals is always ready. -/
theorem exists_turn (analyzer : SwapAnalyzer) (hs : Running s) (hc : Closed s) (m : Moment) :
    ∃ t, TurnStep analyzer s (.signals, m) t := by
  obtain ⟨received, hrecv⟩ := Channel.recv_of_closed hc.2
  have hsome : (iterate analyzer m s .signals).isSome = true := by
    rw [iterate, select, hrecv]
    rfl
  obtain ⟨t, ht⟩ := Option.isSome_iff_exists.mp hsome
  exact ⟨t, hs.ended, ht⟩

theorem take_signal (analyzer : SwapAnalyzer) (hs : Running s) {signal : SwapSignal}
    {rest : List SwapSignal} (hqueue : s.signals.queue = signal :: rest) (m : Moment) :
    ∃ t, TurnStep analyzer s (.signals, m) t ∧ pending t < pending s := by
  have hiterate : iterate analyzer m s .signals =
      some (handleSignal analyzer m { s with signals := ⟨rest, s.signals.closed⟩ } signal) := by
    rw [iterate, select, Channel.recv_cons hqueue]
    rfl
  refine ⟨_, ⟨hs.ended, hiterate⟩, ?_⟩
  have hsame := handleSignal_control analyzer m
    { s with signals := ⟨rest, s.signals.closed⟩ } signal
  rw [pending, pending, hsame.quotes, hsame.signals, hqueue, List.length_cons]
  dsimp only
  omega

theorem take_quote (analyzer : SwapAnalyzer) (hs : Running s) {quote : PriceQuote}
    {rest : List PriceQuote} (hqueue : s.quotes.queue = quote :: rest) (m : Moment) :
    ∃ t, TurnStep analyzer s (.quotes, m) t ∧ pending t < pending s := by
  have halive : s.quotesAlive = true := by
    by_contra hdead
    have hempty := (hs.alive (Bool.eq_false_of_not_eq_true hdead)).1
    rw [hqueue] at hempty
    cases hempty
  have hiterate : iterate analyzer m s .quotes =
      some (handleQuote m { s with quotes := ⟨rest, s.quotes.closed⟩ } quote) := by
    rw [iterate, select, if_pos halive, Channel.recv_cons hqueue]
    rfl
  refine ⟨_, ⟨hs.ended, hiterate⟩, ?_⟩
  have hsame := handleQuote_control (m := m) { s with quotes := ⟨rest, s.quotes.closed⟩ } quote
  rw [pending, pending, hsame.quotes, hsame.signals, hqueue, List.length_cons]
  dsimp only
  omega

/-- Taking one message after the other drains two closed channels. -/
theorem exists_drained (hs : Running s) (hc : Closed s) (m : Moment) :
    ∃ turns t, Run (TurnStep analyzer) s turns t ∧ Drained t := by
  induction hn : pending s using Nat.strong_induction_on generalizing s with
  | _ n ih =>
    have hnext : (∃ turn t, TurnStep analyzer s turn t ∧ pending t < pending s) →
        ∃ turns t, Run (TurnStep analyzer) s turns t ∧ Drained t := by
      rintro ⟨turn, t, hturn, hlt⟩
      obtain ⟨turns, u, hrun, hdrained⟩ :=
        ih (pending t) (hn ▸ hlt) (Step.running hs hturn) (hturn.closed hc) rfl
      exact ⟨[] ++ [turn] ++ turns, u, (Run.nil.snoc hturn).trans hrun, hdrained⟩
    cases hsignals : s.signals.queue with
    | cons signal rest =>
      obtain ⟨t, hturn, hlt⟩ := take_signal analyzer hs hsignals m
      exact hnext ⟨_, t, hturn, hlt⟩
    | nil =>
      cases hquotes : s.quotes.queue with
      | cons quote rest =>
        obtain ⟨t, hturn, hlt⟩ := take_quote analyzer hs hquotes m
        exact hnext ⟨_, t, hturn, hlt⟩
      | nil => exact ⟨[], s, Run.nil, ⟨hquotes, hc.1⟩, ⟨hsignals, hc.2⟩⟩

end Iterations

def idleMoment : Moment := ⟨⟨id, fun l => List.Perm.refl l⟩, 0, 0, 0, 0⟩

/-- After both channels have closed, in whatever order and with whatever left on them, the
loop drains them, and after any number of iterations and under any choices of `select!` it
has not ended and iterates again. -/
theorem never_ends (analyzer : SwapAnalyzer) (detector : Detector) (volumeTracker : VolumeTracker)
    (es : List Event) (s : State) (hr : Run (Step analyzer) (start detector volumeTracker) es s)
    (hc : Closed s) :
    (∃ turns t, Run (TurnStep analyzer) s turns t ∧ Drained t) ∧
    ∀ turns t, Run (TurnStep analyzer) s turns t →
      t.ended = false ∧ ∃ turn u, TurnStep analyzer t turn u := by
  have hs := run_running hr
  refine ⟨exists_drained hs hc idleMoment, ?_⟩
  intro turns t hturns
  have ht := runs_running hs hturns
  obtain ⟨u, hu⟩ := exists_turn analyzer ht (runs_closed hc hturns) idleMoment
  exact ⟨ht.ended, (.signals, idleMoment), u, hu⟩

def idleLoop : State := start (Detector.new 30 10) .new

/-- Without a forge feed, a quote is sent and then the quotes close too. -/
def oneQuote : List Event :=
  [.closeSignals] ++ [.sendQuote Detector.orcaQuote] ++ [.closeQuotes]

def afterOneQuote : State :=
  { idleLoop with quotes := ⟨[Detector.orcaQuote], true⟩, signals := ⟨[], true⟩ }

theorem oneQuote_run : Run (Step ⟨1⟩) idleLoop oneQuote afterOneQuote := by
  have hsignals : Run (Step ⟨1⟩) idleLoop [.closeSignals]
      { idleLoop with signals := ⟨[], true⟩ } := Run.nil.snoc rfl
  have hsent : Run (Step ⟨1⟩) idleLoop ([.closeSignals] ++ [.sendQuote Detector.orcaQuote])
      { idleLoop with quotes := ⟨[Detector.orcaQuote], false⟩, signals := ⟨[], true⟩ } :=
    hsignals.snoc ⟨rfl, rfl⟩
  exact hsent.snoc rfl

theorem never_ends_one_quote :
    (∃ turns t, Run (TurnStep ⟨1⟩) afterOneQuote turns t ∧ Drained t) ∧
    ∀ turns t, Run (TurnStep ⟨1⟩) afterOneQuote turns t → t.ended = false := by
  obtain ⟨hdrains, hnever⟩ := never_ends ⟨1⟩ (Detector.new 30 10) .new oneQuote afterOneQuote
    oneQuote_run ⟨rfl, rfl⟩
  exact ⟨hdrains, fun turns t hturns => (hnever turns t hturns).1⟩

/-- The loop without a forge feed, at the end of its quotes. -/
def atEnd : State :=
  { idleLoop with quotes := ⟨[], true⟩, signals := ⟨[], true⟩, quotesAlive := false }

theorem atEnd_run : Run (Step ⟨1⟩) idleLoop
    ([.closeSignals] ++ [.closeQuotes] ++ [.turn .quotes idleMoment]) atEnd := by
  have hsignals : Run (Step ⟨1⟩) idleLoop [.closeSignals]
      { idleLoop with signals := ⟨[], true⟩ } := Run.nil.snoc rfl
  have hquotes : Run (Step ⟨1⟩) idleLoop ([.closeSignals] ++ [.closeQuotes])
      { idleLoop with quotes := ⟨[], true⟩, signals := ⟨[], true⟩ } := hsignals.snoc rfl
  exact hquotes.snoc ⟨rfl, rfl⟩

/-- Without a forge feed and without quotes, the loop notes the end of the quotes and then takes
the ended signal channel for ever: it neither ends nor waits nor changes. -/
theorem no_forge_spins :
    Run (Step ⟨1⟩) idleLoop ([.closeSignals] ++ [.closeQuotes] ++ [.turn .quotes idleMoment])
      atEnd ∧
    Drained atEnd ∧ atEnd.ended = false ∧
    ∀ n, Run (TurnStep ⟨1⟩) atEnd (List.replicate n (.signals, idleMoment)) atEnd := by
  refine ⟨atEnd_run, ⟨⟨rfl, rfl⟩, rfl, rfl⟩, rfl, ?_⟩
  intro n
  induction n with
  | zero => exact Run.nil
  | succ n ih =>
    rw [List.replicate_succ']
    exact ih.snoc ⟨rfl, rfl⟩

end SolanaArb.MainLoop
